import Overdue.Proofs.Scan.Isolation

/-!
# A scan is put together from the scans of its parts

Whatever a scan does, it does behind what has been handed over before: `foldl_step_append` says that
a scan that goes on adds to itself what a scan of its own would give, whose receiver counts its
positions from there. So nothing passes from one marker to the next but the place at which it is
reported, and two lists of markers can be scanned one by one (`run_append`). The milestones come in
only by their names (`run_congr`).

For a receiver that refuses nothing, `accepted_extensional_compositional` puts this together.
-/
namespace Overdue

/-! ## Milestones by their names -/

namespace Milestones

theorem contains_insert_iff (r : Milestones) (added name : String) :
    (r.insert added).contains name = true ↔ r.contains name = true ∨ name = added := by
  unfold insert
  split
  · rename_i known
    refine ⟨.inl, ?_⟩
    rintro (there | rfl)
    · exact there
    · exact known
  · simp [contains]

theorem contains_foldl_insert_iff (names : List String) (r : Milestones) (name : String) :
    (names.foldl insert r).contains name = true ↔ r.contains name = true ∨ name ∈ names := by
  induction names generalizing r with
  | nil => simp
  | cons added names ih =>
      rw [List.foldl_cons, ih, contains_insert_iff, List.mem_cons, or_assoc]

/-- The register of some names holds just these. -/
theorem contains_ofList_iff (names : List String) (name : String) :
    (ofList names).contains name = true ↔ name ∈ names := by
  change (names.foldl insert empty).contains name = true ↔ _
  rw [contains_foldl_insert_iff]
  simp [contains, empty]

end Milestones

/-- A verdict asks for nothing of the milestones but which names they hold. -/
theorem Marker.verdict_congr (m : Marker) {known known' : Milestones} (build : Build) (today : Date)
    (same : ∀ name, known.contains name = known'.contains name) :
    m.verdict known build today = m.verdict known' build today := by
  have condition : Verdict.milestoneCondition m known = Verdict.milestoneCondition m known' := by
    rw [Verdict.milestoneCondition, same, Verdict.milestoneCondition]
  rw [verdict, condition, verdict]

/-! ## Scans one behind the other -/

namespace Summary

/-- Two scans are counted together field by field. -/
instance : Add Summary :=
  ⟨fun s t => ⟨s.markers + t.markers, s.expired + t.expired, s.warnings + t.warnings,
    s.errors + t.errors, s.failures + t.failures⟩⟩

theorem add_def (s t : Summary) :
    s + t = ⟨s.markers + t.markers, s.expired + t.expired, s.warnings + t.warnings,
      s.errors + t.errors, s.failures + t.failures⟩ := rfl

theorem add_left_comm (s t u : Summary) : s + (t + u) = t + (s + u) := by
  simp only [add_def, Nat.add_left_comm]

theorem add_empty (s : Summary) : s + {} = s := rfl

theorem count_add (s t : Summary) (d : Diagnostic) : (s + t).count d = s + t.count d := by
  unfold count
  split <;> rfl

end Summary

namespace Scan

/-- One scan behind the other. -/
instance : Append Scan := ⟨fun s t => ⟨s.summary + t.summary, s.delivered ++ t.delivered⟩⟩

@[simp]
theorem summary_append (s t : Scan) : (s ++ t).summary = s.summary + t.summary := rfl

@[simp]
theorem delivered_append (s t : Scan) : (s ++ t).delivered = s.delivered ++ t.delivered := rfl

theorem append_empty (s : Scan) : s ++ ({} : Scan) = s := by
  change Scan.mk _ _ = s
  rw [List.append_nil, Summary.add_empty]

/-- A receiver as a scan sees it that starts behind another one. -/
def behind (s : Scan) (refuses : Nat → Bool) (i : Nat) : Bool := refuses (s.delivered.length + i)

variable (refuses : Nat → Bool) (s t : Scan)

theorem deliver_append (ds : List Diagnostic) :
    (s ++ t).deliver refuses ds =
      (s ++ (t.deliver (s.behind refuses) ds).1, (t.deliver (s.behind refuses) ds).2) := by
  induction ds generalizing t with
  | nil => rfl
  | cons d ds ih =>
      have next : (⟨(s ++ t).summary.count d, (s ++ t).delivered ++ [d]⟩ : Scan) =
          s ++ ⟨t.summary.count d, t.delivered ++ [d]⟩ := by
        change _ = Scan.mk _ _
        rw [summary_append, Summary.count_add, delivered_append, List.append_assoc]
      have place : refuses (s ++ t).delivered.length = s.behind refuses t.delivered.length := by
        rw [behind, delivered_append, List.length_append]
      simp only [deliver, next, place, ih]
      split <;> rfl

/-- One more that has expired is counted behind the first scan all the same. -/
theorem expired_append (expired : Bool) :
    (if expired then
      { s ++ t with summary := { (s ++ t).summary with expired := (s ++ t).summary.expired + 1 } }
    else s ++ t : Scan) =
      s ++ (if expired then
        { t with summary := { t.summary with expired := t.summary.expired + 1 } } else t) := by
  cases expired <;> rfl

theorem report_append (m : Marker) (v : Verdict) :
    (s ++ t).report refuses m v = s ++ t.report (s.behind refuses) m v := by
  simp only [report, deliver_append]
  generalize t.deliver (s.behind refuses) _ = errors
  obtain ⟨u, refused⟩ := errors
  cases refused with
  | true => rfl
  | false =>
      dsimp only
      rw [expired_append, deliver_append]
      generalize deliver (s.behind refuses) _ _ = last
      obtain ⟨w, refused⟩ := last
      cases refused <;> rfl

section Verdicts

variable (verdict : Marker → Except Undecided Verdict)

theorem step_append (m : Marker) :
    step verdict refuses (s ++ t) m = s ++ step verdict (s.behind refuses) t m := by
  unfold step
  cases verdict m with
  | error u => rfl
  | ok v =>
      let counted : Scan :=
        { t with summary := { t.summary with markers := t.summary.markers + 1 } }
      exact report_append refuses s counted m v

theorem foldl_step_append (markers : List Marker) :
    markers.foldl (step verdict refuses) (s ++ t) =
      s ++ markers.foldl (step verdict (s.behind refuses)) t := by
  induction markers generalizing t with
  | nil => rfl
  | cons m markers ih => rw [List.foldl_cons, step_append, ih, List.foldl_cons]

end Verdicts

variable (build : Build) (today : Date)

/-- Markers behind others are scanned as by themselves, from the place that the first have come
to. -/
theorem run_append (names : List String) (markers more : List Marker) :
    run names (markers ++ more) build today refuses =
      run names markers build today refuses ++
        run names more build today ((run names markers build today refuses).behind refuses) := by
  rw [run, List.foldl_append, ← run, ← append_empty (run names markers build today refuses),
    foldl_step_append, append_empty]
  rfl

/-- Milestones are told apart by their names alone, in whatever order and however often these are
given. -/
theorem run_congr {names names' : List String} (same : ∀ name, name ∈ names ↔ name ∈ names')
    (markers : List Marker) :
    run names markers build today refuses = run names' markers build today refuses := by
  have known (name : String) :
      (Milestones.ofList names).contains name = (Milestones.ofList names').contains name := by
    rw [Bool.eq_iff_iff, Milestones.contains_ofList_iff, Milestones.contains_ofList_iff, same]
  have verdicts : (fun m : Marker => m.verdict (Milestones.ofList names) build today) =
      fun m => m.verdict (Milestones.ofList names') build today := by
    funext m
    exact m.verdict_congr build today known
  rw [run, verdicts, run]

/-! ## A receiver that refuses nothing -/

/-- A scan whose receiver refuses nothing. -/
def accepted (names : List String) (markers : List Marker) : Scan :=
  run names markers build today fun _ => false

variable (names : List String)

theorem accepted_append (markers more : List Marker) :
    accepted build today names (markers ++ more) =
      accepted build today names markers ++ accepted build today names more :=
  run_append (fun _ => false) build today names markers more

theorem accepted_cons (m : Marker) (markers : List Marker) :
    accepted build today names (m :: markers) =
      accepted build today names [m] ++ accepted build today names markers :=
  accepted_append build today names [m] markers

theorem summary_accepted_of_perm {markers markers' : List Marker} (order : markers.Perm markers') :
    (accepted build today names markers).summary =
      (accepted build today names markers').summary := by
  induction order with
  | nil => rfl
  | cons m _ ih =>
      rw [accepted_cons, summary_append, ih, ← summary_append, ← accepted_cons]
  | swap m m' markers =>
      have pair (a b : Marker) : (accepted build today names (a :: b :: markers)).summary =
          (accepted build today names [a]).summary +
            ((accepted build today names [b]).summary +
              (accepted build today names markers).summary) := by
        rw [accepted_cons build today names a (b :: markers),
          accepted_cons build today names b markers, summary_append, summary_append]
      rw [pair, pair, Summary.add_left_comm]
  | trans _ _ first second => exact first.trans second

/-- What is handed over about the markers is what a scan of each one alone would. -/
theorem delivered_accepted (markers : List Marker) :
    (accepted build today names markers).delivered =
      (markers.map fun m => (accepted build today names [m]).delivered).flatten := by
  induction markers with
  | nil => rfl
  | cons m markers ih =>
      rw [accepted_cons, delivered_append, ih, List.map_cons, List.flatten_cons]

/-- **A scan asks for the set of the milestones, and is put together from the scans of its
markers.** Lists of milestones with the same names give the same scan. Two lists of markers, one
behind the other, give the diagnostics of both in that order, and the counts of both together. So
markers in another order give the same counts, and the same groups of diagnostics, one for each
marker, in that order. -/
theorem accepted_extensional_compositional (build : Build) (today : Date) :
    let scan := accepted build today
    (∀ names names' : List String, (∀ name, name ∈ names ↔ name ∈ names') →
      ∀ markers, scan names markers = scan names' markers) ∧
    ∀ names,
      (∀ markers more,
        (scan names (markers ++ more)).delivered =
            (scan names markers).delivered ++ (scan names more).delivered ∧
          (scan names (markers ++ more)).summary =
            (scan names markers).summary + (scan names more).summary) ∧
      ∀ markers markers' : List Marker, markers.Perm markers' →
        let groups := fun ms : List Marker => ms.map fun m => (scan names [m]).delivered
        (scan names markers).summary = (scan names markers').summary ∧
          (scan names markers).delivered = (groups markers).flatten ∧
          (scan names markers').delivered = (groups markers').flatten ∧
          (groups markers).Perm (groups markers') := by
  intro scan
  refine ⟨fun names names' same markers => run_congr _ build today same markers, fun names => ?_⟩
  refine ⟨fun markers more => ?_, fun markers markers' order => ?_⟩
  · have both : scan names (markers ++ more) = scan names markers ++ scan names more :=
      accepted_append build today names markers more
    rw [both]
    exact ⟨rfl, rfl⟩
  · exact ⟨summary_accepted_of_perm build today names order,
      delivered_accepted build today names markers, delivered_accepted build today names markers',
      order.map _⟩

/-- A marker that has expired, one with an unreadable date that waits for a milestone, and one that
cannot be decided. -/
def mixed : List Marker :=
  [{ label := "old", removalDate := "2020-01-01" }, { removalDate := "soon", milestone := "A" },
    { versionCode := some (.word "x") }]

theorem mixed_extensional_compositional :
    let scan := accepted { versionCode := some 1 } ⟨2021, 2, 1, by decide⟩
    (∀ name, name ∈ ["A", "B"] ↔ name ∈ ["B", "A", "B"]) ∧ mixed.Perm mixed.reverse ∧
      scan ["A", "B"] mixed = scan ["B", "A", "B"] mixed ∧
      (scan ["A", "B"] mixed).summary = (scan ["A", "B"] mixed.reverse).summary ∧
      (scan ["A", "B"] mixed).summary = ⟨3, 1, 1, 2, 1⟩ := by
  intro scan
  have same (name : String) : name ∈ ["A", "B"] ↔ name ∈ ["B", "A", "B"] := by
    simp only [List.mem_cons, List.not_mem_nil, or_false]
    constructor
    · exact .inr
    · rintro (b | known)
      · exact .inr b
      · exact known
  have order : mixed.Perm mixed.reverse := (List.reverse_perm mixed).symm
  obtain ⟨extensional, compositional⟩ :=
    accepted_extensional_compositional { versionCode := some 1 } ⟨2021, 2, 1, by decide⟩
  exact ⟨same, order, extensional _ _ same mixed, ((compositional _).2 _ _ order).1,
    by decide +kernel⟩

end Scan

end Overdue
