import Overdue.Scan

/-!
# A failure stays with its marker

A scan hands its diagnostics over marker by marker. What one marker contributes is an `Outcome`: all
of its diagnostics, or those up to the first that is refused, or none if it cannot be decided; the
last two are its failure. `Outcomes` strings the outcomes of a list of markers together, each
starting at the position where the one before it stopped, and `run_isolates_failures` says that
every scan consists of them, with counts to match.

The steps of a scan are all additions to it, so each of them is stated by `Extends`: what is added
to the diagnostics and to each count. Such statements compose by `Extends.trans`.
-/
namespace Overdue.Scan

/-! ## What is added to a scan -/

/-- The second scan is the first with some diagnostics handed over, and with so many more markers
and failures. How many have expired is left open. -/
structure Extends (s t : Scan) (part : List Diagnostic) (markers failures : Nat) : Prop where
  delivered : t.delivered = s.delivered ++ part
  markers : t.summary.markers = s.summary.markers + markers
  failures : t.summary.failures = s.summary.failures + failures
  warnings : t.summary.warnings =
    s.summary.warnings + part.countP (fun d => d.severity = .warning)
  errors : t.summary.errors = s.summary.errors + part.countP (fun d => d.severity = .error)

theorem Extends.refl (s : Scan) : Extends s s [] 0 0 := by
  constructor <;> simp

theorem Extends.trans {s t u : Scan} {p q : List Diagnostic} {m n f g : Nat}
    (first : Extends s t p m f) (second : Extends t u q n g) :
    Extends s u (p ++ q) (m + n) (f + g) where
  delivered := by rw [second.delivered, first.delivered, List.append_assoc]
  markers := by rw [second.markers, first.markers, Nat.add_assoc]
  failures := by rw [second.failures, first.failures, Nat.add_assoc]
  warnings := by rw [second.warnings, first.warnings, List.countP_append, Nat.add_assoc]
  errors := by rw [second.errors, first.errors, List.countP_append, Nat.add_assoc]

theorem extends_fail (s : Scan) : Extends s s.fail [] 0 1 := by
  constructor <;> simp [fail]

/-- Handing over one diagnostic. -/
theorem extends_one (s : Scan) (d : Diagnostic) :
    Extends s ⟨s.summary.count d, s.delivered ++ [d]⟩ [d] 0 0 := by
  cases severity : d.severity <;> constructor <;> simp [Summary.count, severity]

/-! ## Handing over a list -/

/-- Where a list of diagnostics stops that starts at a position: nowhere, or behind the first that
is refused. -/
inductive Stops (refuses : Nat → Bool) (start : Nat) (whole : List Diagnostic) :
    List Diagnostic → Bool → Prop
  | nowhere : (∀ i < whole.length, refuses (start + i) = false) →
      Stops refuses start whole whole false
  | behind {k : Nat} : k < whole.length → (∀ i < k, refuses (start + i) = false) →
      refuses (start + k) = true → Stops refuses start whole (whole.take (k + 1)) true

theorem Stops.cons {refuses : Nat → Bool} {start : Nat} {d : Diagnostic}
    {whole part : List Diagnostic} {refused : Bool} (accepted : refuses start = false)
    (rest : Stops refuses (start + 1) whole part refused) :
    Stops refuses start (d :: whole) (d :: part) refused := by
  have shift (i : Nat) : start + (i + 1) = start + 1 + i := by omega
  cases rest with
  | nowhere all =>
      refine .nowhere fun i bound => ?_
      cases i with
      | zero => exact accepted
      | succ i => rw [shift]; exact all i (by simpa using bound)
  | @behind k bound before refusal =>
      refine Stops.behind (k := k + 1) (by simpa using bound) (fun i small => ?_) ?_
      · cases i with
        | zero => exact accepted
        | succ i => rw [shift]; exact before i (by omega)
      · rw [shift]; exact refusal

/-- A list that stops behind a refusal stops there also with more to come. -/
theorem Stops.append_left {refuses : Nat → Bool} {start : Nat} {whole part : List Diagnostic}
    (h : Stops refuses start whole part true) (more : List Diagnostic) :
    Stops refuses start (whole ++ more) part true := by
  cases h with
  | @behind k bound before refusal =>
      have cut : whole.take (k + 1) = (whole ++ more).take (k + 1) := by
        rw [List.take_append_of_le_length (by omega)]
      rw [cut]
      exact .behind (by simp; omega) before refusal

theorem Stops.append_right {refuses : Nat → Bool} {start : Nat}
    {whole part more partOfMore : List Diagnostic} {refused : Bool}
    (first : Stops refuses start whole part false)
    (second : Stops refuses (start + part.length) more partOfMore refused) :
    Stops refuses start (whole ++ more) (part ++ partOfMore) refused := by
  cases first with
  | nowhere all =>
      induction whole generalizing start with
      | nil => simpa using second
      | cons d whole ih =>
          refine .cons (all 0 (by simp)) (ih (fun i bound => ?_) ?_)
          · rw [show start + 1 + i = start + (i + 1) by omega]
            exact all (i + 1) (by simpa using bound)
          · rw [List.length_cons] at second
            rwa [show start + 1 + whole.length = start + (whole.length + 1) by omega]

theorem deliver_stops (refuses : Nat → Bool) (s : Scan) (ds : List Diagnostic) :
    ∃ part, Stops refuses s.delivered.length ds part (s.deliver refuses ds).2 ∧
      Extends s (s.deliver refuses ds).1 part 0 0 := by
  induction ds generalizing s with
  | nil => exact ⟨[], .nowhere (by simp), .refl s⟩
  | cons d ds ih =>
      have one := extends_one s d
      cases accepted : refuses s.delivered.length with
      | true =>
          simp only [deliver, accepted, if_true]
          exact ⟨[d], Stops.behind (k := 0) (by simp) (by simp) (by simpa using accepted), one⟩
      | false =>
          simp only [deliver, accepted, Bool.false_eq_true, if_false]
          obtain ⟨part, stops, more⟩ := ih ⟨s.summary.count d, s.delivered ++ [d]⟩
          refine ⟨d :: part, .cons accepted ?_, one.trans more⟩
          simpa using stops

/-! ## One marker -/

/-- What a marker contributes to a scan from a position on, and whether it failed. -/
inductive Outcome (refuses : Nat → Bool) (start : Nat) (m : Marker) :
    Except Undecided Verdict → List Diagnostic → Bool → Prop
  | undecided {u : Undecided} : Outcome refuses start m (.error u) [] true
  | decided {v : Verdict} {part : List Diagnostic} {refused : Bool} :
      Stops refuses start (Diagnostic.ofMarker m v) part refused →
        Outcome refuses start m (.ok v) part refused

/-- Counting a marker as expired adds nothing that is stated here. -/
theorem extends_expired (s : Scan) (expired : Bool) :
    Extends s (if expired then
      { s with summary := { s.summary with expired := s.summary.expired + 1 } } else s) [] 0 0 := by
  cases expired
  · exact .refl s
  · constructor <;> simp

theorem report_outcome (refuses : Nat → Bool) (s : Scan) (m : Marker) (v : Verdict) :
    ∃ part refused, Stops refuses s.delivered.length (Diagnostic.ofMarker m v) part refused ∧
      Extends s (s.report refuses m v) part 0 refused.toNat := by
  obtain ⟨part, stops, errors⟩ :=
    deliver_stops refuses s (v.parseErrors.map (Diagnostic.ofParseError m))
  unfold report
  split
  · rename_i t delivery
    rw [delivery] at stops errors
    refine ⟨part, true, stops.append_left _, ?_⟩
    simpa using errors.trans (extends_fail t)
  · rename_i t delivery
    rw [delivery] at stops errors
    have reported := errors.trans (extends_expired t v.expired)
    dsimp only at reported ⊢
    generalize (if v.expired then _ else t : Scan) = u at reported ⊢
    obtain ⟨last, stopsLast, more⟩ := deliver_stops refuses u (Diagnostic.ofVerdict m v).toList
    rw [reported.delivered, List.append_nil, List.length_append] at stopsLast
    refine ⟨part ++ last, _, stops.append_right stopsLast, ?_⟩
    have all := reported.trans more
    rw [List.append_nil] at all
    split
    · rename_i w delivery
      rw [delivery] at all ⊢
      simpa using all.trans (extends_fail w)
    · rename_i w delivery
      rw [delivery] at all ⊢
      exact all

theorem step_outcome (verdict : Marker → Except Undecided Verdict) (refuses : Nat → Bool)
    (s : Scan) (m : Marker) :
    ∃ part failed, Outcome refuses s.delivered.length m (verdict m) part failed ∧
      Extends s (step verdict refuses s m) part 1 failed.toNat := by
  let counted : Scan :=
    { s with summary := { s.summary with markers := s.summary.markers + 1 } }
  have one : Extends s counted [] 1 0 := by constructor <;> simp [counted]
  unfold step
  cases verdict m with
  | error u => exact ⟨[], true, .undecided, one.trans (extends_fail counted)⟩
  | ok v =>
      obtain ⟨part, refused, stops, more⟩ := report_outcome refuses counted m v
      refine ⟨part, refused, .decided stops, ?_⟩
      simpa using one.trans more

/-! ## All markers -/

/-- What the markers contribute in turn, each from the position where the one before it stopped. -/
inductive Outcomes (refuses : Nat → Bool) (verdict : Marker → Except Undecided Verdict) :
    Nat → List Marker → List (List Diagnostic × Bool) → Prop
  | nil {start : Nat} : Outcomes refuses verdict start [] []
  | cons {start : Nat} {m : Marker} {ms : List Marker} {part : List Diagnostic} {failed : Bool}
      {rest : List (List Diagnostic × Bool)} :
      Outcome refuses start m (verdict m) part failed →
        Outcomes refuses verdict (start + part.length) ms rest →
          Outcomes refuses verdict start (m :: ms) ((part, failed) :: rest)

theorem Outcomes.length {refuses : Nat → Bool} {verdict : Marker → Except Undecided Verdict}
    {start : Nat} {ms : List Marker} {parts : List (List Diagnostic × Bool)}
    (h : Outcomes refuses verdict start ms parts) : parts.length = ms.length := by
  induction h with
  | nil => rfl
  | cons _ _ ih => rw [List.length_cons, List.length_cons, ih]

/-- Going on with a scan: the invariant is that whatever has been handed over stays. -/
theorem foldl_outcomes (verdict : Marker → Except Undecided Verdict) (refuses : Nat → Bool)
    (s : Scan) (ms : List Marker) :
    ∃ parts, Outcomes refuses verdict s.delivered.length ms parts ∧
      Extends s (ms.foldl (step verdict refuses) s)
        (parts.map Prod.fst).flatten ms.length (parts.countP Prod.snd) := by
  induction ms generalizing s with
  | nil => exact ⟨[], .nil, .refl s⟩
  | cons m ms ih =>
      obtain ⟨part, failed, outcome, first⟩ := step_outcome verdict refuses s m
      obtain ⟨rest, outcomes, more⟩ := ih (step verdict refuses s m)
      rw [first.delivered, List.length_append] at outcomes
      refine ⟨(part, failed) :: rest, .cons outcome outcomes, ?_⟩
      have all := first.trans more
      rw [Nat.add_comm 1] at all
      cases failed with
      | false => simpa using all
      | true =>
          rw [Bool.toNat_true, Nat.add_comm 1] at all
          simpa using all

/-- **A failure stays with its marker**: a scan is made of the outcomes of its markers, one for
each, and counts what they contribute. -/
theorem run_isolates_failures (milestones : List String) (markers : List Marker) (build : Build)
    (today : Date) (refuses : Nat → Bool) :
    let scan := run milestones markers build today refuses
    ∃ parts, Outcomes refuses (fun m => m.verdict (Milestones.ofList milestones) build today)
        0 markers parts ∧
      parts.length = markers.length ∧
      scan.delivered = (parts.map Prod.fst).flatten ∧
      scan.summary.markers = markers.length ∧
      scan.summary.failures = parts.countP Prod.snd ∧
      scan.summary.warnings = scan.delivered.countP (fun d => d.severity = .warning) ∧
      scan.summary.errors = scan.delivered.countP (fun d => d.severity = .error) := by
  intro scan
  obtain ⟨parts, outcomes, all⟩ :=
    foldl_outcomes (fun m => m.verdict (Milestones.ofList milestones) build today) refuses {}
      markers
  have delivered : scan.delivered = (parts.map Prod.fst).flatten := all.delivered
  refine ⟨parts, outcomes, outcomes.length, delivered, ?_, ?_, ?_, ?_⟩
  · exact all.markers.trans (Nat.zero_add _)
  · exact all.failures.trans (Nat.zero_add _)
  · rw [delivered]
    exact all.warnings.trans (Nat.zero_add _)
  · rw [delivered]
    exact all.errors.trans (Nat.zero_add _)

/-! ## A receiver that refuses nothing -/

/-- What is reported about a marker, as far as it can be decided. -/
def reports (m : Marker) : Except Undecided Verdict → List Diagnostic
  | .error _ => []
  | .ok v => Diagnostic.ofMarker m v

/-- Whatever is reported about a marker names it, and needs a verdict. -/
theorem marker_of_mem_reports {m : Marker} {decision : Except Undecided Verdict}
    {d : Diagnostic} (h : d ∈ reports m decision) :
    d.marker = some m ∧ decision.isOk = true := by
  cases decision with
  | error u => cases h
  | ok v =>
      refine ⟨?_, rfl⟩
      rcases List.mem_append.mp h with error | last
      · obtain ⟨e, -, rfl⟩ := List.mem_map.mp error
        rfl
      · rw [Option.mem_toList, Diagnostic.ofVerdict] at last
        split at last
        · cases last
        · cases last
          rfl

theorem Outcome.of_accepting {start : Nat} {m : Marker} {decision : Except Undecided Verdict}
    {part : List Diagnostic} {failed : Bool}
    (h : Outcome (fun _ => false) start m decision part failed) :
    part = reports m decision ∧ failed = !decision.isOk := by
  cases h with
  | undecided => exact ⟨rfl, rfl⟩
  | decided stops =>
      cases stops with
      | nowhere => exact ⟨rfl, rfl⟩
      | behind _ _ refusal => cases refusal

theorem Outcomes.of_accepting {verdict : Marker → Except Undecided Verdict} {start : Nat}
    {ms : List Marker} {parts : List (List Diagnostic × Bool)}
    (h : Outcomes (fun _ => false) verdict start ms parts) :
    parts = ms.map fun m => (reports m (verdict m), !(verdict m).isOk) := by
  induction h with
  | nil => rfl
  | cons outcome _ ih =>
      obtain ⟨whole, failed⟩ := outcome.of_accepting
      rw [List.map_cons, ← ih, ← whole, ← failed]

theorem run_accepting (milestones : List String) (markers : List Marker) (build : Build)
    (today : Date) (ranking : Version.Ranking := Version.limited) :
    let verdict := fun m : Marker => m.verdict (Milestones.ofList milestones) build today ranking
    let scan := run milestones markers build today (fun _ => false) ranking
    scan.delivered = markers.flatMap (fun m => reports m (verdict m)) ∧
      scan.summary.failures = markers.countP fun m => !(verdict m).isOk := by
  intro verdict scan
  obtain ⟨parts, outcomes, all⟩ := foldl_outcomes verdict (fun _ => false) {} markers
  cases outcomes.of_accepting
  constructor
  · refine all.delivered.trans ?_
    rw [List.map_map, List.nil_append, List.flatMap_def]
    rfl
  · refine all.failures.trans ?_
    rw [List.countP_map, Nat.zero_add]
    rfl

end Overdue.Scan
