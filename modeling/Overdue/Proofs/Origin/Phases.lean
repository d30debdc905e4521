import Overdue.Origin
import Overdue.Proofs.Ledger.Failures
import Overdue.Proofs.SourceTree.Isolation

/-!
# Two readings of every origin

All milestones are read before the first marker. An origin whose milestones have been read is kept
(`IsKept`), so that its second reading cannot be refused any more: it fails at most where a number
beyond the digit limit has to be written. What an origin declares is laid down in `Declares`, and
`phases_of_whole` says that two readings without a failure give just that, origin by origin.
-/
namespace Overdue

/-- What is declared: milestones, markers, and what could not be read as either. -/
structure Declarations where
  milestones : List String := []
  markers : List Marker := []
  problems : List Problem := []

namespace Declarations

/-- What is declared in two places, one after the other. -/
instance : Append Declarations :=
  ⟨fun d e => ⟨d.milestones ++ e.milestones, d.markers ++ e.markers, d.problems ++ e.problems⟩⟩

variable (d e f : Declarations)

@[simp]
theorem milestones_append : (d ++ e).milestones = d.milestones ++ e.milestones := rfl

@[simp]
theorem markers_append : (d ++ e).markers = d.markers ++ e.markers := rfl

@[simp]
theorem problems_append : (d ++ e).problems = d.problems ++ e.problems := rfl

theorem append_assoc : d ++ e ++ f = d ++ (e ++ f) := by
  change Declarations.mk _ _ _ = Declarations.mk _ _ _
  simp only [milestones_append, markers_append, problems_append, List.append_assoc]

end Declarations

namespace SourceTree

variable {files : Files} {t : SourceTree}

theorem isWhole_of_findings {host : Host} {root : String} {located : List LocatedFile}
    (whole : (findings host root located).2 = none) : ∀ f ∈ located, f.IsWhole host root := by
  induction located with
  | nil => simp
  | cons f rest ih =>
      rw [findings] at whole
      cases read : f.findings host root with
      | error cause =>
          rw [read] at whole
          cases whole
      | ok found =>
          rw [read] at whole
          exact List.forall_mem_cons.mpr ⟨LocatedFile.isWhole_of_findings read, ih whole⟩

theorem selected_of_collect (fresh : t.kept = none) (whole : (t.collect files).2.1 = none) :
    ∃ located, t.selected files = .ok located ∧ ∀ f ∈ located, f.IsWhole files.host t.root := by
  rw [collect, fresh] at whole
  dsimp only at whole
  cases selected : t.selected files with
  | error f =>
      rw [selected] at whole
      cases whole
  | ok located =>
      rw [selected] at whole
      refine ⟨located, rfl, isWhole_of_findings ?_⟩
      dsimp only at whole
      cases fails : (findings files.host t.root located).2 with
      | none => rfl
      | some f =>
          rw [fails] at whole
          cases whole

theorem isSome_kept_of_collect (whole : (t.collect files).2.1 = none) :
    (t.collect files).1.kept.isSome := by
  cases kept : t.kept with
  | some found => simp [collect, kept]
  | none =>
      obtain ⟨located, selected, alone⟩ := selected_of_collect kept whole
      rw [collect_of_isWhole kept selected alone]
      rfl

theorem collect_of_kept {found : List String × List Marker} (kept : t.kept = some found) :
    t.collect files = (t, none, []) := by
  rw [collect, kept]

end SourceTree

namespace Ledger

variable {α : Type} {name : String} {outcome : Nat → Value → Outcome α} {files : Files} {l : Ledger}

/-- A ledger that is loaded has its entries kept, and is otherwise as it was. -/
theorem exists_of_load {l' : Ledger} {log : List Event} (loaded : l.load files = (.ok l', log)) :
    ∃ entries, l' = { l with kept := some entries } := by
  cases kept : l.kept with
  | some entries =>
      rw [load_of_kept kept] at loaded
      cases loaded
      exact ⟨entries, rfl⟩
  | none =>
      rcases load_outcome kept files with ⟨f, _, fails⟩ | ⟨entries, found⟩
      · cases loaded.symm.trans fails
      · obtain ⟨_, found⟩ := load_of_found kept found
        cases loaded.symm.trans found
        exact ⟨entries, rfl⟩

/-- What has been read once to the end is kept. -/
theorem kept_of_drain (whole : (l.drain files name outcome).2.failure = none) :
    ∃ entries log, let read := readList { l with kept := some entries } name outcome
      l.drain files name outcome =
        ({ l with kept := some entries, problems := l.problems ++ read.problems },
          { read with log }) := by
  cases load : l.load files with
  | mk loaded log =>
      cases loaded with
      | error f => simp [drain, load] at whole
      | ok l' =>
          obtain ⟨entries, rfl⟩ := exists_of_load load
          refine ⟨entries, log, ?_⟩
          rw [drain, load]

end Ledger

namespace Origin

/-! ## Reading origins in order -/

variable {α : Type} {drain : Origin → Origin × Reading α} {origins : List Origin}

theorem failure_drainAll (drain : Origin → Origin × Reading α) (origins : List Origin) :
    (drainAll drain origins).2.failure = origins.findSome? fun o => (drain o).2.failure := by
  induction origins with
  | nil => rfl
  | cons o rest ih =>
      rw [List.findSome?_cons]
      cases fails : (drain o).2.failure with
      | some f => simp only [drainAll, fails]
      | none => simp only [drainAll, fails, Reading.append, ih]

/-- Origins of which none fails are read each on its own. -/
theorem drainAll_of_whole (whole : (drainAll drain origins).2.failure = none) :
    (∀ o ∈ origins, (drain o).2.failure = none) ∧
      (drainAll drain origins).1 = origins.map (fun o => (drain o).1) ∧
      (drainAll drain origins).2.items = origins.flatMap fun o => (drain o).2.items := by
  rw [failure_drainAll, List.findSome?_eq_none_iff] at whole
  refine ⟨whole, ?_⟩
  induction origins with
  | nil => exact ⟨rfl, rfl⟩
  | cons o rest ih =>
      rw [List.forall_mem_cons] at whole
      obtain ⟨states, items⟩ := ih whole.2
      simp only [drainAll, Reading.append, whole.1, states, items]
      exact ⟨rfl, rfl⟩

/-! ## What is kept after the first reading -/

/-- What the origin declares need not be read again. -/
def IsKept : Origin → Prop
  | .sources t => t.kept.isSome
  | .ledger l => l.kept.isSome

variable {files : Files} {o : Origin}

theorem isKept_of_milestones (whole : (o.milestones files).2.failure = none) :
    (o.milestones files).1.IsKept := by
  cases o with
  | sources t => exact SourceTree.isSome_kept_of_collect whole
  | ledger l =>
      obtain ⟨entries, log, drained⟩ := Ledger.kept_of_drain whole
      simp only [milestones, Ledger.milestones, drained]
      rfl

theorem isKept_of_markers (whole : (o.markers files).2.failure = none) :
    (o.markers files).1.IsKept := by
  cases o with
  | sources t => exact SourceTree.isSome_kept_of_collect whole
  | ledger l =>
      obtain ⟨entries, log, drained⟩ := Ledger.kept_of_drain whole
      simp only [markers, Ledger.markers, drained]
      rfl

/-- An origin that is kept fails for one cause at most. -/
theorem failure_of_isKept (kept : o.IsKept) :
    ∀ f, (o.markers files).2.failure = some f → f = .unwritable := by
  cases o with
  | sources t =>
      obtain ⟨found, kept⟩ := Option.isSome_iff_exists.mp kept
      simp [markers, SourceTree.markers, SourceTree.drain, SourceTree.collect_of_kept kept]
  | ledger l =>
      obtain ⟨entries, kept⟩ := Option.isSome_iff_exists.mp kept
      intro f fails
      have drained : Ledger.Drained l entries _ (l.markers files) :=
        Ledger.drained_of_load (Ledger.load_of_kept kept files)
      exact ((Ledger.failure_outcomes_iff (Ledger.markerOutcome_failure?_iff l.shownPath) f).mp
        (drained.failure.symm.trans fails)).1

/-! ## What an origin declares -/

/-- Nothing has been read of the origin. -/
def IsFresh : Origin → Prop
  | .sources t => t.kept = none ∧ t.problems = []
  | .ledger l => l.kept = none ∧ l.problems = []

/-- What the two lists of a ledger with these entries declare, element by element. -/
def ledgerDeclarations (shown : String) (entries : Entries) : Declarations :=
  let milestones := Ledger.outcomes shown entries "milestones"
    fun _ v => Ledger.milestoneOutcome shown v
  let markers := Ledger.outcomes shown entries "debts" (Ledger.markerOutcome shown)
  { milestones := milestones.filterMap Outcome.item?
    markers := markers.filterMap Outcome.item?
    problems := milestones.filterMap Outcome.problem? ++ markers.filterMap Outcome.problem? }

/-- What an origin declares in a tree of files. Source files declare what they do by themselves,
one after the other. -/
inductive Declares (files : Files) : Origin → Declarations → Prop
  | sources {t : SourceTree} {located : List LocatedFile} : t.selected files = .ok located →
      (∀ f ∈ located, f.IsWhole files.host t.root) →
      Declares files (.sources t)
        { milestones := located.flatMap (LocatedFile.milestones files.host t.root)
          markers := located.flatMap (LocatedFile.markers files.host t.root)
          problems := located.flatMap (LocatedFile.problems files.host t.root) }
  | ledger {l : Ledger} {entries : Entries} : Ledger.Found files l entries →
      ¬ Ledger.Overtaxed entries →
      Declares files (.ledger l) (ledgerDeclarations l.shownPath entries)

/-- Of whatever could not be read it is said where. -/
theorem Declares.path_of_problem {files : Files} {o : Origin} {d : Declarations}
    (h : Declares files o d) : ∀ p ∈ d.problems, p.path.isSome := by
  intro p member
  cases h with
  | sources selected whole =>
      obtain ⟨f, among, member⟩ := List.mem_flatMap.mp member
      obtain ⟨finding, found, same⟩ := List.mem_filterMap.mp member
      cases finding with
      | problem q =>
          cases same
          rw [Source.path_of_fileFindings (whole f among).findings found]
          rfl
      | _ => cases same
  | ledger _ _ =>
      have problem {α : Type} {o : Outcome α} (same : o.problem? = some p) : o = .problem p := by
        cases o with
        | problem q => exact congrArg _ (Option.some.inj same)
        | _ => cases same
      rcases List.mem_append.mp member with member | member
      · obtain ⟨o, among, same⟩ := List.mem_filterMap.mp member
        exact Ledger.path_of_problem (fun _ _ _ => Ledger.path_of_milestoneOutcome) among
          (problem same)
      · obtain ⟨o, among, same⟩ := List.mem_filterMap.mp member
        exact Ledger.path_of_problem (fun _ _ _ => Ledger.path_of_markerOutcome) among
          (problem same)

/-- The origin is read twice without a failure, and gives these declarations. -/
structure Gives (files : Files) (o : Origin) (d : Declarations) : Prop where
  milestones : (o.milestones files).2.items = d.milestones
  markers : ((o.milestones files).1.markers files).2.items = d.markers
  problems : ((o.milestones files).1.markers files).1.problems = d.problems

theorem declares_of_whole (fresh : o.IsFresh) (named : (o.milestones files).2.failure = none)
    (marked : ((o.milestones files).1.markers files).2.failure = none) :
    ∃ d, Declares files o d ∧ Gives files o d := by
  cases o with
  | sources t =>
      obtain ⟨unread, clean⟩ := fresh
      obtain ⟨located, selected, whole⟩ := SourceTree.selected_of_collect unread named
      have collected := SourceTree.collect_of_isWhole unread selected whole
      refine ⟨_, .sources selected whole, ?_, ?_, ?_⟩ <;>
        simp [Origin.milestones, Origin.markers, Origin.problems, SourceTree.milestones,
          SourceTree.markers, SourceTree.drain, collected, SourceTree.collect_of_kept, clean]
  | ledger l =>
      obtain ⟨unread, clean⟩ := fresh
      rcases Ledger.load_outcome unread files with ⟨f, log, fails⟩ | ⟨entries, found⟩
      · simp [Origin.milestones, Ledger.milestones, Ledger.drain, fails] at named
      · have accounted := Ledger.accounted_of_found unread found
        have first := accounted.milestones named
        have second := accounted.markers marked
        refine ⟨_, .ledger found fun overtaxed => ?_, first.items, second.items, ?_⟩
        · have fails := (accounted.overtaxed_iff .unwritable).mpr ⟨rfl, overtaxed⟩
          rcases fails with fails | fails
          · cases named.symm.trans fails
          · cases marked.symm.trans fails
        · refine accounted.known.trans ?_
          rw [clean, first.problems, second.problems]
          rfl

/-! ## All origins -/

/-- What origins declare, one after the other. -/
inductive Declare (files : Files) : List Origin → Declarations → Prop
  | nil : Declare files [] {}
  | cons {o : Origin} {d : Declarations} {rest : List Origin} {e : Declarations} :
      Declares files o d → Declare files rest e → Declare files (o :: rest) (d ++ e)

theorem Declare.exists_of_append {os : List Origin} {d : Declarations}
    (h : Declare files (origins ++ os) d) :
    ∃ d₁ d₂, Declare files origins d₁ ∧ Declare files os d₂ ∧ d = d₁ ++ d₂ := by
  induction origins generalizing d with
  | nil => exact ⟨{}, d, .nil, h, rfl⟩
  | cons o rest ih =>
      rw [List.cons_append] at h
      cases h with
      | cons first later =>
          obtain ⟨d₁, d₂, before, behind, rfl⟩ := ih later
          exact ⟨_, d₂, .cons first before, behind, (Declarations.append_assoc _ _ _).symm⟩

theorem Declare.path_of_problem {d : Declarations} (h : Declare files origins d) :
    ∀ p ∈ d.problems, p.path.isSome := by
  induction h with
  | nil => simp
  | cons first _ ih => exact List.forall_mem_append.mpr ⟨first.path_of_problem, ih⟩

/-- Origins that give declarations one by one give them together. -/
theorem exists_declare (each : ∀ o ∈ origins, ∃ d, Declares files o d ∧ Gives files o d) :
    ∃ d, Declare files origins d ∧
      (origins.flatMap fun o => (o.milestones files).2.items) = d.milestones ∧
      (origins.flatMap fun o => ((o.milestones files).1.markers files).2.items) = d.markers ∧
      (origins.flatMap fun o => ((o.milestones files).1.markers files).1.problems) =
        d.problems := by
  induction origins with
  | nil => exact ⟨{}, .nil, rfl, rfl, rfl⟩
  | cons o rest ih =>
      rw [List.forall_mem_cons] at each
      obtain ⟨⟨d, declares, gives⟩, each⟩ := each
      obtain ⟨e, declare, milestones, markers, problems⟩ := ih each
      refine ⟨d ++ e, .cons declares declare, ?_, ?_, ?_⟩
      · rw [List.flatMap_cons, gives.milestones, milestones, Declarations.milestones_append]
      · rw [List.flatMap_cons, gives.markers, markers, Declarations.markers_append]
      · rw [List.flatMap_cons, gives.problems, problems, Declarations.problems_append]

/-- **Two readings without a failure give what is declared**, origin by origin. -/
theorem phases_of_whole (fresh : ∀ o ∈ origins, o.IsFresh)
    (named : (allMilestones files origins).2.failure = none)
    (marked : (allMarkers files (allMilestones files origins).1).2.failure = none) :
    ∃ d, Declare files origins d ∧
      (allMilestones files origins).2.items = d.milestones ∧
      (allMarkers files (allMilestones files origins).1).2.items = d.markers ∧
      allProblems (allMarkers files (allMilestones files origins).1).1 = d.problems := by
  unfold allMarkers allProblems at *
  obtain ⟨first, states, names⟩ := drainAll_of_whole named
  change (allMilestones files origins).1 = _ at states
  rw [states] at marked ⊢
  obtain ⟨second, states', marks⟩ := drainAll_of_whole marked
  rw [List.forall_mem_map] at second
  obtain ⟨d, declare, milestones, markers, problems⟩ := exists_declare fun o member =>
    declares_of_whole (fresh o member) (first o member) (second o member)
  refine ⟨d, declare, names.trans milestones, ?_, ?_⟩
  -- The second reading runs over the states that the first one has left.
  · rw [marks, List.flatMap_map]
    exact markers
  · rw [states', List.flatMap_map, List.flatMap_map]
    exact problems

/-- Once all milestones have been read, there is one cause for which reading the markers can
fail. -/
theorem failure_allMarkers (named : (allMilestones files origins).2.failure = none) :
    ∀ f, (allMarkers files (allMilestones files origins).1).2.failure = some f →
      f = .unwritable := by
  intro f fails
  obtain ⟨first, states, -⟩ := drainAll_of_whole named
  change (allMilestones files origins).1 = _ at states
  rw [allMarkers, failure_drainAll, states] at fails
  obtain ⟨o', member, fails⟩ := List.exists_of_findSome?_eq_some fails
  obtain ⟨o, among, rfl⟩ := List.mem_map.mp member
  exact failure_of_isKept (isKept_of_milestones (first o among)) f fails

end Origin

end Overdue
