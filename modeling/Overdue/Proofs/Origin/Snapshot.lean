import Overdue.Proofs.Origin.Phases

/-!
# Readings of one snapshot

An origin is read again and again while the files around it change (`Session`). Up to its first
complete reading it may see any of them; what it sees then is kept. `exists_snapshot` says what a
kept origin answers, whatever the files are by then, and `run_of_snapshot` carries this over any
number of readings and changes. From it `readings_of_one_snapshot` says that a change behind the
first complete reading makes no difference to any answer, and how the problems grow.
-/
namespace Overdue

namespace Origin

/-! ## Sessions -/

/-- One of the two lists of an origin is read to its end, or the files become others. -/
inductive Action
  | readMilestones
  | readMarkers
  | change (files : Files)

/-- What a reading of a list has given. -/
inductive Answer
  | milestones (r : Reading String)
  | markers (r : Reading Marker)

def Action.isReading : Action → Bool
  | .change _ => false
  | _ => true

namespace Answer

def failure : Answer → Option Failure
  | .milestones r => r.failure
  | .markers r => r.failure

def problems : Answer → List Problem
  | .milestones r => r.problems
  | .markers r => r.problems

/-- Two answers about one list have the same items. -/
def Agrees : Answer → Answer → Prop
  | .milestones r, .milestones r' => r.items = r'.items
  | .markers r, .markers r' => r.items = r'.items
  | _, _ => True

end Answer

/-- An origin, and the files that it stands in for now. -/
structure Session where
  origin : Origin
  files : Files

namespace Session

def act (s : Session) : Action → Session × Option Answer
  | .readMilestones =>
    let (o, r) := s.origin.milestones s.files
    (⟨o, s.files⟩, some (.milestones r))
  | .readMarkers =>
    let (o, r) := s.origin.markers s.files
    (⟨o, s.files⟩, some (.markers r))
  | .change files => (⟨s.origin, files⟩, none)

/-- The session after some actions, and the answers in order. -/
def run (s : Session) : List Action → Session × List Answer
  | [] => (s, [])
  | a :: more =>
    let (s, answer) := s.act a
    let (s, answers) := run s more
    (s, answer.toList ++ answers)

end Session

/-! ## What a kept origin answers -/

/-- The origin with more problems behind those that are known. -/
def record (o : Origin) (more : List Problem) : Origin :=
  match o with
  | .sources t => .sources { t with problems := t.problems ++ more }
  | .ledger l => .ledger { l with problems := l.problems ++ more }

@[simp]
theorem record_nil (o : Origin) : o.record [] = o := by
  cases o <;> simp [record]

@[simp]
theorem problems_record (o : Origin) (more : List Problem) :
    (o.record more).problems = o.problems ++ more := by
  cases o <;> rfl

/-- Both lists are kept: reading one of them gives this, whatever has been recorded and whatever the
files are, and its problems are recorded once more. -/
structure Snapshot (o : Origin) (named : Reading String) (marked : Reading Marker) : Prop where
  milestones (more : List Problem) (files : Files) :
    (o.record more).milestones files = (o.record (more ++ named.problems), named)
  markers (more : List Problem) (files : Files) :
    (o.record more).markers files = (o.record (more ++ marked.problems), marked)

end Origin

namespace SourceTree

variable {α : Type} {part : List String × List Marker → List α} {files : Files} {t : SourceTree}

theorem drain_of_kept {found : List String × List Marker} (kept : t.kept = some found)
    (files : Files) : t.drain files part = (t, { items := part found }) := by
  simp [drain, collect_of_kept kept, kept]

/-- Reading again gives the items that were read before, and nothing to record. -/
theorem drain_again (whole : (t.drain files part).2.failure = none) :
    ((t.drain files part).1.drain files part).2.items = (t.drain files part).2.items := by
  obtain ⟨found, kept⟩ := Option.isSome_iff_exists.mp (isSome_kept_of_collect whole)
  change ((t.collect files).1.drain files part).2.items =
    part ((t.collect files).1.kept.getD ([], []))
  rw [drain_of_kept kept, kept, Option.getD_some]

theorem problems_collect (files : Files) (t : SourceTree) :
    t.problems <+: (t.collect files).1.problems := by
  unfold collect
  split
  · exact List.prefix_rfl
  · split
    · exact List.prefix_rfl
    · dsimp only
      split
      · exact List.prefix_append _ _
      · exact List.prefix_append _ _

/-- A reading records the problems that it has. -/
theorem problems_drain (files : Files) (part : List String × List Marker → List α)
    (t : SourceTree) :
    (t.drain files part).1.problems = t.problems ++ (t.drain files part).2.problems := by
  obtain ⟨more, grown⟩ := t.problems_collect files
  change (t.collect files).1.problems =
    t.problems ++ (t.collect files).1.problems.drop t.problems.length
  rw [← grown, List.drop_left]

end SourceTree

namespace Ledger

variable {α : Type} {name : String} {outcome : Nat → Value → Outcome α} {files : Files} {l : Ledger}

theorem drain_of_kept {entries : Entries} (kept : l.kept = some entries) (files : Files)
    (name : String) (outcome : Nat → Value → Outcome α) :
    l.drain files name outcome =
      ({ l with problems := l.problems ++ (l.readList name outcome).problems },
        { l.readList name outcome with log := [] }) := by
  have same : { l with kept := some entries } = l := by rw [← kept]
  rw [drain, load_of_kept kept, same]

/-- A reading records the problems that it has. -/
theorem problems_drain (files : Files) (name : String) (outcome : Nat → Value → Outcome α)
    (l : Ledger) :
    (l.drain files name outcome).1.problems =
      l.problems ++ (l.drain files name outcome).2.problems := by
  unfold drain
  split
  · exact (List.append_nil _).symm
  · rename_i load
    obtain ⟨entries, rfl⟩ := exists_of_load load
    rfl

end Ledger

namespace Origin

variable {o : Origin} {files : Files} {named : Reading String} {marked : Reading Marker}

theorem exists_snapshot (kept : o.IsKept) (files : Files) :
    Snapshot o (o.milestones files).2 (o.markers files).2 := by
  cases o with
  | sources t =>
      obtain ⟨found, kept⟩ := Option.isSome_iff_exists.mp kept
      refine ⟨fun more files' => ?_, fun more files' => ?_⟩
      all_goals
        simp [milestones, markers, SourceTree.milestones, SourceTree.markers, record,
          SourceTree.drain_of_kept kept,
          SourceTree.drain_of_kept (t := { t with problems := t.problems ++ more }) kept]
  | ledger l =>
      obtain ⟨entries, kept⟩ := Option.isSome_iff_exists.mp kept
      refine ⟨fun more files' => ?_, fun more files' => ?_⟩
      all_goals
        simp only [milestones, markers, Ledger.milestones, Ledger.markers, record,
          Ledger.drain_of_kept kept,
          Ledger.drain_of_kept (l := { l with problems := l.problems ++ more }) kept,
          List.append_assoc]
        rfl

/-- Reading source files again records nothing. -/
theorem Snapshot.problems_of_sources {t : SourceTree}
    (snapshot : Snapshot (.sources t) named marked) (kept : t.kept.isSome) :
    named.problems = [] ∧ marked.problems = [] := by
  obtain ⟨found, kept⟩ := Option.isSome_iff_exists.mp kept
  have first := snapshot.milestones [] { base := "" }
  have second := snapshot.markers [] { base := "" }
  rw [record_nil, Origin.milestones, SourceTree.milestones, SourceTree.drain_of_kept kept] at first
  rw [record_nil, Origin.markers, SourceTree.markers, SourceTree.drain_of_kept kept] at second
  rw [← (Prod.mk.inj first).2, ← (Prod.mk.inj second).2]
  exact ⟨rfl, rfl⟩

theorem milestones_again (whole : (o.milestones files).2.failure = none) :
    let again := ((o.milestones files).1.milestones files).2
    again.items = (o.milestones files).2.items ∧
      ∀ l, o = .ledger l → again.problems = (o.milestones files).2.problems := by
  cases o with
  | sources t => exact ⟨SourceTree.drain_again whole, nofun⟩
  | ledger l =>
      obtain ⟨entries, log, drained⟩ := Ledger.kept_of_drain whole
      simp only [milestones, Ledger.milestones, drained]
      rw [Ledger.drain_of_kept rfl]
      exact ⟨rfl, fun _ _ => rfl⟩

theorem markers_again (whole : (o.markers files).2.failure = none) :
    let again := ((o.markers files).1.markers files).2
    again.items = (o.markers files).2.items ∧
      ∀ l, o = .ledger l → again.problems = (o.markers files).2.problems := by
  cases o with
  | sources t => exact ⟨SourceTree.drain_again whole, nofun⟩
  | ledger l =>
      obtain ⟨entries, log, drained⟩ := Ledger.kept_of_drain whole
      simp only [markers, Ledger.markers, drained]
      rw [Ledger.drain_of_kept rfl]
      exact ⟨rfl, fun _ _ => rfl⟩

/-! ## Sessions behind a snapshot -/

/-- What an action is answered with from a snapshot. -/
def Action.answer? (named : Reading String) (marked : Reading Marker) : Action → Option Answer
  | .readMilestones => some (.milestones named)
  | .readMarkers => some (.markers marked)
  | .change _ => none

/-- The problems that an action records. -/
def Action.block (named marked : List Problem) : Action → List Problem
  | .readMilestones => named
  | .readMarkers => marked
  | .change _ => []

/-- Behind a snapshot every reading is answered from it, and records its problems once more. -/
theorem run_of_snapshot (snapshot : Snapshot o named marked) (more : List Problem) (files : Files)
    (later : List Action) :
    ∃ files', Session.run ⟨o.record more, files⟩ later =
      (⟨o.record (more ++ later.flatMap (Action.block named.problems marked.problems)), files'⟩,
        later.filterMap (Action.answer? named marked)) := by
  induction later generalizing more files with
  | nil => exact ⟨files, by simp [Session.run]⟩
  | cons a later ih =>
      rw [List.flatMap_cons, ← List.append_assoc]
      cases a with
      | readMilestones =>
          obtain ⟨files', rest⟩ := ih (more ++ named.problems) files
          refine ⟨files', ?_⟩
          simp only [Session.run, Session.act, snapshot.milestones, rest]
          rfl
      | readMarkers =>
          obtain ⟨files', rest⟩ := ih (more ++ marked.problems) files
          refine ⟨files', ?_⟩
          simp only [Session.run, Session.act, snapshot.markers, rest]
          rfl
      | change changed =>
          obtain ⟨files', rest⟩ := ih (more ++ []) changed
          refine ⟨files', ?_⟩
          rw [List.append_nil] at rest
          simp only [Session.run, Session.act, rest, Action.block, List.append_nil]
          rfl

/-- An action that is answered records the problems of its answer; any other records nothing. -/
theorem problems_act (s : Session) (a : Action) :
    (s.act a).1.origin.problems =
      s.origin.problems ++ ((s.act a).2.map Answer.problems).getD [] := by
  obtain ⟨o, files⟩ := s
  cases a with
  | change files' => exact (List.append_nil _).symm
  | readMilestones =>
      cases o with
      | sources t => exact SourceTree.problems_drain files _ t
      | ledger l => exact Ledger.problems_drain files _ _ l
  | readMarkers =>
      cases o with
      | sources t => exact SourceTree.problems_drain files _ t
      | ledger l => exact Ledger.problems_drain files _ _ l

theorem problems_run (s : Session) (actions : List Action) :
    s.origin.problems <+: (s.run actions).1.origin.problems := by
  induction actions generalizing s with
  | nil => exact List.prefix_rfl
  | cons a actions ih =>
      refine List.IsPrefix.trans ?_ (ih (s.act a).1)
      rw [problems_act]
      exact List.prefix_append _ _

/-- The answer of an action, if it is complete, is one from the snapshot that is kept with it. A
ledger's answer has the problems that will be recorded from then on; the problems of source files
are not recorded again. -/
theorem snapshot_of_complete {s : Session} {first : Action} {x : Answer}
    (answered : (s.act first).2 = some x) (complete : x.failure = none) :
    ∃ named marked, Snapshot (s.act first).1.origin named marked ∧
      (∀ a y, Action.answer? named marked a = some y → x.Agrees y) ∧
      (∀ t, s.origin = .sources t → named.problems = [] ∧ marked.problems = []) ∧
      ∀ l, s.origin = .ledger l → x.problems = first.block named.problems marked.problems := by
  cases first with
  | change files => cases answered
  | readMilestones =>
      cases answered
      have kept : (s.origin.milestones s.files).1.IsKept := isKept_of_milestones complete
      have snapshot := exists_snapshot kept s.files
      obtain ⟨items, problems⟩ := milestones_again complete
      refine ⟨_, _, snapshot, ?_, fun t same => ?_, fun l same => (problems l same).symm⟩
      · rintro (_ | _ | _) y same <;> cases same
        · exact items.symm
        · trivial
      · rw [same] at kept snapshot ⊢
        exact snapshot.problems_of_sources kept
  | readMarkers =>
      cases answered
      have kept : (s.origin.markers s.files).1.IsKept := isKept_of_markers complete
      have snapshot := exists_snapshot kept s.files
      obtain ⟨items, problems⟩ := markers_again complete
      refine ⟨_, _, snapshot, ?_, fun t same => ?_, fun l same => (problems l same).symm⟩
      · rintro (_ | _ | _) y same <;> cases same
        · trivial
        · exact items.symm
      · rw [same] at kept snapshot ⊢
        exact snapshot.problems_of_sources kept

/-- **Readings are of one snapshot.** From the first complete reading of either list on, every
reading is answered as if the files had not changed since, and the answers about one list have the
same items. The problems of source files are then what they are. Those of a ledger go on growing:
each reading of a list records the same ones, and the first complete reading has recorded them too.
Whatever is done, problems are only added behind those that are known. -/
theorem readings_of_one_snapshot :
    (∀ (s : Session) (actions : List Action),
      s.origin.problems <+: (s.run actions).1.origin.problems) ∧
    ∀ (s : Session) (first : Action) (x : Answer), (s.act first).2 = some x → x.failure = none →
      let after := (s.act first).1
      (∀ later,
        (after.run later).2 = (after.run (later.filter Action.isReading)).2 ∧
          ∀ y ∈ (after.run later).2, x.Agrees y) ∧
      (∀ t, s.origin = .sources t →
        ∀ later, (after.run later).1.origin.problems = after.origin.problems) ∧
      ∀ l, s.origin = .ledger l → ∃ named marked,
        after.origin.problems = s.origin.problems ++ first.block named marked ∧
          ∀ later, (after.run later).1.origin.problems =
            after.origin.problems ++ later.flatMap (Action.block named marked) := by
  refine ⟨problems_run, fun s first x answered complete => ?_⟩
  obtain ⟨named, marked, snapshot, agrees, ofSources, ofLedger⟩ :=
    snapshot_of_complete answered complete
  have grown := problems_act s first
  rw [answered] at grown
  generalize (s.act first).1 = after at snapshot grown
  intro _
  have runs (later : List Action) : ∃ files', after.run later =
      (⟨after.origin.record (later.flatMap (Action.block named.problems marked.problems)), files'⟩,
        later.filterMap (Action.answer? named marked)) := by
    have behind := run_of_snapshot snapshot [] after.files later
    rwa [record_nil, List.nil_append] at behind
  refine ⟨fun later => ⟨?_, ?_⟩, fun t same later => ?_, fun l same => ?_⟩
  · obtain ⟨_, whole⟩ := runs later
    obtain ⟨_, quiet⟩ := runs (later.filter Action.isReading)
    rw [whole, quiet, List.filterMap_filter]
    -- A change of the files is not answered, so that leaving it out changes no answers.
    refine List.filterMap_congr fun a _ => ?_
    cases a <;> rfl
  · obtain ⟨_, whole⟩ := runs later
    rw [whole]
    intro y member
    obtain ⟨a, -, same⟩ := List.mem_filterMap.mp member
    exact agrees a y same
  · obtain ⟨_, whole⟩ := runs later
    obtain ⟨noneNamed, noneMarked⟩ := ofSources t same
    have nothing : later.flatMap (Action.block named.problems marked.problems) = [] := by
      rw [List.flatMap_eq_nil_iff, noneNamed, noneMarked]
      intro a _
      cases a <;> rfl
    rw [whole, nothing, record_nil]
  · refine ⟨named.problems, marked.problems, ?_, fun later => ?_⟩
    · rw [← ofLedger l same]
      exact grown
    · obtain ⟨_, whole⟩ := runs later
      rw [whole, problems_record]

/-- A ledger whose file is taken away behind the first reading. -/
theorem removed_readings_of_one_snapshot :
    let s : Session := ⟨.ledger { path := "/r/ledger.yml" },
      Ledger.alone (Utf8.encode "milestones: [A, 0]\ndebts: [x]".toList)⟩
    let after := (s.act .readMilestones).1
    ∃ x, (s.act .readMilestones).2 = some x ∧ x.failure = none ∧ x.problems.length = 1 ∧
      (after.run [.change { base := "/r" }, .readMarkers, .readMilestones]).2 =
        (after.run [.readMarkers, .readMilestones]).2 ∧
      ∃ named marked, after.origin.problems = named ∧
        (after.run [.change { base := "/r" }, .readMarkers, .readMilestones]).1.origin.problems =
          named ++ (marked ++ named) := by
  intro s after
  have complete : (s.origin.milestones s.files).2.failure = none := by
    rw [← Option.isNone_iff_eq_none]
    decide +kernel
  have one : (s.origin.milestones s.files).2.problems.length = 1 := by decide +kernel
  obtain ⟨-, snapshot⟩ := readings_of_one_snapshot
  obtain ⟨answers, -, ofLedger⟩ := snapshot s .readMilestones _ rfl complete
  obtain ⟨named, marked, first, later⟩ := ofLedger _ rfl
  refine ⟨_, rfl, complete, one, (answers _).1, named, marked, first, ?_⟩
  rw [later, first]
  simp [Action.block, s, problems]

end Origin

end Overdue
