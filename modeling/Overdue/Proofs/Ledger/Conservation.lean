import Overdue.Proofs.Document.Keys
import Overdue.Proofs.Ledger.Failures
import Overdue.Proofs.Marker.Declared

/-!
# What the elements of a ledger come to

Each element of a ledger's lists comes to one item or one problem, by itself: `ComesTo` says to
which, for a milestone and for the entry of a marker. `conserved_of_drained` carries this over a
whole list, whose items and problems are those of its elements in order, and `entries_conserved`
puts both lists together.
-/
namespace Overdue

namespace Ledger

variable {shown : String} {index : Nat} {entry : Entries}

/-! ## The place of an entry -/

/-- An entry is about a path: its own, as text, if it gives one, otherwise that of the ledger. -/
inductive NamesPath (shown : String) (entry : Entries) : String → Prop
  | own {v : Value} {path : String} : entry.field? "path" = some v → v.truthy = true →
      v.display? = some path → NamesPath shown entry path
  | ledger : (∀ v, entry.field? "path" = some v → v.truthy = false) → NamesPath shown entry shown

/-- An entry is about a line: a whole number other than zero, where a truth value counts as zero or
one. Anything else is no line. -/
inductive NamesLine (entry : Entries) : Option Int → Prop
  | number {i : Int} : entry.field? "line" = some (.int i) → i ≠ 0 → NamesLine entry (some i)
  | truth : entry.field? "line" = some (.bool true) → NamesLine entry (some 1)
  | nowhere : (∀ i, entry.field? "line" = some (.int i) → i = 0) →
      entry.field? "line" ≠ some (.bool true) → NamesLine entry none

theorem namesPath_of_locationOf {location : Location}
    (h : locationOf shown entry = some location) : NamesPath shown entry location.path := by
  unfold locationOf at h
  obtain ⟨path, named, rfl⟩ := Option.map_eq_some_iff.mp h
  split at named
  · rename_i absent
    cases named
    apply NamesPath.ledger
    intro v there
    cases absent.symm.trans there
  · rename_i v there
    split at named
    · rename_i given
      exact .own there given named
    · rename_i empty
      cases named
      apply NamesPath.ledger
      intro w found
      cases there.symm.trans found
      exact Bool.eq_false_iff.mpr empty

/-- The line is zero if there is none. -/
theorem namesLine_lineOf (entry : Entries) :
    ∃ line, NamesLine entry line ∧ lineOf (entry.field? "line") = line.getD 0 := by
  cases found : entry.field? "line" with
  | none => exact ⟨none, .nowhere (by simp [found]) (by simp [found]), rfl⟩
  | some v =>
      by_cases number : ∃ i, v = .int i ∧ i ≠ 0
      · obtain ⟨i, rfl, other⟩ := number
        exact ⟨some i, .number found other, rfl⟩
      by_cases truth : v = .bool true
      · subst truth
        exact ⟨some 1, .truth found, rfl⟩
      · have zero (i : Int) (same : v = .int i) : i = 0 := by
          by_contra other
          exact number ⟨i, same, other⟩
        have nowhere : NamesLine entry none := by
          constructor
          · intro i there
            exact zero i (Option.some.inj (found.symm.trans there))
          · intro there
            exact truth (Option.some.inj (found.symm.trans there))
        refine ⟨none, nowhere, ?_⟩
        cases v with
        | int i => exact zero i rfl
        | bool b =>
            cases b with
            | true => exact absurd rfl truth
            | false => rfl
        | _ => rfl

theorem NamesLine.ne_zero {line : Option Int} (h : NamesLine entry line) :
    (if line.getD 0 = 0 then none else some (line.getD 0)) = line := by
  cases h with
  | number _ other => exact if_neg other
  | truth => rfl
  | nowhere => rfl

theorem path_of_locationOf {location : Location} (h : locationOf shown entry = some location) :
    location = ⟨location.path, lineOf (entry.field? "line"), none⟩ := by
  unfold locationOf at h
  obtain ⟨path, -, rfl⟩ := Option.map_eq_some_iff.mp h
  rfl

/-! ## One element -/

/-- The fields that an entry declares: all but its path and its line. -/
theorem mem_fieldsOf_iff {named : Value × Value} :
    named ∈ fieldsOf entry ↔
      named ∈ entry ∧ named.1 ≠ .text "path" ∧ named.1 ≠ .text "line" := by
  unfold fieldsOf Entries.erase
  simp only [List.mem_filter, Bool.not_eq_true', and_assoc, ← Bool.not_eq_true,
    Value.same_text_iff, ne_eq]

/-- What an element of the list of milestones comes to. -/
inductive NameComesTo (shown : String) : Value → Outcome String → Prop
  | name {s : String} : s ≠ "" → NameComesTo shown (.text s) (.item s)
  | refused {v : Value} {t : String} : (∀ s, v = .text s → s = "") → v.literal? = some t →
      NameComesTo shown v
        (.problem ⟨"milestone names must be non-empty strings, got " ++ t, some shown, none⟩)

/-- What the element at an index of the list of markers comes to. -/
inductive EntryComesTo (shown : String) (index : Nat) : Value → Outcome Marker → Prop
  | marker {entry : Entries} {path : String} {line : Option Int} {m : Marker} :
      NamesPath shown entry path → NamesLine entry line →
      Marker.ofFields (fieldsOf entry) (some ⟨path, line.getD 0, none⟩) = .ok m →
        EntryComesTo shown index (.map entry) (.item m)
  | refused {entry : Entries} {path words : String} {line : Option Int} {f : FieldFault} :
      NamesPath shown entry path → NamesLine entry line →
      Marker.ofFields (fieldsOf entry) (some ⟨path, line.getD 0, none⟩) = .error f →
      f.message? = some words →
        EntryComesTo shown index (.map entry) (.problem ⟨words, some path, line⟩)
  | misshapen {v : Value} : (∀ entry, v ≠ .map entry) →
      EntryComesTo shown index v
        (.problem ⟨"debt entry #" ++ toString (index + 1) ++ " must be a mapping", some shown,
          none⟩)

theorem comesTo_milestoneOutcome (shown : String) {v : Value}
    (whole : (milestoneOutcome shown v).failure? = none) :
    NameComesTo shown v (milestoneOutcome shown v) := by
  unfold milestoneOutcome at whole ⊢
  cases written : v.literal? with
  | none =>
      cases v with
      | text s => cases written
      | _ => simp [written, Outcome.failure?] at whole
  | some t =>
      cases v with
      | text s =>
          dsimp only
          split
          · rename_i empty
            refine .refused ?_ written
            intro s' same
            cases same
            exact empty
          · rename_i given
            exact .name given
      | _ =>
          refine .refused ?_ written
          intro s same
          cases same

theorem comesTo_markerOutcome (shown : String) (index : Nat) {v : Value}
    (whole : (markerOutcome shown index v).failure? = none) :
    EntryComesTo shown index v (markerOutcome shown index v) := by
  cases v with
  | map entry =>
      simp only [markerOutcome] at whole ⊢
      cases place : locationOf shown entry with
      | none => simp [place, Outcome.failure?] at whole
      | some location =>
          -- A location writes no line as zero, and a problem leaves it out again.
          obtain ⟨line, names, same⟩ := namesLine_lineOf entry
          have path := namesPath_of_locationOf place
          have parts := path_of_locationOf place
          rw [same] at parts
          generalize location.path = p at parts path
          subst parts
          simp only [place] at whole ⊢
          cases taken : Marker.ofFields (fieldsOf entry) (some ⟨p, line.getD 0, none⟩) with
          | ok m => exact .marker path names taken
          | error f =>
              cases worded : f.message? with
              | none => simp [taken, worded, Outcome.failure?] at whole
              | some words =>
                  simp only [worded, names.ne_zero]
                  exact .refused path names taken worded
  | _ =>
      apply EntryComesTo.misshapen
      intro entry same
      cases same

theorem NameComesTo.item_iff {v : Value} {o : Outcome String} (h : NameComesTo shown v o) :
    (∃ s, o = .item s) ↔ ∃ s, v = .text s ∧ s ≠ "" := by
  cases h with
  | name given => exact iff_of_true ⟨_, rfl⟩ ⟨_, rfl, given⟩
  | refused empty _ =>
      constructor
      · rintro ⟨s, same⟩
        cases same
      · rintro ⟨s, same, given⟩
        exact absurd (empty s same) given

theorem EntryComesTo.item_iff {v : Value} {o : Outcome Marker} (h : EntryComesTo shown index v o) :
    (∃ m, o = .item m) ↔ ∃ entry, v = .map entry ∧
      ∀ named ∈ entry, named.1 ≠ .text "path" → named.1 ≠ .text "line" →
        Marker.Accepts named.1 named.2 := by
  have accepts (entry : Entries) (location : Option Location) :
      (∃ m, Marker.ofFields (fieldsOf entry) location = .ok m) ↔
        ∀ named ∈ entry, named.1 ≠ .text "path" → named.1 ≠ .text "line" →
          Marker.Accepts named.1 named.2 := by
    rw [Marker.ofFields_eq_ok_iff]
    simp only [mem_fieldsOf_iff, and_imp]
  cases h with
  | marker _ _ taken => exact iff_of_true ⟨_, rfl⟩ ⟨_, rfl, (accepts _ _).mp ⟨_, taken⟩⟩
  | refused _ _ fails _ =>
      constructor
      · rintro ⟨m, same⟩
        cases same
      · rintro ⟨entry, same, all⟩
        cases same
        obtain ⟨m, taken⟩ := (accepts _ _).mpr all
        cases fails.symm.trans taken
  | misshapen shape =>
      constructor
      · rintro ⟨m, same⟩
        cases same
      · rintro ⟨entry, same, -⟩
        exact absurd same (shape entry)

/-! ## A whole list -/

variable {α : Type} {name : String} {outcome : Nat → Value → Outcome α} {entries : Entries}

/-- Every element comes to one item or one problem, by its place and itself alone; the items and the
problems of the reading are these, in the order of the elements. -/
structure Conserved (r : Reading α) (elements : List Value)
    (outcome : Nat → Value → Outcome α) : Prop where
  items : r.items = (elements.mapIdx outcome).filterMap Outcome.item?
  problems : r.problems = (elements.mapIdx outcome).filterMap Outcome.problem?
  one (k : Nat) (v : Value) : elements[k]? = some v →
    (∃ a, outcome k v = .item a) ∨ ∃ p, outcome k v = .problem p
  count : r.items.length + r.problems.length = elements.length

theorem outcomes_of_list {items : List Value} (list : entries.field? name = some (.list items))
    (shown : String) :
    outcomes shown entries name outcome = (elements entries name).mapIdx outcome := by
  unfold outcomes elements
  rw [list]
  simp [List.mapIdx_eq_zipIdx_map, List.zipIdx_map]

theorem count_of_items_or_problems (outcomes : List (Outcome α))
    (each : ∀ o ∈ outcomes, (∃ a, o = .item a) ∨ ∃ p, o = .problem p) :
    (outcomes.filterMap Outcome.item?).length + (outcomes.filterMap Outcome.problem?).length =
      outcomes.length := by
  induction outcomes with
  | nil => rfl
  | cons o outcomes ih =>
      rw [List.forall_mem_cons] at each
      have rest := ih each.2
      rcases each.1 with ⟨a, rfl⟩ | ⟨p, rfl⟩
      · simp only [List.filterMap_cons, Outcome.item?, Outcome.problem?, List.length_cons]
        omega
      · simp only [List.filterMap_cons, Outcome.item?, Outcome.problem?, List.length_cons]
        omega

theorem conserved_of_accounts {r : Reading α} {elements : List Value}
    (accounts : r.Accounts (elements.mapIdx outcome)) : Conserved r elements outcome := by
  refine ⟨accounts.items, accounts.problems, ?_, ?_⟩
  · intro k v there
    obtain ⟨inside, rfl⟩ := List.getElem?_eq_some_iff.mp there
    have member : outcome k elements[k] ∈ elements.mapIdx outcome :=
      List.mem_mapIdx.mpr ⟨k, inside, rfl⟩
    exact accounts.each _ member
  · rw [accounts.items, accounts.problems, count_of_items_or_problems _ accounts.each,
      List.length_mapIdx]

/-- The ledger has these entries: those that it keeps, or else those of its file. -/
def Loads (files : Files) (l : Ledger) (entries : Entries) : Prop :=
  ∃ log, l.load files = (.ok { l with kept := some entries }, log)

theorem conserved_of_drained {files : Files} {l : Ledger} (loads : Loads files l entries)
    {items : List Value} (list : entries.field? name = some (.list items))
    (whole : (l.drain files name outcome).2.failure = none) :
    Conserved (l.drain files name outcome).2 (elements entries name) outcome := by
  obtain ⟨log, loaded⟩ := loads
  have drained : Drained l entries _ (l.drain files name outcome) := drained_of_load loaded
  have accounts := drained.accounts whole
  rw [outcomes_of_list list] at accounts
  exact conserved_of_accounts accounts

theorem failure?_of_one {o : Outcome α} (one : (∃ a, o = .item a) ∨ ∃ p, o = .problem p) :
    o.failure? = none := by
  rcases one with ⟨a, rfl⟩ | ⟨p, rfl⟩
  · rfl
  · rfl

/-- **The elements of a ledger are conserved.** When a list of a ledger is read to its end, every
element is one item or one problem, in the order of the list, and which one it is depends on its
place and on nothing but itself. A milestone is an item if it is a text that is not empty; the entry
of a marker is if it is a mapping and all its fields but path and line are accepted, and a problem
with it stands at the entry's own path and line. -/
theorem entries_conserved {files : Files} {l : Ledger} (loads : Loads files l entries) :
    (∀ names, entries.field? "milestones" = some (.list names) →
      (l.milestones files).2.failure = none →
        Conserved (l.milestones files).2 (elements entries "milestones")
          (fun _ => milestoneOutcome l.shownPath) ∧
        ∀ v ∈ elements entries "milestones",
          NameComesTo l.shownPath v (milestoneOutcome l.shownPath v) ∧
          ((∃ s, milestoneOutcome l.shownPath v = .item s) ↔ ∃ s, v = .text s ∧ s ≠ "")) ∧
    (∀ debts, entries.field? "debts" = some (.list debts) →
      (l.markers files).2.failure = none →
        Conserved (l.markers files).2 (elements entries "debts") (markerOutcome l.shownPath) ∧
        ∀ k v, (elements entries "debts")[k]? = some v →
          EntryComesTo l.shownPath k v (markerOutcome l.shownPath k v) ∧
          ((∃ m, markerOutcome l.shownPath k v = .item m) ↔ ∃ entry, v = .map entry ∧
            ∀ named ∈ entry, named.1 ≠ .text "path" → named.1 ≠ .text "line" →
              Marker.Accepts named.1 named.2)) := by
  constructor
  · intro names list whole
    have conserved : Conserved (l.milestones files).2 (elements entries "milestones")
        (fun _ => milestoneOutcome l.shownPath) := conserved_of_drained loads list whole
    refine ⟨conserved, ?_⟩
    intro v member
    obtain ⟨k, there⟩ := List.mem_iff_getElem?.mp member
    have comes := comesTo_milestoneOutcome l.shownPath (failure?_of_one (conserved.one k v there))
    exact ⟨comes, comes.item_iff⟩
  · intro debts list whole
    have conserved : Conserved (l.markers files).2 (elements entries "debts")
        (markerOutcome l.shownPath) := conserved_of_drained loads list whole
    refine ⟨conserved, ?_⟩
    intro k v there
    have comes := comesTo_markerOutcome l.shownPath k (failure?_of_one (conserved.one k v there))
    exact ⟨comes, comes.item_iff⟩

/-! ## A ledger with good and bad elements -/

/-- One good milestone and two bad ones; a marker that is no mapping, a good one, and one with an
unknown field, whose line is a truth value. -/
def mixed : Entries :=
  [(.text "milestones", .list [.text "LOGIN", .text "", .int 7]),
    (.text "debts", .list [.text "x", .map [(.text "label", .text "cache"), (.text "line", .int 3)],
      .map [(.text "path", .text "app.py"), (.text "line", .bool true), (.text "owner", .null)]])]

theorem mixed_entries_conserved :
    let l : Ledger := { path := "ledger.yml", kept := some mixed }
    let files : Files := alone []
    Loads files l mixed ∧
      Conserved (l.milestones files).2 (elements mixed "milestones")
        (fun _ => milestoneOutcome "ledger.yml") ∧
      Conserved (l.markers files).2 (elements mixed "debts") (markerOutcome "ledger.yml") ∧
      (l.milestones files).2.items = ["LOGIN"] ∧
      (l.markers files).2.problems =
        [⟨"debt entry #1 must be a mapping", some "ledger.yml", none⟩,
          ⟨"unknown debt field 'owner'", some "app.py", some 1⟩] := by
  intro l files
  have loads : Loads files l mixed := ⟨[], rfl⟩
  obtain ⟨milestones, markers⟩ := entries_conserved loads
  have readMilestones : (l.milestones files).2.failure = none := by
    rw [← Option.isNone_iff_eq_none]
    decide +kernel
  have readMarkers : (l.markers files).2.failure = none := by
    rw [← Option.isNone_iff_eq_none]
    decide +kernel
  exact ⟨loads, (milestones _ rfl readMilestones).1, (markers _ rfl readMarkers).1,
    by decide +kernel, by decide +kernel⟩

end Ledger

end Overdue
