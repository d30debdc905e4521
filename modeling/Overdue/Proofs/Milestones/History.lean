import Mathlib.Data.Set.Card
import Overdue.Proofs.Scan.Composition

/-!
# Registers and their history

What a register answers depends on the calls that came before. Until the first call that freezes, it
is the list of the names that have been registered, each once (`performAll_open`); from then on no
call changes it (`performAll_of_frozen`). So a name is a member exactly if it was registered in time
(`mem_performAll_iff`), and the frozen register of some names is what is left of registering them,
in whatever order and however often. `register_by_history` puts this together.
-/
namespace Overdue.Milestones

variable {r : Milestones} {calls : List Call} {name : String}

/-! ## One call -/

theorem mem_iff_contains : name ∈ r ↔ r.contains name = true :=
  List.contains_iff_mem.symm

theorem register_of_open (opened : r.frozen = false) (name : String) :
    r.register name = .ok (r.insert name) := by
  unfold register insert
  rw [opened, if_neg Bool.false_ne_true]
  split <;> rfl

theorem register_of_frozen (frozen : r.frozen = true) (name : String) :
    r.register name = .error name := by
  unfold register
  rw [if_pos frozen]

theorem insert_frozen (r : Milestones) (name : String) : (r.insert name).frozen = r.frozen := by
  unfold insert
  split <;> rfl

/-- No call changes a frozen register. -/
theorem perform_of_frozen (frozen : r.frozen = true) (call : Call) : (r.perform call).1 = r := by
  cases call with
  | register name => simp only [perform, register_of_frozen frozen]
  | freeze =>
      obtain ⟨names, _⟩ := r
      subst frozen
      rfl
  | contains name => rfl
  | member name => rfl

theorem performAll_of_frozen (frozen : r.frozen = true) (calls : List Call) :
    r.performAll calls = r := by
  induction calls with
  | nil => rfl
  | cons call calls ih =>
      rw [performAll, List.foldl_cons, perform_of_frozen frozen, ← performAll, ih]

/-- Registering is refused by a frozen register, and by no other; a refusal changes nothing. -/
theorem perform_register (r : Milestones) (name : String) :
    r.perform (.register name) =
      if r.frozen then (r, .refused name) else (r.insert name, .done) := by
  cases state : r.frozen with
  | true => simp only [perform, register_of_frozen state, if_true]
  | false => simp only [perform, register_of_open state, Bool.false_eq_true, if_false]

/-- The two ways to ask for a name answer alike. -/
theorem perform_contains_eq_member (r : Milestones) (name : String) :
    r.perform (.contains name) = r.perform (.member name) := by
  have same : r.contains name = decide (name ∈ r) := by
    rw [Bool.eq_iff_iff, decide_eq_true_iff, mem_iff_contains]
  rw [perform, perform, same]

/-! ## A run of calls -/

/-- The name that a call registers. -/
def Call.name? : Call → Option String
  | .register name => some name
  | _ => none

/-- Some call registers the name, and none in front of it freezes. -/
def InTime (calls : List Call) (name : String) : Prop :=
  ∃ before after, calls = before ++ .register name :: after ∧ .freeze ∉ before

theorem performAll_append (r : Milestones) (calls calls' : List Call) :
    r.performAll (calls ++ calls') = (r.performAll calls).performAll calls' :=
  List.foldl_append

/-- Calls none of which freezes leave an open register open, with the names that they register. -/
theorem performAll_open (opened : r.frozen = false) (unfrozen : .freeze ∉ calls) :
    r.performAll calls = (calls.filterMap Call.name?).foldl insert r := by
  induction calls generalizing r with
  | nil => rfl
  | cons call calls ih =>
      rw [List.mem_cons, not_or] at unfrozen
      rw [performAll, List.foldl_cons, ← performAll]
      cases call with
      | register name =>
          rw [perform_register, opened, if_neg Bool.false_ne_true,
            ih ((insert_frozen r name).trans opened) unfrozen.2]
          rfl
      | freeze => exact absurd rfl unfrozen.1
      | contains name => exact ih opened unfrozen.2
      | member name => exact ih opened unfrozen.2

/-- A run on a new register comes to the names registered before the first call that freezes. -/
theorem performAll_cases (calls : List Call) :
    (.freeze ∉ calls ∧
      empty.performAll calls = (calls.filterMap Call.name?).foldl insert empty) ∨
    ∃ before after, calls = before ++ .freeze :: after ∧ .freeze ∉ before ∧
      empty.performAll calls = ofList (before.filterMap Call.name?) := by
  by_cases frozen : .freeze ∈ calls
  · obtain ⟨before, after, rfl, unfrozen⟩ := List.eq_append_cons_of_mem frozen
    refine .inr ⟨before, after, rfl, unfrozen, ?_⟩
    rw [performAll_append, performAll_open rfl unfrozen]
    exact performAll_of_frozen rfl after
  · exact .inl ⟨frozen, performAll_open rfl frozen⟩

theorem frozen_foldl_insert (names : List String) (r : Milestones) :
    (names.foldl insert r).frozen = r.frozen := by
  induction names generalizing r with
  | nil => rfl
  | cons name names ih => rw [List.foldl_cons, ih, insert_frozen]

theorem frozen_performAll_iff (calls : List Call) :
    (empty.performAll calls).frozen = true ↔ .freeze ∈ calls := by
  rcases performAll_cases calls with ⟨unfrozen, run⟩ | ⟨before, after, rfl, -, run⟩
  · rw [run, frozen_foldl_insert]
    exact iff_of_false Bool.false_ne_true unfrozen
  · rw [run]
    exact iff_of_true rfl (List.mem_append_right _ List.mem_cons_self)

theorem mem_names_iff : name ∈ calls.filterMap Call.name? ↔ .register name ∈ calls := by
  rw [List.mem_filterMap]
  constructor
  · rintro ⟨call, member, registers⟩
    cases call with
    | register other =>
        cases registers
        exact member
    | _ => cases registers
  · exact fun member => ⟨_, member, rfl⟩

theorem inTime_of_unfrozen (unfrozen : .freeze ∉ calls) :
    InTime calls name ↔ .register name ∈ calls := by
  constructor
  · rintro ⟨before, after, rfl, -⟩
    exact List.mem_append_right _ List.mem_cons_self
  · intro member
    obtain ⟨before, after, rfl⟩ := List.append_of_mem member
    exact ⟨before, after, rfl, fun inside => unfrozen (List.mem_append_left _ inside)⟩

theorem inTime_append_freeze {before : List Call} (unfrozen : .freeze ∉ before)
    (after : List Call) :
    InTime (before ++ .freeze :: after) name ↔ .register name ∈ before := by
  constructor
  · rintro ⟨front, back, same, early⟩
    rcases List.append_eq_append_iff.mp same with ⟨between, rfl, rest⟩ | ⟨between, rfl, rest⟩
    · -- The call that registers would stand behind the one that freezes.
      cases between with
      | nil => cases rest
      | cons call between =>
          cases rest
          exact absurd (List.mem_append_right _ List.mem_cons_self) early
    · cases between with
      | nil => cases rest
      | cons call between =>
          cases rest
          exact List.mem_append_right _ List.mem_cons_self
  · intro member
    obtain ⟨front, back, rfl⟩ := List.append_of_mem member
    refine ⟨front, back ++ .freeze :: after, by simp, fun inside => unfrozen ?_⟩
    exact List.mem_append_left _ inside

theorem mem_ofList_iff {names : List String} : name ∈ ofList names ↔ name ∈ names :=
  mem_iff_contains.trans (contains_ofList_iff names name)

/-- **Members were registered in time.** -/
theorem mem_performAll_iff (calls : List Call) (name : String) :
    name ∈ empty.performAll calls ↔ InTime calls name := by
  rcases performAll_cases calls with ⟨unfrozen, run⟩ | ⟨before, after, rfl, unfrozen, run⟩
  · rw [run, mem_iff_contains, contains_foldl_insert_iff, inTime_of_unfrozen unfrozen,
      mem_names_iff]
    simp [contains, empty]
  · rw [run, inTime_append_freeze unfrozen, mem_ofList_iff, mem_names_iff]

/-! ## How many names there are -/

theorem nodup_insert (single : r.names.Nodup) (name : String) : (r.insert name).names.Nodup := by
  unfold insert
  split
  · exact single
  · rename_i fresh
    rw [← mem_iff_contains] at fresh
    simp only [List.nodup_append, List.nodup_singleton, List.mem_singleton, forall_eq, true_and]
    refine ⟨single, ?_⟩
    rintro known member rfl
    exact fresh member

theorem nodup_foldl_insert (names : List String) (single : r.names.Nodup) :
    (names.foldl insert r).names.Nodup := by
  induction names generalizing r with
  | nil => exact single
  | cons name names ih => exact ih (nodup_insert single name)

theorem nodup_performAll (calls : List Call) : (empty.performAll calls).names.Nodup := by
  rcases performAll_cases calls with ⟨-, run⟩ | ⟨before, after, rfl, -, run⟩
  · rw [run]
    exact nodup_foldl_insert _ .nil
  · rw [run]
    exact nodup_foldl_insert _ .nil

/-- A register that keeps each name once has as many as there are members. -/
theorem size_eq_ncard (single : r.names.Nodup) : r.size = {name | name ∈ r}.ncard := by
  have whole : {name | name ∈ r} = (r.names.toFinset : Set String) := by
    ext name
    rw [Finset.mem_coe, List.mem_toFinset]
    rfl
  rw [whole, Set.ncard_coe_finset, List.toFinset_card_of_nodup single]
  rfl

/-! ## Registers of the same names -/

theorem ofList_eq_performAll (names : List String) :
    ofList names = empty.performAll (names.map .register ++ [.freeze]) := by
  have unfrozen : Call.freeze ∉ names.map Call.register := by simp
  have named : (names.map Call.register).filterMap Call.name? = names := by
    rw [List.filterMap_map]
    exact List.filterMap_some
  rw [performAll_append, performAll_open rfl unfrozen, named]
  rfl

theorem perm_ofList {names names' : List String} (same : ∀ name, name ∈ names ↔ name ∈ names') :
    (ofList names).names.Perm (ofList names').names := by
  have single (names : List String) : (ofList names).names.Nodup := nodup_foldl_insert names .nil
  refine (List.perm_ext_iff_of_nodup (single names) (single names')).mpr fun name => ?_
  exact (mem_ofList_iff.trans (same name)).trans mem_ofList_iff.symm

/-- **A register is decided by its history.** After any calls on a new register, a name is a member
exactly if it was registered before the first call that froze the register, both ways to ask say so,
and the size is the number of these names. Registering is refused exactly after a call that froze
the register, under the name that was given, and changes nothing then; asking never does. The frozen
register of some names is a new one in which they have been registered before it was frozen, and it
has the names of one in which the same names were registered in any other order and any number of
times. -/
theorem register_by_history (calls : List Call) :
    let r := empty.performAll calls
    (∀ name, (name ∈ r ↔ InTime calls name) ∧ (r.contains name = true ↔ InTime calls name)) ∧
    r.size = {name | InTime calls name}.ncard ∧
    (r.frozen = true ↔ .freeze ∈ calls) ∧
    (∀ name, ((∃ refused, (r.perform (.register name)).2 = .refused refused) ↔ .freeze ∈ calls) ∧
      (.freeze ∈ calls → r.perform (.register name) = (r, .refused name))) ∧
    (∀ name, ∃ b, r.perform (.contains name) = (r, .truth b) ∧
      r.perform (.member name) = (r, .truth b) ∧ (b = true ↔ InTime calls name)) ∧
    (∀ names, ofList names = empty.performAll (names.map .register ++ [.freeze])) ∧
    ∀ names names' : List String, (∀ name, name ∈ names ↔ name ∈ names') →
      let r' := empty.performAll (names'.map .register ++ [.freeze])
      (ofList names).names.Perm r'.names ∧ (∀ name, name ∈ ofList names ↔ name ∈ r') ∧
        (ofList names).size = r'.size ∧ (ofList names).frozen = true ∧ r'.frozen = true := by
  intro r
  have members (name : String) : name ∈ r ↔ InTime calls name := mem_performAll_iff calls name
  have frozen : r.frozen = true ↔ .freeze ∈ calls := frozen_performAll_iff calls
  refine ⟨fun name => ⟨members name, mem_iff_contains.symm.trans (members name)⟩, ?_, frozen,
    fun name => ⟨?_, ?_⟩, fun name => ?_, ofList_eq_performAll, fun names names' same => ?_⟩
  · rw [size_eq_ncard (nodup_performAll calls)]
    exact congrArg Set.ncard (Set.ext members)
  · rw [perform_register, ← frozen]
    cases r.frozen <;> simp
  · intro after
    rw [perform_register, if_pos (frozen.mpr after)]
  · refine ⟨r.contains name, rfl, ?_, mem_iff_contains.symm.trans (members name)⟩
    rw [← perform_contains_eq_member]
    rfl
  · intro r'
    have equal : r' = ofList names' := (ofList_eq_performAll names').symm
    have permuted := perm_ofList same
    rw [equal]
    refine ⟨permuted, fun name => ?_, permuted.length_eq, rfl, rfl⟩
    exact (mem_ofList_iff.trans (same name)).trans mem_ofList_iff.symm

end Overdue.Milestones
