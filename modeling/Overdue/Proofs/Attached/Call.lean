import Mathlib.Data.List.Nodup
import Overdue.Attached
import Overdue.Proofs.Host
import Overdue.Proofs.Marker.FieldWise
import Overdue.Source.Declarations

/-!
# One call, attached and read

A call of `debt` is met twice: at run time its arguments make the marker that is attached to a
definition, and in the source file the same decorator is read as literals. The two have nothing in
common but the call. `markerOfCall_agrees` says that they come to the same marker, up to the place
that the one in the file knows, for all arguments of the right kinds; and that a call of such
arguments is accepted exactly if it is `Admissible`.

Both are compared with one list of fields and values (`Marker.filled`), which the run-time side
takes by `foldlM_takeArgument` and the other by `takeAll_named`.
-/
namespace Overdue

/-! ## Repetitions -/

section Repetitions

variable {α : Type} [BEq α]

theorem eraseDups_sublist (l : List α) : l.eraseDups.Sublist l := by
  match l with
  | [] => exact List.Sublist.refl []
  | a :: as =>
      have rest := eraseDups_sublist (as.filter fun b => !b == a)
      rw [List.eraseDups_cons]
      exact (rest.trans List.filter_sublist).cons_cons a
termination_by l.length
decreasing_by exact Nat.lt_succ_of_le (List.length_filter_le _ _)

variable [LawfulBEq α]

theorem nodup_eraseDups (l : List α) : l.eraseDups.Nodup := by
  match l with
  | [] => exact List.nodup_nil
  | a :: as =>
      have rest := nodup_eraseDups (as.filter fun b => !b == a)
      rw [List.eraseDups_cons, List.nodup_cons]
      refine ⟨?_, rest⟩
      simp
termination_by l.length
decreasing_by exact Nat.lt_succ_of_le (List.length_filter_le _ _)

theorem eraseDups_of_nodup {l : List α} (distinct : l.Nodup) : l.eraseDups = l := by
  induction l with
  | nil => rfl
  | cons a as ih =>
      obtain ⟨fresh, distinct⟩ := List.nodup_cons.mp distinct
      have others : (as.filter fun b => !b == a) = as := by
        rw [List.filter_eq_self]
        intro b member
        have differs : b ≠ a := fun same => fresh (same ▸ member)
        simpa using differs
      rw [List.eraseDups_cons, others, ih distinct]

/-- Erasing repetitions makes a list shorter exactly if it has any. -/
theorem length_eraseDups_lt_iff {l : List α} : l.eraseDups.length < l.length ↔ ¬ l.Nodup := by
  constructor
  · intro shorter distinct
    rw [eraseDups_of_nodup distinct] at shorter
    exact Nat.lt_irrefl _ shorter
  · intro repeated
    by_contra long
    have whole := (eraseDups_sublist l).eq_of_length_le (Nat.le_of_not_lt long)
    exact repeated (whole ▸ nodup_eraseDups l)

end Repetitions

/-! ## A value in its field -/

namespace Marker

/-- The marker with a value in a field. A null leaves the field as it is. -/
def hold (m : Marker) (field : Field) : Value → Marker
  | .text s => m.put field (.text s)
  | .bool b => m.put field (.flag b)
  | .int i => m.put field (.code i)
  | _ => m

/-- The marker with some values in their fields, one after the other. -/
def filled (m : Marker) (fields : List (Field × Value)) : Marker :=
  fields.foldl (fun m (field, v) => m.hold field v) m

variable {m : Marker} {field : Field} {v : Value} {fields : List (Field × Value)}

/-- A value of the field's kind makes content that the field takes, unless it is null. -/
theorem content_of_holds (fits : field.kind.Holds v) :
    v = .null ∨ ∃ c : Content, c.IsOf field.kind ∧ c.value = v ∧
      (∀ key, Content.ofValue field key v = .ok c) ∧
      ∀ m : Marker, m.hold field v = m.put field c := by
  cases v with
  | null => exact .inl rfl
  | text s =>
      refine .inr ⟨.text s, ?_, rfl, fun key => ?_, fun m => rfl⟩
      all_goals cases field <;> trivial
  | bool b =>
      refine .inr ⟨.flag b, ?_, rfl, fun key => ?_, fun m => rfl⟩
      all_goals cases field <;> trivial
  | int i =>
      refine .inr ⟨.code i, ?_, rfl, fun key => ?_, fun m => rfl⟩
      all_goals cases field <;> trivial
  | _ => cases field <;> cases fits

theorem held_hold (fits : field.kind.Holds v) (m : Marker) (f : Field) :
    (m.hold field v).held f = if f = field ∧ v.isNull = false then v else m.held f := by
  rcases content_of_holds fits with rfl | ⟨c, kind, rfl, -, same⟩
  · simp [hold, Value.isNull]
  · have given : c.value.isNull = false := by cases c <;> rfl
    rw [same, held_put kind]
    simp [given]

theorem hold_located (m : Marker) (field : Field) (v : Value) (location : Option Location) :
    hold { m with location } field v = { m.hold field v with location } := by
  cases v <;> cases field <;> rfl

theorem filled_located (m : Marker) (fields : List (Field × Value)) (location : Option Location) :
    filled { m with location } fields = { m.filled fields with location } := by
  induction fields generalizing m with
  | nil => rfl
  | cons entry fields ih =>
      simp only [filled, List.foldl_cons] at ih ⊢
      rw [hold_located]
      exact ih (m.hold entry.1 entry.2)

/-- A field is looked for under its own name and found. -/
theorem fieldOf?_name (field : Field) : fieldOf? (.text field.name) = some (field, field.name) := by
  cases field <;> rfl

theorem isNamedBy_name_iff {f : Field} : f.isNamedBy (.text field.name) = true ↔ f = field := by
  have own : field.isNamedBy (.text field.name) = true := by cases field <;> rfl
  constructor
  · intro named
    exact isNamedBy_unique named own
  · rintro rfl
    exact own

/-- Fields with their values, as they are named in a declaration. -/
def named (fields : List (Field × Value)) : Entries :=
  fields.map fun (field, v) => (.text field.name, v)

/-- Values of the fields' kinds are no sets and hold none. -/
theorem arrangedEntries_named (fits : ∀ entry ∈ fields, entry.1.kind.Holds entry.2) (host : Host) :
    host.arrangedEntries (named fields) = named fields := by
  rw [Host.arrangedEntries_eq_map, named, List.map_map]
  refine List.map_congr_left fun ⟨field, v⟩ member => ?_
  have holds := fits _ member
  generalize Field.kind _ = kind at holds
  have same : host.arranged v = v := by
    cases holds <;> rfl
  exact congrArg _ same

theorem take_name (fits : field.kind.Holds v) (m : Marker) :
    m.take (.text field.name) v = .ok (m.hold field v) := by
  unfold take
  rw [fieldOf?_name]
  rcases content_of_holds fits with rfl | ⟨c, -, rfl, taken, same⟩
  · rfl
  · have content := taken field.name
    cases c <;> simp_all [Content.value, Except.map]

theorem takeAll_named (fits : ∀ entry ∈ fields, entry.1.kind.Holds entry.2) (m : Marker) :
    m.takeAll (named fields) = .ok (m.filled fields) := by
  induction fields generalizing m with
  | nil => rfl
  | cons entry fields ih =>
      rw [List.forall_mem_cons] at fits
      rw [named, List.map_cons, takeAll, take_name fits.1]
      exact ih fits.2 _

/-- A field holds what it is given, and what it held before if it is given nothing. -/
theorem held_filled (fits : ∀ entry ∈ fields, entry.1.kind.Holds entry.2) (m : Marker)
    (f : Field) : (m.filled fields).held f = (f.given? (named fields)).getD (m.held f) := by
  induction fields generalizing m with
  | nil => rfl
  | cons entry fields ih =>
      obtain ⟨field, v⟩ := entry
      rw [List.forall_mem_cons] at fits
      have rest := ih fits.2 (m.hold field v)
      have front : named ((field, v) :: fields) = [(.text field.name, v)] ++ named fields := rfl
      have first :
          (f.given? [(.text field.name, v)]).getD (m.held f) = (m.hold field v).held f := by
        rw [held_hold fits.1, Field.given?_singleton]
        simp only [Bool.and_eq_true, isNamedBy_name_iff, Bool.not_eq_true']
        split <;> rfl
      rw [front, Field.given?_append]
      change ((m.hold field v).filled fields).held f = _
      rw [rest, ← first]
      cases f.given? (named fields) <;> rfl

end Marker

/-! ## At run time -/

namespace Definitions

/-- The arguments of a call under the names of their fields: one by its place is the label. -/
def arguments (positional : List Value) (named : List (String × Value)) :
    List (String × Value) :=
  positional.map (fun v => ("label", v)) ++ named

/-- Takes one argument of a call into a marker. -/
def takeArgument (m : Marker) : String × Value → Except Misuse Marker
  | (name, v) =>
    match Field.ofName? name, v with
    | none, _ => .error .arguments
    | some _, .null => .ok m
    | some .versionCode, .text s => .ok { m with versionCode := some (.word s) }
    | some field, v =>
      match Content.ofValue field name v with
      | .ok content => .ok (m.put field content)
      | .error _ => .error .arguments

/-- What a call has to be: at most one argument by its place, all others under names of fields, and
no field twice. -/
structure Admissible (positional : List Value) (named : List (String × Value)) : Prop where
  single : positional.length ≤ 1
  known : ∀ argument ∈ named, ∃ field : Field, argument.1 = field.name
  once : ((arguments positional named).map Prod.fst).Nodup

/-- Every argument is of the kind of the field that it is given for: a text, a truth value, or a
whole number or null. -/
def WellKinded (positional : List Value) (named : List (String × Value)) : Prop :=
  ∀ argument ∈ arguments positional named, ∀ field : Field, argument.1 = field.name →
    field.kind.Holds argument.2

variable {positional : List Value} {named : List (String × Value)}

theorem markerOfCall_eq (positional : List Value) (named : List (String × Value)) :
    markerOfCall positional named =
      if positional.length ≤ 1 ∧ ((arguments positional named).map Prod.fst).Nodup then
        (arguments positional named).foldlM takeArgument {}
      else .error .arguments := by
  have opened : markerOfCall positional named =
      if positional.length > 1 || ((arguments positional named).map Prod.fst).eraseDups.length <
          (arguments positional named).length then .error .arguments
      else (arguments positional named).foldlM takeArgument {} := rfl
  have repeats := length_eraseDups_lt_iff (l := (arguments positional named).map Prod.fst)
  rw [List.length_map] at repeats
  rw [opened]
  by_cases single : positional.length ≤ 1
  · have few : ¬ positional.length > 1 := Nat.not_lt.mpr single
    by_cases once : ((arguments positional named).map Prod.fst).Nodup
    · simp [few, single, once, mt repeats.mp (not_not.mpr once)]
    · simp [once, repeats.mpr once]
  · have many : positional.length > 1 := Nat.lt_of_not_le single
    simp [single, many]

/-- Fields with their values, as they are named in a call. -/
def byName (fields : List (Field × Value)) : List (String × Value) :=
  fields.map fun (field, v) => (field.name, v)

/-- Arguments under names of fields are fields with their values. -/
theorem exists_fields {given : List (String × Value)}
    (known : ∀ argument ∈ given, ∃ field : Field, argument.1 = field.name) :
    ∃ fields, given = byName fields := by
  induction given with
  | nil => exact ⟨[], rfl⟩
  | cons argument given ih =>
      obtain ⟨name, v⟩ := argument
      rw [List.forall_mem_cons] at known
      obtain ⟨field, rfl⟩ := known.1
      obtain ⟨fields, rfl⟩ := ih known.2
      exact ⟨(field, v) :: fields, rfl⟩

theorem takeArgument_name {field : Field} {v : Value} (fits : field.kind.Holds v) (m : Marker) :
    takeArgument m (field.name, v) = .ok (m.hold field v) := by
  have found : Field.ofName? field.name = some field := Field.ofName?_eq_some_iff.mpr rfl
  unfold takeArgument
  simp only [found]
  rcases Marker.content_of_holds fits with rfl | ⟨c, kind, rfl, taken, same⟩
  · rfl
  · have content := taken field.name
    rw [same]
    cases c with
    | text s =>
        cases field with
        | versionCode => exact kind.elim
        | _ => simp_all [Content.value]
    | flag b => simp_all [Content.value]
    | code i => simp_all [Content.value]

theorem foldlM_takeArgument {fields : List (Field × Value)}
    (fits : ∀ entry ∈ fields, entry.1.kind.Holds entry.2) (m : Marker) :
    (byName fields).foldlM takeArgument m = .ok (m.filled fields) := by
  induction fields generalizing m with
  | nil => rfl
  | cons entry fields ih =>
      rw [List.forall_mem_cons] at fits
      rw [byName, List.map_cons, List.foldlM_cons, takeArgument_name fits.1]
      exact ih fits.2 _

/-- Arguments that are taken are all under names of fields. -/
theorem known_of_foldlM {given : List (String × Value)} {m m' : Marker}
    (taken : given.foldlM takeArgument m = .ok m') :
    ∀ argument ∈ given, ∃ field : Field, argument.1 = field.name := by
  induction given generalizing m with
  | nil => simp
  | cons argument given ih =>
      obtain ⟨name, v⟩ := argument
      rw [List.foldlM_cons] at taken
      obtain ⟨next, first, rest⟩ := ok_of_bind_eq_ok taken
      rw [List.forall_mem_cons]
      refine ⟨?_, ih rest⟩
      cases found : Field.ofName? name with
      | none =>
          simp only [takeArgument, found] at first
          cases first
      | some field => exact ⟨field, Field.ofName?_eq_some_iff.mp found⟩

theorem Admissible.known_arguments (admissible : Admissible positional named) :
    ∀ argument ∈ arguments positional named, ∃ field : Field, argument.1 = field.name := by
  intro argument member
  rcases List.mem_append.mp member with label | named
  · obtain ⟨v, -, rfl⟩ := List.mem_map.mp label
    exact ⟨.label, rfl⟩
  · exact admissible.known argument named

/-- An admissible call fills the fields of its arguments. -/
theorem markerOfCall_of_admissible (admissible : Admissible positional named)
    (kinds : WellKinded positional named) :
    ∃ fields, arguments positional named = byName fields ∧
      (∀ entry ∈ fields, entry.1.kind.Holds entry.2) ∧
      markerOfCall positional named = .ok (Marker.filled {} fields) := by
  obtain ⟨fields, same⟩ := exists_fields admissible.known_arguments
  have fits : ∀ entry ∈ fields, entry.1.kind.Holds entry.2 := by
    intro entry member
    have argument : (entry.1.name, entry.2) ∈ arguments positional named := by
      rw [same]
      exact List.mem_map.mpr ⟨entry, member, rfl⟩
    exact kinds _ argument entry.1 rfl
  refine ⟨fields, same, fits, ?_⟩
  rw [markerOfCall_eq, if_pos ⟨admissible.single, admissible.once⟩, same]
  exact foldlM_takeArgument fits {}

/-- A call whose arguments are of the right kinds is accepted exactly if it is admissible. -/
theorem exists_markerOfCall_iff (kinds : WellKinded positional named) :
    (∃ m, markerOfCall positional named = .ok m) ↔ Admissible positional named := by
  constructor
  · rintro ⟨m, made⟩
    rw [markerOfCall_eq] at made
    split at made
    · rename_i form
      have known := known_of_foldlM made
      refine ⟨form.1, fun argument member => known argument ?_, form.2⟩
      exact List.mem_append_right _ member
    · cases made
  · intro admissible
    obtain ⟨fields, -, -, made⟩ := markerOfCall_of_admissible admissible kinds
    exact ⟨_, made⟩

/-- A definition that was just made has the marker that is attached to it, and no other. -/
theorem attach_define (ds : Definitions) (name : String) (lineage : List Nat) (m : Marker) :
    ∃ ds', (ds.define name lineage).attach name m = .ok ds' ∧ ds'.own name = [m] := by
  have here : (ds.define name lineage).find? name = some ds.all.size := by
    simp [define, find?]
  have attached : (ds.define name lineage).attach name m = .ok
      { ds.define name lineage with
        all := (ds.define name lineage).all.modify ds.all.size fun d =>
          { d with own := d.own ++ [m] } } := by
    rw [attach, here]
  refine ⟨_, attached, ?_⟩
  have shown (all : Array Definition) :
      own { ds.define name lineage with all } name =
        (all[ds.all.size]?.map Definition.own).getD [] := by
    have found : find? { ds.define name lineage with all } name = some ds.all.size := here
    rw [own, found]
  rw [shown]
  simp [define, Array.getElem_modify]

end Definitions

/-! ## In the source -/

namespace Source.Tree

/-- The arguments of a call in a source file are literals of some values. -/
structure Spells (args : List Tree) (keywords : List (Option String × Tree))
    (positional : List Value) (named : List (String × Value)) : Prop where
  positional : List.Forall₂ (fun t v => value t = .ok v) args positional
  named : List.Forall₂ (fun keyword argument =>
    keyword.1 = some argument.1 ∧ value keyword.2 = .ok argument.2) keywords named

variable {args : List Tree} {keywords : List (Option String × Tree)} {positional : List Value}
  {named : List (String × Value)}

/-- Arguments as fields of a declaration. -/
def fieldsOf (arguments : List (String × Value)) : Entries :=
  arguments.map fun (key, v) => (.text key, v)

theorem argument_of_value {t : Tree} {v : Value} (literal : Tree.value t = .ok v) :
    argument t = .ok v := by
  rw [argument, literal]

/-- Keywords that are named once each are taken in their order. -/
theorem keywordFields_of_spelt (before : List (String × Value))
    (spelt : List.Forall₂ (fun keyword argument =>
      keyword.1 = some argument.1 ∧ Tree.value keyword.2 = .ok argument.2) keywords named)
    (once : ((before ++ named).map Prod.fst).Nodup) :
    keywordFields (fieldsOf before) keywords = .ok (fieldsOf (before ++ named)) := by
  induction spelt generalizing before with
  | nil => rw [List.append_nil, keywordFields]
  | @cons keyword argument keywords named first rest ih =>
      obtain ⟨key, t⟩ := keyword
      obtain ⟨name, v⟩ := argument
      obtain ⟨rfl, literal⟩ := first
      have split : before ++ (name, v) :: named = (before ++ [(name, v)]) ++ named := by simp
      have fresh : ∀ entry ∈ fieldsOf before, entry.1.same (.text name) = false := by
        intro entry member
        obtain ⟨⟨other, w⟩, among, rfl⟩ := List.mem_map.mp member
        have differs : other ≠ name := by
          rw [List.map_append, List.nodup_append] at once
          exact once.2.2 other (List.mem_map_of_mem among) name List.mem_cons_self
        rw [Bool.eq_false_iff, ne_eq, Value.same_text_iff, Value.text.injEq]
        exact differs
      have put : (fieldsOf before).put (.text name) v = fieldsOf (before ++ [(name, v)]) := by
        rw [Entries.put_of_fresh fresh, fieldsOf, fieldsOf, List.map_append]
        rfl
      rw [keywordFields, argument_of_value literal]
      dsimp only
      rw [put, split]
      exact ih (before ++ [(name, v)]) (split ▸ once)

/-- The arguments of an admissible call are the fields of its declaration. -/
theorem markerFields_of_spells (spelt : Spells args keywords positional named)
    (admissible : Definitions.Admissible positional named) :
    markerFields args keywords = .ok (fieldsOf (Definitions.arguments positional named)) := by
  obtain ⟨literals, keyed⟩ := spelt
  have once := admissible.once
  unfold Definitions.arguments at once ⊢
  cases literals with
  | nil =>
      rw [markerFields]
      exact keywordFields_of_spelt [] keyed once
  | @cons t v _ _ literal rest =>
      cases rest with
      | nil =>
          rw [markerFields, argument_of_value literal]
          dsimp only
          exact keywordFields_of_spelt [("label", v)] keyed once
      | cons _ _ =>
          have single := admissible.single
          simp at single

end Source.Tree

/-! ## The same marker -/

open Definitions Source in
/-- **A decorator comes to one marker, at run time and in the source.** A call whose arguments are
of the right kinds is accepted at run time exactly if it is admissible. The marker that it then
attaches holds in each field what the call gives for it, or the usual value. A decorator in a source
file that spells this call is read as the same marker, up to its place, and gives no problem. -/
theorem markerOfCall_agrees {positional : List Value} {named : List (String × Value)}
    {args : List Tree} {keywords : List (Option String × Tree)}
    (kinds : WellKinded positional named) (spelt : Tree.Spells args keywords positional named) :
    ((∃ m, markerOfCall positional named = .ok m) ↔ Admissible positional named) ∧
    ∀ m, markerOfCall positional named = .ok m →
      (∀ field, m.held field =
        (field.given? (Tree.fieldsOf (arguments positional named))).getD field.kind.usual) ∧
      (∀ (ds : Definitions) name lineage, ∃ ds',
        (ds.define name lineage).attach name m = .ok ds' ∧ ds'.own name = [m]) ∧
      ∀ host path symbol line callee rest w, callee.lastName? = some "debt" →
        Tree.visitDecorators host path symbol (.call line callee args keywords :: rest) w =
          Tree.visitDecorators host path symbol rest
            (w.record (.marker { m with location := some ⟨path, line, some symbol⟩ })) := by
  refine ⟨exists_markerOfCall_iff kinds, fun m made => ?_⟩
  have admissible : Admissible positional named := (exists_markerOfCall_iff kinds).mp ⟨m, made⟩
  obtain ⟨fields, same, fits, filled⟩ := markerOfCall_of_admissible admissible kinds
  obtain rfl : m = Marker.filled {} fields := Except.ok.inj (made.symm.trans filled)
  have entries : Tree.fieldsOf (arguments positional named) = Marker.named fields := by
    rw [same]
    simp [Tree.fieldsOf, byName, Marker.named]
  refine ⟨fun field => ?_, fun ds name lineage => attach_define ds name lineage _, ?_⟩
  · rw [entries, Marker.held_filled fits, ← Marker.held_default none]
  · intro host path symbol line callee rest w isDebt
    have read : Tree.markerFinding host path symbol line args keywords =
        .ok (.marker
          { Marker.filled {} fields with location := some ⟨path, line, some symbol⟩ }) := by
      have taken := Marker.takeAll_named fits { location := some ⟨path, line, some symbol⟩ }
      unfold Tree.markerFinding
      simp only [Tree.markerFields_of_spells spelt admissible, entries,
        Marker.arrangedEntries_named fits, Marker.ofFields, taken]
      rw [← Marker.filled_located]
    rw [Tree.visitDecorators, if_pos isDebt, read]
    rfl

/-- A label by its place, a negative number and a truth value, as literals. -/
def signedArgs : List Source.Tree := [.literal (.text "cache")]

def signedKeywords : List (Option String × Source.Tree) :=
  [(some "version_code", .sign true (.literal (.int 3))), (some "blocking", .literal (.bool true))]

/-- The values of the same call. -/
def signedNamed : List (String × Value) := [("version_code", .int (-3)), ("blocking", .bool true)]

theorem signed_agrees :
    Definitions.WellKinded [.text "cache"] signedNamed ∧
      Source.Tree.Spells signedArgs signedKeywords [.text "cache"] signedNamed ∧
      ∃ m, Definitions.markerOfCall [.text "cache"] signedNamed = .ok m ∧
        m.held .versionCode = .int (-3) ∧
        Source.Tree.visitDecorators .ideal "m.py" "f"
            [.call 1 (.name 1 "debt") signedArgs signedKeywords] {} =
          .ok { found := [.marker { m with location := some ⟨"m.py", 1, some "f"⟩ }] } := by
  have kinds : Definitions.WellKinded [.text "cache"] signedNamed := by
    intro argument member field name
    simp only [Definitions.arguments, signedNamed, List.map_cons, List.map_nil, List.cons_append,
      List.nil_append, List.mem_cons, List.not_mem_nil, or_false] at member
    rcases member with rfl | rfl | rfl
    all_goals cases field <;> first | constructor | exact absurd name (by decide)
  have spelt : Source.Tree.Spells signedArgs signedKeywords [.text "cache"] signedNamed :=
    ⟨.cons rfl .nil, .cons ⟨rfl, rfl⟩ (.cons ⟨rfl, rfl⟩ .nil)⟩
  have admissible : Definitions.Admissible [.text "cache"] signedNamed := by
    refine ⟨by decide, ?_, by decide⟩
    simp only [signedNamed, List.forall_mem_cons]
    exact ⟨⟨.versionCode, rfl⟩, ⟨.blocking, rfl⟩, by simp⟩
  obtain ⟨accepted, agrees⟩ := markerOfCall_agrees kinds spelt
  obtain ⟨m, made⟩ := accepted.mpr admissible
  obtain ⟨held, -, read⟩ := agrees m made
  exact ⟨kinds, spelt, m, made, held .versionCode,
    read .ideal "m.py" "f" 1 (.name 1 "debt") [] {} rfl⟩

end Overdue
