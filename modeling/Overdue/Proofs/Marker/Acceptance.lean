import Overdue.Marker.Field
import Overdue.Proofs.Value.Unwritable

/-!
# Which fields a marker takes

`Marker.Accepts` says which named values are taken: the name is that of a field, and the value is
null or of the field's kind. Fields give a marker exactly if all of them are accepted
(`ofFields_eq_ok_iff`). Otherwise the first that is not is at fault, and the fault cannot be put
into words exactly if they would have to hold a number beyond the digit limit:
`exists_unworded_iff`.
-/
namespace Overdue

/-- The value is one that text fields take. -/
inductive Value.IsTextual : Value → Prop
  | text (s : String) : IsTextual (.text s)
  | date (d : Date) : IsTextual (.date d)
  | moment (m : Moment) : IsTextual (.moment m)
  | float (x : Binary64) : IsTextual (.float x)
  | int {i : Int} : ¬ Numeral.IsUnwritable i → IsTextual (.int i)

/-- The value is of the field's kind. -/
def Field.Admits : Field → Value → Prop
  | .blocking, v => ∃ b, v = .bool b
  | .versionCode, v => ∃ i, v = .int i
  | _, v => v.IsTextual

/-- The value that the words about a fault hold. -/
def FieldFault.quoted? : FieldFault → Option Value
  | .unknown key => some key
  | .notBool _ v => some v
  | .notInteger v => some v
  | .notText _ v => some v
  | .unwritable => none

theorem FieldFault.message?_of_quoted {f : FieldFault} {v : Value} (h : f.quoted? = some v) :
    f.message? = none ↔ v.HoldsUnwritable := by
  cases f <;> cases h <;> simp [message?, Value.literal?_eq_none_iff]

/-! ## One value -/

namespace Content

/-- What a field makes of a value: content, or a fault whose words may have to hold the value. -/
inductive Taken {α : Type} (admitted : Prop) (v : Value) : Except FieldFault α → Prop
  | content {a : α} : admitted → Taken admitted v (.ok a)
  | fault {f : FieldFault} : ¬ admitted → (f.message? = none ↔ v.HoldsUnwritable) →
      Taken admitted v (.error f)

theorem taken_textOf (key : String) (v : Value) : Taken v.IsTextual v (textOf key v) := by
  cases v with
  | int i =>
      have written := Numeral.text?_eq_none_iff (i := i)
      unfold textOf
      dsimp only
      generalize Numeral.text? i = text at written ⊢
      cases text with
      | none =>
          have unwritable := written.mp rfl
          refine .fault (fun textual => ?_) (iff_of_true rfl (.int unwritable))
          cases textual with
          | int writable => exact writable unwritable
      | some s => exact .content (.int fun unwritable => nomatch written.mpr unwritable)
  | text s => exact .content (.text s)
  | date d => exact .content (.date d)
  | moment m => exact .content (.moment m)
  | float x => exact .content (.float x)
  | _ => exact .fault nofun (FieldFault.message?_of_quoted rfl)

theorem taken_ofValue (field : Field) (key : String) (v : Value) :
    Taken (field.Admits v) v (ofValue field key v) := by
  have textual : Taken v.IsTextual v ((textOf key v).map Content.text) := by
    have taken := taken_textOf key v
    generalize textOf key v = result at taken
    cases taken with
    | content admitted => exact .content admitted
    | fault refused unworded => exact .fault refused unworded
  cases field with
  | blocking =>
      cases v with
      | bool b => exact .content ⟨b, rfl⟩
      | _ => exact .fault (by simp [Field.Admits]) (FieldFault.message?_of_quoted rfl)
  | versionCode =>
      cases v with
      | int i => exact .content ⟨i, rfl⟩
      | _ => exact .fault (by simp [Field.Admits]) (FieldFault.message?_of_quoted rfl)
  | _ => exact textual

end Content

/-! ## One named value -/

namespace Marker

/-- The named value is taken: the name is that of a field, and the value is null or of its kind. -/
def Accepts (key v : Value) : Prop :=
  ∃ field name, fieldOf? key = some (field, name) ∧ (v = .null ∨ field.Admits v)

/-- The words that refuse a named value have to hold a number beyond the digit limit: those about an
unknown name hold the name, those about a field the value. -/
def Unworded (key v : Value) : Prop :=
  fieldOf? key = none ∧ key.HoldsUnwritable ∨
    (∃ field, fieldOf? key = some field) ∧ v.HoldsUnwritable

theorem take_of_accepts {key v : Value} (h : Accepts key v) (m : Marker) :
    ∃ m', m.take key v = .ok m' := by
  obtain ⟨field, name, known, fits⟩ := h
  have taken := Content.taken_ofValue field name v
  unfold take
  rw [known]
  cases v with
  | null => exact ⟨m, rfl⟩
  | _ =>
      dsimp only
      generalize Content.ofValue field name _ = content at taken
      cases taken with
      | content => exact ⟨_, rfl⟩
      | fault refused => exact absurd (fits.resolve_left nofun) refused

theorem take_of_not_accepts {key v : Value} (h : ¬ Accepts key v) (m : Marker) :
    ∃ f, m.take key v = .error f ∧ (f.message? = none ↔ Unworded key v) := by
  unfold take
  cases known : fieldOf? key with
  | none =>
      refine ⟨.unknown key, rfl, (FieldFault.message?_of_quoted rfl).trans ?_⟩
      simp [Unworded, known]
  | some found =>
      obtain ⟨field, name⟩ := found
      have taken := Content.taken_ofValue field name v
      have unworded : Unworded key v ↔ v.HoldsUnwritable := by simp [Unworded, known]
      cases v with
      | null => exact absurd ⟨field, name, known, .inl rfl⟩ h
      | _ =>
          dsimp only
          generalize Content.ofValue field name _ = content at taken
          cases taken with
          | content admitted => exact absurd ⟨field, name, known, .inr admitted⟩ h
          | fault _ words => exact ⟨_, rfl, words.trans unworded.symm⟩

/-! ## All fields of a declaration -/

/-- The named value is the first of the fields that is not accepted. -/
def FirstRefused (fields : Entries) (key v : Value) : Prop :=
  ∃ before after, fields = before ++ (key, v) :: after ∧
    (∀ entry ∈ before, Accepts entry.1 entry.2) ∧ ¬ Accepts key v

theorem takeAll_of_accepts {before : Entries}
    (accepted : ∀ entry ∈ before, Accepts entry.1 entry.2) (m : Marker) :
    ∃ m' : Marker, ∀ after, m.takeAll (before ++ after) = m'.takeAll after := by
  induction before generalizing m with
  | nil => exact ⟨m, fun after => rfl⟩
  | cons entry before ih =>
      rw [List.forall_mem_cons] at accepted
      obtain ⟨next, taken⟩ := take_of_accepts accepted.1 m
      obtain ⟨m', rest⟩ := ih accepted.2 next
      refine ⟨m', fun after => ?_⟩
      rw [List.cons_append, takeAll, taken]
      exact rest after

theorem takeAll_of_firstRefused {fields : Entries} {key v : Value}
    (first : FirstRefused fields key v) (m : Marker) :
    ∃ f, m.takeAll fields = .error f ∧ (f.message? = none ↔ Unworded key v) := by
  obtain ⟨before, after, rfl, accepted, refused⟩ := first
  obtain ⟨m', rest⟩ := takeAll_of_accepts accepted m
  obtain ⟨f, fault, words⟩ := take_of_not_accepts refused m'
  exact ⟨f, by rw [rest, takeAll, fault], words⟩

theorem exists_firstRefused {fields : Entries}
    (refused : ¬ ∀ entry ∈ fields, Accepts entry.1 entry.2) :
    ∃ key v, FirstRefused fields key v := by
  induction fields with
  | nil => exact absurd (by simp) refused
  | cons entry fields ih =>
      obtain ⟨key, v⟩ := entry
      by_cases accepted : Accepts key v
      · obtain ⟨key', v', before, after, rfl, all, first⟩ :=
          ih fun all => refused (List.forall_mem_cons.mpr ⟨accepted, all⟩)
        exact ⟨key', v', (key, v) :: before, after, rfl,
          List.forall_mem_cons.mpr ⟨accepted, all⟩, first⟩
      · exact ⟨key, v, [], fields, rfl, by simp, accepted⟩

theorem ofFields_eq_ok_iff (fields : Entries) (location : Option Location) :
    (∃ m, ofFields fields location = .ok m) ↔ ∀ entry ∈ fields, Accepts entry.1 entry.2 := by
  constructor
  · rintro ⟨m, taken⟩
    refine Classical.byContradiction fun refused => ?_
    obtain ⟨key, v, first⟩ := exists_firstRefused refused
    obtain ⟨f, fault, -⟩ := takeAll_of_firstRefused first { location }
    cases taken.symm.trans fault
  · intro accepted
    obtain ⟨m, taken⟩ := takeAll_of_accepts accepted { location }
    refine ⟨m, ?_⟩
    have whole := taken []
    rwa [List.append_nil] at whole

/-- The fault of some fields cannot be put into words. -/
theorem exists_unworded_iff (fields : Entries) (location : Option Location) :
    (∃ f, ofFields fields location = .error f ∧ f.message? = none) ↔
      ∃ key v, FirstRefused fields key v ∧ Unworded key v := by
  constructor
  · rintro ⟨f, fault, unworded⟩
    have refused : ¬ ∀ entry ∈ fields, Accepts entry.1 entry.2 := fun accepted => by
      obtain ⟨m, taken⟩ := (ofFields_eq_ok_iff fields location).mpr accepted
      cases fault.symm.trans taken
    obtain ⟨key, v, first⟩ := exists_firstRefused refused
    obtain ⟨f', fault', words⟩ := takeAll_of_firstRefused first { location }
    cases fault.symm.trans fault'
    exact ⟨key, v, first, words.mp unworded⟩
  · rintro ⟨key, v, first, unworded⟩
    obtain ⟨f, fault, words⟩ := takeAll_of_firstRefused first { location }
    exact ⟨f, fault, words.mpr unworded⟩

end Marker

end Overdue
