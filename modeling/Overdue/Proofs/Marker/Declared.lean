import Overdue.Marker.Field
import Overdue.Proofs.Attempts
import Overdue.Proofs.Verdict.Conditions

/-!
# Markers that a declaration gives

The version code of a declared marker is a number or absent: no field that is taken can set it to a
word. No field sets the location, so a marker keeps the one that it is declared with.
-/
namespace Overdue.Marker

/-- Some declaration gives the marker. -/
def Declared (m : Marker) : Prop := ∃ fields location, ofFields fields location = .ok m

theorem put_hasNumericCode {m : Marker} (h : m.HasNumericCode) (field : Field) (content : Content) :
    (m.put field content).HasNumericCode := by
  cases field
  case versionCode =>
    cases content with
    | code i => intro word set; cases set
    | text s => exact h
    | flag b => exact h
  all_goals cases content <;> exact h

theorem put_location (m : Marker) (field : Field) (content : Content) :
    (m.put field content).location = m.location := by
  cases field <;> cases content <;> rfl

section

variable {P : Marker → Prop}
  (keeps : ∀ {m : Marker}, P m → ∀ (field : Field) (content : Content), P (m.put field content))

include keeps

theorem take_keeps {m m' : Marker} {key value : Value} (h : P m)
    (taken : m.take key value = .ok m') : P m' := by
  unfold take at taken
  split at taken
  · cases taken
  · cases taken
    exact h
  · obtain ⟨content, -, rfl⟩ := ok_of_map_eq_ok taken
    exact keeps h _ content

/-- What every field leaves as it is, a whole declaration does. -/
theorem takeAll_keeps {m m' : Marker} {fields : Entries} (h : P m)
    (taken : m.takeAll fields = .ok m') : P m' := by
  induction fields generalizing m with
  | nil =>
      cases taken
      exact h
  | cons entry rest ih =>
      obtain ⟨key, value⟩ := entry
      unfold takeAll at taken
      split at taken
      · cases taken
      · rename_i next first
        exact ih (take_keeps keeps h first) taken

end

theorem Declared.hasNumericCode {m : Marker} (h : m.Declared) : m.HasNumericCode := by
  obtain ⟨fields, location, taken⟩ := h
  have start : HasNumericCode { location } := fun word set => by cases set
  exact takeAll_keeps put_hasNumericCode start taken

theorem location_of_ofFields {fields : Entries} {location : Option Location} {m : Marker}
    (taken : ofFields fields location = .ok m) : m.location = location :=
  takeAll_keeps (P := fun m => m.location = location)
    (fun h field content => (put_location _ field content).trans h) rfl taken

end Overdue.Marker
