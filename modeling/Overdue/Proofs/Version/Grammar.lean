import Overdue.Proofs.Number.Decimal
import Overdue.Proofs.Version.Precedence

/-!
# What a version name that was read looks like

The identifiers of a prerelease keep to the grammar, `prerelease_of_readName`, so that none of its
numerals has a zero in front. Two of them are therefore the same text as soon as they read the same,
`Identifier.reading_injective`.
-/
namespace Overdue

namespace Identifier

theorem value_eq_number (s : Identifier) : s.value = Date.number s := rfl

theorem toDigits_value {s : Identifier} (canonical : s.isCanonical = true) :
    Nat.toDigits 10 s.value = s := by
  simp only [isCanonical, isNumeric, Bool.and_eq_true, Bool.not_eq_true', List.isEmpty_eq_false_iff,
    List.all_eq_true, Bool.or_eq_true, bne_iff_ne, beq_iff_eq] at canonical
  obtain ⟨⟨ne, digits⟩, lead⟩ := canonical
  rw [value_eq_number, toDigits_number digits ne lead]

theorem reading_injective {s t : Identifier} (hs : s.isPrerelease = true)
    (ht : t.isPrerelease = true) (same : s.reading = t.reading) : s = t := by
  simp only [isPrerelease, Bool.and_eq_true, Bool.or_eq_true, Bool.not_eq_true'] at hs ht
  unfold reading at same
  split at same <;> split at same
  · rename_i ns nt
    have cs := hs.2.resolve_left (by simp [ns])
    have ct := ht.2.resolve_left (by simp [nt])
    rw [← toDigits_value cs, ← toDigits_value ct, Rank.number.inj same]
  · cases same
  · cases same
  · exact Rank.word.inj same

end Identifier

namespace Version

theorem forall_of_identifiers? {ok : Identifier → Bool} {s : List Char} {ids : List Identifier}
    (h : identifiers? ok s = some ids) : ∀ i ∈ ids, ok i = true := by
  unfold identifiers? at h
  dsimp only at h
  split at h
  · rename_i all
    cases h
    simpa using all
  · cases h

theorem forall_of_optional? {ok : Identifier → Bool} {s : Option (List Char)}
    {ids : List Identifier} (h : optional? ok s = some ids) : ∀ i ∈ ids, ok i = true := by
  cases s with
  | none => cases h; simp
  | some s => exact forall_of_identifiers? h

theorem prerelease_of_parts? {s : List Char} {parts : Parts} (h : parts? s = some parts) :
    ∀ i ∈ parts.prerelease, i.isPrerelease = true := by
  unfold parts? at h
  dsimp only at h
  split at h
  · rename_i core prerelease build _ found _
    cases h
    exact forall_of_optional? found
  · cases h

theorem prerelease_of_read {text : String} {v : Version} (h : read text = .ok v) :
    ∀ i ∈ v.prerelease, i.isPrerelease = true := by
  unfold read at h
  split at h
  · rename_i major minor patch prerelease build found
    have grammar := prerelease_of_parts? found
    split at h
    · cases h
    · cases h
      exact grammar
  · cases h

theorem prerelease_of_readName {name : Option String} {v : Version} (h : readName name = .ok v) :
    ∀ i ∈ v.prerelease, i.isPrerelease = true := by
  cases name with
  | none => cases h
  | some text =>
      unfold readName at h
      dsimp only at h
      split at h
      · cases h
      · exact prerelease_of_read h

/-- Prereleases that keep to the grammar are the same as soon as they read the same. -/
theorem map_reading_injective {as bs : List Identifier} (ha : ∀ s ∈ as, s.isPrerelease = true)
    (hb : ∀ s ∈ bs, s.isPrerelease = true)
    (same : as.map Identifier.reading = bs.map Identifier.reading) : as = bs := by
  induction as generalizing bs with
  | nil => simpa using same.symm
  | cons a as ih =>
      cases bs with
      | nil => simp at same
      | cons b bs =>
          simp only [List.map_cons, List.cons.injEq] at same
          simp only [List.forall_mem_cons] at ha hb
          rw [Identifier.reading_injective ha.1 hb.1 same.1, ih ha.2 hb.2 same.2]

theorem prereleaseOrder_eq_eq {a b : Version} (ha : ∀ s ∈ a.prerelease, s.isPrerelease = true)
    (hb : ∀ s ∈ b.prerelease, s.isPrerelease = true) :
    prereleaseOrder a b = .eq ↔ a.prerelease = b.prerelease := by
  unfold prereleaseOrder
  rw [@Std.LawfulEqCmp.compare_eq_iff_eq _ orderPrerelease]
  exact ⟨map_reading_injective ha hb, congrArg _⟩

theorem readName_of_read {text : String} {v : Version} (h : read text = .ok v) :
    readName (some text) = .ok v := by
  have ne : text ≠ "" := by
    rintro rfl
    cases h
  exact (if_neg ne).trans h

/-! ## Any identifier can be the build -/

theorem splitAt_of_not_mem {sep : Char} {s : List Char} (absent : sep ∉ s) :
    Unicode.splitAt sep s = [s] := by
  induction s with
  | nil => rfl
  | cons c rest ih =>
      simp only [List.mem_cons, not_or] at absent
      simp only [Unicode.splitAt, ih absent.2, if_neg (Ne.symm absent.1)]

theorem not_mem_of_isBuild {s : Identifier} (h : s.isBuild = true) {c : Char}
    (other : Identifier.isIdentifierChar c = false) : c ∉ s := by
  simp only [Identifier.isBuild, Bool.and_eq_true, List.all_eq_true] at h
  intro member
  rw [h.2 c member] at other
  cases other

/-- Every identifier of the grammar can be read as a build, however long it is. -/
theorem read_build {s : Identifier} (h : s.isBuild = true) :
    read (String.ofList ("1.0.0+".toList ++ s)) = .ok ⟨1, 0, 0, [], [s]⟩ := by
  have front : cut '+' ("1.0.0+".toList ++ s) = ("1.0.0".toList, some s) := rfl
  have core : cut '-' "1.0.0".toList = ("1.0.0".toList, none) := rfl
  have numbers : identifiers? Identifier.isCanonical "1.0.0".toList =
      some [['1'], ['0'], ['0']] := rfl
  have build : identifiers? Identifier.isBuild s = some [s] := by
    simp [identifiers?, splitAt_of_not_mem (not_mem_of_isBuild h (by decide) : '.' ∉ s), h]
  have parts : parts? ("1.0.0+".toList ++ s) = some ⟨[['1'], ['0'], ['0']], [], [s]⟩ := by
    unfold parts?
    rw [front]
    dsimp only
    rw [core]
    dsimp only [optional?]
    rw [numbers, build]
  unfold read
  rw [String.toList_ofList, parts]
  rfl

end Version

end Overdue
