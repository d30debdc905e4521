import Overdue.Proofs.Version.Grammar

/-!
# The written form of a version name

`Version.Written` is the grammar of SemVer 2.0.0: what the text of a version name looks like, part
by part, with nothing in front or behind. Splitting a text into parts accepts exactly what is
written so, `parts?_eq_some_iff`, and a text has its parts in one way only.

Reading accepts a text of the grammar unless one of its three numbers is beyond the digit limit:
`exists_readName_iff` says which names cannot be read.
-/
namespace Overdue

/-! ## Splitting at a character -/

theorem splitAt_eq_splitOn (sep : Char) (s : List Char) :
    Unicode.splitAt sep s = s.splitOn sep := by
  rw [List.splitOn_eq_splitOnP]
  induction s with
  | nil => rfl
  | cons c rest ih =>
      rw [Unicode.splitAt, List.splitOnP_cons_eq_if_modifyHead, ← ih]
      cases parts : Unicode.splitAt sep rest with
      | nil =>
          rw [ih] at parts
          exact absurd parts (List.splitOnP_ne_nil _ _)
      | cons part parts => simp only [beq_iff_eq, List.modifyHead_cons]

/-! ## Identifiers -/

namespace Identifier

def IsDigit (c : Char) : Prop := '0' ≤ c ∧ c ≤ '9'

/-- A letter of ASCII or a hyphen. -/
def IsNonDigit (c : Char) : Prop := ('A' ≤ c ∧ c ≤ 'Z') ∨ ('a' ≤ c ∧ c ≤ 'z') ∨ c = '-'

def IsMark (c : Char) : Prop := IsDigit c ∨ IsNonDigit c

/-- The zero alone, or digits of which the first is no zero. -/
def IsNumber (s : Identifier) : Prop :=
  s = ['0'] ∨ ∃ first rest, s = first :: rest ∧ first ≠ '0' ∧ ∀ c ∈ s, IsDigit c

/-- Digits, letters and hyphens that are not all digits. -/
def IsWord (s : Identifier) : Prop := (∀ c ∈ s, IsMark c) ∧ ∃ c ∈ s, IsNonDigit c

def IsPrereleaseForm (s : Identifier) : Prop := s.IsWord ∨ s.IsNumber

/-- Build identifiers may be digits with zeros in front. -/
def IsBuildForm (s : Identifier) : Prop := s.IsWord ∨ (s ≠ [] ∧ ∀ c ∈ s, IsDigit c)

theorem isDigit_iff {c : Char} : c.isDigit = true ↔ IsDigit c := by
  simp [Char.isDigit, IsDigit, Char.le_def]

theorem isIdentifierChar_iff {c : Char} : isIdentifierChar c = true ↔ IsMark c := by
  have kinds : isIdentifierChar c = (c.isUpper || c.isLower || c.isDigit || c == '-') := rfl
  have capital : c.isUpper = decide ('A' ≤ c ∧ c ≤ 'Z') := rfl
  have small : c.isLower = (decide ('a' ≤ c) && decide (c ≤ 'z')) := rfl
  simp only [kinds, capital, small, Bool.or_eq_true, Bool.and_eq_true, decide_eq_true_eq,
    beq_iff_eq, isDigit_iff, IsMark, IsNonDigit]
  tauto

theorem not_isDigit_of_isNonDigit {c : Char} (h : IsNonDigit c) : ¬ IsDigit c := by
  rintro ⟨zero, nine⟩
  rcases h with ⟨capital, -⟩ | ⟨small, -⟩ | rfl
  · exact absurd (Char.le_trans capital nine) (by decide)
  · exact absurd (Char.le_trans small nine) (by decide)
  · exact absurd zero (by decide)

theorem isNumeric_iff {s : Identifier} : s.isNumeric = true ↔ s ≠ [] ∧ ∀ c ∈ s, IsDigit c := by
  simp [isNumeric, isDigit_iff]

theorem isCanonical_iff {s : Identifier} : s.isCanonical = true ↔ s.IsNumber := by
  simp only [isCanonical, Bool.and_eq_true, isNumeric_iff, Bool.or_eq_true, bne_iff_ne, beq_iff_eq]
  cases s with
  | nil => simp [IsNumber]
  | cons c rest =>
      constructor
      · rintro ⟨⟨-, digits⟩, lead | alone⟩
        · exact .inr ⟨c, rest, rfl, by simpa using lead, digits⟩
        · by_cases zero : c = '0'
          · obtain rfl : rest = [] := by simpa using alone
            exact .inl (by rw [zero])
          · exact .inr ⟨c, rest, rfl, zero, digits⟩
      · rintro (zero | ⟨_, _, same, lead, digits⟩)
        · cases zero
          exact ⟨⟨by simp, by simp [IsDigit]⟩, .inr rfl⟩
        · cases same
          exact ⟨⟨by simp, digits⟩, .inl (by simpa using lead)⟩

theorem isBuild_iff_isMark {s : Identifier} :
    s.isBuild = true ↔ s ≠ [] ∧ ∀ c ∈ s, IsMark c := by
  simp [isBuild, isIdentifierChar_iff]

/-- Of identifier characters either all are digits or one is not. -/
theorem isWord_or_digits {s : Identifier} (marks : ∀ c ∈ s, IsMark c) :
    s.IsWord ∨ ∀ c ∈ s, IsDigit c := by
  by_cases digits : ∀ c ∈ s, IsDigit c
  · exact .inr digits
  · push Not at digits
    obtain ⟨c, member, other⟩ := digits
    exact .inl ⟨marks, c, member, (marks c member).resolve_left other⟩

theorem IsWord.not_isNumeric {s : Identifier} (h : s.IsWord) : s.isNumeric = false := by
  obtain ⟨-, c, member, other⟩ := h
  rw [Bool.eq_false_iff, Ne, isNumeric_iff]
  exact fun numeric => not_isDigit_of_isNonDigit other (numeric.2 c member)

theorem IsWord.ne_nil {s : Identifier} (h : s.IsWord) : s ≠ [] :=
  have ⟨_, member, _⟩ := h.2
  List.ne_nil_of_mem member

theorem IsNumber.isNumeric {s : Identifier} (h : s.IsNumber) : s.isNumeric = true := by
  rw [← isCanonical_iff, isCanonical, Bool.and_eq_true] at h
  exact h.1

theorem isBuild_iff {s : Identifier} : s.isBuild = true ↔ s.IsBuildForm := by
  rw [isBuild_iff_isMark]
  constructor
  · rintro ⟨ne, marks⟩
    exact (isWord_or_digits marks).imp_right fun digits => ⟨ne, digits⟩
  · rintro (word | ⟨ne, digits⟩)
    · exact ⟨word.ne_nil, word.1⟩
    · exact ⟨ne, fun c member => .inl (digits c member)⟩

theorem isPrerelease_iff {s : Identifier} : s.isPrerelease = true ↔ s.IsPrereleaseForm := by
  simp only [isPrerelease, Bool.and_eq_true, Bool.or_eq_true, Bool.not_eq_true', isBuild_iff,
    isCanonical_iff]
  constructor
  · rintro ⟨word | ⟨ne, digits⟩, other | number⟩
    · exact .inl word
    · exact .inr number
    · rw [isNumeric_iff.mpr ⟨ne, digits⟩] at other
      cases other
    · exact .inr number
  · rintro (word | number)
    · exact ⟨.inl word, .inl word.not_isNumeric⟩
    · exact ⟨.inr (isNumeric_iff.mp number.isNumeric), .inr number⟩

theorem isMark_of_number {s : Identifier} (h : s.IsNumber) {c : Char} (member : c ∈ s) : IsMark c :=
  .inl ((isNumeric_iff.mp h.isNumeric).2 c member)

theorem isMark_of_prerelease {s : Identifier} (h : s.IsPrereleaseForm) {c : Char}
    (member : c ∈ s) : IsMark c :=
  h.elim (fun word => word.1 c member) fun number => isMark_of_number number member

theorem isMark_of_build {s : Identifier} (h : s.IsBuildForm) {c : Char} (member : c ∈ s) :
    IsMark c :=
  h.elim (fun word => word.1 c member) fun digits => .inl (digits.2 c member)

end Identifier

namespace Version

open Identifier

/-! ## Texts of the grammar -/

/-- Identifiers of one form, at least one of them, joined by dots. -/
structure Dotted (Form : Identifier → Prop) (ids : List Identifier) (s : List Char) : Prop where
  some : ids ≠ []
  each : ∀ i ∈ ids, Form i
  joined : s = ['.'].intercalate ids

/-- Identifiers behind a mark; without identifiers there is no mark. -/
def Section (mark : Char) (Form : Identifier → Prop) (ids : List Identifier) (s : List Char) :
    Prop :=
  ids = [] ∧ s = [] ∨ ∃ rest, s = mark :: rest ∧ Dotted Form ids rest

/-- The text is made of these parts: the core, the prerelease behind a hyphen, and the build behind
a plus sign. -/
def Written (parts : Parts) (s : List Char) : Prop :=
  ∃ core prerelease build, s = core ++ prerelease ++ build ∧ Dotted IsNumber parts.core core ∧
    Section '-' IsPrereleaseForm parts.prerelease prerelease ∧
    Section '+' IsBuildForm parts.build build

/-- A version name of SemVer 2.0.0: three numbers, perhaps a prerelease, perhaps a build. -/
def IsSemVer (text : String) : Prop :=
  ∃ major minor patch prerelease build,
    Written ⟨[major, minor, patch], prerelease, build⟩ text.toList

/-- A version name of which one of the three numbers has more digits than the limit. -/
def HasOverlongNumber (text : String) : Prop :=
  ∃ major minor patch prerelease build,
    Written ⟨[major, minor, patch], prerelease, build⟩ text.toList ∧
      ∃ number ∈ [major, minor, patch], Numeral.digitLimit < number.length

theorem not_mem_of_dotted {Form : Identifier → Prop} {ids : List Identifier} {s : List Char}
    (dotted : Dotted Form ids s) {c : Char} (dot : c ≠ '.') (free : ∀ i, Form i → c ∉ i) :
    c ∉ s := by
  obtain ⟨-, each, rfl⟩ := dotted
  induction ids with
  | nil => simp
  | cons i ids ih =>
      rw [List.forall_mem_cons] at each
      cases ids with
      | nil =>
          rw [List.intercalate_singleton]
          exact free i each.1
      | cons j ids =>
          rw [List.intercalate_cons_cons]
          simp only [List.mem_append, List.mem_singleton, not_or]
          exact ⟨⟨free i each.1, dot⟩, ih each.2⟩

/-- A sign that no identifier holds stands nowhere in identifiers joined by dots. -/
theorem not_mem_of_marks {Form : Identifier → Prop} {ids : List Identifier} {s : List Char}
    (marks : ∀ i, Form i → ∀ c ∈ i, IsMark c) (dotted : Dotted Form ids s) {c : Char}
    (dot : c ≠ '.') (other : ¬ IsMark c) : c ∉ s :=
  not_mem_of_dotted dotted dot fun i form member => other (marks i form c member)

theorem not_isMark_dot : ¬ IsMark '.' := by
  rw [← isIdentifierChar_iff]
  decide

theorem not_isMark_plus : ¬ IsMark '+' := by
  rw [← isIdentifierChar_iff]
  decide

theorem hyphen_not_mem_of_isNumber {s : Identifier} (h : s.IsNumber) : '-' ∉ s := by
  intro member
  exact not_isDigit_of_isNonDigit (.inr (.inr rfl)) ((isNumeric_iff.mp h.isNumeric).2 _ member)

/-! ## Splitting accepts the grammar -/

/-- What stands behind a part: a mark with a rest, or nothing. -/
def attached (mark : Char) : Option (List Char) → List Char
  | none => []
  | some rest => mark :: rest

theorem cut_of_not_mem {sep : Char} {s : List Char} (absent : sep ∉ s) : cut sep s = (s, none) := by
  have pass : ∀ c ∈ s, (c != sep) = true := fun c member => by
    rw [bne_iff_ne]
    exact fun same => absent (same ▸ member)
  have all : s.dropWhile (· != sep) = [] := by
    rw [← List.append_nil s, List.dropWhile_append_of_pos pass, List.dropWhile_nil]
  rw [cut, all]

theorem cut_eq_iff {sep : Char} {s front : List Char} {rest : Option (List Char)} :
    cut sep s = (front, rest) ↔ sep ∉ front ∧ s = front ++ attached sep rest := by
  constructor
  · intro h
    have parted := List.takeWhile_append_dropWhile (p := (· != sep)) (l := s)
    have before : sep ∉ s.takeWhile (· != sep) := fun member => by
      simpa using List.all_eq_true.mp List.all_takeWhile sep member
    have stop := List.head?_dropWhile_not (· != sep) s
    unfold cut at h
    split at h
    · rename_i none
      cases h
      rw [none, List.append_nil] at parted
      rw [parted] at before
      exact ⟨before, (List.append_nil s).symm⟩
    · rename_i c rest found
      cases h
      rw [found] at parted stop
      obtain rfl : c = sep := by simpa using stop
      exact ⟨before, parted.symm⟩
  · rintro ⟨absent, rfl⟩
    have pass : ∀ c ∈ front, (c != sep) = true := fun c member => by
      rw [bne_iff_ne]
      exact fun same => absent (same ▸ member)
    cases rest with
    | none => rw [attached, List.append_nil, cut_of_not_mem absent]
    | some rest =>
        have stop : (attached sep (some rest)).dropWhile (· != sep) = sep :: rest :=
          List.dropWhile_cons_of_neg (by simp)
        have none : (attached sep (some rest)).takeWhile (· != sep) = [] :=
          List.takeWhile_cons_of_neg (by simp)
        rw [cut, List.dropWhile_append_of_pos pass, stop, List.takeWhile_append_of_pos pass, none,
          List.append_nil]

section Splitting

variable {ok : Identifier → Bool} {Form : Identifier → Prop} {ids : List Identifier}

theorem identifiers?_eq_some_iff (same : ∀ i, ok i = true ↔ Form i)
    (marks : ∀ i, Form i → ∀ c ∈ i, IsMark c) {s : List Char} :
    identifiers? ok s = some ids ↔ Dotted Form ids s := by
  unfold identifiers?
  dsimp only
  rw [splitAt_eq_splitOn]
  constructor
  · intro h
    split at h
    · rename_i all
      cases h
      rw [List.all_eq_true] at all
      exact ⟨List.splitOn_ne_nil _ _, fun i member => (same i).mp (all i member),
        (List.intercalate_splitOn '.').symm⟩
    · cases h
  · rintro ⟨ne, each, rfl⟩
    have dotless : ∀ i ∈ ids, '.' ∉ i := fun i member dot =>
      not_isMark_dot (marks i (each i member) _ dot)
    rw [List.splitOn_intercalate '.' dotless ne,
      if_pos (List.all_eq_true.mpr fun i member => (same i).mpr (each i member))]

theorem section_iff (same : ∀ i, ok i = true ↔ Form i)
    (marks : ∀ i, Form i → ∀ c ∈ i, IsMark c) {mark : Char} {s : List Char} :
    Section mark Form ids s ↔ ∃ rest, s = attached mark rest ∧ optional? ok rest = some ids := by
  constructor
  · rintro (⟨rfl, rfl⟩ | ⟨rest, rfl, dotted⟩)
    · exact ⟨none, rfl, rfl⟩
    · exact ⟨some rest, rfl, (identifiers?_eq_some_iff same marks).mpr dotted⟩
  · rintro ⟨rest, rfl, found⟩
    cases rest with
    | none =>
        cases found
        exact .inl ⟨rfl, rfl⟩
    | some rest => exact .inr ⟨rest, rfl, (identifiers?_eq_some_iff same marks).mp found⟩

end Splitting

theorem parts?_eq_some_of_cut {s front core : List Char} {prerelease build : Option (List Char)}
    (first : cut '+' s = (front, build)) (second : cut '-' front = (core, prerelease))
    {parts : Parts} :
    parts? s = some parts ↔ identifiers? isCanonical core = some parts.core ∧
      optional? isPrerelease prerelease = some parts.prerelease ∧
      optional? isBuild build = some parts.build := by
  simp only [parts?, first, second]
  constructor
  · intro h
    split at h
    · cases h
      exact ⟨by assumption, by assumption, by assumption⟩
    · cases h
  · rintro ⟨ofCore, ofPrerelease, ofBuild⟩
    rw [ofCore, ofPrerelease, ofBuild]

/-- Splitting into parts accepts the texts of the grammar and finds the parts they are made of. -/
theorem parts?_eq_some_iff {s : List Char} {parts : Parts} :
    parts? s = some parts ↔ Written parts s := by
  have cores {s ids} : identifiers? isCanonical s = some ids ↔ Dotted IsNumber ids s :=
    identifiers?_eq_some_iff (fun _ => isCanonical_iff) fun _ => @isMark_of_number _
  have prereleases {s ids} : Section '-' IsPrereleaseForm ids s ↔
      ∃ rest, s = attached '-' rest ∧ optional? isPrerelease rest = some ids :=
    section_iff (fun _ => isPrerelease_iff) fun _ => @isMark_of_prerelease _
  have builds {s ids} : Section '+' IsBuildForm ids s ↔
      ∃ rest, s = attached '+' rest ∧ optional? isBuild rest = some ids :=
    section_iff (fun _ => isBuild_iff) fun _ => @isMark_of_build _
  constructor
  · intro h
    obtain ⟨front, build, first⟩ : ∃ front build, cut '+' s = (front, build) := ⟨_, _, rfl⟩
    obtain ⟨core, prerelease, second⟩ : ∃ core prerelease, cut '-' front = (core, prerelease) :=
      ⟨_, _, rfl⟩
    obtain ⟨ofCore, ofPrerelease, ofBuild⟩ := (parts?_eq_some_of_cut first second).mp h
    obtain ⟨-, rfl⟩ := cut_eq_iff.mp first
    obtain ⟨-, rfl⟩ := cut_eq_iff.mp second
    exact ⟨core, _, _, rfl, cores.mp ofCore, prereleases.mpr ⟨prerelease, rfl, ofPrerelease⟩,
      builds.mpr ⟨build, rfl, ofBuild⟩⟩
  · rintro ⟨core, prerelease, build, rfl, ofCore, ofPrerelease, ofBuild⟩
    have hyphenless : '-' ∉ core := not_mem_of_dotted ofCore (by decide)
      fun _ => hyphen_not_mem_of_isNumber
    have plusless : '+' ∉ core ++ prerelease := by
      rw [List.mem_append, not_or]
      refine ⟨not_mem_of_marks (fun _ => @isMark_of_number _) ofCore (by decide) not_isMark_plus,
        ?_⟩
      rcases ofPrerelease with ⟨-, rfl⟩ | ⟨rest, rfl, dotted⟩
      · simp
      · have absent := not_mem_of_marks (fun _ => @isMark_of_prerelease _) dotted
          (by decide) not_isMark_plus
        simpa using absent
    obtain ⟨rest, rfl, foundPrerelease⟩ := prereleases.mp ofPrerelease
    obtain ⟨rest', rfl, foundBuild⟩ := builds.mp ofBuild
    exact (parts?_eq_some_of_cut (cut_eq_iff.mpr ⟨plusless, rfl⟩)
      (cut_eq_iff.mpr ⟨hyphenless, rfl⟩)).mpr ⟨cores.mpr ofCore, foundPrerelease, foundBuild⟩

/-- A text is made of parts in one way only. -/
theorem Written.unique {parts parts' : Parts} {s : List Char} (h : Written parts s)
    (h' : Written parts' s) : parts = parts' := by
  rw [← parts?_eq_some_iff] at h h'
  exact Option.some.inj (h.symm.trans h')

/-! ## Reading accepts the grammar within the digit limit -/

theorem read_of_written {text : String} {major minor patch : Identifier}
    {prerelease build : List Identifier}
    (written : Written ⟨[major, minor, patch], prerelease, build⟩ text.toList) :
    (∃ v, read text = .ok v) ↔
      ∀ number ∈ [major, minor, patch], number.length ≤ Numeral.digitLimit := by
  rw [← parts?_eq_some_iff] at written
  unfold read
  rw [written]
  dsimp only
  split
  · rename_i long found
    refine iff_of_false nofun fun short => ?_
    have beyond := List.find?_some found
    have within := short long (List.mem_of_find?_eq_some found)
    exact absurd within (Nat.not_le.mpr (by simpa using beyond))
  · rename_i none
    refine iff_of_true ⟨_, rfl⟩ fun number member => ?_
    simpa using List.find?_eq_none.mp none number member

theorem isSemVer_of_read {text : String} {v : Version} (h : read text = .ok v) :
    IsSemVer text := by
  unfold read at h
  split at h
  · rename_i major minor patch prerelease build found
    exact ⟨major, minor, patch, prerelease, build, parts?_eq_some_iff.mp found⟩
  · cases h

theorem exists_read_iff {text : String} :
    (∃ v, read text = .ok v) ↔ IsSemVer text ∧ ¬ HasOverlongNumber text := by
  constructor
  · rintro ⟨v, accepted⟩
    refine ⟨isSemVer_of_read accepted, ?_⟩
    rintro ⟨_, _, _, _, _, written, number, member, beyond⟩
    have short := (read_of_written written).mp ⟨v, accepted⟩ number member
    exact absurd beyond (Nat.not_lt.mpr short)
  · rintro ⟨⟨major, minor, patch, prerelease, build, written⟩, short⟩
    refine (read_of_written written).mpr fun number member => ?_
    by_contra beyond
    exact short ⟨_, _, _, _, _, written, number, member, Nat.not_le.mp beyond⟩

/-- Why a version name that may be absent cannot be read. The empty text is none of the grammar. -/
inductive Unreadable : Option String → Prop
  | missing : Unreadable none
  | malformed {text : String} : ¬ IsSemVer text → Unreadable (some text)
  | tooLong {text : String} : HasOverlongNumber text → Unreadable (some text)

theorem unreadable_some_iff {text : String} :
    Unreadable (some text) ↔ ¬ IsSemVer text ∨ HasOverlongNumber text := by
  constructor
  · rintro (_ | other | long)
    · exact .inl other
    · exact .inr long
  · rintro (other | long)
    · exact .malformed other
    · exact .tooLong long

theorem exists_readName_iff {name : Option String} :
    (∃ v, readName name = .ok v) ↔ ¬ Unreadable name := by
  cases name with
  | none => exact iff_of_false nofun (not_not.mpr .missing)
  | some text =>
      rw [unreadable_some_iff, not_or, not_not, ← exists_read_iff]
      constructor
      · rintro ⟨v, accepted⟩
        rw [readName] at accepted
        split at accepted
        · cases accepted
        · exact ⟨v, accepted⟩
      · rintro ⟨v, accepted⟩
        exact ⟨v, readName_of_read accepted⟩

end Version

end Overdue
