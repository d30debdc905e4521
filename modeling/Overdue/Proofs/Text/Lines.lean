import Overdue.Text.Lines

/-!
# The lines of a text

`Lines.of` cuts a text into lines, whatever the spelling of their ends. What stands behind a line
feed has its lines for itself (`of_append_feed`), so that lines which are `Unbroken` come back from
the text that they are written to: `of_written_iff`.
-/
namespace Overdue.Lines

variable {s t : List Char}

/-- The lines of a text. -/
def of (s : List Char) : List (List Char) := split (unify s)

/-- No line ends in the text. -/
def Unbroken (s : List Char) : Prop := ∀ c ∈ s, c ≠ '\n' ∧ c ≠ '\r'

@[simp] theorem unbroken_nil : Unbroken [] := nofun

@[simp] theorem unbroken_cons {c : Char} :
    Unbroken (c :: s) ↔ (c ≠ '\n' ∧ c ≠ '\r') ∧ Unbroken s := List.forall_mem_cons

@[simp] theorem unbroken_append : Unbroken (s ++ t) ↔ Unbroken s ∧ Unbroken t :=
  List.forall_mem_append

/-! ## Behind a line feed -/

theorem unify_cons {c : Char} (other : c ≠ '\r') (s : List Char) :
    unify (c :: s) = c :: unify s := by
  rw [unify]
  · rintro rest rfl
    exact absurd rfl other
  · exact other

theorem unify_return (single : ∀ rest, s ≠ '\n' :: rest) : unify ('\r' :: s) = '\n' :: unify s := by
  rw [unify]
  exact single

theorem unify_append_feed (s : List Char) :
    ∃ u, ∀ t, unify (s ++ '\n' :: t) = u ++ '\n' :: unify t := by
  fun_induction unify s with
  | case1 => exact ⟨[], unify_cons (by decide)⟩
  | case2 rest ih =>
      obtain ⟨u, unified⟩ := ih
      exact ⟨'\n' :: u, fun t => congrArg ('\n' :: ·) (unified t)⟩
  | case3 rest single ih =>
      cases rest with
      | nil => exact ⟨[], fun t => rfl⟩
      | cons c rest =>
          obtain ⟨u, unified⟩ := ih
          refine ⟨'\n' :: u, fun t => ?_⟩
          rw [List.cons_append, unify_return, unified, List.cons_append]
          -- What follows the carriage return is no line feed, so it ends a line by itself.
          rintro rest' same
          exact single rest (by rw [(List.cons.inj same).1])
  | case4 c rest _ other ih =>
      obtain ⟨u, unified⟩ := ih
      refine ⟨c :: u, fun t => ?_⟩
      rw [List.cons_append, unify_cons other, unified, List.cons_append]

theorem split_ne_nil (some : s ≠ []) : split s ≠ [] := by
  fun_cases split s <;> simp_all

theorem split_append_feed (s t : List Char) :
    split (s ++ '\n' :: t) = split (s ++ ['\n']) ++ split t := by
  induction s with
  | nil => rfl
  | cons c s ih =>
      by_cases feed : c = '\n'
      · subst feed
        exact congrArg ([] :: ·) ih
      · have some : split (s ++ ['\n']) ≠ [] := split_ne_nil (by simp)
        rw [List.cons_append, split, ih, List.cons_append, split]
        · cases whole : split (s ++ ['\n']) with
          | nil => exact absurd whole some
          | cons line more => rfl
        · exact feed
        · exact feed

theorem of_append_feed (s t : List Char) : of (s ++ '\n' :: t) = of (s ++ ['\n']) ++ of t := by
  obtain ⟨u, unified⟩ := unify_append_feed s
  rw [of, of, of, unified t, unified []]
  exact split_append_feed u (unify t)

/-! ## Unbroken lines -/

theorem unify_of_unbroken (h : Unbroken s) : unify (s ++ ['\n']) = s ++ ['\n'] := by
  induction s with
  | nil => rfl
  | cons c s ih =>
      rw [unbroken_cons] at h
      rw [List.cons_append, unify_cons h.1.2, ih h.2]

theorem split_of_unbroken (h : Unbroken s) : split (s ++ ['\n']) = [s] := by
  induction s with
  | nil => rfl
  | cons c s ih =>
      rw [unbroken_cons] at h
      rw [List.cons_append, split, ih h.2]
      exact h.1.1

theorem of_feed_of_unbroken (h : Unbroken s) : of (s ++ ['\n']) = [s] := by
  rw [of, unify_of_unbroken h, split_of_unbroken h]

theorem return_not_mem_unify (s : List Char) : '\r' ∉ unify s := by
  fun_induction unify s with
  | case1 => simp
  | case2 rest ih => simpa using ih
  | case3 rest _ ih => simpa using ih
  | case4 c rest _ other ih => simpa [ih] using Ne.symm other

theorem mem_of_mem_split {line : List Char} (h : line ∈ split s) :
    ∀ c ∈ line, c ∈ s ∧ c ≠ '\n' := by
  induction s generalizing line with
  | nil => cases h
  | cons first rest ih =>
      have later {line : List Char} (h : line ∈ split rest) :
          ∀ c ∈ line, c ∈ first :: rest ∧ c ≠ '\n' := fun c member =>
        ⟨List.mem_cons_of_mem _ (ih h c member).1, (ih h c member).2⟩
      by_cases feed : first = '\n'
      · subst feed
        rcases List.mem_cons.mp h with rfl | within
        · nofun
        · exact later within
      · rw [split] at h
        · cases whole : split rest with
          | nil =>
              rw [whole] at h
              cases List.mem_singleton.mp h
              intro c member
              cases List.mem_singleton.mp member
              exact ⟨List.mem_cons_self, feed⟩
          | cons front more =>
              rw [whole] at h later
              rcases List.mem_cons.mp h with rfl | within
              · rw [List.forall_mem_cons]
                exact ⟨⟨List.mem_cons_self, feed⟩, later List.mem_cons_self⟩
              · exact later (List.mem_cons_of_mem _ within)
        · exact feed

theorem unbroken_of_mem_of {line : List Char} (h : line ∈ of s) : Unbroken line := by
  intro c member
  obtain ⟨within, feed⟩ := mem_of_mem_split h c member
  refine ⟨feed, ?_⟩
  rintro rfl
  exact return_not_mem_unify s within

/-- Lines that are written one after the other are the lines of what is written exactly if no line
ends within one of them. -/
theorem of_written_iff (lines : List (List Char)) :
    of (lines.flatMap (· ++ ['\n'])) = lines ↔ ∀ line ∈ lines, Unbroken line := by
  constructor
  · intro same line member
    rw [← same] at member
    exact unbroken_of_mem_of member
  · intro unbroken
    induction lines with
    | nil => rfl
    | cons line lines ih =>
        rw [List.forall_mem_cons] at unbroken
        rw [List.flatMap_cons, List.append_assoc, List.singleton_append, of_append_feed,
          of_feed_of_unbroken unbroken.1, ih unbroken.2, List.singleton_append]

end Overdue.Lines
