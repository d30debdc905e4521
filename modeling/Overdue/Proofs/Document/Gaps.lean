import Mathlib.Data.List.TakeWhile
import Overdue.Document.Lexer

/-!
# Gaps between tokens

Where the next token stands is decided by the text alone, outside of brackets: behind blanks,
comments and line ends (`gapEnd`, `toNextToken_eq`). A plain scalar takes a part of the gap with it,
up to where it could go on; the gap ends in the same place (`gapEnd_plainGap`). In a line that ends
in the gap, the column at which the gap starts makes no difference (`gapEnd_of_endsItsLine`).
-/
namespace Overdue.Document

/-! ## Moving in a text -/

namespace Cursor

variable {c : Cursor}

@[simp]
theorem next_rest (c : Cursor) : c.next.rest = c.rest.tail := by
  unfold next
  split
  · rename_i nil
    simp [nil]
  · rename_i ch rest more
    rw [more]
    split <;> rfl

theorem advance_rest (c : Cursor) (n : Nat) : (c.advance n).rest = c.rest.drop n := by
  induction n generalizing c with
  | zero => rfl
  | succ n ih => rw [advance, ih, next_rest, List.drop_tail]

theorem skip_rest (c : Cursor) (p : Char → Bool) : (c.skip p).rest = c.rest.dropWhile p := by
  rw [skip, span]
  dsimp only
  rw [advance_rest]
  generalize c.rest = cs
  induction cs with
  | nil => rfl
  | cons ch cs ih =>
      cases test : p ch with
      | true => simpa [test] using ih
      | false => simp [test]

/-- Characters that end no line are passed on the line. -/
theorem advance_line (c : Cursor) {n : Nat} (ordinary : ∀ ch ∈ c.rest.take n, isBreak ch = false) :
    (c.advance n).line = c.line := by
  induction n generalizing c with
  | zero => rfl
  | succ n ih =>
      obtain ⟨rest, line, column⟩ := c
      cases rest with
      | nil => exact ih _ (by simp [next])
      | cons ch rest =>
          rw [List.take_succ_cons, List.forall_mem_cons] at ordinary
          have next : (Cursor.mk (ch :: rest) line column).next =
              ⟨rest, line, if ch = '\ufeff' then column else column + 1⟩ := by
            simp [Cursor.next, ordinary.1]
          rw [advance, next, ih _ ordinary.2]

theorem skip_line {p : Char → Bool} (c : Cursor)
    (ordinary : ∀ ch, p ch = true → isBreak ch = false) : (c.skip p).line = c.line := by
  refine advance_line c fun ch member => ordinary ch ?_
  have inside : ch ∈ c.rest.takeWhile p := by
    have front : c.rest.take (c.rest.takeWhile p).length = c.rest.takeWhile p :=
      List.prefix_iff_eq_take.mp (List.takeWhile_prefix p) |>.symm
    rwa [front] at member
  exact List.mem_takeWhile_imp inside

/-- Characters that end no line and take a column are passed one by one. -/
theorem advance_append {w : List Char}
    (ordinary : ∀ ch ∈ w, isBreak ch = false ∧ ch ≠ '\ufeff') (rest : List Char)
    (line column : Nat) :
    (Cursor.mk (w ++ rest) line column).advance w.length = ⟨rest, line, column + w.length⟩ := by
  induction w generalizing column with
  | nil => rfl
  | cons ch w ih =>
      rw [List.forall_mem_cons] at ordinary
      have next : (Cursor.mk (ch :: (w ++ rest)) line column).next =
          ⟨w ++ rest, line, column + 1⟩ := by
        simp [Cursor.next, ordinary.1]
      rw [List.length_cons, List.cons_append, advance, next, ih ordinary.2, Nat.add_assoc,
        Nat.add_comm 1]

theorem span_append {p : Char → Bool} {w : List Char}
    (inside : ∀ ch ∈ w, p ch = true ∧ isBreak ch = false ∧ ch ≠ '\ufeff') {last : Char}
    (outside : p last = false) (rest : List Char) (line column : Nat) :
    (Cursor.mk (w ++ last :: rest) line column).span p =
      (w, ⟨last :: rest, line, column + w.length⟩) := by
  have front : (w ++ last :: rest).takeWhile p = w := by
    rw [List.takeWhile_append_of_pos fun ch member => (inside ch member).1,
      List.takeWhile_cons_of_neg (by simp [outside]), List.append_nil]
  rw [span, front, advance_append fun ch member => (inside ch member).2]

/-- Skipping characters of which none stands here. -/
theorem skip_of_not {p : Char → Bool} {c : Cursor} (none : ∀ ch, c.peek = some ch → p ch = false) :
    c.skip p = c := by
  obtain ⟨rest, line, column⟩ := c
  cases rest with
  | nil => rfl
  | cons ch rest =>
      have test := none ch rfl
      simp [skip, span, test, advance]

theorem peek_skip {p : Char → Bool} {ch : Char} (c : Cursor) (there : (c.skip p).peek = some ch) :
    p ch = false := by
  rw [peek, skip_rest] at there
  have := List.head?_dropWhile_not p c.rest
  rw [there] at this
  simpa using this

theorem skip_skip (c : Cursor) (p : Char → Bool) : (c.skip p).skip p = c.skip p :=
  skip_of_not fun _ there => peek_skip c there

/-- Behind a line's end the next line starts. -/
theorem takeBreak_of_break {ch : Char} {rest : List Char} {line column : Nat}
    (ends : isBreak ch = true) :
    (Cursor.mk (ch :: rest) line column).takeBreak.2 = ⟨rest, line + 1, 0⟩ := by
  have next : (Cursor.mk (ch :: rest) line column).next = ⟨rest, line + 1, 0⟩ := by
    simp [Cursor.next, ends]
  unfold takeBreak
  dsimp only
  split
  · exact next
  · simp [next]

theorem skip_next {p : Char → Bool} {ch : Char} (there : c.peek = some ch) (test : p ch = true) :
    c.skip p = c.next.skip p := by
  obtain ⟨rest, line, column⟩ := c
  cases rest with
  | nil => cases there
  | cons first rest =>
      cases there
      simp only [skip, span, List.takeWhile_cons, test, if_true, List.length_cons, advance,
        next_rest, List.tail_cons]

/-- Whether a line ends here, other than with the text. -/
def endsHere (c : Cursor) : Bool := !c.rest.isEmpty && endsLine c.peek

theorem exists_of_endsHere (ends : c.endsHere = true) :
    ∃ ch rest, c.rest = ch :: rest ∧ isBreak ch = true := by
  obtain ⟨rest, line, column⟩ := c
  cases rest with
  | nil => cases ends
  | cons ch rest => exact ⟨ch, rest, rfl, ends⟩

end Cursor

/-! ## Gaps between tokens -/

namespace Lexer

variable {c : Cursor}

/-- The place of the next token, and whether a line ended in front of it. -/
def skipGap : (fuel : Nat) → Cursor → Cursor × Bool
  | 0, c => (c, false)
  | fuel + 1, c =>
    let c := c.skipSpaces.skipComment
    if c.endsHere then ((skipGap fuel c.takeBreak.2).1, true) else (c, false)

/-- The same, with as much fuel as the scanner has for it. -/
def gapEnd (c : Cursor) : Cursor × Bool := skipGap (c.rest.length + 1) c

/-- Outside of brackets, a key may start behind the end of a line. -/
theorem toNextToken_eq {s : State} (block : s.flow = 0) (fuel : Nat) :
    s.toNextToken fuel =
      { s with
        here := (skipGap fuel s.here).1, allowKey := s.allowKey || (skipGap fuel s.here).2 } := by
  induction fuel generalizing s with
  | zero => simp [State.toNextToken, skipGap]
  | succ fuel ih =>
      rw [State.toNextToken, skipGap]
      change (if s.here.skipSpaces.skipComment.endsHere = true then _ else _) = _
      split
      · rw [ih (by exact block)]
        simp [block]
      · simp [State.move]

theorem length_skip_le (c : Cursor) (p : Char → Bool) :
    (c.skip p).rest.length ≤ c.rest.length := by
  rw [Cursor.skip_rest]
  exact (List.dropWhile_suffix p).length_le

theorem length_skipComment_le (c : Cursor) : c.skipComment.rest.length ≤ c.rest.length := by
  rw [Cursor.skipComment]
  split
  · exact length_skip_le c _
  · exact Nat.le_refl _

/-- Behind the end of its line, less of the text is left. -/
theorem length_takeBreak_lt (ends : c.skipSpaces.skipComment.endsHere = true) :
    c.skipSpaces.skipComment.takeBreak.2.rest.length < c.rest.length := by
  have passed : c.skipSpaces.skipComment.rest.length ≤ c.rest.length :=
    (length_skipComment_le _).trans (length_skip_le c _)
  generalize c.skipSpaces.skipComment = e at ends passed
  obtain ⟨ch, rest, here, breaks⟩ := Cursor.exists_of_endsHere ends
  obtain ⟨_, line, column⟩ := e
  cases here
  rw [Cursor.takeBreak_of_break breaks]
  exact passed

/-- More fuel than there are characters makes no difference. -/
theorem skipGap_of_lt {fuel fuel' : Nat} {c : Cursor} (enough : c.rest.length < fuel)
    (enough' : c.rest.length < fuel') : skipGap fuel c = skipGap fuel' c := by
  induction fuel generalizing fuel' c with
  | zero => omega
  | succ fuel ih =>
      obtain ⟨fuel', rfl⟩ : ∃ n, fuel' = n + 1 := ⟨fuel' - 1, by omega⟩
      rw [skipGap, skipGap]
      split
      · rename_i ends
        have behind := length_takeBreak_lt ends
        rw [@ih fuel' _ (by omega) (by omega)]
      · rfl

theorem gapEnd_eq (c : Cursor) :
    gapEnd c =
      if c.skipSpaces.skipComment.endsHere then
        ((gapEnd c.skipSpaces.skipComment.takeBreak.2).1, true)
      else (c.skipSpaces.skipComment, false) := by
  rw [gapEnd, skipGap]
  split
  · rename_i ends
    rw [gapEnd, skipGap_of_lt (length_takeBreak_lt ends) (Nat.lt_succ_self _)]
  · rfl

theorem gapEnd_skipSpaces (c : Cursor) : gapEnd c.skipSpaces = gapEnd c := by
  have again : c.skipSpaces.skipSpaces = c.skipSpaces := Cursor.skip_skip c _
  rw [gapEnd_eq, gapEnd_eq c, again]

theorem gapEnd_next (space : c.peek = some ' ') : gapEnd c.next = gapEnd c := by
  have past : c.skipSpaces = c.next.skipSpaces := Cursor.skip_next space (by decide)
  rw [gapEnd_eq, gapEnd_eq c, past]

theorem gapEnd_of_endsHere (ends : c.endsHere = true) :
    gapEnd c = ((gapEnd c.takeBreak.2).1, true) := by
  obtain ⟨ch, rest, here, breaks⟩ := Cursor.exists_of_endsHere ends
  have peeked : c.peek = some ch := by rw [Cursor.peek, here, List.head?_cons]
  have noSpaces : c.skipSpaces = c := by
    refine Cursor.skip_of_not fun other there => ?_
    cases peeked.symm.trans there
    refine beq_false_of_ne fun same => ?_
    subst same
    cases breaks
  have noComment : c.skipComment = c := by
    refine if_neg fun there => ?_
    cases peeked.symm.trans there
    cases breaks
  rw [gapEnd_eq, noSpaces, noComment, if_pos ends]

theorem gapEnd_plainBreaks (fuel : Nat) (c : Cursor) :
    (gapEnd (plainBreaks fuel c).2).1 = (gapEnd c).1 := by
  induction fuel generalizing c with
  | zero => rfl
  | succ fuel ih =>
      rw [plainBreaks]
      cases there : c.peek with
      | none => rfl
      | some ch =>
          dsimp only
          split
          · rename_i space
            subst space
            rw [ih, gapEnd_next there]
          · split
            · rename_i breaks
              have ends : c.endsHere = true := by
                obtain ⟨rest, line, column⟩ := c
                cases rest with
                | nil => cases there
                | cons first rest =>
                    cases there
                    exact breaks
              rw [gapEnd_of_endsHere ends]
              split
              · rfl
              · exact ih _
            · rfl

theorem plainGap_of_endsHere {c : Cursor} (ends : c.skipSpaces.endsHere = true) :
    ∃ gap e, plainGap c = (gap, e, true) ∧
      (gapEnd e).1 = (gapEnd c.skipSpaces.takeBreak.2).1 := by
  unfold plainGap
  rw [Cursor.skipSpaces, Cursor.skip] at ends ⊢
  generalize c.span (· == ' ') = passed at ends
  obtain ⟨spaces, at_⟩ := passed
  dsimp only
  rw [← Cursor.endsHere, if_pos ends]
  generalize at_.takeBreak = line
  obtain ⟨br, next⟩ := line
  dsimp only
  -- The mark of a document ends the scalar at once; else more lines may belong to the gap.
  split
  · exact ⟨[], next, rfl, rfl⟩
  · have same := gapEnd_plainBreaks (next.rest.length + 1) next
    generalize plainBreaks (next.rest.length + 1) next = more at same
    obtain ⟨breaks, e⟩ := more
    cases breaks with
    | none => exact ⟨[], e, rfl, same⟩
    | some breaks => exact ⟨_, e, rfl, same⟩

/-- **The gap that a plain scalar takes with it** is part of the gap in front of the next token. -/
theorem gapEnd_plainGap (c : Cursor) :
    (gapEnd (plainGap c).2.1).1 = (gapEnd c).1 ∧
      ((plainGap c).2.2 || (gapEnd (plainGap c).2.1).2) = (gapEnd c).2 := by
  rw [← gapEnd_skipSpaces c]
  cases ends : c.skipSpaces.endsHere with
  | true =>
      obtain ⟨gap, e, given, same⟩ := plainGap_of_endsHere ends
      rw [given, gapEnd_of_endsHere ends]
      exact ⟨same, rfl⟩
  | false =>
      have given : plainGap c = ((c.span (· == ' ')).1, c.skipSpaces, false) := by
        rw [plainGap]
        change (if c.skipSpaces.endsHere = true then _ else _) = _
        rw [ends]
        rfl
      rw [given]
      exact ⟨rfl, rfl⟩

/-! ### The end of a line -/

/-- What is left of a line behind spaces and a comment. -/
def behindComment (after : List Char) : List Char :=
  let rest := after.dropWhile (· == ' ')
  if rest.head? = some '#' then rest.dropWhile (!isBreak ·) else rest

/-- Nothing else stands in front of the end of the line. -/
def endsItsLine (after : List Char) : Bool :=
  !(behindComment after).isEmpty && endsLine (behindComment after).head?

theorem skipComment_skipSpaces (c : Cursor) :
    c.skipSpaces.skipComment.rest = behindComment c.rest ∧
      c.skipSpaces.skipComment.line = c.line := by
  have rest : c.skipSpaces.rest = c.rest.dropWhile (· == ' ') := Cursor.skip_rest c _
  have line : c.skipSpaces.line = c.line := by
    refine Cursor.skip_line c fun ch space => ?_
    rw [beq_iff_eq.mp space]
    decide
  rw [Cursor.skipComment, behindComment, Cursor.peek, rest]
  split
  · refine ⟨by rw [Cursor.skip_rest, rest], ?_⟩
    rw [Cursor.skip_line _ fun ch other => by simpa using other, line]
  · exact ⟨rest, line⟩

theorem apart_of_endsItsLine {after : List Char} (ends : endsItsLine after = true) :
    after.head? ≠ some '\'' := by
  intro quote
  obtain ⟨rest, rfl⟩ := List.head?_eq_some_iff.mp quote
  cases ends

/-- In a line that ends, the gap in front of the next token does not depend on the column. -/
theorem gapEnd_of_endsItsLine {after : List Char} (ends : endsItsLine after = true)
    (line column column' : Nat) : gapEnd ⟨after, line, column⟩ = gapEnd ⟨after, line, column'⟩ := by
  have next (column : Nat) : ∃ ch rest, behindComment after = ch :: rest ∧
      gapEnd ⟨after, line, column⟩ = ((gapEnd ⟨rest, line + 1, 0⟩).1, true) := by
    obtain ⟨rest, same⟩ := skipComment_skipSpaces ⟨after, line, column⟩
    rw [gapEnd_eq]
    generalize Cursor.skipComment _ = e at rest same
    obtain ⟨left, number, place⟩ := e
    obtain rfl : left = behindComment after := rest
    obtain rfl : number = line := same
    have endsHere : (Cursor.mk (behindComment after) number place).endsHere = true := ends
    obtain ⟨ch, rest, here, breaks⟩ := Cursor.exists_of_endsHere endsHere
    dsimp only at here
    refine ⟨ch, rest, here, ?_⟩
    rw [if_pos endsHere, here, Cursor.takeBreak_of_break breaks]
  obtain ⟨ch, rest, here, first⟩ := next column
  obtain ⟨ch', rest', there, second⟩ := next column'
  cases here.symm.trans there
  rw [first, second]

end Lexer

end Overdue.Document
