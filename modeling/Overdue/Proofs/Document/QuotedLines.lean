import Overdue.Proofs.Document.Gaps
import Overdue.Proofs.Document.RequotedValues
import Overdue.Proofs.Document.Twins

/-!
# A date at the end of a line, in quotes or without

A date that is the value of a key, outside of brackets and at the end of its line, is one token,
whether it has quotes or not (`takePlain_iso`, `takeQuoted_iso`). Behind it the same gap is left,
for which the two columns that the quotes take do not matter; so the next token leaves two scanners
that are twins (`take_behind`), and `sameButQuotes_of_line` follows: of such a date, the quotes may
be set or left out.
-/
namespace Overdue.Document

/-! ## A date as scalar -/

/-- The characters that written dates are made of. -/
def isDateChar (c : Char) : Bool := c.isDigit || c == '-'

theorem isDateChar_of_mem_iso {d : Date} {c : Char} (member : c ∈ d.iso.toList) :
    isDateChar c = true := by
  obtain ⟨y₁, y₂, y₃, y₄, m₁, m₂, d₁, d₂, chars, digits, -⟩ := exists_digits_of_iso d
  rw [chars] at member
  simp only [List.forall_mem_cons] at digits
  simp only [List.mem_cons, List.not_mem_nil, or_false] at member
  rcases member with rfl | rfl | rfl | rfl | rfl | rfl | rfl | rfl | rfl | rfl <;>
    simp [isDateChar, digits]

theorem ne_of_isDateChar {c other : Char} (ofDate : isDateChar c = true)
    (apart : isDateChar other = false) : c ≠ other := by
  rintro rfl
  cases ofDate.symm.trans apart

theorem isBreak_of_isDateChar {c : Char} (ofDate : isDateChar c = true) : isBreak c = false := by
  have apart (other : Char) (no : isDateChar other = false) : (c == other) = false :=
    beq_false_of_ne (ne_of_isDateChar ofDate no)
  simp only [isBreak, apart _ (show isDateChar '\n' = false by decide),
    apart _ (show isDateChar '\x85' = false by decide),
    apart _ (show isDateChar '\u2028' = false by decide),
    apart _ (show isDateChar '\u2029' = false by decide), Bool.or_false]

theorem isGap_of_isDateChar {c : Char} (ofDate : isDateChar c = true) :
    isGap (some c) = false := by
  have space : c ≠ ' ' := ne_of_isDateChar ofDate (by decide)
  have tab : c ≠ '\t' := ne_of_isDateChar ofDate (by decide)
  simp [isGap, space, tab, isBreak_of_isDateChar ofDate]

theorem length_iso (d : Date) : d.iso.toList.length = 10 := by
  obtain ⟨y₁, y₂, y₃, y₄, m₁, m₂, d₁, d₂, chars, -⟩ := exists_digits_of_iso d
  rw [chars]
  rfl

/-- A written date starts with a digit. -/
theorem exists_cons_of_iso (d : Date) :
    ∃ c rest, d.iso.toList = c :: rest ∧ c.isDigit = true := by
  obtain ⟨y₁, y₂, y₃, y₄, m₁, m₂, d₁, d₂, chars, digits, -⟩ := exists_digits_of_iso d
  exact ⟨y₁, _, chars, digits y₁ List.mem_cons_self⟩

theorem advance_iso (d : Date) (after : List Char) (line column : Nat) :
    (Cursor.mk (d.iso.toList ++ after) line column).advance 10 = ⟨after, line, column + 10⟩ := by
  rw [← length_iso d]
  refine Cursor.advance_append (fun c member => ?_) after line column
  have ofDate := isDateChar_of_mem_iso member
  exact ⟨isBreak_of_isDateChar ofDate, ne_of_isDateChar ofDate (by decide)⟩

/-! ### Plainly -/

theorem plainRun_iso (flow : Bool) (d : Date) (after : List Char) :
    plainRun flow (d.iso.toList ++ after) = d.iso.toList ++ plainRun flow after := by
  have dates : ∀ c ∈ d.iso.toList, isDateChar c = true := fun _ => isDateChar_of_mem_iso
  generalize d.iso.toList = date at dates
  induction date with
  | nil => rw [List.nil_append, List.nil_append]
  | cons c rest ih =>
      rw [List.forall_mem_cons] at dates
      have colon : c ≠ ':' := ne_of_isDateChar dates.1 (by decide)
      have noMark : c ∉ flowMarks := by
        intro mark
        have apart : flowMarks.all (!isDateChar ·) = true := by decide
        exact ne_of_isDateChar dates.1 (by simpa using List.all_eq_true.mp apart c mark) rfl
      rw [List.cons_append, plainRun]
      simp [isGap_of_isDateChar dates.1, colon, noMark, ih dates.2]

/-- What is read on of a plain scalar stands behind what was read; if it is nothing, the gap in
front of it is all that was passed. -/
theorem exists_of_plainFrom (flow : Bool) (indent : Int) (fuel : Nat) (text gap : List Char)
    (broke : Bool) (c : Cursor) :
    ∃ more, (plainFrom flow indent fuel text gap broke c).1 = text ++ more ∧
      (more = [] → plainFrom flow indent fuel text gap broke c = (text, c, broke)) := by
  induction fuel generalizing text gap broke c with
  | zero => exact ⟨[], (List.append_nil text).symm, fun _ => rfl⟩
  | succ fuel ih =>
      rw [plainFrom]
      split
      · exact ⟨[], (List.append_nil text).symm, fun _ => rfl⟩
      · dsimp only
        generalize plainRun flow c.rest = run
        split
        · exact ⟨[], (List.append_nil text).symm, fun _ => rfl⟩
        · rename_i something
          have further (more : List Char) : gap ++ run ++ more ≠ [] := by
            intro nothing
            simp only [List.append_eq_nil_iff] at nothing
            exact something (List.isEmpty_iff.mpr nothing.1.2)
          generalize plainGap (c.advance run.length) = passed
          obtain ⟨gap', c', broke'⟩ := passed
          dsimp only
          split
          · refine ⟨gap ++ run, List.append_assoc .., fun nothing => ?_⟩
            exact absurd ((List.append_nil _).trans nothing) (further [])
          · obtain ⟨more, whole, -⟩ := ih (text ++ gap ++ run) gap' broke' c'
            refine ⟨gap ++ run ++ more, ?_, fun nothing => absurd nothing (further more)⟩
            rw [whole]
            simp only [List.append_assoc]

/-- **Where a plain scalar is a date**, it is read up to the gap behind the date. -/
theorem plain_iso {d : Date} {after : List Char} {indent : Int} {line column : Nat}
    (scalar : (plain false indent ⟨d.iso.toList ++ after, line, column⟩).1 = d.iso.toList) :
    plain false indent ⟨d.iso.toList ++ after, line, column⟩ =
      (d.iso.toList, (plainGap ⟨after, line, column + 10⟩).2.1,
        (plainGap ⟨after, line, column + 10⟩).2.2) := by
  obtain ⟨c, rest, chars, digit⟩ := exists_cons_of_iso d
  have first : (Cursor.mk (d.iso.toList ++ after) line column).peek ≠ some '#' := by
    rw [Cursor.peek, chars]
    exact fun same => ne_of_isDigit digit (by decide) (Option.some.inj same)
  have given : (plainRun false (d.iso.toList ++ after)).isEmpty = false := by
    rw [plainRun_iso, chars]
    rfl
  rw [plain, plainFrom, if_neg first] at scalar ⊢
  dsimp only at scalar ⊢
  rw [given, plainRun_iso] at scalar ⊢
  simp only [Bool.false_eq_true, if_false, List.nil_append] at scalar ⊢
  -- What is read behind the date would make the scalar longer.
  have ended : plainRun false after = [] := by
    have whole := scalar
    generalize plainGap _ = passed at whole
    obtain ⟨gap, c', broke⟩ := passed
    dsimp only at whole
    split at whole
    · simpa using whole
    · obtain ⟨more, text, -⟩ := exists_of_plainFrom false indent
        (d.iso.toList ++ after).length (d.iso.toList ++ plainRun false after) gap broke c'
      rw [text, List.append_assoc, List.append_right_eq_self] at whole
      exact (List.append_eq_nil_iff.mp whole).1
  rw [ended, List.append_nil, length_iso, advance_iso] at scalar ⊢
  generalize plainGap ⟨after, line, column + 10⟩ = passed at scalar ⊢
  obtain ⟨gap, c', broke⟩ := passed
  dsimp only at scalar ⊢
  split
  · rfl
  · rename_i further
    rw [if_neg further] at scalar
    obtain ⟨more, text, same⟩ := exists_of_plainFrom false indent
      (d.iso.toList ++ after).length d.iso.toList gap broke c'
    rw [text, List.append_right_eq_self] at scalar
    exact same scalar

/-! ### In quotes -/

def quoteMark (double : Bool) : Char := if double then '"' else '\''

theorem next_quoteMark (double : Bool) (rest : List Char) (line column : Nat) :
    (Cursor.mk (quoteMark double :: rest) line column).next = ⟨rest, line, column + 1⟩ := by
  cases double <;> rfl

theorem quotedFrom_word (double : Bool) (fuel : Nat) (text : List Char) {w : List Char}
    (given : w ≠ []) (dates : ∀ c ∈ w, isDateChar c = true) (after : List Char)
    (line column : Nat) :
    quotedFrom double (fuel + 1) text ⟨w ++ quoteMark double :: after, line, column⟩ =
      quotedFrom double fuel (text ++ w)
        ⟨quoteMark double :: after, line, column + w.length⟩ := by
  have other (c : Char) (ofDate : isDateChar c = true) : c ≠ '\'' ∧ c ≠ '"' ∧ c ≠ '\\' :=
    ⟨ne_of_isDateChar ofDate (by decide), ne_of_isDateChar ofDate (by decide),
      ne_of_isDateChar ofDate (by decide)⟩
  have closes : (!(isGap (some (quoteMark double)) || quoteMark double == '\'' ||
      quoteMark double == '"' || quoteMark double == '\\')) = false := by
    cases double <;> decide
  have spanned := Cursor.span_append
    (p := fun ch => !(isGap (some ch) || ch == '\'' || ch == '"' || ch == '\\')) (w := w)
    (fun c member => by
      have ofDate := dates c member
      have noMark : c ≠ '\ufeff' := ne_of_isDateChar ofDate (by decide)
      simp [isGap_of_isDateChar ofDate, other c ofDate, isBreak_of_isDateChar ofDate, noMark])
    closes after line column
  obtain ⟨c, w, rfl⟩ := List.exists_cons_of_ne_nil given
  have ofDate := dates c List.mem_cons_self
  obtain ⟨single, double', backslash⟩ := other c ofDate
  rw [quotedFrom]
  split
  · rename_i nil
    cases nil
  · rename_i same
    exact absurd (List.cons.inj same).1 single
  · rename_i same
    exact absurd (List.cons.inj same).1 double'
  · rename_i same
    exact absurd (List.cons.inj same).1 backslash
  · rename_i first _ _ _ _ same
    obtain rfl : c = first := (List.cons.inj same).1
    rw [if_neg (by simp [isGap_of_isDateChar ofDate]), spanned]

theorem quotedFrom_end (double : Bool) (fuel : Nat) (text : List Char) {after : List Char}
    (line column : Nat) (apart : after.head? ≠ some '\'') :
    quotedFrom double (fuel + 1) text ⟨quoteMark double :: after, line, column⟩ =
      .ok (text, ⟨after, line, column + 1⟩) := by
  rw [quotedFrom]
  cases double with
  | true => rfl
  | false =>
      change (if after.head? = some '\'' then _ else _) = _
      rw [if_neg apart]
      rfl

/-- **A date in quotes** is read up to the closing quote. -/
theorem quoted_iso (double : Bool) (d : Date) {after : List Char} (line column : Nat)
    (apart : after.head? ≠ some '\'') :
    quoted double ⟨quoteMark double :: (d.iso.toList ++ quoteMark double :: after), line, column⟩ =
      .ok (d.iso.toList, ⟨after, line, column + 12⟩) := by
  have given : d.iso.toList ≠ [] := by
    obtain ⟨c, rest, chars, -⟩ := exists_cons_of_iso d
    rw [chars]
    exact List.cons_ne_nil c rest
  rw [quoted, next_quoteMark]
  dsimp only [List.length_cons]
  rw [quotedFrom_word double _ _ given fun _ => isDateChar_of_mem_iso,
    quotedFrom_end double _ _ _ _ apart, length_iso, List.nil_append]

/-! ### Behind a gap -/

/-- The text of a date behind a gap, plainly. -/
def plainly (gap : List Char) (d : Date) (after : List Char) : List Char :=
  gap ++ (d.iso.toList ++ after)

/-- The text of a date behind a gap, in quotes. -/
def inQuotes (double : Bool) (gap : List Char) (d : Date) (after : List Char) : List Char :=
  gap ++ quoteMark double :: (d.iso.toList ++ quoteMark double :: after)

/-! ## The token of a date -/

namespace Lexer

/-- The state with another text left to read. -/
def State.reading (s : State) (rest : List Char) : State := s.move { s.here with rest }

/-- The mark of a value has just been taken, outside of brackets and on the line of the key. -/
structure State.AwaitsValue (s : State) (base : List Token) : Prop where
  done : s.done = .value :: base
  count : s.count = base.length + 1
  block : s.flow = 0
  keyed : s.allowKey = false
  noKeys : s.keys = []
  deeper : s.indent < s.here.column
  unfinished : s.finished = false

theorem unwind_of_deeper {s : State} {column : Nat} (deeper : s.indent < column) :
    s.unwind column = s := by
  rw [State.unwind]
  split
  · rfl
  · cases outer : s.indents with
    | nil =>
        rw [State.unwindTo, ← outer]
    | cons next rest =>
        rw [State.unwindTo, if_neg (by omega), ← outer]

theorem skipGap_of_spaces {gap : List Char} (spaces : ∀ c ∈ gap, c = ' ') {ch : Char}
    (apart : ch ≠ ' ' ∧ ch ≠ '#' ∧ isBreak ch = false) (rest : List Char) (line column fuel : Nat) :
    skipGap (fuel + 1) ⟨gap ++ ch :: rest, line, column⟩ =
      (⟨ch :: rest, line, column + gap.length⟩, false) := by
  have inside : ∀ c ∈ gap, (c == ' ') = true ∧ isBreak c = false ∧ c ≠ '\ufeff' := by
    intro c member
    rw [spaces c member]
    decide
  have outside : (ch == ' ') = false := beq_false_of_ne apart.1
  have spanned := Cursor.span_append (p := (· == ' ')) inside outside rest line column
  have skipped : (Cursor.mk (gap ++ ch :: rest) line column).skipSpaces =
      ⟨ch :: rest, line, column + gap.length⟩ := by
    rw [Cursor.skipSpaces, Cursor.skip, spanned]
  have comment : (Cursor.mk (ch :: rest) line (column + gap.length)).skipComment =
      ⟨ch :: rest, line, column + gap.length⟩ :=
    if_neg fun same => apart.2.1 (Option.some.inj same)
  have stays : (Cursor.mk (ch :: rest) line (column + gap.length)).endsHere = false := apart.2.2
  rw [skipGap, skipped, comment, stays]
  rfl

theorem take_of_awaits {s : State} {base : List Token} (awaits : s.AwaitsValue base)
    {gap : List Char} (spaces : ∀ c ∈ gap, c = ' ') {ch : Char}
    (apart : ch ≠ ' ' ∧ ch ≠ '#' ∧ isBreak ch = false) (rest : List Char) :
    take (s.reading (gap ++ ch :: rest)) =
      takeHere (s.move ⟨ch :: rest, s.here.line, s.here.column + gap.length⟩) := by
  have block : (s.reading (gap ++ ch :: rest)).flow = 0 := awaits.block
  have noKeys := awaits.noKeys
  rw [take, toNextToken_eq block]
  obtain ⟨here, flow, indent, indents, allowKey, keys, done, count, finished⟩ := s
  dsimp only at noKeys
  subst noKeys
  dsimp only [State.reading, State.move]
  rw [skipGap_of_spaces spaces apart, Bool.or_false]
  rfl

theorem takeHere_of_digit {s : State} (block : s.flow = 0) (deeper : s.indent < s.here.column)
    {ch : Char} {rest : List Char} (here : s.here.rest = ch :: rest) (digit : ch.isDigit = true) :
    takeHere s = takePlain s := by
  have other (mark : Char) (no : mark.isDigit = false) : ch ≠ mark := ne_of_isDigit digit no
  have noMarker : s.here.atMarker = false := by
    rw [Cursor.atMarker, here]
    split
    · rename_i same
      exact absurd (List.cons.inj same).1 (other '-' (by decide))
    · rename_i same
      exact absurd (List.cons.inj same).1 (other '.' (by decide))
    · rfl
  have starts : startsPlain false ch rest.head? = true := by
    have ofDate : isDateChar ch = true := by simp [isDateChar, digit]
    have noMark : ch ∉ marks := by
      intro mark
      have apart : marks.all (!Char.isDigit ·) = true := by decide
      exact ne_of_isDigit digit (by simpa using List.all_eq_true.mp apart ch mark) rfl
    simp [startsPlain, isGap_of_isDateChar ofDate, noMark]
  rw [takeHere, unwind_of_deeper deeper]
  dsimp only
  rw [here]
  simp only [noMarker, block, starts, other '%' (by decide), other '[' (by decide),
    other '\x7b' (by decide), other ']' (by decide), other '\x7d' (by decide),
    other ',' (by decide), other '-' (by decide), other '?' (by decide), other ':' (by decide),
    other '*' (by decide), other '&' (by decide), other '!' (by decide), other '|' (by decide),
    other '>' (by decide), other '\'' (by decide), other '"' (by decide),
    Bool.false_eq_true, false_and, and_false, if_false, gt_iff_lt, Nat.lt_irrefl, decide_false,
    if_true]

theorem takeHere_of_quoteMark {s : State} (block : s.flow = 0)
    (deeper : s.indent < s.here.column) {double : Bool} {rest : List Char}
    (here : s.here.rest = quoteMark double :: rest) : takeHere s = takeQuoted s double := by
  have noMarker : s.here.atMarker = false := by
    rw [Cursor.atMarker, here]
    cases double <;> rfl
  rw [takeHere, unwind_of_deeper deeper]
  dsimp only
  rw [here]
  cases double <;> simp [quoteMark, noMarker, block]

theorem saveKey_of_keyed {s : State} (keyed : s.allowKey = false) : s.saveKey = .ok s := by
  rw [State.saveKey, keyed]
  rfl

section Date

variable {s : State} {base : List Token} {gap after : List Char} {d : Date} {double : Bool}

/-- The state behind a date without quotes, which ends at a place. -/
def State.behindPlain (s : State) (d : Date) (c : Cursor) : State :=
  ({ s with allowKey := (plainGap c).2.2 }.move (plainGap c).2.1).emit (.scalar d.iso true)

/-- The state behind a date in quotes. -/
def State.behindQuotes (s : State) (d : Date) (c : Cursor) : State :=
  ({ s with allowKey := false }.move c).emit (.scalar d.iso false)

theorem takePlain_iso (awaits : s.AwaitsValue base) (spaces : ∀ c ∈ gap, c = ' ')
    (scalar : (plain false (s.indent + 1)
      ⟨d.iso.toList ++ after, s.here.line, s.here.column + gap.length⟩).1 = d.iso.toList) :
    take (s.reading (plainly gap d after)) =
      .ok (s.behindPlain d ⟨after, s.here.line, s.here.column + gap.length + 10⟩) := by
  obtain ⟨ch, rest, chars, digit⟩ := exists_cons_of_iso d
  have ofDate : isDateChar ch = true := by simp [isDateChar, digit]
  have apart : ch ≠ ' ' ∧ ch ≠ '#' ∧ isBreak ch = false :=
    ⟨ne_of_isDateChar ofDate (by decide), ne_of_isDateChar ofDate (by decide),
      isBreak_of_isDateChar ofDate⟩
  have deeper : (s.indent : Int) < (s.here.column + gap.length : Nat) := by
    have := awaits.deeper
    omega
  have read := plain_iso scalar
  have text : String.ofList (ch :: rest) = d.iso := by rw [← chars, String.ofList_toList]
  rw [plainly, chars, List.cons_append, take_of_awaits awaits spaces apart]
  rw [chars, List.cons_append] at read
  generalize at_ : Cursor.mk (ch :: (rest ++ after)) s.here.line (s.here.column + gap.length) = c
    at read
  have here : takeHere (s.move c) = takePlain (s.move c) := by
    subst at_
    exact takeHere_of_digit awaits.block deeper rfl digit
  have saved : (s.move c).saveKey = .ok (s.move c) := saveKey_of_keyed awaits.keyed
  have block : (decide ((s.move c).flow > 0)) = false := by
    simp [State.move, awaits.block]
  rw [here, takePlain, saved, Composition.ok_bind, block]
  dsimp only [State.move]
  rw [read, State.behindPlain, ← text]
  rfl

theorem takeQuoted_iso (awaits : s.AwaitsValue base) (spaces : ∀ c ∈ gap, c = ' ')
    (apart : after.head? ≠ some '\'') :
    take (s.reading (inQuotes double gap d after)) =
      .ok (s.behindQuotes d ⟨after, s.here.line, s.here.column + gap.length + 12⟩) := by
  have other : quoteMark double ≠ ' ' ∧ quoteMark double ≠ '#' ∧
      isBreak (quoteMark double) = false := by
    cases double <;> decide
  have deeper : (s.indent : Int) < (s.here.column + gap.length : Nat) := by
    have := awaits.deeper
    omega
  have read := quoted_iso double d s.here.line (s.here.column + gap.length) apart
  rw [inQuotes, take_of_awaits awaits spaces other]
  generalize at_ : Cursor.mk (quoteMark double :: (d.iso.toList ++ quoteMark double :: after))
    s.here.line (s.here.column + gap.length) = c at read
  have here : takeHere (s.move c) = takeQuoted (s.move c) double := by
    subst at_
    exact takeHere_of_quoteMark (s := s.move ⟨_, s.here.line, s.here.column + gap.length⟩)
      awaits.block deeper rfl
  have saved : (s.move c).saveKey = .ok (s.move c) := saveKey_of_keyed awaits.keyed
  rw [here, takeQuoted, saved, Composition.ok_bind]
  dsimp only [State.move]
  rw [read, Composition.ok_bind, String.ofList_toList]
  rfl

/-- **Behind the date, the next token is taken alike**, if the gap in front of it ends in the same
place. -/
theorem take_behind (awaits : s.AwaitsValue base) {c c' : Cursor} (same : gapEnd c' = gapEnd c) :
    Matches (Twin d true false base) (take (s.behindPlain d c)) (take (s.behindQuotes d c')) := by
  obtain ⟨place, broke⟩ := gapEnd_plainGap c
  have plainly : (s.behindPlain d c).toNextToken ((s.behindPlain d c).here.rest.length + 1) =
      { s.behindPlain d c with here := (gapEnd c).1, allowKey := (gapEnd c).2 } := by
    rw [toNextToken_eq (by exact awaits.block), ← place, ← broke]
    rfl
  have inQuotes : (s.behindQuotes d c').toNextToken ((s.behindQuotes d c').here.rest.length + 1) =
      { s.behindQuotes d c' with here := (gapEnd c).1, allowKey := (gapEnd c).2 } := by
    rw [toNextToken_eq (by exact awaits.block), ← same]
    rfl
  rw [take, take, plainly, inQuotes]
  refine (Twin.dropStale ?_).bind fun _ _ twin => twin.takeHere
  obtain ⟨here, flow, indent, indents, allowKey, keys, done, count, finished⟩ := s
  obtain ⟨rfl, rfl, -, -, rfl, -, -⟩ := awaits
  exact @Twin.twin d true false base _ [] rfl (Nat.zero_add (base.length + 2)).symm nofun

/-- **A run that takes a date is the same with quotes and without**, if it comes to its end. -/
theorem run_date (awaits : s.AwaitsValue base) (spaces : ∀ c ∈ gap, c = ' ')
    (scalar : (plain false (s.indent + 1)
      ⟨d.iso.toList ++ after, s.here.line, s.here.column + gap.length⟩).1 = d.iso.toList)
    (ends : endsItsLine after = true) {fuel fuel' : Nat} (more : fuel ≤ fuel')
    (whole : (run fuel (s.reading (plainly gap d after))).fault = none) :
    Requoted (run fuel (s.reading (plainly gap d after))).tokens
        (run fuel' (s.reading (inQuotes double gap d after))).tokens ∧
      (run fuel' (s.reading (inQuotes double gap d after))).fault = none := by
  have next := take_behind (d := d) awaits (gapEnd_of_endsItsLine ends s.here.line
    (s.here.column + gap.length + 12) (s.here.column + gap.length + 10))
  -- Both take the date as their next token; behind the one after it they are twins.
  have read := takePlain_iso awaits spaces scalar
  have apart := apart_of_endsItsLine ends
  have read' : take (s.reading (inQuotes double gap d after)) = .ok _ :=
    takeQuoted_iso awaits spaces apart
  have goesOn (text : List Char) : (s.reading text).finished = false := awaits.unfinished
  match fuel, fuel' with
  | 0, _ => cases whole
  | fuel + 1, 0 => omega
  | 1, _ + 1 =>
      rw [run_of_take (goesOn _) read] at whole
      cases whole
  | _ + 2, 1 => omega
  | fuel + 2, fuel' + 2 =>
      rw [run_of_take (goesOn _) read] at whole ⊢
      rw [run_of_take (goesOn _) read']
      exact run_step awaits.unfinished awaits.unfinished next
        (fun u u' twin => run_twin twin (by omega)) whole

end Date

/-! ## Runs up to a date -/

/-- The state after a number of tokens, if there are so many. -/
def State.after : (n : Nat) → State → Option State
  | 0, s => some s
  | n + 1, s => if s.finished then none else (take s).toOption.bind (State.after n)

theorem exists_take_of_after_succ {s u : State} {n : Nat} (arrives : s.after (n + 1) = some u) :
    s.finished = false ∧ ∃ next, take s = .ok next ∧ next.after n = some u := by
  rw [State.after] at arrives
  split at arrives
  · cases arrives
  · rename_i goesOn
    obtain ⟨next, taken, arrives⟩ := Option.bind_eq_some_iff.mp arrives
    exact ⟨Bool.eq_false_iff.mpr goesOn, next, ok_of_toOption_eq_some taken, arrives⟩

theorem run_of_after {s u : State} {n : Nat} (arrives : s.after n = some u) (left : Nat) :
    run (left + n) s = run left u := by
  induction n generalizing s with
  | zero =>
      cases arrives
      rfl
  | succ n ih =>
      obtain ⟨goesOn, next, taken, arrives⟩ := exists_take_of_after_succ arrives
      rw [← Nat.add_assoc, run_of_take goesOn taken, ih arrives]

theorem le_of_after {s u : State} {n fuel : Nat} (arrives : s.after n = some u)
    (whole : (run fuel s).fault = none) : n ≤ fuel := by
  induction n generalizing s fuel with
  | zero => exact Nat.zero_le fuel
  | succ n ih =>
      obtain ⟨goesOn, next, taken, arrives⟩ := exists_take_of_after_succ arrives
      cases fuel with
      | zero => cases whole
      | succ fuel =>
          rw [run_of_take goesOn taken] at whole
          exact Nat.succ_le_succ (ih arrives whole)

end Lexer

/-! ## Texts -/

/-- **A date that ends its line may have quotes or not.** -/
theorem sameButQuotes_of_line {before gap after : List Char} {d : Date} {double : Bool} {n : Nat}
    {s : Lexer.State} {base : List Token} (awaits : s.AwaitsValue base)
    (arrives : (Lexer.start (before ++ plainly gap d after)).after n =
      some (s.reading (plainly gap d after)))
    (arrives' : (Lexer.start (before ++ inQuotes double gap d after)).after n =
      some (s.reading (inQuotes double gap d after)))
    (spaces : ∀ c ∈ gap, c = ' ')
    (scalar : (plain false (s.indent + 1)
      ⟨d.iso.toList ++ after, s.here.line, s.here.column + gap.length⟩).1 = d.iso.toList)
    (ends : Lexer.endsItsLine after = true)
    (whole : (tokenize (before ++ plainly gap d after)).fault = none) :
    SameButQuotes (before ++ plainly gap d after) (before ++ inQuotes double gap d after) := by
  obtain ⟨left, fuel⟩ := Nat.exists_eq_add_of_le' (Lexer.le_of_after arrives whole)
  -- The text with the quotes is longer by them, and so is the fuel of its scanner.
  have more : (before ++ inQuotes double gap d after).length + 2 = left + 2 + n := by
    simp only [plainly, inQuotes, List.length_append, List.length_cons] at fuel ⊢
    omega
  have read := Lexer.run_of_after arrives left
  have read' := Lexer.run_of_after arrives' (left + 2)
  rw [tokenize, fuel, read] at whole
  obtain ⟨tokens, fault⟩ := @Lexer.run_date s base gap after d double awaits spaces scalar ends
    left (left + 2) (Nat.le_add_right left 2) whole
  refine ⟨?_, ?_, ?_⟩
  · have quote : isAllowed (quoteMark double) = true := by
      cases double <;> decide
    simp only [plainly, inQuotes, List.all_append, List.all_cons, quote, Bool.true_and]
  · rw [tokenize, tokenize, fuel, more, read, read']
    exact tokens
  · rw [tokenize, tokenize, fuel, more, read, read', whole, fault]

end Overdue.Document
