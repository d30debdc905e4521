import Overdue.Source.Token
import Overdue.Unicode.Identifier
import Overdue.Unicode.Printable

/-!
# Cutting a source file into tokens

`tokenize` reads a text whose lines end in line feeds. A step takes a line's indentation, a blank, a
comment, a line joint or one token off the text. Indentation is measured in columns twice, with tab
stops at every eighth and at every column; the two measures have to agree on what is deeper.
-/
namespace Overdue.Source

namespace Lexer

/-- An open bracket and its line. -/
structure Bracket where
  opening : Char
  line : Nat

/-- Where the lexer stands. -/
structure State where
  rest : List Char
  line : Nat
  /-- Whether a new line of the file starts here. -/
  fresh : Bool := true
  /-- The columns of the enclosing blocks, in both measures, innermost first. -/
  blocks : List (Nat × Nat) := [(0, 0)]
  brackets : List Bracket := []

def tabStop : Nat := 8

def maxBlocks : Nat := 100

def maxBrackets : Nat := 200

/-- The outcome of one step. -/
inductive Step
  | tokens (ts : List Token) (next : State)
  | finished (ts : List Token)
  | fault (f : LexicalFault)

def State.innermost (s : State) : Option Nat := s.brackets.head?.map (·.line)

def State.token (s : State) (kind : TokenKind) (lexeme : List Char) : Token :=
  ⟨kind, String.ofList lexeme, s.line, s.brackets.length⟩

/-! ## Indentation -/

/-- A line's indentation: its columns, the columns at its first line joint, and the text behind. -/
structure Margin where
  column : Nat := 0
  alternative : Nat := 0
  joint : Nat := 0
  lines : Nat := 0
  rest : List Char := []

/-- Measures the indentation of a line. A line joint in it goes on in the next line, and needs
one. -/
def margin (m : Margin) : List Char → Option Margin
  | ' ' :: rest => margin { m with column := m.column + 1, alternative := m.alternative + 1 } rest
  | '\t' :: rest =>
    margin { m with column := (m.column / tabStop + 1) * tabStop,
                    alternative := m.alternative + 1 } rest
  | '\x0c' :: rest => margin { m with column := 0, alternative := 0 } rest
  | '\\' :: '\n' :: c :: rest =>
    margin { m with joint := if m.joint = 0 then m.column else m.joint,
                    lines := m.lines + 1 } (c :: rest)
  | '\\' :: _ => none
  | rest => some { m with rest }

/-- Closes blocks that lie deeper than a column. -/
def closeBlocks (column : Nat) : List (Nat × Nat) → Nat × List (Nat × Nat)
  | [] => (0, [])
  | (c, a) :: outer =>
    if column < c ∧ !outer.isEmpty then
      let (n, blocks) := closeBlocks column outer
      (n + 1, blocks)
    else (0, (c, a) :: outer)

/-- Takes the indentation of a line that holds more than blanks and a comment. -/
def indent (s : State) (m : Margin) : Step :=
  let column := if m.joint = 0 then m.column else m.joint
  let alternative := if m.joint = 0 then m.alternative else m.joint
  let s := { s with rest := m.rest, fresh := false }
  let wrong : Step := .fault (.layout s.line none)
  match s.blocks with
  | [] => wrong
  | (c, a) :: _ =>
    if column = c then
      if alternative = a then .tokens [] s else wrong
    else if column > c then
      if s.blocks.length ≥ maxBlocks ∨ alternative ≤ a then wrong
      else .tokens [s.token .indent []] { s with blocks := (column, alternative) :: s.blocks }
    else
      match closeBlocks column s.blocks with
      | (n, (c, a) :: outer) =>
        if column = c ∧ alternative = a then
          .tokens (List.replicate n (s.token .dedent [])) { s with blocks := (c, a) :: outer }
        else wrong
      | _ => wrong

/-- Starts a line of the file. -/
def startLine (s : State) : Step :=
  match margin {} s.rest with
  | none => .fault (.layout s.line s.innermost)
  | some m =>
    let blank := match m.rest with
      | '#' :: _ => true
      | '\n' :: _ => true
      | _ => false
    if blank then
      -- a line of blanks or a comment is no line of the program
      match m.rest.dropWhile (· != '\n') with
      | _ :: rest => .tokens [] { s with rest, line := s.line + m.lines + 1 }
      | [] => .tokens [] { s with rest := [], line := s.line + m.lines, fresh := false }
    else
      -- behind the last line feed there is no further line
      let s := { s with line := s.line + m.lines - if m.rest.isEmpty then 1 else 0 }
      if s.brackets.isEmpty then indent s m
      else .tokens [] { s with rest := m.rest, fresh := false }

/-! ## Numbers -/

def isNameStart (c : Char) : Bool := c.isAlpha || c == '_' || c.toNat ≥ 128

def isNameChar (c : Char) : Bool := isNameStart c || c.isDigit

def isHexDigit (c : Char) : Bool :=
  c.isDigit || ('a' ≤ c && c ≤ 'f') || ('A' ≤ c && c ≤ 'F')

def isOctalDigit (c : Char) : Bool := '0' ≤ c && c ≤ '7'

def isBinaryDigit (c : Char) : Bool := c == '0' || c == '1'

/-- Groups of digits with single low lines between them; none if a low line ends the groups. -/
def digitGroups (isDigit : Char → Bool) : List Char → Option (List Char × List Char)
  | '_' :: rest =>
    match rest with
    | c :: _ =>
      if isDigit c then (digitGroups isDigit rest).map fun (ds, r) => ('_' :: ds, r) else none
    | [] => none
  | c :: rest =>
    if isDigit c then (digitGroups isDigit rest).map fun (ds, r) => (c :: ds, r)
    else some ([], c :: rest)
  | [] => some ([], [])

/-- Whether a number may end in front of a text: no name may follow, but for the words that join
expressions. -/
def mayEnd : List Char → Bool
  | 'a' :: 'n' :: 'd' :: _ => true
  | 'e' :: 'l' :: 's' :: 'e' :: _ => true
  | 'f' :: 'o' :: 'r' :: _ => true
  | 'i' :: 'f' :: _ => true
  | 'i' :: 'n' :: _ => true
  | 'i' :: 's' :: _ => true
  | 'o' :: 'r' :: _ => true
  | 'n' :: 'o' :: 't' :: _ => true
  | c :: _ => !isNameChar c
  | [] => true

/-- Closes a number: it must be able to end here. -/
def endNumber (lexeme rest : List Char) : Option (List Char × List Char) :=
  if mayEnd rest then some (lexeme, rest) else none

/-- The mark of an imaginary number, or the end. -/
def imaginary (lexeme rest : List Char) : Option (List Char × List Char) :=
  match rest with
  | c :: rest' =>
    if c = 'j' ∨ c = 'J' then endNumber (lexeme ++ [c]) rest' else endNumber lexeme rest
  | [] => endNumber lexeme rest

/-- An exponent, if one follows, and what may stand behind it. -/
def exponent (lexeme rest : List Char) : Option (List Char × List Char) :=
  match rest with
  | e :: rest' =>
    if e = 'e' ∨ e = 'E' then
      match rest' with
      | c :: d :: _ =>
        if c = '+' ∨ c = '-' then
          if d.isDigit then
            match digitGroups Char.isDigit (rest'.drop 1) with
            | some (ds, r) => imaginary (lexeme ++ [e, c] ++ ds) r
            | none => none
          else none
        else if c.isDigit then
          match digitGroups Char.isDigit rest' with
          | some (ds, r) => imaginary (lexeme ++ [e] ++ ds) r
          | none => none
        else endNumber lexeme rest
      | c :: _ =>
        if c = '+' ∨ c = '-' then none
        else if c.isDigit then imaginary (lexeme ++ [e, c]) []
        else endNumber lexeme rest
      | [] => endNumber lexeme rest
    else imaginary lexeme rest
  | [] => imaginary lexeme rest

/-- The digits behind a point, and what may stand behind them. -/
def fraction (lexeme rest : List Char) : Option (List Char × List Char) :=
  match rest with
  | c :: _ =>
    if c.isDigit then
      match digitGroups Char.isDigit rest with
      | some (ds, r) => exponent (lexeme ++ ds) r
      | none => none
    else exponent lexeme rest
  | [] => exponent lexeme rest

/-- What may follow the whole part of a decimal number. -/
def afterWhole (lexeme rest : List Char) : Option (List Char × List Char) :=
  match rest with
  | '.' :: r => fraction (lexeme ++ ['.']) r
  | _ => exponent lexeme rest

/-- The digits of a number in another base: a low line may stand in front of them too. -/
def based (isDigit : Char → Bool) (lead : List Char) (rest : List Char) :
    Option (List Char × List Char) :=
  let (low, body) := match rest with
    | '_' :: r => (['_'], r)
    | r => ([], r)
  match body with
  | c :: _ =>
    if isDigit c then
      match digitGroups isDigit body with
      | some (ds, r) =>
        if (r.head?.map Char.isDigit).getD false then none else endNumber (lead ++ low ++ ds) r
      | none => none
    else none
  | [] => none

/-- A number from its first digit on. A whole number other than zero starts with no zero. -/
def number : List Char → Option (List Char × List Char)
  | '0' :: x :: rest =>
    if x = 'x' ∨ x = 'X' then based isHexDigit ['0', x] rest
    else if x = 'o' ∨ x = 'O' then based isOctalDigit ['0', x] rest
    else if x = 'b' ∨ x = 'B' then based isBinaryDigit ['0', x] rest
    else
      match digitGroups Char.isDigit ('0' :: x :: rest) with
      | none => none
      | some (ds, r) =>
        let plain := match r with
          | '.' :: _ => false
          | c :: _ => !(c = 'e' ∨ c = 'E' ∨ c = 'j' ∨ c = 'J')
          | [] => true
        if plain then
          if ds.all fun c => c = '0' ∨ c = '_' then endNumber ds r else none
        else if ds.any fun c => c != '0' && c != '_' then afterWhole ds r
        else afterWhole ds r
  | s =>
    match digitGroups Char.isDigit s with
    | none => none
    | some (ds, r) => afterWhole ds r

/-! ## Texts -/

/-- The letters that may stand in front of a text, in lower case. -/
def textMarks : List String := ["b", "u", "r", "f", "br", "rb", "fr", "rf"]

/-- The marks in front of a quote, if a text starts here. -/
def textMark? (s : List Char) : Option (List Char × List Char) :=
  let isQuote (c : Option Char) : Bool := c = some '"' || c = some '\''
  if isQuote s.head? then some ([], s)
  else
    let len := if isQuote (s.drop 1).head? then 1 else if isQuote (s.drop 2).head? then 2 else 0
    let mark := s.take len
    if len > 0 ∧ textMarks.contains (String.ofList mark).toLower then some (mark, s.drop len)
    else none

/-- Reads a text up to its closing quotes: `run` closing quotes of `size` were just read. Gives the
characters, the rest and the number of line feeds. -/
def textBody (quote : Char) (size : Nat) : (run : Nat) → List Char →
    Option (List Char × List Char × Nat)
  | run, s =>
    if run = size then some ([], s, 0)
    else match s with
      | [] => none
      | '\\' :: c :: rest =>
        (textBody quote size 0 rest).map fun (cs, r, n) =>
          ('\\' :: c :: cs, r, if c = '\n' then n + 1 else n)
      | c :: rest =>
        if c = quote then (textBody quote size (run + 1) rest).map fun (cs, r, n) => (c :: cs, r, n)
        else if c = '\\' then none
        else if c = '\n' then
          if size = 1 then none
          else (textBody quote size 0 rest).map fun (cs, r, n) => (c :: cs, r, n + 1)
        else (textBody quote size 0 rest).map fun (cs, r, n) => (c :: cs, r, n)
  termination_by _ s => s.length

/-- A text from its opening quote on. -/
def text (s : List Char) : Option (List Char × List Char × Nat) :=
  match s with
  | q :: q1 :: q2 :: rest =>
    if q1 = q ∧ q2 = q then
      (textBody q 3 0 rest).map fun (cs, r, n) => (q :: q :: q :: cs, r, n)
    else if q1 = q then some ([q, q], q2 :: rest, 0)
    else (textBody q 1 0 (q1 :: q2 :: rest)).map fun (cs, r, n) => (q :: cs, r, n)
  | q :: rest => (textBody q 1 0 rest).map fun (cs, r, n) => (q :: cs, r, n)
  | [] => none

/-! ## Punctuation -/

def longPunctuation : List String :=
  ["**=", "//=", ">>=", "<<=", "...", "!=", "%=", "&=", "**", "*=", "+=", "-=", "->", "//", "/=",
    "<<", "<=", "<>", "==", ">=", ">>", "@=", "^=", "|=", ":="]

/-- The longest punctuation at the front; any other character stands for itself. -/
def punctuation (s : List Char) : List Char :=
  match longPunctuation.find? fun p => p.toList.isPrefixOf s with
  | some p => p.toList
  | none => s.take 1

def closes (opening c : Char) : Bool :=
  (opening = '(' ∧ c = ')') ∨ (opening = '[' ∧ c = ']') ∨ (opening = '\x7b' ∧ c = '\x7d')

/-- Takes punctuation; brackets have to nest. -/
def takePunctuation (s : State) : Step :=
  let lexeme := punctuation s.rest
  let after := { s with rest := s.rest.drop lexeme.length }
  let wrong : Step := .fault (.malformed s.line)
  match lexeme with
  | [c] =>
    if c = '(' ∨ c = '[' ∨ c = '\x7b' then
      if s.brackets.length ≥ maxBrackets then wrong
      else
        let after := { after with brackets := ⟨c, s.line⟩ :: s.brackets }
        .tokens [after.token .punctuation lexeme] after
    else if c = ')' ∨ c = ']' ∨ c = '\x7d' then
      match s.brackets with
      | b :: outer =>
        if closes b.opening c then
          let after := { after with brackets := outer }
          .tokens [after.token .punctuation lexeme] after
        else wrong
      | [] => wrong
    else if Unicode.isPrintable c then .tokens [s.token .punctuation lexeme] after
    else wrong
  | _ => .tokens [s.token .punctuation lexeme] after

/-! ## Steps -/

def takeName (s : State) : Step :=
  let name := s.rest.takeWhile isNameChar
  let after := { s with rest := s.rest.dropWhile isNameChar }
  if name.all (·.toNat < 128) || Unicode.isIdentifier name then
    .tokens [s.token (if isKeyword (String.ofList name) then .keyword else .name) name] after
  else .fault (.malformed s.line)

def takeText (s : State) (mark quoted : List Char) : Step :=
  match text quoted with
  | some (lexeme, rest, lines) =>
    .tokens [s.token .text (mark ++ lexeme)] { s with rest, line := s.line + lines }
  | none => .fault (.malformed s.line)

def takeNumber (s : State) : Step :=
  let found := match s.rest with
    | '.' :: r => fraction ['.'] r
    | r => number r
  match found with
  | some (lexeme, rest) => .tokens [s.token .number lexeme] { s with rest }
  | none => .fault (.malformed s.line)

/-- One step within a line. -/
def step (s : State) : Step :=
  match s.rest with
  | [] =>
    match s.innermost with
    | some opened => .fault (.unclosed opened)
    | none =>
      let closing := List.replicate (s.blocks.length - 1) (s.token .dedent [])
      .finished (closing ++ [s.token .finish []])
  | ' ' :: rest => .tokens [] { s with rest }
  | '\t' :: rest => .tokens [] { s with rest }
  | '\x0c' :: rest => .tokens [] { s with rest }
  | '#' :: rest => .tokens [] { s with rest := rest.dropWhile (· != '\n') }
  | '\n' :: rest =>
    let after := { s with rest, line := s.line + 1, fresh := true }
    if s.brackets.isEmpty then .tokens [s.token .newline []] after else .tokens [] after
  | '\\' :: '\n' :: c :: rest => .tokens [] { s with rest := c :: rest, line := s.line + 1 }
  | '\\' :: '\n' :: [] =>
    match s.innermost with
    | some opened => .fault (.unclosed opened)
    | none => .fault (.layout s.line none)
  | '\\' :: _ => .fault (.layout s.line s.innermost)
  | c :: rest =>
    match textMark? s.rest with
    | some (mark, quoted) => takeText s mark quoted
    | none =>
      if isNameStart c then takeName s
      else if c.isDigit || (c = '.' && (rest.head?.map Char.isDigit).getD false) then takeNumber s
      else takePunctuation s

/-- Steps until the text is used up; every second step at the latest takes a character. -/
def run : (fuel : Nat) → State → Array Token → TokenList
  | 0, s, done => ⟨done, some (.malformed s.line)⟩
  | fuel + 1, s, done =>
    match (if s.fresh then startLine s else step s) with
    | .tokens ts next => run fuel next (done ++ ts.toArray)
    | .finished ts => ⟨done ++ ts.toArray, none⟩
    | .fault f => ⟨done, some f⟩

end Lexer

/-- The tokens of a text whose first line has the given number. The last line ends like the
others. -/
def tokenize (line : Nat) (s : List Char) : TokenList :=
  let s := if s.isEmpty || s.getLast? = some '\n' then s else s ++ ['\n']
  Lexer.run (2 * s.length + 4) { rest := s, line } #[]

end Overdue.Source
