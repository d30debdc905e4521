import Overdue.Document.Text
import Overdue.Text.Utf8

/-!
# Cutting a document into tokens

Structure is found by indentation and by brackets. A key may be told only at the colon behind it:
where one may start, its place among the tokens is remembered, and at the colon the marks of a key
and, if it opens one, of a mapping are put in front of it. Such a key has to stay on one line and
within 1024 characters.
-/
namespace Overdue.Document

namespace Lexer

/-- A place where a key may have started. -/
structure PossibleKey where
  /-- How many tokens stand in front of it. -/
  before : Nat
  /-- Whether nothing but a key may stand there. -/
  required : Bool
  /-- How many characters were left to read. -/
  left : Nat
  line : Nat
  column : Nat
deriving DecidableEq

structure State where
  here : Cursor
  /-- How many brackets are open. -/
  flow : Nat := 0
  /-- The column of the innermost block, and those of the blocks around it. -/
  indent : Int := -1
  indents : List Int := []
  /-- Whether a key may start here. -/
  allowKey : Bool := true
  /-- Possible keys by the number of open brackets. -/
  keys : List (Nat × PossibleKey) := []
  /-- The tokens so far, last one first. -/
  done : List Token := []
  count : Nat := 0
  finished : Bool := false
deriving DecidableEq

def maxKeyLength : Nat := 1024

namespace State

def emit (s : State) (t : Token) : State := { s with done := t :: s.done, count := s.count + 1 }

/-- Puts a token in front of those behind the first `before` ones. -/
def insert (s : State) (before : Nat) (t : Token) : State :=
  let behind := s.count - before
  { s with done := s.done.take behind ++ t :: s.done.drop behind, count := s.count + 1 }

def move (s : State) (c : Cursor) : State := { s with here := c }

def step (s : State) (n : Nat := 1) : State := s.move (s.here.advance n)

def key? (s : State) : Option PossibleKey :=
  (s.keys.find? fun (level, _) => level == s.flow).map (·.2)

def dropKeyAt (s : State) (level : Nat) : State :=
  { s with keys := s.keys.filter fun (l, _) => l != level }

/-- Forgets keys that can no longer end: on an earlier line, or too far back. -/
def dropStale (s : State) : Except Fault State :=
  let left := s.here.rest.length
  let stale (k : PossibleKey) : Bool := k.line != s.here.line || k.left - left > maxKeyLength
  if s.keys.any fun (_, k) => stale k && k.required then .error .malformed
  else .ok { s with keys := s.keys.filter fun (_, k) => !stale k }

/-- Forgets the possible key among the open brackets. -/
def dropKey (s : State) : Except Fault State :=
  match s.key? with
  | some k => if k.required then .error .malformed else .ok (s.dropKeyAt s.flow)
  | none => .ok s

/-- Remembers that a key may start here. -/
def saveKey (s : State) : Except Fault State :=
  if s.allowKey then do
    let required := s.flow == 0 && s.indent == (s.here.column : Int)
    let s ← s.dropKey
    return { s with
      keys := (s.flow, ⟨s.count, required, s.here.rest.length, s.here.line, s.here.column⟩) ::
        s.keys }
  else .ok s

/-- Closes the blocks that are indented deeper than a column. -/
def unwindTo (column : Int) : List Int → Int → State → State
  | outer :: rest, indent, s =>
    if indent > column then unwindTo column rest outer (s.emit .blockEnd)
    else { s with indent, indents := outer :: rest }
  | [], indent, s => { s with indent, indents := [] }

def unwind (s : State) (column : Int) : State :=
  if s.flow > 0 then s else unwindTo column s.indents s.indent s

/-- Opens a block at a column that is deeper than the innermost one. -/
def deepen (s : State) (column : Nat) : Bool × State :=
  if s.indent < column then
    (true, { s with indents := s.indent :: s.indents, indent := column })
  else (false, s)

/-- Skips blanks, comments and line ends. Behind a line end, outside of brackets, a key may
start. -/
def toNextToken : (fuel : Nat) → State → State
  | 0, s => s
  | fuel + 1, s =>
    let c := s.here.skipSpaces.skipComment
    if !c.rest.isEmpty && endsLine c.peek then
      toNextToken fuel
        { s with here := c.takeBreak.2, allowKey := s.flow == 0 || s.allowKey }
    else s.move c

end State

/-! ## Directives -/

def number (c : Cursor) : Except Fault (Nat × Cursor) :=
  let (ds, c) := c.span Char.isDigit
  if ds.isEmpty then .error .malformed
  else if ds.length > Numeral.digitLimit then .error (.digits ds.length)
  else .ok (ds.foldl (fun n d => 10 * n + (d.toNat - '0'.toNat)) 0, c)

/-- Octets behind percent signs, as the characters that they encode. -/
def uriEscapes : (fuel : Nat) → (octets : List UInt8) → Cursor →
    Except Fault (List Char × Cursor)
  | 0, _, _ => .error .malformed
  | fuel + 1, octets, c =>
    match c.rest with
    | '%' :: a :: b :: _ =>
      if isHex a && isHex b then
        uriEscapes fuel (octets ++ [(Unicode.hexValue [a, b]).toUInt8]) (c.advance 3)
      else .error .malformed
    | '%' :: _ => .error .malformed
    | _ =>
      match Utf8.decode octets with
      | .ok s => .ok (s, c)
      | .error _ => .error .malformed

def isUriChar (c : Char) : Bool := c.isAlphanum || "-;/?:@&=+$,_.!~*'()[]".toList.contains c

/-- The name of a tag; it may not be empty. -/
def uri : (fuel : Nat) → (text : List Char) → Cursor → Except Fault (List Char × Cursor)
  | 0, _, _ => .error .malformed
  | fuel + 1, text, c =>
    match c.peek with
    | some '%' =>
      match uriEscapes (c.rest.length + 1) [] c with
      | .error f => .error f
      | .ok (s, c) => uri fuel (text ++ s) c
    | some ch =>
      if isUriChar ch then uri fuel (text ++ [ch]) c.next
      else if text.isEmpty then .error .malformed else .ok (text, c)
    | none => if text.isEmpty then .error .malformed else .ok (text, c)

def tagUri (c : Cursor) : Except Fault (List Char × Cursor) := uri (c.rest.length + 1) [] c

/-- The handle of a tag: one exclamation mark, or a word between two of them. -/
def tagHandle (c : Cursor) : Except Fault (List Char × Cursor) :=
  if c.peek != some '!' then .error .malformed
  else if c.peekAt 1 = some ' ' then .ok (['!'], c.next)
  else
    let (word, c) := c.next.span isWordChar
    if c.peek = some '!' then .ok ('!' :: word ++ ['!'], c.next) else .error .malformed

/-- The end of a directive's line. -/
def endDirective (c : Cursor) : Except Fault Cursor :=
  let c := c.skipSpaces.skipComment
  if endsLine c.peek then .ok c.takeBreak.2 else .error .malformed

/-- A directive, from its percent sign on. -/
def directive (c : Cursor) : Except Fault (Token × Cursor) := do
  let (name, c) := c.next.span isWordChar
  if name.isEmpty || !endsWord c.peek then .error .malformed
  else if name = "YAML".toList then
    let (major, c) ← number c.skipSpaces
    if c.peek != some '.' then .error .malformed
    else
      let (_, c) ← number c.next
      if !endsWord c.peek then .error .malformed
      else return (.version major, ← endDirective c)
  else if name = "TAG".toList then
    let (handle, c) ← tagHandle c.skipSpaces
    if c.peek != some ' ' then .error .malformed
    else
      let (text, c) ← tagUri c.skipSpaces
      if !endsWord c.peek then .error .malformed
      else return (.tagHandle (String.ofList handle) (String.ofList text), ← endDirective c)
  else return (.otherDirective, ← endDirective (c.skip (!isBreak ·)))

/-! ## Properties of nodes -/

/-- What may follow the name of an anchor. -/
def endsAnchor (c : Option Char) : Bool :=
  isGap c || ((c.map "?:,]\x7d%@`".toList.contains).getD false)

/-- The name of an anchor or alias, from its mark on. -/
def anchorName (c : Cursor) : Except Fault (String × Cursor) :=
  let (name, c) := c.next.span isWordChar
  if name.isEmpty || !endsAnchor c.peek then .error .malformed
  else .ok (String.ofList name, c)

/-- A tag, from its exclamation mark on. -/
def tag (c : Cursor) : Except Fault (Token × Cursor) := do
  let (handle, suffix, c) ← (
    if c.peekAt 1 = some '<' then do
      let (suffix, c) ← tagUri (c.advance 2)
      if c.peek = some '>' then return (none, suffix, c.next) else .error .malformed
    else if isGap (c.peekAt 1) then return (none, ['!'], c.next)
    else do
      let word := c.next.rest.takeWhile fun ch => !(ch == ' ' || isBreak ch || ch == '!')
      let (handle, c) ←
        if (c.next.rest.drop word.length).head? = some '!' then tagHandle c
        else .ok (['!'], c.next)
      let (suffix, c) ← tagUri c
      return (some handle, suffix, c))
  if endsWord c.peek then
    return (.tag (handle.map String.ofList) (String.ofList suffix), c)
  else .error .malformed

/-! ## Steps -/

/-- A mark that stands for itself. -/
def mark (s : State) (t : Token) : State := s.step.emit t

def openBracket (s : State) (t : Token) : Except Fault State := do
  let s ← s.saveKey
  return mark { s with flow := s.flow + 1, allowKey := true } t

def closeBracket (s : State) (t : Token) : Except Fault State := do
  let s ← s.dropKey
  if s.flow = 0 then .error .malformed
  else return mark { s with flow := s.flow - 1, allowKey := false } t

/-- The mark of a document's start or end. -/
def marker (s : State) (t : Token) : Except Fault State := do
  let s ← (s.unwind (-1)).dropKey
  return ({ s with allowKey := false }.step 3).emit t

/-- Opens a block for an entry or a key that stands here. -/
def openBlock (s : State) (t : Token) : Except Fault State :=
  if s.flow > 0 then .ok s
  else if !s.allowKey then .error .malformed
  else
    let (deeper, s) := s.deepen s.here.column
    .ok (if deeper then s.emit t else s)

def entry (s : State) : Except Fault State := do
  let s ← openBlock s .blockSequence
  let s ← { s with allowKey := true }.dropKey
  return mark s .entry

def explicitKey (s : State) : Except Fault State := do
  let s ← openBlock s .blockMapping
  let s ← { s with allowKey := s.flow == 0 }.dropKey
  return mark s .key

def value (s : State) : Except Fault State :=
  match s.key? with
  | some k =>
    let s := (s.dropKeyAt s.flow).insert k.before .key
    let s :=
      if s.flow > 0 then s
      else
        let (deeper, s) := s.deepen k.column
        if deeper then s.insert k.before .blockMapping else s
    .ok (mark { s with allowKey := false } .value)
  | none => do
    let s ← openBlock s .blockMapping
    let s ← { s with allowKey := s.flow == 0 }.dropKey
    return mark s .value

def takeAnchor (s : State) (token : String → Token) : Except Fault State := do
  let s ← s.saveKey
  let (name, c) ← anchorName s.here
  return ({ s with allowKey := false }.move c).emit (token name)

def takeTag (s : State) : Except Fault State := do
  let s ← s.saveKey
  let (t, c) ← tag s.here
  return ({ s with allowKey := false }.move c).emit t

def takeQuoted (s : State) (double : Bool) : Except Fault State := do
  let s ← s.saveKey
  let (text, c) ← quoted double s.here
  return ({ s with allowKey := false }.move c).emit (.scalar (String.ofList text) false)

def takeBlock (s : State) (folded : Bool) : Except Fault State := do
  let s ← { s with allowKey := true }.dropKey
  let (text, c) ← block folded s.indent s.here
  return (s.move c).emit (.scalar (String.ofList text) false)

def takePlain (s : State) : Except Fault State := do
  let s ← s.saveKey
  let (text, c, broke) := plain (s.flow > 0) (s.indent + 1) s.here
  return ({ s with allowKey := broke }.move c).emit (.scalar (String.ofList text) true)

def takeDirective (s : State) : Except Fault State := do
  let s ← (s.unwind (-1)).dropKey
  let (t, c) ← directive s.here
  return ({ s with allowKey := false }.move c).emit t

def finish (s : State) : Except Fault State := do
  let s ← (s.unwind (-1)).dropKey
  return { s with allowKey := false, keys := [], finished := true }.emit .finish

/-- Characters that no plain scalar starts with. -/
def marks : List Char := "-?:,[]\x7b\x7d#&*!|>'\"%@`".toList

/-- Whether a plain scalar starts here. -/
def startsPlain (flow : Bool) (c : Char) (after : Option Char) : Bool :=
  (!isGap (some c) && !marks.contains c) ||
    (!isGap after && (c == '-' || (!flow && (c == '?' || c == ':'))))

/-- Takes the token that stands here. -/
def takeHere (s : State) : Except Fault State :=
  let s := s.unwind s.here.column
  let c := s.here
  let inFlow : Bool := s.flow > 0
  match c.rest with
  | [] => finish s
  | ch :: rest =>
    let gap := isGap rest.head?
    if ch = '%' ∧ c.column = 0 then takeDirective s
    else if c.column = 0 ∧ c.atMarker then
      marker s (if ch = '-' then .documentStart else .documentEnd)
    else if ch = '[' then openBracket s .openSequence
    else if ch = '\x7b' then openBracket s .openMapping
    else if ch = ']' then closeBracket s .closeSequence
    else if ch = '\x7d' then closeBracket s .closeMapping
    else if ch = ',' then do
      let s ← { s with allowKey := true }.dropKey
      return mark s .comma
    else if ch = '-' ∧ gap then entry s
    else if ch = '?' ∧ (inFlow ∨ gap) then explicitKey s
    else if ch = ':' ∧ (inFlow ∨ gap) then value s
    else if ch = '*' then takeAnchor s .alias
    else if ch = '&' then takeAnchor s .anchor
    else if ch = '!' then takeTag s
    else if ch = '|' ∧ !inFlow then takeBlock s false
    else if ch = '>' ∧ !inFlow then takeBlock s true
    else if ch = '\'' then takeQuoted s false
    else if ch = '"' then takeQuoted s true
    else if startsPlain inFlow ch rest.head? then takePlain s
    else .error .malformed

/-- Takes the next token. -/
def take (s : State) : Except Fault State := do
  takeHere (← (s.toNextToken (s.here.rest.length + 1)).dropStale)

def run : (fuel : Nat) → State → TokenList
  | 0, s => ⟨s.done.reverse, some .malformed⟩
  | fuel + 1, s =>
    if s.finished then ⟨s.done.reverse, none⟩
    else match take s with
      | .ok s => run fuel s
      | .error f => ⟨s.done.reverse, some f⟩

/-- The start of a text. A byte order mark in front of it is skipped. -/
def start (s : List Char) : State :=
  let c : Cursor := { rest := s }
  { here := if s.head? = some '\ufeff' then c.next else c }

end Lexer

/-- The tokens of a text. -/
def tokenize (s : List Char) : TokenList := Lexer.run (s.length + 2) (Lexer.start s)

end Overdue.Document
