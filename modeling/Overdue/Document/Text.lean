import Overdue.Document.Cursor
import Overdue.Document.Token
import Overdue.Unicode.Decimal

/-!
# Scalars in a document's text

The four written forms of a scalar: plain, in quotes, and as a block that keeps or folds its lines.
Every reader gives the text and the place behind it.
-/
namespace Overdue.Document

/-! ## Plain -/

def flowMarks : List Char := [',', '?', '[', ']', '\x7b', '\x7d']

/-- Whether a colon in front of this ends a plain scalar. -/
def endsKey (flow : Bool) (after : List Char) : Bool :=
  isGap after.head? ||
    (flow && ((after.head?.map [',', '[', ']', '\x7b', '\x7d'].contains).getD false))

/-- The part of a plain scalar up to the next gap. -/
def plainRun (flow : Bool) : List Char → List Char
  | [] => []
  | c :: rest =>
    if isGap (some c) || (c == ':' && endsKey flow rest) || (flow && flowMarks.contains c) then []
    else c :: plainRun flow rest

/-- Line ends and spaces behind the first line end of a plain scalar; none at the marker of a
document. -/
def plainBreaks : (fuel : Nat) → Cursor → Option (List Char) × Cursor
  | 0, c => (some [], c)
  | fuel + 1, c =>
    match c.peek with
    | some ch =>
      if ch = ' ' then plainBreaks fuel c.next
      else if isBreak ch then
        let (br, c) := c.takeBreak
        if c.atMarker then (none, c)
        else
          let (more, c) := plainBreaks fuel c
          (more.map (br ++ ·), c)
      else (some [], c)
    | none => (some [], c)

/-- The gap behind a part of a plain scalar: what it counts for if the scalar goes on, and whether
a line ended in it. -/
def plainGap (c : Cursor) : List Char × Cursor × Bool :=
  let (spaces, c) := c.span (· == ' ')
  if !c.rest.isEmpty && endsLine c.peek then
    let (br, c) := c.takeBreak
    if c.atMarker then ([], c, true)
    else
      let (breaks, c) := plainBreaks (c.rest.length + 1) c
      match breaks with
      | none => ([], c, true)
      | some breaks =>
        ((if br != ['\n'] then br else if breaks.isEmpty then [' '] else []) ++ breaks, c, true)
  else (spaces, c, false)

/-- Reads on in a plain scalar. The last part of the answer says whether its last gap held the end
of a line. -/
def plainFrom (flow : Bool) (indent : Int) : (fuel : Nat) → (text gap : List Char) →
    (broke : Bool) → Cursor → List Char × Cursor × Bool
  | 0, text, _, broke, c => (text, c, broke)
  | fuel + 1, text, gap, broke, c =>
    if c.peek = some '#' then (text, c, broke)
    else
      let run := plainRun flow c.rest
      if run.isEmpty then (text, c, broke)
      else
        let text := text ++ gap ++ run
        let (gap, c, broke) := plainGap (c.advance run.length)
        if gap.isEmpty || c.peek = some '#' || (!flow && (c.column : Int) < indent) then
          (text, c, broke)
        else plainFrom flow indent fuel text gap broke c

def plain (flow : Bool) (indent : Int) (c : Cursor) : List Char × Cursor × Bool :=
  plainFrom flow indent (c.rest.length + 1) [] [] false c

/-! ## In quotes -/

/-- What a character behind a backslash stands for. -/
def escaped? : Char → Option Char
  | '0' => some '\x00'
  | 'a' => some '\x07'
  | 'b' => some '\x08'
  | 't' => some '\t'
  | '\t' => some '\t'
  | 'n' => some '\n'
  | 'v' => some '\x0b'
  | 'f' => some '\x0c'
  | 'r' => some '\r'
  | 'e' => some '\x1b'
  | ' ' => some ' '
  | '"' => some '"'
  | '\\' => some '\\'
  | '/' => some '/'
  | 'N' => some '\x85'
  | '_' => some '\xa0'
  | 'L' => some '\u2028'
  | 'P' => some '\u2029'
  | _ => none

/-- How many digits follow a letter that names a character by its code. -/
def codeWidth? : Char → Option Nat
  | 'x' => some 2
  | 'u' => some 4
  | 'U' => some 8
  | _ => none

def isHex (c : Char) : Bool :=
  c.isDigit || ('a' ≤ c && c ≤ 'f') || ('A' ≤ c && c ≤ 'F')

/-- The character of a code. A text holds characters only, so that a surrogate, which an escape may
name, becomes the replacement character, and two of them cannot be told apart. -/
def charOfCode (n : Nat) : Except Fault Char :=
  if n > 0x7FFFFFFF then .error .tooLarge
  else if n > 0x10FFFF then .error .escape
  else if 0xD800 ≤ n ∧ n ≤ 0xDFFF then .ok '\ufffd'
  else .ok (Char.ofNat n)

/-- Skips line ends and what indents lines between the quotes. -/
def quotedBreaks : (fuel : Nat) → Cursor → Except Fault (List Char × Cursor)
  | 0, c => .ok ([], c)
  | fuel + 1, c =>
    if c.atMarker then .error .malformed
    else
      let c := c.skip fun ch => ch == ' ' || ch == '\t'
      if !c.rest.isEmpty && endsLine c.peek then do
        let (br, c) := c.takeBreak
        let (more, c) ← quotedBreaks fuel c
        return (br ++ more, c)
      else .ok ([], c)

/-- An escape, from behind the backslash on. -/
def quotedEscape (c : Cursor) : Except Fault (List Char × Cursor) :=
  match c.peek with
  | none => .error .malformed
  | some ch =>
    match escaped? ch, codeWidth? ch with
    | some e, _ => .ok ([e], c.next)
    | none, some width =>
      let digits := (c.next.rest.take width)
      if digits.length < width || !digits.all isHex then .error .malformed
      else do
        let e ← charOfCode (Unicode.hexValue digits)
        return ([e], c.next.advance width)
    | none, none =>
      if isBreak ch then
        let (_, c) := c.takeBreak
        quotedBreaks (c.rest.length + 1) c
      else .error .malformed

/-- The gap between two words in quotes. -/
def quotedGap (c : Cursor) : Except Fault (List Char × Cursor) :=
  let (spaces, c) := c.span fun ch => ch == ' ' || ch == '\t'
  if c.rest.isEmpty then .error .malformed
  else if endsLine c.peek then do
    let (br, c) := c.takeBreak
    let (breaks, c) ← quotedBreaks (c.rest.length + 1) c
    let first := if br != ['\n'] then br else if breaks.isEmpty then [' '] else []
    return (first ++ breaks, c)
  else .ok (spaces, c)

/-- Reads on between quotes, up to the closing one. -/
def quotedFrom (double : Bool) : (fuel : Nat) → (text : List Char) → Cursor →
    Except Fault (List Char × Cursor)
  | 0, _, _ => .error .malformed
  | fuel + 1, text, c =>
    match c.rest with
    | [] => .error .malformed
    | '\'' :: after =>
      if double then quotedFrom double fuel (text ++ ['\'']) c.next
      else if after.head? = some '\'' then quotedFrom double fuel (text ++ ['\'']) (c.advance 2)
      else .ok (text, c.next)
    | '"' :: _ =>
      if double then .ok (text, c.next) else quotedFrom double fuel (text ++ ['"']) c.next
    | '\\' :: _ =>
      if double then
        match quotedEscape c.next with
        | .error f => .error f
        | .ok (s, c) => quotedFrom double fuel (text ++ s) c
      else quotedFrom double fuel (text ++ ['\\']) c.next
    | ch :: _ =>
      if isGap (some ch) then
        match quotedGap c with
        | .error f => .error f
        | .ok (s, c) => quotedFrom double fuel (text ++ s) c
      else
        let (run, c) := c.span fun ch =>
          !(isGap (some ch) || ch == '\'' || ch == '"' || ch == '\\')
        quotedFrom double fuel (text ++ run) c

/-- A scalar in quotes, from its opening quote on. -/
def quoted (double : Bool) (c : Cursor) : Except Fault (List Char × Cursor) :=
  quotedFrom double (c.rest.length + 1) [] c.next

/-! ## Blocks -/

/-- What a block does with the line ends at its end. -/
inductive Chomping
  | strip
  | clip
  | keep
deriving DecidableEq

def chomping? : Option Char → Option Chomping
  | some '+' => some .keep
  | some '-' => some .strip
  | _ => none

def digit? : Option Char → Option Nat
  | some c => if c.isDigit then some (c.toNat - '0'.toNat) else none
  | none => none

/-- The head of a block: chomping and indentation in either order, each perhaps absent. -/
def blockHead (c : Cursor) : Except Fault (Chomping × Option Nat × Cursor) :=
  let read (chomping : Chomping) (indent : Option Nat) (c : Cursor) :
      Except Fault (Chomping × Option Nat × Cursor) :=
    if indent = some 0 then .error .malformed
    else if !endsWord c.peek then .error .malformed
    else
      let c := c.skipSpaces.skipComment
      if endsLine c.peek then .ok (chomping, indent, c.takeBreak.2) else .error .malformed
  match chomping? c.peek with
  | some ch =>
    match digit? c.next.peek with
    | some n => read ch (some n) (c.advance 2)
    | none => read ch none c.next
  | none =>
    match digit? c.peek with
    | some n =>
      match chomping? c.next.peek with
      | some ch => if n = 0 then .error .malformed else read ch (some n) (c.advance 2)
      | none => read .clip (some n) c.next
    | none => read .clip none c

/-- Blank lines in front of a block whose indentation is not given, and the widest column in
them. -/
def blockIndentation : (fuel : Nat) → (breaks : List Char) → (widest : Nat) → Cursor →
    List Char × Nat × Cursor
  | 0, breaks, widest, c => (breaks, widest, c)
  | fuel + 1, breaks, widest, c =>
    match c.peek with
    | some ch =>
      if ch = ' ' then
        let c := c.next
        blockIndentation fuel breaks (max widest c.column) c
      else if isBreak ch then
        let (br, c) := c.takeBreak
        blockIndentation fuel (breaks ++ br) widest c
      else (breaks, widest, c)
    | none => (breaks, widest, c)

/-- Skips spaces up to a column. -/
def skipIndent (indent : Nat) : (fuel : Nat) → Cursor → Cursor
  | 0, c => c
  | fuel + 1, c =>
    if c.column < indent ∧ c.peek = some ' ' then skipIndent indent fuel c.next else c

/-- Blank lines in a block. -/
def blockBreaks (indent : Nat) : (fuel : Nat) → (breaks : List Char) → Cursor →
    List Char × Cursor
  | 0, breaks, c => (breaks, c)
  | fuel + 1, breaks, c =>
    let c := skipIndent indent (indent + 1) c
    match c.peek with
    | some ch =>
      if isBreak ch then
        let (br, c) := c.takeBreak
        blockBreaks indent fuel (breaks ++ br) c
      else (breaks, c)
    | none => (breaks, c)

def isSpaceOrTab (c : Option Char) : Bool := c == some ' ' || c == some '\t'

/-- The lines of a block: its text up to the last line, that line's end, and the line ends behind
it. -/
def blockLines (folded : Bool) (indent : Nat) : (fuel : Nat) → (text breaks : List Char) →
    Cursor → List Char × List Char × List Char × Cursor
  | 0, text, breaks, c => (text, [], breaks, c)
  | fuel + 1, text, breaks, c =>
    let text := text ++ breaks
    let starts := !isSpaceOrTab c.peek
    let (line, c) := c.span (!isBreak ·)
    let text := text ++ line
    let (br, c) := c.takeBreak
    let (breaks, c) := blockBreaks indent (c.rest.length + 1) [] c
    if c.column = indent ∧ !c.rest.isEmpty then
      let joint :=
        if folded && br == ['\n'] && starts && !isSpaceOrTab c.peek then
          (if breaks.isEmpty then [' '] else [])
        else br
      blockLines folded indent fuel (text ++ joint) breaks c
    else (text, br, breaks, c)

/-- A block from its mark on, below a node of the given indentation. -/
def block (folded : Bool) (parent : Int) (c : Cursor) : Except Fault (List Char × Cursor) :=
  match blockHead c.next with
  | .error f => .error f
  | .ok (chomping, width, c) =>
    let least := max 1 (parent + 1).toNat
    let (indent, breaks, c) := match width with
      | none =>
        let (breaks, widest, c) := blockIndentation (c.rest.length + 1) [] 0 c
        (max least widest, breaks, c)
      | some n =>
        let indent := least + n - 1
        let (breaks, c) := blockBreaks indent (c.rest.length + 1) [] c
        (indent, breaks, c)
    let (text, br, breaks, c) :=
      if c.column = indent ∧ !c.rest.isEmpty then
        blockLines folded indent (c.rest.length + 1) [] breaks c
      else ([], [], breaks, c)
    match chomping with
    | .strip => .ok (text, c)
    | .clip => .ok (text ++ br, c)
    | .keep => .ok (text ++ br ++ breaks, c)

end Overdue.Document
