import Overdue.Failure
import Overdue.Value.Text

/-!
# Reports in JSON

A value as JSON text in ASCII, with one member of a collection to a line and two spaces for each
level. Values that JSON does not know are written as the text of their form for a reader. Keys are
texts, or numbers, truth values and null in their written form; any other key is a failure.
-/
namespace Overdue.Json

def unit (n : Nat) : List Char := '\\' :: 'u' :: (Utf8.hexText 4 n).toList

/-- One character of a text. A character beyond the sixteen-bit ones is written as two units. -/
def escape (c : Char) : List Char :=
  if c = '"' then ['\\', '"']
  else if c = '\\' then ['\\', '\\']
  else if c = '\n' then ['\\', 'n']
  else if c = '\r' then ['\\', 'r']
  else if c = '\t' then ['\\', 't']
  else if c = '\x0c' then ['\\', 'f']
  else if c = '\x08' then ['\\', 'b']
  else if ' ' ≤ c ∧ c ≤ '~' then [c]
  else if c.toNat < 0x10000 then unit c.toNat
  else
    let n := c.toNat - 0x10000
    unit (0xD800 + n / 0x400) ++ unit (0xDC00 + n % 0x400)

def quote (s : String) : String :=
  String.ofList ('"' :: s.toList.flatMap escape ++ ['"'])

def double : Binary64 → String
  | .nan => "NaN"
  | .infinite negative => if negative then "-Infinity" else "Infinity"
  | x => x.text

def whole (i : Int) : Except Failure String :=
  match Numeral.text? i with
  | some s => .ok s
  | none => .error .unwritable

/-- The text of a key. -/
def key : Value → Except Failure String
  | .text s => .ok s
  | .int i => whole i
  | .float x => .ok (double x)
  | .bool b => .ok (if b then "true" else "false")
  | .null => .ok "null"
  | _ => .error .wrongKind

def newLine (level : Nat) : String := "\n" ++ String.ofList (List.replicate (2 * level) ' ')

/-- Members of a collection between its brackets. -/
def enclose (opening closing : String) (level : Nat) (members : List String) : String :=
  if members.isEmpty then opening ++ closing
  else opening ++ newLine (level + 1) ++ ("," ++ newLine (level + 1)).intercalate members ++
    newLine level ++ closing

mutual

/-- The text of a value that stands at a level. -/
def text (level : Nat) : Value → Except Failure String
  | .null => .ok "null"
  | .bool b => .ok (if b then "true" else "false")
  | .int i => whole i
  | .float x => .ok (double x)
  | .text s => .ok (quote s)
  | .list items => (texts (level + 1) items).map (enclose "[" "]" level)
  | .tuple items => (texts (level + 1) items).map (enclose "[" "]" level)
  | .map entries => (entryTexts (level + 1) entries).map (enclose "\x7b" "\x7d" level)
  | v =>
    match v.display? with
    | some s => .ok (quote s)
    | none => .error .unwritable

def texts (level : Nat) : List Value → Except Failure (List String)
  | [] => .ok []
  | v :: vs => do
    let t ← text level v
    let ts ← texts level vs
    return t :: ts

def entryTexts (level : Nat) : List (Value × Value) → Except Failure (List String)
  | [] => .ok []
  | (k, v) :: rest => do
    let k ← key k
    let t ← text level v
    let ts ← entryTexts level rest
    return (quote k ++ ": " ++ t) :: ts

end

end Overdue.Json
