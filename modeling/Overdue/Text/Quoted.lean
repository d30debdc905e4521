import Overdue.Text.Utf8
import Overdue.Unicode.Printable

/-!
# Quoted text

A text is quoted by apostrophes, or by double quotes if it holds an apostrophe and no double quote.
The quote, the backslash and every character that cannot be printed are escaped.
-/
namespace Overdue.Quoted

/-- The quote that a text is put into. -/
def delimiter (s : List Char) : Char :=
  if s.contains '\'' && !s.contains '"' then '"' else '\''

/-- An escape by a number, of the least width among two, four and eight digits. -/
def escapeCode (n : Nat) : String :=
  if n < 0x100 then "\\x" ++ Utf8.hexText 2 n
  else if n < 0x10000 then "\\u" ++ Utf8.hexText 4 n
  else "\\U" ++ Utf8.hexText 8 n

/-- One character as it stands between quotes. -/
def escape (quote c : Char) : List Char :=
  if c = quote ∨ c = '\\' then ['\\', c]
  else if c = '\t' then ['\\', 't']
  else if c = '\n' then ['\\', 'n']
  else if c = '\r' then ['\\', 'r']
  else if Unicode.isPrintable c then [c]
  else (escapeCode c.toNat).toList

def quote (s : List Char) : List Char :=
  let q := delimiter s
  q :: s.flatMap (escape q) ++ [q]

/-- The quoted form of a text. -/
def text (s : String) : String :=
  String.ofList (quote s.toList)

/-- The quoted form of bytes: only printable ASCII stands for itself. -/
def bytes (bs : List UInt8) : String :=
  let s := bs.map fun b => Char.ofNat b.toNat
  let q := delimiter s
  let body := s.flatMap fun c =>
    if c.toNat < 127 then escape q c else (escapeCode c.toNat).toList
  String.ofList ('b' :: q :: body ++ [q])

end Overdue.Quoted
