import Overdue.Unicode.NameTable
import Overdue.Unicode.Ranges

/-!
# Characters by name

`Name.code?` finds the character of a name in the table of names; small letters and capitals are the
same there.
-/
namespace Overdue.Unicode.Name

/-- A name without the line feeds and spaces that stand in front of it in the table. -/
def trimStart (s : List Char) : List Char := s.dropWhile fun c => c = '\n' || c = ' '

/-- The items of the table with their codes; `next` is the code of an item that has no number. -/
def number (next : Nat) : List (List Char) → List (List Char × Nat)
  | [] => []
  | item :: rest =>
    match splitAt '=' (trimStart item) with
    | [code, name] => (name, hexValue code) :: number (hexValue code + 1) rest
    | _ => (trimStart item, next) :: number (next + 1) rest

def entries : List (List Char × Nat) := number 0 (splitAt ';' table.toList)

/-- The code of the character that has a name. -/
def code? (name : List Char) : Option Nat :=
  (entries.find? fun (n, _) => n == name.map Char.toUpper).map (·.2)

end Overdue.Unicode.Name
