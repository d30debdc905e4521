import Overdue.Value

/-!
# The tree of a source file

What declarations are read from: names, calls, literals and definitions. Everything else is a
compound of its parts. Parts stand in visiting order: a condition before the branch it guards, the
keys of a mapping before its values, annotations before defaults.
-/
namespace Overdue.Source

/-- A part of a source file. Lines are those of a part's first token. -/
inductive Tree
  | name (line : Nat) (id : String)
  | attribute (line : Nat) (object : Tree) (id : String)
  /-- A call. An argument by keyword without a name unpacks a mapping. -/
  | call (line : Nat) (callee : Tree) (args : List Tree) (keywords : List (Option String × Tree))
  | literal (v : Value)
  | sign (negative : Bool) (operand : Tree)
  | sum (subtract : Bool) (left right : Tree)
  | tuple (items : List Tree)
  | list (items : List Tree)
  | set (items : List Tree)
  /-- A mapping. An entry without a key unpacks a mapping. -/
  | dict (entries : List (Option Tree × Tree))
  /-- A class or function, with all its parts but the decorators. -/
  | declaration (name : String) (decorators : List Tree) (parts : List Tree)
  | compound (parts : List Tree)
deriving Inhabited

namespace Tree

/-- The name that a callee or a decorator goes by: the last one, if it is a path of names. -/
def lastName? : Tree → Option String
  | .name _ id => some id
  | .attribute _ _ id => some id
  | _ => none

end Tree

end Overdue.Source
