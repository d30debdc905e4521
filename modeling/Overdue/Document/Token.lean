import Overdue.Document.Fault

/-!
# Tokens of a document

Marks of structure, properties of nodes, and scalars. Where a document cannot be read on there is a
fault.
-/
namespace Overdue.Document

inductive Token
  | version (major : Nat)
  | tagHandle (handle uri : String)
  | otherDirective
  | documentStart
  | documentEnd
  | finish
  | blockSequence
  | blockMapping
  | blockEnd
  | openSequence
  | closeSequence
  | openMapping
  | closeMapping
  | entry
  | comma
  | key
  | value
  | alias (name : String)
  | anchor (name : String)
  | tag (handle : Option String) (suffix : String)
  | scalar (text : String) (plain : Bool)
deriving DecidableEq, Repr, Inhabited

/-- The tokens of a text up to its fault, or up to the end. -/
structure TokenList where
  tokens : List Token
  fault : Option Fault
deriving Repr

end Overdue.Document
