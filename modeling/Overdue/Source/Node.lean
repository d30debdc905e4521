import Overdue.Source.Token
import Overdue.Value

/-!
# Parse trees

What the grammar builds: tokens that matter, literals, and branches by the construct they come from.
A branch knows the line of its first token.
-/
namespace Overdue.Source

/-- The constructs whose branches are told apart. -/
inductive Construct
  | attribute
  | subscript
  | call
  | arguments
  | namedArgument
  | unpackedMapping
  | starred
  | tuple
  | list
  | set
  | dict
  | pair
  | template
  | comprehension
  | generator
  | conditional
  | comparison
  | unary
  | binary
  | lambda
  | parameters
  | parameter
  | starParameters
  | starParameter
  | doubleStarParameter
  | typeHint
  | defaultValue
  | function
  | returns
  | classDefinition
  | decorated
  | decorators
  | block
  | mappingPattern
  | clause
  | group
  | other
deriving DecidableEq, Repr

/-- A parse tree. -/
inductive Node
  | token (t : Token)
  | literal (line : Nat) (v : Value)
  | branch (construct : Construct) (line : Nat) (children : List Node)
deriving Inhabited

namespace Node

def line : Node → Nat
  | .token t => t.line
  | .literal line _ => line
  | .branch _ line _ => line

def isToken (s : String) : Node → Bool
  | .token t => t.lexeme == s
  | _ => false

/-- What an assignment, a deletion or a loop may have on its left. -/
inductive TargetUse
  | assignment
  | deletion
  | loop
deriving DecidableEq

mutual

/-- The first part of an expression that cannot be a target: its line. Lists and tuples are targets
if their items are. -/
def badTarget (use : TargetUse) : Node → Option Nat
  | .token t => if t.kind = .name then none else some t.line
  | .literal line _ => some line
  | .branch c line children =>
    match c with
    | .tuple => badTargets use children
    | .list => badTargets use children
    | .attribute => none
    | .subscript => none
    | .starred => if use = .deletion then some line else badTargets use children
    | .comparison =>
      if use = .loop then
        match children with
        | left :: op :: _ => if op.isToken "in" then badTarget use left else none
        | _ => none
      else some line
    | _ => some line

def badTargets (use : TargetUse) : List Node → Option Nat
  | [] => none
  | n :: ns =>
    match badTarget use n with
    | some line => some line
    | none => badTargets use ns

end

end Node

end Overdue.Source
