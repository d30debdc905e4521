import Overdue.Source.Node
import Overdue.Source.Tree
import Overdue.Unicode.Compatibility

/-!
# Trees from parse trees

`Node.outline` keeps of a parse tree what declarations are read from, and puts the parts of each
construct into visiting order. Names are brought to their compatibility normal form.
-/
namespace Overdue.Source.Node

/-- A name as it is looked up. -/
def nameText (t : Token) : String :=
  String.ofList (Unicode.Compatibility.normalize t.lexeme.toList)

/-- The name that a definition or an argument begins with. -/
def leadingName : List Node → String
  | .token t :: _ => nameText t
  | _ => ""

/-- The tree of a token that was kept: a name, a constant or a mark without parts. -/
def ofToken (t : Token) : Tree :=
  if t.kind = .name then .name t.line (nameText t)
  else match t.lexeme with
    | "True" => .literal (.bool true)
    | "False" => .literal (.bool false)
    | "None" => .literal .null
    | "..." => .literal .ellipsis
    | _ => .compound []

mutual

def outline : Node → Tree
  | .token t => ofToken t
  | .literal _ v => .literal v
  | .branch c line children =>
    match c with
    | .attribute =>
      match children with
      | [object, .token t] => .attribute line (outline object) (nameText t)
      | ns => .compound (outlines ns)
    | .call =>
      match children with
      | callee :: args => .call line (outline callee) (positional args) (keywords args)
      | [] => .compound []
    | .arguments => .compound (positional children ++ (keywords children).map (·.2))
    | .tuple => .tuple (outlines children)
    | .list => .list (outlines children)
    | .set => .set (outlines children)
    | .dict => .dict (entries children)
    | .unary =>
      match children with
      | [.token t, operand] =>
        if t.lexeme = "+" then .sign false (outline operand)
        else if t.lexeme = "-" then .sign true (outline operand)
        else .compound [outline operand]
      | ns => .compound (outlines ns)
    | .binary =>
      match children with
      | [left, .token t, right] => .sum (t.lexeme = "-") (outline left) (outline right)
      | ns => .compound (outlines ns)
    | .conditional =>
      match children with
      | [body, test, other] => .compound [outline test, outline body, outline other]
      | ns => .compound (outlines ns)
    | .mappingPattern => .compound (pairKeys children ++ pairValues children)
    | .parameters =>
      .compound (hints children ++ behindStar children ++ defaults children)
    | .function =>
      .declaration (leadingName children) [] (unlessReturns children ++ returns children)
    | .classDefinition => .declaration (leadingName children) [] (outlines children)
    | .decorated =>
      match children with
      | [decorators, definition] =>
        match outline decorators, outline definition with
        | .compound ds, .declaration name _ parts => .declaration name ds parts
        | d, t => .compound [d, t]
      | ns => .compound (outlines ns)
    | _ => .compound (outlines children)

def outlines : List Node → List Tree
  | [] => []
  | n :: ns => outline n :: outlines ns

/-- The arguments that are not given by keyword. -/
def positional : List Node → List Tree
  | [] => []
  | .branch .namedArgument _ _ :: ns => positional ns
  | .branch .unpackedMapping _ _ :: ns => positional ns
  | n :: ns => outline n :: positional ns

/-- The arguments that are given by keyword, or by unpacking a mapping. -/
def keywords : List Node → List (Option String × Tree)
  | [] => []
  | .branch .namedArgument _ [.token t, v] :: ns => (some (nameText t), outline v) :: keywords ns
  | .branch .unpackedMapping _ [v] :: ns => (none, outline v) :: keywords ns
  | _ :: ns => keywords ns

def entries : List Node → List (Option Tree × Tree)
  | [] => []
  | .branch .pair _ [k, v] :: ns => (some (outline k), outline v) :: entries ns
  | .branch .unpackedMapping _ [v] :: ns => (none, outline v) :: entries ns
  | _ :: ns => entries ns

/-- The keys of a mapping pattern. -/
def pairKeys : List Node → List Tree
  | [] => []
  | .branch .pair _ [k, _] :: ns => outline k :: pairKeys ns
  | _ :: ns => pairKeys ns

/-- The patterns behind the keys. -/
def pairValues : List Node → List Tree
  | [] => []
  | .branch .pair _ [_, v] :: ns => outline v :: pairValues ns
  | _ :: ns => pairValues ns

/-- The parts of a kind that hang directly on parameters. -/
def hints : List Node → List Tree
  | [] => []
  | .branch .parameter _ ps :: ns => hints ps ++ hints ns
  | .branch .typeHint _ vs :: ns => outlines vs ++ hints ns
  | _ :: ns => hints ns

def defaults : List Node → List Tree
  | [] => []
  | .branch .parameter _ ps :: ns => defaults ps ++ defaults ns
  | .branch .defaultValue _ vs :: ns => outlines vs ++ defaults ns
  | _ :: ns => defaults ns

/-- What hangs on the parameters from the star on: the annotation of the star itself, those of the
named ones, their defaults, and the annotation of the double star. -/
def behindStar : List Node → List Tree
  | [] => []
  | .branch .starParameters _ ps :: ns =>
    starHint ps ++ hints ps ++ defaults ps ++ doubleStarHint ps ++ behindStar ns
  | _ :: ns => behindStar ns

def starHint : List Node → List Tree
  | [] => []
  | .branch .starParameter _ ps :: ns => hints ps ++ starHint ns
  | _ :: ns => starHint ns

def doubleStarHint : List Node → List Tree
  | [] => []
  | .branch .doubleStarParameter _ ps :: ns => hints ps ++ doubleStarHint ns
  | _ :: ns => doubleStarHint ns

/-- The parts of a function but its result annotation. -/
def unlessReturns : List Node → List Tree
  | [] => []
  | .branch .returns _ _ :: ns => unlessReturns ns
  | n :: ns => outline n :: unlessReturns ns

def returns : List Node → List Tree
  | [] => []
  | .branch .returns _ vs :: ns => outlines vs ++ returns ns
  | _ :: ns => returns ns

end

end Overdue.Source.Node
