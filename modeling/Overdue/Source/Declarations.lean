import Overdue.Diagnostic
import Overdue.Host
import Overdue.Marker.Field
import Overdue.Source.Literal

/-!
# Declarations in a source file

A call of `milestone` with one text declares a milestone, a decorator that calls `debt` declares a
marker for the definition below it. `Tree.visit` walks a tree in visiting order and records what it
finds; what is declared wrongly is a problem at its line. On its way into a definition the walk
enters the scope of that name, and on its way out it leaves it again.
-/
namespace Overdue.Source

/-- What a source file declares. -/
inductive Finding
  | milestone (name : String)
  | marker (m : Marker)
  | problem (p : Problem)
deriving DecidableEq, Repr

namespace Finding

def milestone? : Finding → Option String
  | .milestone name => some name
  | _ => none

def marker? : Finding → Option Marker
  | .marker m => some m
  | _ => none

def problem? : Finding → Option Problem
  | .problem p => some p
  | _ => none

end Finding

/-- Why the reading of source files breaks off. -/
inductive Interruption
  /-- A file holds the character zero. -/
  | zeroCharacter
  /-- A whole number beyond the doubles stands beside an imaginary one in a marker. -/
  | numberTooLarge
  /-- The stack gives out over a file. -/
  | exhausted
deriving DecidableEq, Repr

/-- Why the arguments of a marker cannot be read. -/
inductive ArgumentFault
  | severalPositional
  | unpacked
  | notLiteral
  | tooLarge
deriving DecidableEq, Repr

def ArgumentFault.ofLiteral : LiteralFault → ArgumentFault
  | .notLiteral => .notLiteral
  | .tooLarge => .tooLarge

namespace Tree

/-- The result of a call of `milestone`. -/
def milestoneFinding (path : String) (line : Nat) (args : List Tree)
    (keywords : List (Option String × Tree)) : Finding :=
  match args, keywords with
  | [.literal (.text given)], [] =>
    if given = "" then
      .problem ⟨"milestone name must be a non-empty string literal", some path, some line⟩
    else .milestone given
  | [_], [] => .problem ⟨"milestone name must be a non-empty string literal", some path, some line⟩
  | _, _ => .problem ⟨"milestone() takes exactly one string argument", some path, some line⟩

/-- The literal value of an argument. -/
def argument (t : Tree) : Except ArgumentFault Value :=
  match t.value with
  | .ok v => .ok v
  | .error f => .error (.ofLiteral f)

/-- Arguments by keyword as fields of a marker. -/
def keywordFields (fields : Entries) :
    List (Option String × Tree) → Except ArgumentFault Entries
  | [] => .ok fields
  | (none, _) :: _ => .error .unpacked
  | (some key, t) :: rest =>
    match t.argument with
    | .ok v => keywordFields (fields.put (.text key) v) rest
    | .error f => .error f

/-- The fields of a marker by the arguments of its call; the positional one is the label. -/
def markerFields (args : List Tree) (keywords : List (Option String × Tree)) :
    Except ArgumentFault Entries :=
  match args with
  | [] => keywordFields [] keywords
  | [t] =>
    match t.argument with
    | .ok v => keywordFields [(.text "label", v)] keywords
    | .error f => .error f
  | _ => .error .severalPositional

/-- The result of a decorator that calls `debt` above the definition of a symbol. -/
def markerFinding (host : Host) (path symbol : String) (line : Nat) (args : List Tree)
    (keywords : List (Option String × Tree)) : Except Interruption Finding :=
  let problem (message : String) : Finding := .problem ⟨message, some path, some line⟩
  let notLiterals := problem ("debt() arguments on " ++ symbol ++ " must be literals")
  match markerFields args keywords with
  | .error .severalPositional =>
    .ok (problem "debt() takes at most one positional argument (the label)")
  | .error .unpacked => .ok (problem "debt() arguments cannot be unpacked with **")
  | .error .notLiteral => .ok notLiterals
  | .error .tooLarge => .error .numberTooLarge
  | .ok fields =>
    match Marker.ofFields (host.arrangedEntries fields) (some ⟨path, line, some symbol⟩) with
    | .ok m => .ok (.marker m)
    | .error f =>
      match f.message? with
      | some message => .ok (problem message)
      | none => .ok notLiterals

/-- The problem of a decorator that is `debt` and no call of it. -/
def uncalled (path symbol : String) (t : Tree) : Option Finding :=
  let problem (line : Nat) (id : String) : Option Finding :=
    if id = "debt" then
      some (.problem ⟨"@debt on " ++ symbol ++ " must be called, e.g. @debt()", some path,
        some line⟩)
    else none
  match t with
  | .name line id => problem line id
  | .attribute line _ id => problem line id
  | _ => none

end Tree

/-- A walk through a source file: the names of the definitions that it is in, the outermost first,
and what it has found, in order. -/
structure Walk where
  scope : List String := []
  found : List Finding := []
deriving DecidableEq, Repr

namespace Walk

def record (w : Walk) (f : Finding) : Walk := { w with found := w.found ++ [f] }

def enter (w : Walk) (name : String) : Walk := { w with scope := w.scope ++ [name] }

def leave (w : Walk) : Walk := { w with scope := w.scope.dropLast }

/-- The dotted name of a definition inside a scope. -/
def symbolOf (scope : List String) (name : String) : String :=
  ".".intercalate (scope ++ [name])

end Walk

namespace Tree

mutual

/-- Walks a tree in visiting order. A decorator that calls `debt` is read as a marker, and nothing
else is looked for in it. -/
def visit (host : Host) (path : String) : Tree → Walk → Except Interruption Walk
  | .name _ _, w => .ok w
  | .literal _, w => .ok w
  | .attribute _ object _, w => visit host path object w
  | .call line callee args keywords, w => do
    let w := if callee.lastName? = some "milestone" then
        w.record (milestoneFinding path line args keywords)
      else w
    let w ← visit host path callee w
    let w ← visitAll host path args w
    visitKeywords host path keywords w
  | .sign _ t, w => visit host path t w
  | .sum _ left right, w => do
    let w ← visit host path left w
    visit host path right w
  | .tuple items, w => visitAll host path items w
  | .list items, w => visitAll host path items w
  | .set items, w => visitAll host path items w
  | .dict entries, w => do
    let w ← visitKeys host path entries w
    visitValues host path entries w
  | .declaration own decorators parts, w => do
    let w ← visitDecorators host path (Walk.symbolOf w.scope own) decorators w
    let w ← visitAll host path parts (w.enter own)
    return w.leave
  | .compound parts, w => visitAll host path parts w

def visitAll (host : Host) (path : String) : List Tree → Walk → Except Interruption Walk
  | [], w => .ok w
  | t :: ts, w => do
    let w ← visit host path t w
    visitAll host path ts w

def visitKeywords (host : Host) (path : String) :
    List (Option String × Tree) → Walk → Except Interruption Walk
  | [], w => .ok w
  | (_, t) :: rest, w => do
    let w ← visit host path t w
    visitKeywords host path rest w

def visitKeys (host : Host) (path : String) :
    List (Option Tree × Tree) → Walk → Except Interruption Walk
  | [], w => .ok w
  | (none, _) :: rest, w => visitKeys host path rest w
  | (some k, _) :: rest, w => do
    let w ← visit host path k w
    visitKeys host path rest w

def visitValues (host : Host) (path : String) :
    List (Option Tree × Tree) → Walk → Except Interruption Walk
  | [], w => .ok w
  | (_, t) :: rest, w => do
    let w ← visit host path t w
    visitValues host path rest w

def visitDecorators (host : Host) (path symbol : String) :
    List Tree → Walk → Except Interruption Walk
  | [], w => .ok w
  | .call line callee args keywords :: rest, w => do
    let w ← if callee.lastName? = some "debt" then
        (markerFinding host path symbol line args keywords).map w.record
      else visit host path (.call line callee args keywords) w
    visitDecorators host path symbol rest w
  | t :: rest, w => do
    let w ← match uncalled path symbol t with
      | some f => .ok (w.record f)
      | none => visit host path t w
    visitDecorators host path symbol rest w

end

end Tree

end Overdue.Source
