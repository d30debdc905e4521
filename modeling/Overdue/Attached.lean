import Overdue.Marker.Field

/-!
# Markers attached to definitions

At run time a marker is attached to a class or a function. A class shows the markers of the first
class in its line of ancestry that has markers of its own; attaching never changes the markers of
any other definition. The line of ancestry merges the lines of the bases: each class stands before
its bases, and bases keep their order. A program takes one `Step` after the other; a refused step
leaves everything as it is.
-/
namespace Overdue

/-- Why a run-time step is refused. -/
inductive Misuse
  /-- The arguments of a marker are not one label and fields by their names. -/
  | arguments
  /-- The bases of a class cannot be brought into one line, or one of them is no class. -/
  | ancestry
  | unknownName
deriving DecidableEq, Repr

/-- A class or function: its own markers, if any were attached, and its line of ancestry by number,
itself first. -/
structure Definition where
  lineage : List Nat
  own : List Marker := []
deriving Repr

/-- The definitions that were ever made, and the ones that names stand for now. -/
structure Definitions where
  all : Array Definition := #[]
  names : List (String × Nat) := []
  /-- The numbers of the functions. -/
  functions : List Nat := []
deriving Repr

namespace Definitions

/-- The first head of the lines that stands in no tail. -/
def nextInLine (lines : List (List Nat)) : Option Nat :=
  (lines.filterMap List.head?).find? fun n => lines.all fun line => !line.tail.contains n

/-- Merges lines into one that keeps the order of each. -/
def mergeLines : Nat → List (List Nat) → Option (List Nat)
  | 0, _ => some []
  | fuel + 1, lines =>
    let lines := lines.filter (!·.isEmpty)
    if lines.isEmpty then some []
    else match nextInLine lines with
      | none => none
      | some n =>
        let shorter := lines.map fun line => if line.head? = some n then line.tail else line
        (mergeLines fuel shorter).map (n :: ·)

def lineage? (all : Array Definition) (bases : List Nat) : Option (List Nat) :=
  let lines := bases.filterMap (fun n => all[n]?.map (·.lineage)) ++ [bases]
  if bases.eraseDups.length < bases.length then none
  else mergeLines (lines.flatten.length + 1) lines

def find? (ds : Definitions) (name : String) : Option Nat :=
  (ds.names.find? fun (n, _) => n == name).map (·.2)

/-- Makes a definition, which takes over its name. -/
def define (ds : Definitions) (name : String) (lineage : List Nat) : Definitions :=
  { ds with
    all := ds.all.push ⟨ds.all.size :: lineage, []⟩
    names := (name, ds.all.size) :: ds.names }

def defineClass (ds : Definitions) (name : String) (bases : List String) :
    Except Misuse Definitions :=
  match bases.mapM ds.find? with
  | none => .error .unknownName
  | some bases =>
    if bases.any ds.functions.contains then .error .ancestry
    else match lineage? ds.all bases with
      | none => .error .ancestry
      | some lineage => .ok (ds.define name lineage)

def defineFunction (ds : Definitions) (name : String) : Definitions :=
  { ds.define name [] with functions := ds.all.size :: ds.functions }

/-- The marker of a call: at most one positional argument, the label, and fields by name, each at
most once. -/
def markerOfCall (positional : List Value) (named : List (String × Value)) :
    Except Misuse Marker :=
  let given := positional.map (fun v => ("label", v)) ++ named
  if positional.length > 1 || (given.map (·.1)).eraseDups.length < given.length then
    .error .arguments
  else given.foldlM (fun m (name, v) =>
    match Field.ofName? name, v with
    | none, _ => .error .arguments
    | some _, .null => .ok m
    | some .versionCode, .text s => .ok { m with versionCode := some (.word s) }
    | some field, v =>
      match Content.ofValue field name v with
      | .ok content => .ok (m.put field content)
      | .error _ => .error .arguments) {}

/-- Attaches a marker to the definition of a name, behind its own markers. -/
def attach (ds : Definitions) (name : String) (m : Marker) : Except Misuse Definitions :=
  match ds.find? name with
  | none => .error .unknownName
  | some n => .ok { ds with all := ds.all.modify n fun d => { d with own := d.own ++ [m] } }

def own (ds : Definitions) (name : String) : List Marker :=
  match ds.find? name with
  | none => []
  | some n => (ds.all[n]?.map (·.own)).getD []

/-- The markers that a definition shows. -/
def visible (ds : Definitions) (name : String) : List Marker :=
  match ds.find? name with
  | none => []
  | some n =>
    let line := (ds.all[n]?.map (·.lineage)).getD []
    ((line.filterMap fun k => ds.all[k]?.map (·.own)).find? (!·.isEmpty)).getD []

/-- A step of a program that makes definitions and marks them. -/
inductive Step
  | makeClass (name : String) (bases : List String)
  | makeFunction (name : String)
  /-- Applies what a call comes to, its marker or a misuse, to the definition of a name. -/
  | mark (name : String) (call : Except Misuse Marker)
deriving Repr

def perform (ds : Definitions) : Step → Except Misuse Definitions
  | .makeClass name bases => ds.defineClass name bases
  | .makeFunction name => .ok (ds.defineFunction name)
  | .mark _ (.error misuse) => .error misuse
  | .mark name (.ok m) => ds.attach name m

/-- What a step leaves. -/
def after (ds : Definitions) (s : Step) : Definitions :=
  match ds.perform s with
  | .ok ds' => ds'
  | .error _ => ds

/-- What steps leave, one after the other. -/
def afterAll (ds : Definitions) (steps : List Step) : Definitions := steps.foldl after ds

end Definitions

end Overdue
