import Overdue.Document.File
import Overdue.Marker.Field
import Overdue.Reading

/-!
# Ledgers

A ledger is a document that lists milestones and markers. It is read when it is first asked for and
then kept; a failure is not kept. Every element of a list is one item or one problem. The entry of a
marker may name the path and the line that it is about; otherwise it is about the ledger itself.
-/
namespace Overdue

/-- A ledger at a path, with the problems found so far. -/
structure Ledger where
  path : String
  /-- The folder from which the path is shown; as it stands if there is none. -/
  root : Option String := none
  problems : List Problem := []
  kept : Option Entries := none
deriving Repr

namespace Ledger

/-- The path as it is shown. -/
def shownPath (l : Ledger) : String :=
  match l.root with
  | none => l.path
  | some root => if root = "" then l.path else Path.relativeTo root l.path

def refusal (path reason : String) : Failure :=
  .source ⟨reason, some path, none⟩

/-- The entries of a ledger's text; an empty document has none. -/
def entriesOf (host : Host) (path : String) (bytes : List UInt8) : Except Failure Entries :=
  match Document.ofFile host path bytes with
  | .error (.document .malformed) =>
    .error (refusal path ("cannot read ledger: " ++ Document.Fault.malformed.message))
  | .error f => .error f
  | .ok v =>
    if !v.truthy then .ok []
    else match v with
      | .map entries => .ok entries
      | _ => .error (refusal path "ledger must be a mapping with 'milestones' and 'debts'")

/-- The entries of a ledger, from its file unless they are kept. A ledger that is not there has
none. -/
def load (files : Files) (l : Ledger) : Except Failure Ledger × List Event :=
  match l.kept with
  | some _ => (.ok l, [])
  | none =>
    match files.read l.path with
    | .error a =>
      match a.reason? l.path with
      | some reason => (.error (refusal l.path ("cannot read ledger: " ++ reason)), [])
      | none => (.ok { l with kept := some [] }, [.noLedger l.path])
    | .ok bytes =>
      ((entriesOf files.host l.path bytes).map fun es => { l with kept := some es }, [])

/-- A milestone of the list. -/
def milestoneOutcome (shown : String) (v : Value) : Outcome String :=
  let problem : Outcome String :=
    match v.literal? with
    | none => .failure .unwritable
    | some t =>
      .problem ⟨"milestone names must be non-empty strings, got " ++ t, some shown, none⟩
  match v with
  | .text s => if s = "" then problem else .item s
  | _ => problem

/-- The line that an entry names: a whole number, or a truth value as one. -/
def lineOf : Option Value → Int
  | some (.int i) => i
  | some (.bool true) => 1
  | _ => 0

/-- Where the marker of an entry stands. -/
def locationOf (shown : String) (entry : Entries) : Option Location :=
  let path := match entry.field? "path" with
    | none => some shown
    | some v => if v.truthy then v.display? else some shown
  path.map fun p => ⟨p, lineOf (entry.field? "line"), none⟩

/-- The fields of an entry without its path and its line. -/
def fieldsOf (entry : Entries) : Entries :=
  (entry.erase (.text "path")).erase (.text "line")

/-- A marker of the list, which stands at an index. -/
def markerOutcome (shown : String) (index : Nat) (v : Value) : Outcome Marker :=
  match v with
  | .map entry =>
    match locationOf shown entry with
    | none => .failure .unwritable
    | some location =>
      match Marker.ofFields (fieldsOf entry) (some location) with
      | .ok m => .item m
      | .error f =>
        match f.message? with
        | none => .failure .unwritable
        | some message =>
          .problem ⟨message, some location.path,
            if location.line = 0 then none else some location.line⟩
  | _ =>
    .problem ⟨"debt entry #" ++ toString (index + 1) ++ " must be a mapping", some shown, none⟩

/-- Reads the list under a name, element by element. -/
def readList {α : Type} (l : Ledger) (name : String) (outcome : Nat → Value → Outcome α) :
    Reading α :=
  let v := ((l.kept.getD []).field? name).getD .null
  if !v.truthy then {}
  else match v with
    | .list items =>
      .ofOutcomes (items.zipIdx.map fun (x, index) => outcome index (x.inside v))
    | _ => { problems := [⟨"'" ++ name ++ "' must be a list", some l.shownPath, none⟩] }

/-- Reads one list of a ledger; its problems are added to those that are known. -/
def drain {α : Type} (files : Files) (name : String) (outcome : Nat → Value → Outcome α)
    (l : Ledger) : Ledger × Reading α :=
  match l.load files with
  | (.error f, log) => (l, { failure := some f, log })
  | (.ok l, log) =>
    let r := l.readList name outcome
    ({ l with problems := l.problems ++ r.problems }, { r with log })

def milestones (files : Files) (l : Ledger) : Ledger × Reading String :=
  l.drain files "milestones" fun _ v => milestoneOutcome l.shownPath v

def markers (files : Files) (l : Ledger) : Ledger × Reading Marker :=
  l.drain files "debts" fun index v => markerOutcome l.shownPath index v

end Ledger

end Overdue
