import Overdue.Calendar.Reader
import Overdue.Marker
import Overdue.Milestones
import Overdue.Version.Order

/-!
# Verdicts

A marker has expired if it has no usable condition, or if one of its conditions is met: its date
has come, its milestone is no longer declared, the build has reached its version code or its
version name. A removal date that cannot be read counts as unset. A version name that cannot be
compared for want of a readable name counts as met, so that the debt comes to light.
-/
namespace Overdue

/-- The two fields whose text has a form to keep. -/
inductive ParsedField
  | removalDate
  | versionName
deriving DecidableEq, Repr

def ParsedField.name : ParsedField → String
  | .removalDate => "removal_date"
  | .versionName => "version_name"

/-- A field of a marker that could not be read. -/
structure ParseError where
  field : ParsedField
  value : String
  message : String
deriving DecidableEq, Repr

/-- What is decided about a marker. -/
structure Verdict where
  expired : Bool
  parseErrors : List ParseError := []
deriving DecidableEq, Repr

/-- Why nothing can be decided about a marker. -/
inductive Undecided
  /-- An identifier of a version name is a numeral of this many digits. -/
  | numeralTooLong (digits : Nat)
  /-- The marker's version code is a word. -/
  | versionCodeIsWord
deriving DecidableEq, Repr

namespace Verdict

def dateMessage (value : String) (fault : DateTextFault) : String :=
  "Unrecognized date format in debt marker '" ++ value ++
    "'. Please use YYYY-MM-DD format for removal_date: " ++ fault.message

def versionMessage (threshold : String) (current : Option String) : String :=
  "Failed to parse version name: " ++ threshold ++ " or " ++ current.getD "None" ++
    ". Please use a version name that matches the specification on https://semver.org/"

/-- Whether the removal date has come, and what is wrong with it. -/
def dateCondition (m : Marker) (today : Date) : Bool × Option ParseError :=
  if m.removalDate = "" then (false, none)
  else match Date.read m.removalDate with
    | .ok removal => (decide (removal ≤ today), none)
    | .error fault =>
      (false, some ⟨.removalDate, m.removalDate, dateMessage m.removalDate fault⟩)

/-- Whether the milestone is gone; one that was never declared counts as gone. -/
def milestoneCondition (m : Marker) (milestones : Milestones) : Bool :=
  m.milestone != "" && !milestones.contains m.milestone

/-- Whether the build has reached the version code. -/
def versionCodeCondition (m : Marker) (build : Build) : Except Undecided Bool :=
  match m.versionCode, build.versionCode with
  | none, _ => .ok false
  | _, none => .ok false
  | some (.number threshold), some code => .ok (decide (threshold ≤ code))
  | some (.word _), some _ => .error .versionCodeIsWord

/-- Whether the build has reached the version name, and what is wrong with the names. -/
def versionNameCondition (m : Marker) (build : Build)
    (ranking : Version.Ranking := Version.limited) :
    Except Undecided (Bool × Option ParseError) :=
  if m.versionName = "" then .ok (false, none)
  else match Version.readName (some m.versionName), Version.readName build.versionName with
    | .ok threshold, .ok current =>
      match threshold.compare current ranking with
      | .ok o => .ok (o != .gt, none)
      | .error digits => .error (.numeralTooLong digits)
    | _, _ =>
      .ok (true, some
        ⟨.versionName, m.versionName, versionMessage m.versionName build.versionName⟩)

end Verdict

/-- Decides about a marker. -/
def Marker.verdict (m : Marker) (milestones : Milestones) (build : Build) (today : Date)
    (ranking : Version.Ranking := Version.limited) : Except Undecided Verdict :=
  let (dateMet, dateError) := Verdict.dateCondition m today
  match Verdict.versionNameCondition m build ranking with
  | .error u => .error u
  | .ok (nameMet, nameError) =>
    let errors := dateError.toList ++ nameError.toList
    let usable := if dateError.isSome then { m with removalDate := "" } else m
    if !usable.hasCondition || dateMet || Verdict.milestoneCondition m milestones then
      .ok ⟨true, errors⟩
    else match Verdict.versionCodeCondition m build with
      | .error u => .error u
      | .ok codeMet => .ok ⟨codeMet || nameMet, errors⟩

end Overdue
