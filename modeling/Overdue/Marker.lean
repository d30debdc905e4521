/-!
# Debt markers

A marker declares one piece of technical debt: texts for a reader, whether it blocks a release, and
up to four conditions under which it expires. An empty text, or no version code, leaves a condition
unset.
-/
namespace Overdue

/-- Where a declaration stands. Line zero means that the line is not known. -/
structure Location where
  path : String
  line : Int := 0
  symbol : Option String := none
deriving DecidableEq, Repr

/-- The path, with the line if it is known. -/
def Location.text (l : Location) : String :=
  if l.line = 0 then l.path else l.path ++ ":" ++ toString l.line

/-- A version code as a marker holds it. A word is kept, but it compares with nothing. -/
inductive Threshold
  | number (i : Int)
  | word (s : String)
deriving DecidableEq, Repr

/-- A declared piece of technical debt. -/
structure Marker where
  label : String := ""
  description : String := ""
  reason : String := ""
  addedDate : String := ""
  blocking : Bool := false
  removalDate : String := ""
  milestone : String := ""
  versionCode : Option Threshold := none
  versionName : String := ""
  issueId : String := ""
  cost : String := ""
  location : Option Location := none
deriving DecidableEq, Repr

namespace Marker

/-- Whether any of the four conditions is set. -/
def hasCondition (m : Marker) : Bool :=
  m.removalDate != "" || m.milestone != "" || m.versionName != "" ||
    match m.versionCode with
    | none => false
    | some (.word s) => s != ""
    | some (.number _) => true

end Marker

/-- The version of the build that is checked; either part may be unknown. -/
structure Build where
  versionCode : Option Int := none
  versionName : Option String := none
deriving DecidableEq, Repr

end Overdue
