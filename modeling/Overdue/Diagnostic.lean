import Overdue.Verdict

/-!
# Diagnostics

What is reported about a marker: one error for each field that could not be read, then one
diagnostic that describes the marker, if it has expired or has such a field.
-/
namespace Overdue

inductive Severity
  | warning
  | error
deriving DecidableEq, Repr

def Severity.name : Severity → String
  | .warning => "warning"
  | .error => "error"

/-- A reported finding; the marker is absent where a declaration could not be read. -/
structure Diagnostic where
  severity : Severity
  message : String
  location : Option Location := none
  marker : Option Marker := none
deriving DecidableEq, Repr

namespace Diagnostic

def found : String := "Debt found"

/-- The fields that a description names, in its order. -/
def describedFields (m : Marker) : List (String × String) :=
  [("label", m.label), ("added", m.addedDate), ("reason", m.reason), ("milestone", m.milestone),
    ("description", m.description)]

/-- The description of a marker: its fields that are not empty, each in apostrophes. -/
def describe (m : Marker) : String :=
  let parts := ((describedFields m).filter fun (_, value) => value != "").map
    fun (name, value) => name ++ " '" ++ value ++ "'"
  if parts.isEmpty then found else found ++ ": " ++ ", ".intercalate parts

/-- A blocking marker, or one with an unreadable field, is an error. -/
def severityOf (m : Marker) (v : Verdict) : Severity :=
  if m.blocking || !v.parseErrors.isEmpty then .error else .warning

/-- The diagnostic of an expired or unreadable marker; none while its conditions hold. -/
def ofVerdict (m : Marker) (v : Verdict) : Option Diagnostic :=
  if !v.expired && v.parseErrors.isEmpty then none
  else some ⟨severityOf m v, describe m, m.location, some m⟩

def ofParseError (m : Marker) (e : ParseError) : Diagnostic :=
  ⟨.error, e.message, m.location, some m⟩

/-- All diagnostics of a marker, in the order of reporting. -/
def ofMarker (m : Marker) (v : Verdict) : List Diagnostic :=
  v.parseErrors.map (ofParseError m) ++ (ofVerdict m v).toList

/-- The line that is printed: the location, if there is one, the severity and the message. -/
def text (d : Diagnostic) : String :=
  let place := match d.location with
    | none => ""
    | some l => l.text
  (if place = "" then "" else place ++ ": ") ++ d.severity.name ++ ": " ++ d.message

end Diagnostic

/-- A declaration, or a source of declarations, that could not be read. -/
structure Problem where
  message : String
  path : Option String := none
  line : Option Int := none
deriving DecidableEq, Repr

namespace Problem

/-- The message behind the place, as far as the place is known. -/
def text (p : Problem) : String :=
  match p.path with
  | none => p.message
  | some path =>
    if path = "" then p.message
    else match p.line with
      | none => path ++ ": " ++ p.message
      | some line =>
        if line = 0 then path ++ ": " ++ p.message
        else path ++ ":" ++ toString line ++ ": " ++ p.message

/-- A problem is reported as an error at its place. -/
def diagnostic (p : Problem) : Diagnostic :=
  ⟨.error, p.message, some ⟨p.path.getD "", p.line.getD 0, none⟩, none⟩

end Problem

end Overdue
