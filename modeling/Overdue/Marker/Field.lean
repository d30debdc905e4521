import Overdue.Marker
import Overdue.Value.Text

/-!
# Markers from loosely typed fields

A declaration gives a marker as named values. Each field has a kind: a text, a truth value or a
whole number. Text fields take numbers and dates as well, in their written form. Three names are
other names of a field. `Marker.ofFields` builds the marker; the first unacceptable field, in the
order of the declaration, is the answer if there is one.
-/
namespace Overdue

/-- The fields that a declaration may give. -/
inductive Field
  | label
  | description
  | reason
  | addedDate
  | blocking
  | removalDate
  | milestone
  | versionCode
  | versionName
  | issueId
  | cost
deriving DecidableEq, Repr

namespace Field

def all : List Field :=
  [.label, .description, .reason, .addedDate, .blocking, .removalDate, .milestone, .versionCode,
    .versionName, .issueId, .cost]

def name : Field → String
  | .label => "label"
  | .description => "description"
  | .reason => "reason"
  | .addedDate => "added_date"
  | .blocking => "blocking"
  | .removalDate => "removal_date"
  | .milestone => "milestone"
  | .versionCode => "version_code"
  | .versionName => "version_name"
  | .issueId => "issue_id"
  | .cost => "cost"

/-- The field of its own name. -/
def ofName? (s : String) : Option Field :=
  all.find? fun f => f.name == s

/-- The field of its own name or of another name for it. -/
def ofKey? (s : String) : Option Field :=
  if s = "stop_ship" then some .blocking
  else if s = "value" then some .label
  else if s = "id" then some .issueId
  else ofName? s

end Field

/-- Why a field of a declaration is not acceptable. -/
inductive FieldFault
  | unknown (key : Value)
  | notBool (key : String) (value : Value)
  | notInteger (value : Value)
  | notText (key : String) (value : Value)
  /-- A text field is given a whole number beyond the digit limit. -/
  | unwritable
deriving Repr

/-- The wording of a fault; none if it would have to write a number beyond the digit limit. -/
def FieldFault.message? : FieldFault → Option String
  | .unknown key => key.literal?.map ("unknown debt field " ++ ·)
  | .notBool key value => value.literal?.map (key ++ " must be true or false, got " ++ ·)
  | .notInteger value => value.literal?.map ("version_code must be an integer, got " ++ ·)
  | .notText key value => value.literal?.map (key ++ " must be a string, got " ++ ·)
  | .unwritable => none

/-- What a field holds. -/
inductive Content
  | text (s : String)
  | flag (b : Bool)
  | code (i : Int)
deriving DecidableEq, Repr

namespace Content

/-- The text that a text field takes a value for. -/
def textOf (key : String) : Value → Except FieldFault String
  | .text s => .ok s
  | .date d => .ok d.iso
  | .moment m => .ok m.iso
  | .float x => .ok x.text
  | .int i =>
    match Numeral.text? i with
    | some s => .ok s
    | none => .error .unwritable
  | v => .error (.notText key v)

/-- The content that a field takes a value for. -/
def ofValue (field : Field) (key : String) (v : Value) : Except FieldFault Content :=
  match field with
  | .blocking =>
    match v with
    | .bool b => .ok (.flag b)
    | v => .error (.notBool key v)
  | .versionCode =>
    match v with
    | .int i => .ok (.code i)
    | v => .error (.notInteger v)
  | _ => (textOf key v).map .text

end Content

namespace Marker

/-- The marker with one field set; content of the wrong kind is ignored. -/
def put (m : Marker) : Field → Content → Marker
  | .label, .text s => { m with label := s }
  | .description, .text s => { m with description := s }
  | .reason, .text s => { m with reason := s }
  | .addedDate, .text s => { m with addedDate := s }
  | .blocking, .flag b => { m with blocking := b }
  | .removalDate, .text s => { m with removalDate := s }
  | .milestone, .text s => { m with milestone := s }
  | .versionCode, .code i => { m with versionCode := some (.number i) }
  | .versionName, .text s => { m with versionName := s }
  | .issueId, .text s => { m with issueId := s }
  | .cost, .text s => { m with cost := s }
  | _, _ => m

/-- The field that a key names. -/
def fieldOf? : Value → Option (Field × String)
  | .text s => (Field.ofKey? s).map fun f => (f, s)
  | _ => none

/-- Takes one named value into a marker. A null leaves the field as it is. -/
def take (m : Marker) (key value : Value) : Except FieldFault Marker :=
  match fieldOf? key, value with
  | none, _ => .error (.unknown key)
  | some _, .null => .ok m
  | some (field, name), v => (Content.ofValue field name v).map (m.put field)

/-- Takes named values in order. -/
def takeAll (m : Marker) : Entries → Except FieldFault Marker
  | [] => .ok m
  | (key, value) :: rest =>
    match m.take key value with
    | .error f => .error f
    | .ok m => takeAll m rest

/-- The marker of a declaration. -/
def ofFields (fields : Entries) (location : Option Location) : Except FieldFault Marker :=
  takeAll { location } fields

end Marker

end Overdue
