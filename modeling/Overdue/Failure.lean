import Overdue.Diagnostic
import Overdue.Document.Fault
import Overdue.Files
import Overdue.Ignore.Pattern
import Overdue.Source.Declarations
import Overdue.Text.Utf8

/-!
# Failures

Why a whole task ends without its result. A problem with one declaration is no failure: it is
recorded, and the task goes on.
-/
namespace Overdue

inductive Failure
  /-- The configuration is refused, in these words. -/
  | configuration (message : String)
  /-- A source of declarations is refused. -/
  | source (problem : Problem)
  /-- A text file is not UTF-8. -/
  | encoding (fault : Utf8.Fault)
  /-- A document holds a scalar that names no value. -/
  | document (fault : Document.Fault)
  /-- The stack gives out over a document. -/
  | exhausted
  /-- Reading a source file was broken off. -/
  | interruption (cause : Source.Interruption)
  /-- A line is no ignore pattern. -/
  | pattern (fault : Ignore.PatternFault)
  /-- A path leads to no file. -/
  | absence (cause : Absence)
  /-- A whole number is to be written that has more digits than the limit. -/
  | unwritable
  /-- A double that is to become a whole number is infinite. -/
  | infinite
  /-- A value is of a kind that does not serve here. -/
  | wrongKind
  /-- A part is asked of a value that is no mapping. -/
  | notMapping
  /-- A report asks for a part of something that is not there. -/
  | undefinedPart
deriving Repr

/-- The wording of a failure. -/
def Failure.message : Failure → String
  | .configuration message => message
  | .source problem => problem.text
  | .encoding fault => fault.message
  | .document fault => fault.message
  | .exhausted => "maximum recursion depth exceeded"
  | .interruption .exhausted => "maximum recursion depth exceeded"
  | .interruption .zeroCharacter => "source code string cannot contain null bytes"
  | .interruption .numberTooLarge => "int too large to convert to float"
  | .pattern .unusable => "an ignore pattern is unusable"
  | .pattern .reversedRange => "an ignore pattern holds a reversed range"
  | .absence .missing => "no such file or directory"
  | .absence .notFolder => "not a directory"
  | .absence .isFolder => "is a directory"
  | .absence (.refused reason) => reason
  | .unwritable => Numeral.unwritableMessage
  | .infinite => "cannot convert float infinity to integer"
  | .wrongKind => "a value is of the wrong kind"
  | .notMapping => "a value is no mapping"
  | .undefinedPart => "a part is asked of what is not there"

end Overdue
