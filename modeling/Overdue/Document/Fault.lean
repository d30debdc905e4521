import Overdue.Calendar.Moment
import Overdue.Number.Numeral
import Overdue.Text.Quoted

/-!
# Faults of a document

A document is malformed as a whole, or it is well-formed and something in it names no value: a
scalar, an escape, or the number of a directive.
-/
namespace Overdue.Document

/-- Why a document has no value. -/
inductive Fault
  /-- It is not well-formed, or uses a tag or a key that has no meaning. -/
  | malformed
  /-- An escape names a character beyond the last one. -/
  | escape
  /-- A number is beyond what can be worked with. -/
  | tooLarge
  /-- A text is no whole number of a base. -/
  | numeral (base : Nat) (text : String)
  /-- A whole number has this many digits, more than the limit. -/
  | digits (n : Nat)
  /-- A text is no double. -/
  | double (text : String)
  /-- A number is empty. -/
  | empty
  /-- A word stands for no truth value. -/
  | truth
  /-- A text is neither a date nor a moment. -/
  | notMoment
  /-- A mapping stands where the text of a moment should. -/
  | notText
  /-- Numbers name no date or moment. -/
  | moment (fault : MomentFault)
deriving DecidableEq, Repr, Inhabited

/-- The wording of a fault. What is said of a malformed document names the place and what was
expected there; those words are left out, and one text stands for all of them. -/
def Fault.message : Fault → String
  | .malformed => "<yaml error>"
  | .escape => "chr() arg not in range(0x110000)"
  | .tooLarge => "int too large to convert to float"
  | .numeral base text =>
    "invalid literal for int() with base " ++ toString base ++ ": " ++ Quoted.text text
  | .digits n => Numeral.tooLongMessage n
  | .double text => "could not convert string to float: " ++ Quoted.text text
  | .empty => "string index out of range"
  | .truth => "no truth value"
  | .notMoment => "no date"
  | .notText => "no text"
  | .moment fault => fault.message

end Overdue.Document
