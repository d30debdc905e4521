import Overdue.Calendar.Date
import Overdue.Text.Quoted

/-!
# Reading dates

`Date.read` accepts exactly the texts `YYYY-MM-DD` of real days. A refusal names the stage that
refused: the outer form, the two-digit fields, or the calendar.
-/
namespace Overdue

/-- Why a text is no date. -/
inductive DateTextFault
  /-- The text is not four, two and two ASCII digits with hyphens between. -/
  | form (text : String)
  /-- No month and day stand in the fields. -/
  | fields (text : String)
  /-- The fields hold a month and a day and then this rest. -/
  | leftover (rest : String)
  | calendar (fault : DateFault)
deriving DecidableEq, Repr

def DateTextFault.message : DateTextFault → String
  | .form text => Quoted.text text ++ " does not match YYYY-MM-DD"
  | .fields text =>
    "time data " ++ Quoted.text text ++ " does not match format '%Y-%m-%d'"
  | .leftover rest => "unconverted data remains: " ++ rest
  | .calendar fault => fault.message

namespace Date

def digit (c : Char) : Nat := c.toNat - '0'.toNat

def number (ds : List Char) : Nat := ds.foldl (fun n c => 10 * n + digit c) 0

/-- The year, month and day digits of a text of the outer form. -/
def fields? : List Char → Option (List Char × List Char × List Char)
  | [y1, y2, y3, y4, '-', m1, m2, '-', d1, d2] =>
    if [y1, y2, y3, y4, m1, m2, d1, d2].all Char.isDigit then
      some ([y1, y2, y3, y4], [m1, m2], [d1, d2])
    else none
  | _ => none

/-- The month of two digits: `01` to `12`. A single digit cannot be the month, since a hyphen
follows the second one. -/
def monthOf? (m : List Char) : Option Nat :=
  let n := number m
  if 1 ≤ n ∧ n ≤ 12 then some n else none

/-- The day of two digits and what is left of them. A first digit that starts no two-digit day is a
day by itself. -/
def dayOf? : List Char → Option (Nat × List Char)
  | [d1, d2] =>
    let n := number [d1, d2]
    if 1 ≤ n ∧ n ≤ 31 then some (n, [])
    else if digit d1 ≥ 1 then some (digit d1, [d2])
    else none
  | _ => none

/-- Reads the text of a day. -/
def read (text : String) : Except DateTextFault Date :=
  match fields? text.toList with
  | none => .error (.form text)
  | some (y, m, d) =>
    match monthOf? m, dayOf? d with
    | some month, some (day, []) =>
      match ofNumbers (number y) month day with
      | .ok date => .ok date
      | .error fault => .error (.calendar fault)
    | some _, some (_, rest) => .error (.leftover (String.ofList rest))
    | _, _ => .error (.fields text)

end Date

end Overdue
