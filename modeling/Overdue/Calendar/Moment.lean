import Overdue.Calendar.Date

/-!
# Moments

A moment is a date with a time of day to the microsecond and, perhaps, an offset from universal
time in seconds. `Moment.iso` writes it; a zone without offset is unknown, not universal.
-/
namespace Overdue

/-- A date with a time of day. -/
structure Moment where
  date : Date
  hour : Nat
  minute : Nat
  second : Nat
  microsecond : Nat := 0
  /-- Seconds east of universal time. -/
  offset : Option Int := none
deriving DecidableEq, Repr

/-- Why numbers name no moment. -/
inductive MomentFault
  | date (fault : DateFault)
  | hour
  | minute
  | second
  /-- The offset, in seconds, is a whole day or more. -/
  | offset (seconds : Int)
deriving DecidableEq, Repr

/-- A span of whole seconds as days, which may be negative, and the seconds of a day. -/
def spanText (seconds : Int) : String :=
  let days := seconds.fdiv 86400
  let rest := seconds.fmod 86400
  let parts := (if days = 0 then [] else ["days=" ++ toString days]) ++
    (if rest = 0 then [] else ["seconds=" ++ toString rest])
  let body := if parts.isEmpty then "0" else ", ".intercalate parts
  "datetime.timedelta(" ++ body ++ ")"

def MomentFault.message : MomentFault → String
  | .date fault => fault.message
  | .hour => "hour must be in 0..23"
  | .minute => "minute must be in 0..59"
  | .second => "second must be in 0..59"
  | .offset seconds =>
    "offset must be a timedelta strictly between -timedelta(hours=24) and timedelta(hours=24), " ++
      "not " ++ spanText seconds ++ "."

namespace Moment

/-- The moment that numbers name. The offset is looked at first, then the date, then the time. -/
def ofNumbers (year month day hour minute second microsecond : Nat) (offset : Option Int) :
    Except MomentFault Moment :=
  match offset with
  | some s => if s.natAbs ≥ 86400 then .error (.offset s) else rest
  | none => rest
where
  rest : Except MomentFault Moment :=
    match Date.ofNumbers year month day with
    | .error fault => .error (.date fault)
    | .ok date =>
      if hour > 23 then .error .hour
      else if minute > 59 then .error .minute
      else if second > 59 then .error .second
      else .ok { date, hour, minute, second, microsecond, offset }

/-- An offset as `+HH:MM`, with seconds if there are any. -/
def offsetText (seconds : Int) : String :=
  let n := seconds.natAbs
  (if seconds < 0 then "-" else "+") ++ padded 2 (n / 3600) ++ ":" ++ padded 2 (n / 60 % 60) ++
    (if n % 60 = 0 then "" else ":" ++ padded 2 (n % 60))

/-- The written form, with a character between date and time. -/
def isoWith (between : String) (m : Moment) : String :=
  m.date.iso ++ between ++ padded 2 m.hour ++ ":" ++ padded 2 m.minute ++ ":" ++
    padded 2 m.second ++
    (if m.microsecond = 0 then "" else "." ++ padded 6 m.microsecond) ++
    (match m.offset with
      | none => ""
      | some s => offsetText s)

def iso (m : Moment) : String := m.isoWith "T"

/-- Days since the start of the calendar. -/
def dayNumber (d : Date) : Nat :=
  let y := d.year - 1
  y * 365 + y / 4 - y / 100 + y / 400 +
    (List.range (d.month - 1)).foldl (fun days i => days + daysInMonth d.year (i + 1)) d.day

/-- Microseconds since the start of the calendar, on the clock of the moment itself. -/
def clock (m : Moment) : Int :=
  (((dayNumber m.date * 24 + m.hour) * 60 + m.minute) * 60 + m.second) * 1000000 + m.microsecond

/-- Two moments are the same if both have an offset and they name one instant, or neither has one
and their clocks agree. -/
def same (a b : Moment) : Bool :=
  match a.offset, b.offset with
  | none, none => a.clock == b.clock
  | some s, some t => a.clock - s * 1000000 == b.clock - t * 1000000
  | _, _ => false

end Moment

end Overdue
