import Overdue.Number.Numeral
import Overdue.Number.Shortest
import Overdue.Text.Quoted
import Overdue.Value

/-!
# The text of a value

`Value.literal?` writes a value as the literal that would declare it, `Value.display?` as text for
a reader: the two differ on texts, dates and moments. Neither writes a whole number beyond the digit
limit; then there is no text.
-/
namespace Overdue.Value

/-- A double as part of a complex number: a whole one has no point. -/
def partText (x : Binary64) : String :=
  let s := x.text
  if s.endsWith ".0" then String.ofList (s.toList.dropLast.dropLast) else s

def complexText (re im : Binary64) : String :=
  if re.isZero && !re.isNegative then partText im ++ "j"
  else
    let t := partText im
    "(" ++ partText re ++ (if t.startsWith "-" then t else "+" ++ t) ++ "j)"

def dateText (d : Date) : String :=
  "datetime.date(" ++ toString d.year ++ ", " ++ toString d.month ++ ", " ++ toString d.day ++ ")"

def zoneText (offset : Int) : String :=
  if offset = 0 then "datetime.timezone.utc"
  else "datetime.timezone(" ++ spanText offset ++ ")"

def momentText (m : Moment) : String :=
  let d := m.date
  let parts := [d.year, d.month, d.day, m.hour, m.minute] ++
    (if m.microsecond = 0 then (if m.second = 0 then [] else [m.second])
      else [m.second, m.microsecond])
  let zone := match m.offset with
    | none => []
    | some s => ["tzinfo=" ++ zoneText s]
  "datetime.datetime(" ++ ", ".intercalate (parts.map toString ++ zone) ++ ")"

mutual

/-- The literal form of a value, with the members of a set in the order in which they stand. -/
def literal? : Value → Option String
  | .null => some "None"
  | .bool b => some (if b then "True" else "False")
  | .int i => Numeral.text? i
  | .float x => some x.text
  | .complex re im => some (complexText re im)
  | .text s => some (Quoted.text s)
  | .bytes bs => some (Quoted.bytes bs)
  | .date d => some (dateText d)
  | .moment m => some (momentText m)
  | .ellipsis => some "Ellipsis"
  | .list items => do
    let ts ← literals? items
    return "[" ++ ", ".intercalate ts ++ "]"
  | .tuple items => do
    let ts ← literals? items
    return "(" ++ ", ".intercalate ts ++ (if ts.length = 1 then ",)" else ")")
  | .set items => do
    let ts ← literals? items
    return if ts.isEmpty then "set()" else "\x7b" ++ ", ".intercalate ts ++ "\x7d"
  | .map entries => do
    let ts ← entryTexts? entries
    return "\x7b" ++ ", ".intercalate ts ++ "\x7d"
  | .enclosing isMap => some (if isMap then "\x7b...\x7d" else "[...]")

def literals? : List Value → Option (List String)
  | [] => some []
  | v :: vs => do
    let t ← literal? v
    let ts ← literals? vs
    return t :: ts

def entryTexts? : List (Value × Value) → Option (List String)
  | [] => some []
  | (k, v) :: rest => do
    let s ← literal? k
    let t ← literal? v
    let ts ← entryTexts? rest
    return (s ++ ": " ++ t) :: ts

end

/-- The text of a value for a reader. -/
def display? : Value → Option String
  | .text s => some s
  | .date d => some d.iso
  | .moment m => some (m.isoWith " ")
  | v => v.literal?

end Overdue.Value
