import Overdue.Document.Node

/-!
# What a plain scalar stands for

A plain scalar is a truth value, a number, a date, nothing, or one of the two special keys if its
text has the form of one; otherwise it is a text.
-/
namespace Overdue.Document.Plain

def isDigitOrLow (c : Char) : Bool := c.isDigit || c == '_'

def isOctalOrLow (c : Char) : Bool := ('0' ≤ c && c ≤ '7') || c == '_'

def isBinaryOrLow (c : Char) : Bool := c == '0' || c == '1' || c == '_'

def isHexOrLow (c : Char) : Bool :=
  isDigitOrLow c || ('a' ≤ c && c ≤ 'f') || ('A' ≤ c && c ≤ 'F')

def dropSign : List Char → List Char
  | '-' :: rest => rest
  | '+' :: rest => rest
  | s => s

def startsWithDigit : List Char → Bool
  | c :: _ => c.isDigit
  | [] => false

/-- Parts behind colons, each a number below sixty of at most two digits: at least one, up to the
point or the end. -/
def sixtieths : List Char → Option (List Char)
  | ':' :: a :: b :: rest =>
    if !a.isDigit then none
    else if b.isDigit then
      if a ≤ '5' then
        if rest.head? = some ':' then sixtieths rest else some rest
      else none
    else if b = ':' then sixtieths (b :: rest) else some (b :: rest)
  | [':', a] => if a.isDigit then some [] else none
  | _ => none

/-- An exponent with its sign, or nothing. -/
def isExponent : List Char → Bool
  | [] => true
  | e :: sign :: ds =>
    (e == 'e' || e == 'E') && (sign == '-' || sign == '+') && !ds.isEmpty && ds.all Char.isDigit
  | _ => false

def isInt (s : List Char) : Bool :=
  match dropSign s with
  | '0' :: [] => true
  | '0' :: 'b' :: ds => !ds.isEmpty && ds.all isBinaryOrLow
  | '0' :: 'x' :: ds => !ds.isEmpty && ds.all isHexOrLow
  | '0' :: ds => ds.all isOctalOrLow
  | c :: ds =>
    c.isDigit && (match ds.dropWhile isDigitOrLow with
      | [] => true
      | rest => sixtieths rest == some [])
  | [] => false

def isFloat (s : List Char) : Bool :=
  let body := dropSign s
  let infinite := [".inf", ".Inf", ".INF"].any fun w => body == w.toList
  let notNumber := [".nan", ".NaN", ".NAN"].any fun w => s == w.toList
  infinite || notNumber ||
    match s with
    | '.' :: ds => startsWithDigit ds && isExponent (ds.dropWhile isDigitOrLow)
    | _ =>
      startsWithDigit body &&
        match body.dropWhile isDigitOrLow with
        | '.' :: rest => isExponent (rest.dropWhile isDigitOrLow)
        | rest =>
          match sixtieths rest with
          | some ('.' :: rest) => rest.all isDigitOrLow
          | _ => false

def isBool (s : List Char) : Bool :=
  ["yes", "Yes", "YES", "no", "No", "NO", "true", "True", "TRUE", "false", "False", "FALSE", "on",
    "On", "ON", "off", "Off", "OFF"].contains (String.ofList s)

def isNull (s : List Char) : Bool := ["~", "null", "Null", "NULL"].contains (String.ofList s)

/-- The written form of a date or moment in parts. -/
structure TimeParts where
  year : Nat
  month : Nat
  day : Nat
  /-- Hour, minute, second and the digits behind the point. -/
  time : Option (Nat × Nat × Nat × List Char) := none
  /-- The zone in seconds. -/
  offset : Option Int := none
  /-- Whether month and day have two digits each. -/
  padded : Bool
deriving Repr

def number (ds : List Char) : Nat := ds.foldl (fun n d => 10 * n + (d.toNat - '0'.toNat)) 0

/-- Reads at least `least` and at most two digits. -/
def upToTwo (least : Nat) (s : List Char) : Option (Nat × Nat × List Char) :=
  let ds := (s.take 2).takeWhile Char.isDigit
  if ds.length < least then none else some (number ds, ds.length, s.drop ds.length)

/-- A character that has to stand here. -/
def expect (c : Char) (s : List Char) : Option (List Char) :=
  match s with
  | ch :: rest => if ch = c then some rest else none
  | [] => none

def isSpaceOrTab (c : Char) : Bool := c == ' ' || c == '\t'

/-- The zone of a moment: nothing, `Z`, or hours and perhaps minutes with a sign. -/
def zone? (s : List Char) : Option (Option Int) :=
  if s.isEmpty then some none
  else match s.dropWhile isSpaceOrTab with
    | ['Z'] => some (some 0)
    | sign :: rest =>
      if sign = '+' ∨ sign = '-' then do
        let (hours, _, rest) ← upToTwo 1 rest
        let minutes ← match rest with
          | [] => some 0
          | ':' :: rest =>
            match upToTwo 2 rest with
            | some (m, _, []) => some m
            | _ => none
          | _ => none
        let seconds : Int := (hours * 60 + minutes) * 60
        return some (if sign = '-' then -seconds else seconds)
      else none
    | [] => none

/-- The parts of a date, or of a date, a gap or the letter T, and a time of day. -/
def timeParts? (s : List Char) : Option TimeParts := do
  let year := s.take 4
  if year.length < 4 || !year.all Char.isDigit then none
  else
    let rest ← expect '-' (s.drop 4)
    let (month, monthDigits, rest) ← upToTwo 1 rest
    let rest ← expect '-' rest
    let (day, dayDigits, rest) ← upToTwo 1 rest
    let padded := monthDigits == 2 && dayDigits == 2
    match rest with
    | [] => return { year := number year, month, day, padded }
    | c :: after =>
      let rest ←
        if c = 'T' ∨ c = 't' then some after
        else if isSpaceOrTab c then some (after.dropWhile isSpaceOrTab)
        else none
      let (hour, _, rest) ← upToTwo 1 rest
      let rest ← expect ':' rest
      let (minute, _, rest) ← upToTwo 2 rest
      let rest ← expect ':' rest
      let (second, _, rest) ← upToTwo 2 rest
      let (fraction, rest) := match rest with
        | '.' :: r => (r.takeWhile Char.isDigit, r.dropWhile Char.isDigit)
        | r => ([], r)
      let offset ← zone? rest
      return { year := number year, month, day, padded, offset,
               time := some (hour, minute, second, fraction) }

/-- Whether a plain text is a date or a moment. A date alone has two digits for month and day. -/
def isTimestamp (s : List Char) : Bool :=
  match timeParts? s with
  | some p => p.time.isSome || p.padded
  | none => false

/-- The text without a line feed at its end, which the forms do not look at. -/
def form (s : List Char) : List Char :=
  if s.getLast? = some '\n' then s.dropLast else s

/-- The tag of a plain scalar. -/
def tag (text : String) : Tag :=
  let s := form text.toList
  if text = "" then .null
  else if text = "\n" then .str
  else if isBool s then .bool
  else if isFloat s then .float
  else if isInt s then .int
  else if s = "<<".toList then .merge
  else if isNull s then .null
  else if isTimestamp s then .timestamp
  else if s = "=".toList then .default
  else if s = "!".toList ∨ s = "&".toList ∨ s = "*".toList then .other
  else .str

end Overdue.Document.Plain
