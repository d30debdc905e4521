import Overdue.Number.Binary64
import Overdue.Unicode.Decimal

/-!
# Reading and writing numerals

Whole numbers are read from decimal text of any script, with single low lines between digits and
blanks around. Neither reading nor writing passes `Numeral.digitLimit` digits.
-/
namespace Overdue

namespace Numeral

/-- The most decimal digits that a whole number may have in a conversion from or to text. -/
def digitLimit : Nat := 4300

/-- Why a text is no whole number. -/
inductive Fault
  /-- The text is no numeral of the base. -/
  | malformed
  /-- The numeral has this many digits, more than the limit. -/
  | tooLong (digits : Nat)
deriving DecidableEq, Repr

/-- What is said of a numeral beyond the digit limit. -/
def tooLongMessage (digits : Nat) : String :=
  "Exceeds the limit (" ++ toString digitLimit ++
    " digits) for integer string conversion: value has " ++ toString digits ++
    " digits; use sys.set_int_max_str_digits() to increase the limit"

/-- What is said of a whole number whose numeral would be beyond the digit limit. -/
def unwritableMessage : String :=
  "Exceeds the limit (" ++ toString digitLimit ++
    " digits) for integer string conversion; use sys.set_int_max_str_digits() to increase the limit"

/-- The value of a digit in bases up to 36. -/
def digitValue? (c : Char) : Option Nat :=
  match Unicode.decimalValue? c with
  | some d => some d
  | none =>
    if 'a' ≤ c ∧ c ≤ 'z' then some (c.toNat - 'a'.toNat + 10)
    else if 'A' ≤ c ∧ c ≤ 'Z' then some (c.toNat - 'A'.toNat + 10)
    else none

/-- The value of a digit below the base. -/
def digitBelow? (base : Nat) (c : Char) : Option Nat :=
  (digitValue? c).filter (· < base)

/-- Digits of a base with single low lines between them. -/
def digits? (base : Nat) : List Char → Option (List Nat)
  | [] => none
  | [c] => (digitBelow? base c).map ([·])
  | c :: '_' :: rest => do
    let d ← digitBelow? base c
    let ds ← digits? base rest
    return d :: ds
  | c :: rest => do
    let d ← digitBelow? base c
    let ds ← digits? base rest
    return d :: ds

def ofDigits (base : Nat) (ds : List Nat) : Nat :=
  ds.foldl (fun n d => base * n + d) 0

/-- A sign, if there is one, and the rest. -/
def sign : List Char → Bool × List Char
  | '-' :: rest => (true, rest)
  | '+' :: rest => (false, rest)
  | s => (false, s)

def signed (negative : Bool) (n : Nat) : Int :=
  if negative then -(n : Int) else n

/-- A whole number in decimal: blanks, a sign, digits, blanks. -/
def readInt (s : List Char) : Except Fault Int :=
  let (negative, body) := sign (Unicode.trimBlanks s)
  match digits? 10 body with
  | none => .error .malformed
  | some ds =>
    if ds.length > digitLimit then .error (.tooLong ds.length)
    else .ok (signed negative (ofDigits 10 ds))

/-- A whole number in another base up to 36, after the base's letter prefix if it stands there. -/
def readIntIn (base : Nat) (letter : Option Char) (s : List Char) : Except Fault Int :=
  let (negative, body) := sign (Unicode.trimBlanks s)
  let body := match body, letter with
    | '0' :: c :: '_' :: rest, some l => if c.toLower = l then rest else body
    | '0' :: c :: rest, some l => if c.toLower = l then rest else body
    | _, _ => body
  match digits? base body with
  | none => .error .malformed
  | some ds => .ok (signed negative (ofDigits base ds))

/-- The decimal text of a whole number; none if it has more digits than the limit. -/
def text? (i : Int) : Option String :=
  if i.natAbs < Nat.pow 10 digitLimit then some (toString i) else none

/-- Whether a text starts with a digit. -/
def startsWithDigit : List Char → Bool
  | c :: _ => (Unicode.decimalValue? c).isSome
  | [] => false

/-- The digits in front, with single low lines between them, and the rest. -/
def spanDigits : List Char → List Nat × List Char
  | [] => ([], [])
  | '_' :: rest => ([], '_' :: rest)
  | c :: '_' :: rest =>
    match Unicode.decimalValue? c with
    | none => ([], c :: '_' :: rest)
    | some d =>
      if startsWithDigit rest then
        let (ds, r) := spanDigits rest
        (d :: ds, r)
      else ([d], '_' :: rest)
  | c :: rest =>
    match Unicode.decimalValue? c with
    | none => ([], c :: rest)
    | some d =>
      let (ds, r) := spanDigits rest
      (d :: ds, r)

/-- A double in decimal: a sign, digits around a point, an exponent, or the words for infinity and
for what is not a number. -/
def readDouble? (s : List Char) : Option Binary64 :=
  let (negative, body) := sign (Unicode.trimBlanks s)
  let word := (String.ofList body).toLower
  if word = "inf" ∨ word = "infinity" then some (.infinite negative)
  else if word = "nan" then some .nan
  else
    let (whole, rest) := spanDigits body
    let (fraction, rest) := match rest with
      | '.' :: rest => spanDigits rest
      | _ => ([], rest)
    if whole.isEmpty && fraction.isEmpty then none
    else
      let exponent? : Option Int := match rest with
        | [] => some 0
        | e :: rest =>
          if e = 'e' ∨ e = 'E' then
            let (negative, body) := sign rest
            match spanDigits body with
            | (d :: ds, []) => some (signed negative (ofDigits 10 (d :: ds)))
            | _ => none
          else none
      exponent?.map fun e =>
        Binary64.ofDecimal negative (ofDigits 10 (whole ++ fraction)) (e - fraction.length)

end Numeral

end Overdue
