import Overdue.Number.Binary64

/-!
# Shortest decimal text

A double is written with the fewest significant digits that read back as the same double, and of
those texts the nearest one. `Shortest.digits` finds the digits, `Binary64.text` lays them out:
positional from 1e-4 up to 1e16, with an exponent of at least two digits elsewhere.
-/
namespace Overdue

namespace Shortest

/-- The fractions that round to one double: its value and the two ends of its interval, all over
one denominator. -/
structure Interval where
  low : Nat
  value : Nat
  high : Nat
  den : Nat
  /-- Whether the ends round to the double as well. -/
  closed : Bool

def interval (significand : Nat) (exponent : Int) : Interval :=
  -- below a power of two the doubles lie twice as close
  let below := if significand = Nat.pow 2 52 ∧ exponent > Binary64.minExponent then 1 else 2
  let (scale, den) := Binary64.ratio 1 (exponent - 2)
  { low := (4 * significand - below) * scale
    value := 4 * significand * scale
    high := (4 * significand + 2) * scale
    den := den
    closed := significand % 2 = 0 }

/-- Whether `digits · 10 ^ step` rounds to the double. -/
def Interval.holds (i : Interval) (digits : Nat) (step : Int) : Bool :=
  let x := if step ≥ 0 then digits * Nat.pow 10 step.toNat * i.den else digits * i.den
  let scale := if step ≥ 0 then 1 else Nat.pow 10 (-step).toNat
  if i.closed then i.low * scale ≤ x && x ≤ i.high * scale
  else i.low * scale < x && x < i.high * scale

/-- The point of the grid `10 ^ step` nearest to the double that rounds to it, if there is one. -/
def onGrid (i : Interval) (step : Int) : Option Nat :=
  let (num, den) :=
    if step ≥ 0 then (i.value, i.den * Nat.pow 10 step.toNat)
    else (i.value * Nat.pow 10 (-step).toNat, i.den)
  let floor := num / den
  let nearest := Binary64.roundDiv num den
  let other := if nearest = floor then floor + 1 else floor
  if nearest > 0 && i.holds nearest step then some nearest
  else if other > 0 && i.holds other step then some other
  else none

/-- The decimal exponent of a positive fraction: the greatest `k` with `10 ^ k ≤ num / den`. -/
def decimalExponent (num den : Nat) : Int :=
  let guess : Int := ((num.log2 : Int) - den.log2) * 30103 / 100000 - 1
  let reaches (k : Int) : Bool :=
    if k ≥ 0 then Nat.pow 10 k.toNat * den ≤ num else den ≤ num * Nat.pow 10 (-k).toNat
  let rec climb : Nat → Int → Int
    | 0, k => k
    | n + 1, k => if reaches (k + 1) then climb n (k + 1) else k
  climb 4 (guess - 1)

/-- The digits and the place of the last of them, without zeros at the end. -/
def trimZeros : Nat → Nat → Int → Nat × Int
  | 0, digits, step => (digits, step)
  | fuel + 1, digits, step =>
    if digits > 0 ∧ digits % 10 = 0 then trimZeros fuel (digits / 10) (step + 1)
    else (digits, step)

/-- The shortest digits of a positive double, as a number and the exponent of its last digit. -/
def digits (significand : Nat) (exponent : Int) : Nat × Int :=
  let i := interval significand exponent
  let k := decimalExponent i.value i.den
  let found := (List.range 17).findSome? fun (n : Nat) =>
    let step := k - n
    (onGrid i step).map fun d => (d, step)
  match found with
  | some (d, step) => trimZeros 20 d step
  | none => (significand, 0)

end Shortest

namespace Binary64

/-- Lays out digits around the decimal point, or before an exponent. -/
def layout (digits : Nat) (step : Int) : String :=
  let ds := (toString digits).toList
  let point : Int := ds.length + step
  let zeros (n : Nat) : List Char := List.replicate n '0'
  if -4 < point ∧ point ≤ 16 then
    String.ofList <|
      if point ≤ 0 then ['0', '.'] ++ zeros (-point).toNat ++ ds
      else if step ≥ 0 then ds ++ zeros step.toNat ++ ['.', '0']
      else ds.take point.toNat ++ ['.'] ++ ds.drop point.toNat
  else
    let mantissa := match ds with
      | [d] => [d]
      | d :: rest => d :: '.' :: rest
      | [] => []
    let e := point - 1
    let size := toString e.natAbs
    let size := if size.length < 2 then "0" ++ size else size
    String.ofList mantissa ++ "e" ++ (if e < 0 then "-" else "+") ++ size

/-- The shortest text that reads back as the double. -/
def text : Binary64 → String
  | .nan => "nan"
  | .infinite negative => if negative then "-inf" else "inf"
  | .finite negative m e =>
    let body := if m = 0 then "0.0" else
      let (digits, step) := Shortest.digits m e
      layout digits step
    if negative then "-" ++ body else body

end Binary64

end Overdue
