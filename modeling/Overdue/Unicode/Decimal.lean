import Overdue.Unicode.Ranges

/-!
# Decimal digits and blanks

The characters of general category `Nd` come in runs of ten, one run for each script; the table
holds the zero of each run. A blank is a character that ends a word: the separators, and the
controls that move the writing position.
-/
namespace Overdue.Unicode

/-- The zeros of the decimal runs. -/
def zeros : Ranges := Ranges.ofText
  "30 660 6F0 7C0 966 9E6 A66 AE6 B66 BE6 C66 CE6 D66 DE6 E50 ED0 F20 1040 1090 17E0 1810 1946 
  19D0 1A80 1A90 1B50 1BB0 1C40 1C50 A620 A8D0 A900 A9D0 A9F0 AA50 ABF0 FF10 104A0 10D30 
  11066 110F0 11136 111D0 112F0 11450 114D0 11650 116C0 11730 118E0 11950 11C50 11D50 11DA0 
  16A60 16AC0 16B50 1D7CE 1D7D8 1D7E2 1D7EC 1D7F6 1E140 1E2F0 1E950 1FBF0"

/-- The value of a decimal digit of any script. -/
def decimalValue? (c : Char) : Option Nat :=
  if c.isDigit then some (c.toNat - '0'.toNat)
  else if c.toNat < 128 then none
  else (List.range 10).find? fun d => zeros.containsCode (c.toNat - d)

/-- White space in the sense of the bidirectional classes `WS`, `B` and `S` or category `Zs`. -/
def blanks : Ranges := Ranges.ofText
  "9-D 1C-20 85 A0 1680 2000-200A 2028-2029 202F 205F 3000"

def isBlank (c : Char) : Bool :=
  if c.toNat < 128 then (9 ≤ c.toNat && c.toNat ≤ 13) || (28 ≤ c.toNat && c.toNat ≤ 32)
  else blanks.contains c

/-- Drops the blanks at both ends. -/
def trimBlanks (s : List Char) : List Char :=
  ((s.dropWhile isBlank).reverse.dropWhile isBlank).reverse

end Overdue.Unicode
