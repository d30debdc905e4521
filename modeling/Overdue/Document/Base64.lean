/-!
# Octets as text

Six bits of a character each, four characters for three octets. Characters outside the alphabet are
skipped, and padding that completes a group of four ends the text.
-/
namespace Overdue.Document.Base64

/-- The six bits of a character. -/
def bits? (c : Char) : Option Nat :=
  if 'A' ≤ c ∧ c ≤ 'Z' then some (c.toNat - 'A'.toNat)
  else if 'a' ≤ c ∧ c ≤ 'z' then some (c.toNat - 'a'.toNat + 26)
  else if '0' ≤ c ∧ c ≤ '9' then some (c.toNat - '0'.toNat + 52)
  else if c = '+' then some 62
  else if c = '/' then some 63
  else none

/-- Reads on in a group: `held` are the bits left over from its last character, `place` counts its
characters and `pads` the padding behind them. None if the text ends inside a group. -/
def decodeFrom : (place held pads : Nat) → List Char → Option (List UInt8)
  | place, _, _, [] => if place = 0 then some [] else none
  | place, held, pads, c :: rest =>
    if c = '=' then
      if place ≥ 2 then
        if place + pads + 1 ≥ 4 then some [] else decodeFrom place held (pads + 1) rest
      else decodeFrom place held pads rest
    else match bits? c with
      | none => decodeFrom place held pads rest
      | some b =>
        match place with
        | 0 => decodeFrom 1 b 0 rest
        | 1 => (decodeFrom 2 (b % 16) 0 rest).map ((held * 4 + b / 16).toUInt8 :: ·)
        | 2 => (decodeFrom 3 (b % 4) 0 rest).map ((held * 16 + b / 4).toUInt8 :: ·)
        | _ => (decodeFrom 0 0 0 rest).map ((held * 64 + b).toUInt8 :: ·)

/-- The octets of a text; none if it is not ASCII or ends inside a group. -/
def decode (text : String) : Option (List UInt8) :=
  if text.toList.all (·.toNat < 128) then decodeFrom 0 0 0 text.toList else none

end Overdue.Document.Base64
