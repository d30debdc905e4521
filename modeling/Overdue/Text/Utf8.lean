/-!
# UTF-8

`Utf8.decode` reads bytes strictly and names the first fault, with the bytes that it covers;
`Utf8.encode` writes. Overlong forms, surrogates and code points past U+10FFFF are faults.
-/
namespace Overdue.Utf8

/-- What is wrong with a sequence of bytes. -/
inductive Reason
  | invalidStart
  | invalidContinuation
  | unexpectedEnd
deriving DecidableEq, Repr

/-- The first fault of a byte string: its first byte, where that stands, and how many bytes the
faulty sequence covers. -/
structure Fault where
  byte : UInt8
  position : Nat
  length : Nat
  reason : Reason
deriving DecidableEq, Repr

def Reason.text : Reason → String
  | .invalidStart => "invalid start byte"
  | .invalidContinuation => "invalid continuation byte"
  | .unexpectedEnd => "unexpected end of data"

def hexDigit (n : Nat) : Char :=
  if n < 10 then Char.ofNat (48 + n) else Char.ofNat (87 + n)

/-- The lower-case hexadecimal text of a number, filled with zeros to a width. -/
def hexText (width n : Nat) : String :=
  String.ofList ((List.range width).reverse.map fun i => hexDigit (n / Nat.pow 16 i % 16))

def Fault.message (f : Fault) : String :=
  "'utf-8' codec can't decode " ++
    (if f.length = 1 then
      "byte 0x" ++ hexText 2 f.byte.toNat ++ " in position " ++ toString f.position
    else
      "bytes in position " ++ toString f.position ++ "-" ++
        toString (f.position + f.length - 1)) ++
    ": " ++ f.reason.text

def isContinuation (b : UInt8) : Bool := 0x80 ≤ b && b < 0xC0

def bits (b : UInt8) : Nat := b.toNat % 64

/-- How many bytes a sequence has and the payload of its first byte; none for a byte that starts
no sequence. -/
def start? (b : UInt8) : Option (Nat × Nat) :=
  if b < 0x80 then some (0, b.toNat)
  else if b < 0xC2 then none
  else if b < 0xE0 then some (1, b.toNat % 32)
  else if b < 0xF0 then some (2, b.toNat % 16)
  else if b < 0xF5 then some (3, b.toNat % 8)
  else none

/-- Whether a second byte may follow the first: this keeps out overlong forms, surrogates, and code
points that are too great. -/
def mayFollow (first second : UInt8) : Bool :=
  isContinuation second &&
    !(first == 0xE0 && second < 0xA0) && !(first == 0xED && second ≥ 0xA0) &&
    !(first == 0xF0 && second < 0x90) && !(first == 0xF4 && second ≥ 0x90)

/-- Reads the continuation bytes of a sequence. -/
def sequence (first : UInt8) (position : Nat) :
    (missing read payload : Nat) → List UInt8 → Except Fault Nat
  | 0, _, payload, _ => .ok payload
  | _ + 1, read, _, [] => .error ⟨first, position, read, .unexpectedEnd⟩
  | missing + 1, read, payload, b :: rest =>
    if (if read = 1 then mayFollow first b else isContinuation b) then
      sequence first position missing (read + 1) (payload * 64 + bits b) rest
    else .error ⟨first, position, read, .invalidContinuation⟩

/-- Decodes from a position on; `skip` bytes belong to the character before. -/
def decodeFrom : (position skip : Nat) → List UInt8 → Except Fault (List Char)
  | _, _, [] => .ok []
  | position, skip + 1, _ :: rest => decodeFrom (position + 1) skip rest
  | position, 0, b :: rest =>
    match start? b with
    | none => .error ⟨b, position, 1, .invalidStart⟩
    | some (missing, payload) =>
      match sequence b position missing 1 payload rest with
      | .error f => .error f
      | .ok code =>
        match decodeFrom (position + 1) missing rest with
        | .error f => .error f
        | .ok s => .ok (Char.ofNat code :: s)

def decode (bytes : List UInt8) : Except Fault (List Char) :=
  decodeFrom 0 0 bytes

def encode (s : List Char) : List UInt8 :=
  (String.ofList s).toUTF8.toList

end Overdue.Utf8
