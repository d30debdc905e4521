import Overdue.Number.Numeral

/-!
# Version names

A version name is `major.minor.patch`, perhaps with prerelease identifiers after a hyphen and build
identifiers after a plus sign. `Version.read` accepts the ASCII texts of the SemVer 2.0.0 grammar
whose three numbers stay within the digit limit. No prerelease, or no build, is the empty list.
-/
namespace Overdue

/-- An identifier between dots. -/
abbrev Identifier := List Char

/-- A parsed version name. -/
structure Version where
  major : Nat
  minor : Nat
  patch : Nat
  prerelease : List Identifier := []
  build : List Identifier := []
deriving DecidableEq, Repr

/-- Why a text is no version name. -/
inductive VersionFault
  | missing
  | malformed (text : String)
  /-- One of the three numbers has this many digits. -/
  | tooLong (digits : Nat)
deriving DecidableEq, Repr

def VersionFault.message : VersionFault → String
  | .missing => "no version name"
  | .malformed text => text ++ " is not valid SemVer string"
  | .tooLong digits => Numeral.tooLongMessage digits

namespace Identifier

def isNumeric (s : Identifier) : Bool := !s.isEmpty && s.all Char.isDigit

/-- The value of a numeric identifier. -/
def value (s : Identifier) : Nat := s.foldl (fun n c => 10 * n + (c.toNat - '0'.toNat)) 0

/-- A numeric identifier without a zero in front of other digits. -/
def isCanonical (s : Identifier) : Bool :=
  isNumeric s && (s.head? != some '0' || s.length == 1)

def isIdentifierChar (c : Char) : Bool := c.isAlphanum || c == '-'

def isBuild (s : Identifier) : Bool := !s.isEmpty && s.all isIdentifierChar

def isPrerelease (s : Identifier) : Bool := isBuild s && (!isNumeric s || isCanonical s)

end Identifier

namespace Version

/-- The identifiers between dots, if each meets a condition. -/
def identifiers? (ok : Identifier → Bool) (s : List Char) : Option (List Identifier) :=
  let parts := Unicode.splitAt '.' s
  if parts.all ok then some parts else none

/-- Cuts a text at the first of a character; without one, the second part is absent. -/
def cut (sep : Char) (s : List Char) : List Char × Option (List Char) :=
  match s.dropWhile (· != sep) with
  | [] => (s, none)
  | _ :: rest => (s.takeWhile (· != sep), some rest)

/-- The identifiers after a mark; none at all if the mark is absent. -/
def optional? (ok : Identifier → Bool) : Option (List Char) → Option (List Identifier)
  | none => some []
  | some s => identifiers? ok s

/-- The parts of a version name, with its three numbers as text. -/
structure Parts where
  core : List Identifier
  prerelease : List Identifier
  build : List Identifier

/-- Splits a version name: the build starts at the first plus sign, the prerelease at the first
hyphen before that. -/
def parts? (s : List Char) : Option Parts :=
  let (front, build) := cut '+' s
  let (core, prerelease) := cut '-' front
  match identifiers? Identifier.isCanonical core, optional? Identifier.isPrerelease prerelease,
      optional? Identifier.isBuild build with
  | some core, some prerelease, some build => some ⟨core, prerelease, build⟩
  | _, _, _ => none

/-- Reads a version name. -/
def read (text : String) : Except VersionFault Version :=
  match parts? text.toList with
  | some ⟨[major, minor, patch], prerelease, build⟩ =>
    match [major, minor, patch].find? (·.length > Numeral.digitLimit) with
    | some long => .error (.tooLong long.length)
    | none => .ok ⟨major.value, minor.value, patch.value, prerelease, build⟩
  | _ => .error (.malformed text)

/-- Reads a version name that may be absent or empty. -/
def readName : Option String → Except VersionFault Version
  | none => .error .missing
  | some text => if text = "" then .error .missing else read text

/-- Identifiers joined by dots; absent if there are none. -/
def identifiersText : List Identifier → Option String
  | [] => none
  | ids => some (".".intercalate (ids.map String.ofList))

end Version

end Overdue
