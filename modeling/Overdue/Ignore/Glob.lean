/-!
# Globs

A glob is a list of pieces. Each piece leaves some rests of a text, and a glob covers a text if its
pieces can be laid one after the other along it. A rest at which the pieces end may hold more text:
that is decided by the last piece.
-/
namespace Overdue.Ignore

/-- One member of a set of characters. -/
inductive Member
  | one (c : Char)
  | range (first last : Char)
deriving DecidableEq, Repr

def Member.holds : Member → Char → Bool
  | .one a, c => a == c
  | .range first last, c => first ≤ c && c ≤ last

/-- A piece of a glob. -/
inductive Piece
  /-- The character itself. -/
  | char (c : Char)
  /-- Any one character but a slash. -/
  | anyChar
  /-- One character of a set, or outside it; such a character may be a slash. -/
  | oneOf (negated : Bool) (members : List Member)
  /-- Any characters but slashes. -/
  | run
  /-- At least one character, none of them a slash. -/
  | segment
  /-- Nothing, or folders from the top on and the slash behind them. -/
  | outer
  /-- Nothing, or a slash and folders. -/
  | inner
  /-- The end of the text, or a slash. -/
  | boundary
deriving DecidableEq, Repr

namespace Piece

/-- The rests of a text behind any number of characters of a kind. -/
def restsBehind (kind : Char → Bool) : List Char → List (List Char)
  | [] => [[]]
  | c :: rest => (c :: rest) :: (if kind c then restsBehind kind rest else [])

/-- The rests behind one character of a kind. -/
def restsBehindOne (kind : Char → Bool) : List Char → List (List Char)
  | [] => []
  | c :: rest => if kind c then [rest] else []

def isOnLine (c : Char) : Bool := c != '\n'

/-- What a piece leaves of a text. -/
def rests : Piece → List Char → List (List Char)
  | .char a, s => restsBehindOne (· == a) s
  | .anyChar, s => restsBehindOne (· != '/') s
  | .oneOf negated members, s =>
    restsBehindOne (fun c => (members.any (·.holds c)) != negated) s
  | .run, s => restsBehind (· != '/') s
  | .segment, s => (restsBehindOne (· != '/') s).flatMap (restsBehind (· != '/'))
  | .outer, s =>
    s :: ((restsBehindOne isOnLine s).flatMap (restsBehind isOnLine)).flatMap
      (restsBehindOne (· == '/'))
  | .inner, s =>
    s :: ((restsBehindOne (· == '/') s).flatMap (restsBehindOne isOnLine)).flatMap
      (restsBehind isOnLine)
  | .boundary, [] => [[]]
  | .boundary, ['\n'] => [['\n']]
  | .boundary, s => restsBehindOne (· == '/') s

end Piece

/-- Whether pieces can be laid along a text from its start. -/
def covers : List Piece → List Char → Bool
  | [], _ => true
  | piece :: pieces, s => (piece.rests s).any (covers pieces)

end Overdue.Ignore
