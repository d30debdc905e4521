import Overdue.Files.Path
import Overdue.Ignore.Glob
import Overdue.Unicode.Decimal

/-!
# Ignore patterns

One line of an ignore file. Blank lines and comments say nothing. An exclamation mark takes back
what lines before it ignored. A pattern that names one segment applies in every folder; one that
has a slash in front or inside applies from the top. What it matches is ignored with everything
below; a slash at the end keeps it from matching files.
-/
namespace Overdue.Ignore

/-- Why a line is no pattern. -/
inductive PatternFault
  /-- Nothing to match is left, or a backslash stands last. -/
  | unusable
  /-- The ends of a range of characters stand in the wrong order. -/
  | reversedRange
deriving DecidableEq, Repr

/-- What a pattern matches. -/
inductive Scope
  /-- Every file. -/
  | everything
  /-- Every file that lies in a folder. -/
  | nested
  | glob (pieces : List Piece)
deriving DecidableEq, Repr

structure Pattern where
  /-- Whether it ignores; otherwise it takes back. -/
  ignores : Bool
  scope : Scope
deriving DecidableEq, Repr

/-- The members of a set up to its closing bracket. A hyphen between two characters makes a
range. -/
def setMembers : List Char → Except PatternFault (List Member)
  | [] => .ok []
  | a :: '-' :: b :: rest =>
    if b < a then .error .reversedRange
    else (setMembers rest).map (.range a b :: ·)
  | a :: rest => (setMembers rest).map (.one a :: ·)

/-- The text of a set and what follows its closing bracket. The first character never closes. -/
def setText? : List Char → Option (List Char × List Char)
  | [] => none
  | first :: rest =>
    match rest.span (· != ']') with
    | (_, []) => none
    | (more, _ :: after) => some (first :: more, after)

/-- A set behind its opening bracket: whether it is negated, its text, and what follows. -/
def set? : List Char → Option (Bool × List Char × List Char)
  | c :: rest =>
    if c = '!' || c = '^' then (setText? rest).map fun (s, after) => (true, s, after)
    else (setText? (c :: rest)).map fun (s, after) => (false, s, after)
  | [] => none

/-- Puts a piece in front. -/
def consPiece (piece : Piece) (rest : Except PatternFault (List Piece)) :
    Except PatternFault (List Piece) :=
  rest.map (piece :: ·)

/-- The pieces of one segment. `skip` characters belong to a set that is read already. -/
def segmentPieces : (skip : Nat) → List Char → Except PatternFault (List Piece)
  | _, [] => .ok []
  | skip + 1, _ :: rest => segmentPieces skip rest
  | 0, '\\' :: c :: rest => consPiece (.char c) (segmentPieces 0 rest)
  | 0, ['\\'] => .error .unusable
  | 0, '*' :: rest => consPiece .run (segmentPieces 0 rest)
  | 0, '?' :: rest => consPiece .anyChar (segmentPieces 0 rest)
  | 0, '[' :: rest =>
    match set? rest with
    | none => consPiece (.char '[') (segmentPieces 0 rest)
    | some (negated, text, after) =>
      match setMembers text, segmentPieces (rest.length - after.length) rest with
      | _, .error .unusable => .error .unusable
      | .error f, _ => .error f
      | .ok _, .error f => .error f
      | .ok members, .ok pieces => .ok (.oneOf negated members :: pieces)
  | 0, c :: rest => consPiece (.char c) (segmentPieces 0 rest)

/-- The pieces of a segment other than two asterisks. -/
def ownPieces (segment : List Char) : Except PatternFault (List Piece) :=
  if segment = ['*'] then .ok [.segment] else segmentPieces 0 segment

def anyDepth : List Char := ['*', '*']

/-- The pieces of segments behind the first; a slash stands in front of each. -/
def laterPieces : List (List Char) → Except PatternFault (List Piece)
  | [] => .ok [.boundary]
  | segment :: rest =>
    if segment = anyDepth then
      if rest.isEmpty then .ok [.char '/'] else consPiece .inner (laterPieces rest)
    else
      match ownPieces segment, laterPieces rest with
      | .error .unusable, _ => .error .unusable
      | _, .error .unusable => .error .unusable
      | .error f, _ => .error f
      | .ok _, .error f => .error f
      | .ok own, .ok later => .ok (.char '/' :: own ++ later)

/-- The pieces of all segments. -/
def pathPieces : List (List Char) → Except PatternFault (List Piece)
  | [] => .ok [.boundary]
  | segment :: rest =>
    if segment = anyDepth then
      match laterPieces rest with
      | .ok (.char '/' :: later) => .ok (.outer :: later)
      | .ok later => .ok (.outer :: later)
      | .error f => .error f
    else
      match ownPieces segment, laterPieces rest with
      | .error .unusable, _ => .error .unusable
      | _, .error .unusable => .error .unusable
      | .error f, _ => .error f
      | .ok _, .error f => .error f
      | .ok own, .ok later => .ok (own ++ later)

/-- Segments without a repeated mark for any depth. -/
def mergeDepths : List (List Char) → List (List Char)
  | [] => []
  | a :: rest =>
    match mergeDepths rest with
    | b :: more => if a = anyDepth && b = anyDepth then a :: more else a :: b :: more
    | [] => [a]

/-- Puts the segments of a pattern into the form that starts at the top: one segment alone gets a
mark for any depth in front, a slash at the end becomes such a mark. -/
def anchored : List (List Char) → List (List Char)
  | [] :: rest => atEnd rest
  | [only] => if only = anyDepth then [only] else [anyDepth, only]
  | [only, []] => if only = anyDepth then [only, anyDepth] else [anyDepth, only, anyDepth]
  | segments => atEnd segments
where
  atEnd : List (List Char) → List (List Char)
    | [] => []
    | [[]] => [anyDepth]
    | [s] => [s]
    | s :: rest => s :: atEnd rest

/-- What the segments of a pattern match. -/
def scopeOf (segments : List (List Char)) : Except PatternFault Scope :=
  let isFolder := segments.getLast?.any List.isEmpty
  match mergeDepths (anchored segments) with
  | [] => .error .unusable
  | [s] =>
    if s = anyDepth then .ok (if isFolder then .nested else .everything)
    else (pathPieces [s]).map .glob
  | segments => (pathPieces segments).map .glob

/-- Drops blanks at the end, unless the last one is escaped. -/
def trimEnd (line : List Char) : List Char :=
  match line.reverse with
  | ' ' :: '\\' :: _ => line
  | reversed => (reversed.dropWhile Unicode.isBlank).reverse

namespace Pattern

/-- The pattern of a line, if it has one. -/
def ofLine (line : List Char) : Except PatternFault (Option Pattern) :=
  match trimEnd line with
  | [] => .ok none
  | '#' :: _ => .ok none
  | ['/'] => .ok none
  | '!' :: rest => (scopeOf (Path.segmentsOf rest)).map fun s => some ⟨false, s⟩
  | line => (scopeOf (Path.segmentsOf line)).map fun s => some ⟨true, s⟩

/-- Whether a pattern applies to the path of a file. -/
def appliesTo (p : Pattern) (path : List Char) : Bool :=
  match p.scope with
  | .everything => path.any (· != '\n')
  | .nested => path.contains '/'
  | .glob pieces => covers pieces path

end Pattern

end Overdue.Ignore
