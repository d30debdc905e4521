import Overdue.Version

/-!
# The order of versions

`Version.precedence` is SemVer precedence: the three numbers, then the prerelease, where a version
without prerelease ranks above the same version with one. It is the order that libraries of versions
document, and it is taken from one. `Version.compare` breaks its ties by build metadata: none ranks
above some, then identifier by identifier, then the longer list.

Two numerals of build metadata are compared as numbers, and one beyond the digit limit cannot be
read: the answer is then the number of its digits. At which numerals of a prerelease a library stops
is its own affair, and so `Version.compare` takes any `Ranking` for the first part. One that reads
numerals only where they stand against each other is `Version.limited`.
-/
namespace Overdue

namespace Identifier

/-- The identifier with its numeric reading taken, if it has one. -/
inductive Rank
  | number (n : Nat)
  | word (s : Identifier)
deriving DecidableEq, Repr

/-- The order of two texts by code points. -/
def compareText : List Char → List Char → Ordering
  | [], [] => .eq
  | [], _ :: _ => .lt
  | _ :: _, [] => .gt
  | a :: as, b :: bs => (compare a.toNat b.toNat).then (compareText as bs)

/-- Numbers rank below words. -/
def Rank.order : Rank → Rank → Ordering
  | .number m, .number n => compare m n
  | .number _, .word _ => .lt
  | .word _, .number _ => .gt
  | .word s, .word t => compareText s t

/-- A numeral is read as its number, however long it is, and anything else as a word. -/
def reading (s : Identifier) : Rank :=
  if s.isNumeric then .number s.value else .word s

/-- Build identifiers are compared as numbers if both are numeric, else as texts. -/
def compareBuild (a b : Identifier) : Except Nat Ordering :=
  if a.isNumeric && b.isNumeric then
    if a.length > Numeral.digitLimit then .error a.length
    else if b.length > Numeral.digitLimit then .error b.length
    else .ok (compare a.value b.value)
  else .ok (compareText a b)

end Identifier

namespace Version

/-- Position by position; of two lists where one begins the other, the longer ranks higher. -/
def orderRanks : List Identifier.Rank → List Identifier.Rank → Ordering
  | [], [] => .eq
  | [], _ :: _ => .lt
  | _ :: _, [] => .gt
  | a :: as, b :: bs => (a.order b).then (orderRanks as bs)

/-- The order of two prereleases; an absent one ranks highest. -/
def orderPrerelease : List Identifier.Rank → List Identifier.Rank → Ordering
  | [], [] => .eq
  | [], _ :: _ => .gt
  | _ :: _, [] => .lt
  | as, bs => orderRanks as bs

/-- The order of the three numbers. -/
def orderCore (a b : Version) : Ordering :=
  (compare a.major b.major).then ((compare a.minor b.minor).then (compare a.patch b.patch))

/-- The order of the prereleases. -/
def prereleaseOrder (a b : Version) : Ordering :=
  orderPrerelease (a.prerelease.map Identifier.reading) (b.prerelease.map Identifier.reading)

/-- SemVer precedence. -/
def precedence (a b : Version) : Ordering := (orderCore a b).then (prereleaseOrder a b)

/-- Position by position, then by length. -/
def orderBuilds : List Identifier → List Identifier → Except Nat Ordering
  | [], [] => .ok .eq
  | [], _ :: _ => .ok .lt
  | _ :: _, [] => .ok .gt
  | a :: as, b :: bs =>
    match Identifier.compareBuild a b with
    | .error n => .error n
    | .ok .eq => orderBuilds as bs
    | .ok o => .ok o

/-- The order of two builds; an absent one ranks highest. -/
def orderBuild : List Identifier → List Identifier → Except Nat Ordering
  | [], [] => .ok .eq
  | [], _ :: _ => .ok .gt
  | _ :: _, [] => .ok .lt
  | as, bs => orderBuilds as bs

/-- How a library ranks two versions; or the number of digits at which it stops. -/
abbrev Ranking := Version → Version → Except Nat Ordering

/-- The ranking by precedence of a library that reads the numerals of prereleases as those of builds
are read: it stops at one beyond the digit limit, if it gets there. -/
def limited : Ranking := fun a b =>
  match orderCore a b, orderBuilds a.prerelease b.prerelease with
  | .eq, .error n => .error n
  | _, _ => .ok (a.precedence b)

/-- A ranking, with build metadata breaking its ties. -/
def compare (a b : Version) (ranking : Ranking := limited) : Except Nat Ordering :=
  match ranking a b with
  | .ok .eq => orderBuild a.build b.build
  | r => r

end Version

end Overdue
