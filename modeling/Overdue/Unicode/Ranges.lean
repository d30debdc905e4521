/-!
# Sets of code points

A property of characters is kept as a list of closed ranges of code points. `Ranges.ofText` reads
the list from its written form, `Ranges.contains` asks for a member.
-/
namespace Overdue.Unicode

/-- The value of a string of hexadecimal digits; other characters count as zero. -/
def hexValue (s : List Char) : Nat :=
  s.foldl (fun n c => 16 * n + (if c.isDigit then c.toNat - 48 else
    if 'A' ≤ c ∧ c ≤ 'F' then c.toNat - 55 else
    if 'a' ≤ c ∧ c ≤ 'f' then c.toNat - 87 else 0)) 0

/-- Cuts a list at each separator: always one part more than there are separators. -/
def splitAt (sep : Char) : List Char → List (List Char)
  | [] => [[]]
  | c :: rest =>
    match splitAt sep rest with
    | [] => [[]]
    | part :: parts => if c = sep then [] :: part :: parts else (c :: part) :: parts

/-- The words of a text, parted by spaces and line feeds. -/
def words (s : String) : List (List Char) :=
  ((splitAt ' ' s.toList).flatMap (splitAt '\n')).filter (!·.isEmpty)

/-- Closed ranges of code points. -/
structure Ranges where
  bounds : Array (Nat × Nat)

namespace Ranges

/-- Reads ranges `first-last` or single members, in hexadecimal and parted by blanks. -/
def ofText (text : String) : Ranges :=
  ⟨((words text).map fun word =>
    match splitAt '-' word with
    | [first, last] => (hexValue first, hexValue last)
    | _ => (hexValue word, hexValue word)).toArray⟩

def containsCode (r : Ranges) (n : Nat) : Bool :=
  r.bounds.any fun (first, last) => first ≤ n && n ≤ last

def contains (r : Ranges) (c : Char) : Bool :=
  r.containsCode c.toNat

end Ranges

end Overdue.Unicode
