import Std.Data.HashMap
import Overdue.Unicode.Ranges
import Overdue.Unicode.CompatibilityTable

/-!
# Compatibility normal form

`Compatibility.normalize` decomposes every character fully, sorts each run of combining marks by
class, and composes again. ASCII text is its own normal form. The tables cover the characters that
identifiers may hold.
-/
namespace Overdue.Unicode.Compatibility

/-- What a character decomposes to, where the table has an entry. -/
def decompositions : Std.HashMap Nat (List Nat) :=
  let ofRuns := (words runs).flatMap fun entry =>
    match splitAt '>' entry with
    | [span, image] =>
      match splitAt '-' span with
      | [first, last] =>
        let start := hexValue first
        (List.range (hexValue last + 1 - start)).map fun i => (start + i, [hexValue image + i])
      | _ => []
    | _ => []
  let ofSingles := (words singles).filterMap fun entry =>
    match splitAt '>' entry with
    | [source, image] => some (hexValue source, (splitAt ',' image).map hexValue)
    | _ => none
  Std.HashMap.ofList (ofRuns ++ ofSingles)

/-- Ranges of equal combining class. -/
def combiningClasses : Array (Nat × Nat × Nat) :=
  ((words classes).filterMap fun entry =>
    match splitAt ':' entry with
    | [span, value] =>
      match splitAt '-' span with
      | [first, last] =>
        some (hexValue first, hexValue last,
          value.foldl (fun n c => 10 * n + (c.toNat - 48)) 0)
      | _ => none
    | _ => none).toArray

/-- Primary composites by their two parts. -/
def compositions : Std.HashMap (Nat × Nat) Nat :=
  Std.HashMap.ofList ((words composites).filterMap fun entry =>
    match splitAt '>' entry with
    | [pair, composite] =>
      match splitAt ',' pair with
      | [first, second] => some ((hexValue first, hexValue second), hexValue composite)
      | _ => none
    | _ => none)

def combiningClass (n : Nat) : Nat :=
  match combiningClasses.find? fun (first, last, _) => first ≤ n && n ≤ last with
  | some (_, _, value) => value
  | none => 0

/-- The full decomposition of one character. A Hangul syllable falls into two or three letters. -/
def decompose (n : Nat) : List Nat :=
  if 0xAC00 ≤ n ∧ n ≤ 0xD7A3 then
    let i := n - 0xAC00
    let final := i % 28
    [0x1100 + i / 588, 0x1161 + i % 588 / 28] ++ (if final = 0 then [] else [0x11A7 + final])
  else (decompositions[n]?).getD [n]

/-- Inserts a mark behind all marks of its own or a lower class. -/
def insertMark (mark : Nat) : List Nat → List Nat
  | [] => [mark]
  | n :: rest =>
    if combiningClass n = 0 ∨ combiningClass mark < combiningClass n then mark :: n :: rest
    else n :: insertMark mark rest

/-- Sorts every run of marks by class; the sort is stable. -/
def order (s : List Nat) : List Nat :=
  let close (run : List Nat) (done : List Nat) := done ++ run
  let (done, run) := s.foldl (fun (done, run) n =>
    if combiningClass n = 0 then (close run done ++ [n], [])
    else (done, insertMark n run)) ([], [])
  close run done

/-- The composite of two characters, if there is one. -/
def composePair (a b : Nat) : Option Nat :=
  if 0x1100 ≤ a ∧ a ≤ 0x1112 ∧ 0x1161 ≤ b ∧ b ≤ 0x1175 then
    some (0xAC00 + ((a - 0x1100) * 21 + (b - 0x1161)) * 28)
  else if 0xAC00 ≤ a ∧ a ≤ 0xD7A3 ∧ (a - 0xAC00) % 28 = 0 ∧ 0x11A8 ≤ b ∧ b ≤ 0x11C2 then
    some (a + (b - 0x11A7))
  else compositions[(a, b)]?

/-- The text in front of the last starter, that starter, and what follows it unblocked. -/
structure Composing where
  done : List Nat := []
  starter : Option Nat := none
  tail : List Nat := []

/-- Takes the next character into a composition. It joins the last starter if nothing of its own
or a higher class stands between them and the two have a composite. -/
def Composing.push (s : Composing) (n : Nat) : Composing :=
  let cls := combiningClass n
  let flushed : Composing := ⟨s.done ++ s.starter.toList ++ s.tail, some n, []⟩
  match s.starter with
  | none => if cls = 0 then ⟨s.done ++ s.tail, some n, []⟩ else ⟨s.done, none, s.tail ++ [n]⟩
  | some starter =>
    let blocked := match s.tail.getLast? with
      | none => false
      | some last => combiningClass last = 0 || cls ≤ combiningClass last
    match if blocked then none else composePair starter n with
    | some composite => ⟨s.done, some composite, s.tail⟩
    | none => if cls = 0 then flushed else ⟨s.done, s.starter, s.tail ++ [n]⟩

def compose (s : List Nat) : List Nat :=
  let last := s.foldl Composing.push {}
  last.done ++ last.starter.toList ++ last.tail

/-- The compatibility normal form of a text. -/
def normalize (s : List Char) : List Char :=
  if s.all (·.toNat < 128) then s
  else (compose (order (s.flatMap fun c => decompose c.toNat))).map Char.ofNat

end Overdue.Unicode.Compatibility
