import Overdue.Document
import Overdue.Host
import Overdue.Source.Outline
import Overdue.Source.Parser
import Overdue.Text.Lines

/-!
# The standard host

The host that the program runs on unless it is told otherwise. It opens every file, has a stack of a
thousand calls, takes files in by portions of a fixed size, and lays out sets of whole numbers in a
table; other sets it leaves in the order in which their members came. How many calls are under way
when a file is read is an estimate.
-/
namespace Overdue.Host

/-! ## Portions -/

/-- How many bytes of a file are decoded at a time. -/
def decodedPortion : Nat := 8192

/-- How many characters of a text a document's scanner takes in at a time. -/
def scannedPortion : Nat := 4096

/-- The characters in front of the first fault. -/
def decodable (bytes : List UInt8) : List Char :=
  match Utf8.decode bytes with
  | .ok chars => chars
  | .error f => ((Utf8.decode (bytes.take f.position)).toOption).getD []

/-- The portions that a text is whole with. -/
def wholePortions (s : List Char) : List Char :=
  s.take (s.length / scannedPortion * scannedPortion)

/-- What is taken in of bytes before a portion comes in that is no text or has a character that
stands in no document; none if no portion does. -/
def front? (bytes : List UInt8) : Option (List Char) :=
  match Utf8.decode bytes with
  | .error f =>
    let sound := if f.reason = .unexpectedEnd then f.position
      else f.position / decodedPortion * decodedPortion
    some (wholePortions (Lines.unify (decodable (bytes.take sound))))
  | .ok chars =>
    let code := Lines.unify chars
    if code.all Document.isAllowed then none
    else some (wholePortions (code.takeWhile Document.isAllowed))

/-! ## Documents that end early -/

open Document

/-- How many characters a scanner looks at behind a token. -/
def lookahead : Nat := 4

/-- Scans on while more than some characters are left: the last state, and the fault in the next
token. -/
def scan (left : Nat) : (fuel : Nat) → Lexer.State → Lexer.State × Option Fault
  | 0, s => (s, none)
  | fuel + 1, s =>
    match Lexer.take s with
    | .error f => (s, some f)
    | .ok next =>
      if next.finished then (next, none)
      else if next.here.rest.length < left then (s, none)
      else scan left fuel next

def scanText (left : Nat) (s : List Char) : Lexer.State × Option Fault :=
  scan left (s.length + 2) (Lexer.start s)

/-- The tokens in front of which no mark of a key can come any more. -/
def settled (s : Lexer.State) : List Token :=
  let keys := (s.dropStale.toOption.getD s).keys
  s.done.reverse.take (keys.foldl (fun n (_, k) => min n k.before) s.count)

/-- The fault of a document that begins with these tokens; none if it may go on. -/
def faultOf? (tokens : List Token) : Option Fault :=
  match Composition.document ⟨tokens, some .empty⟩ with
  | .error .empty => none
  | .error f => some f
  | .ok _ => none

/-- Ways in which a text can go on, so that whatever it leaves open is ended by one of them. -/
def continuations : List (List Char) :=
  ["\n", ": ", "\": ", "': ", ">: ", "a: ", "00000000\": "].map String.toList

/-- The fault in a text that stands in it whichever way it goes on. -/
def lexicalFault? (s : List Char) : Option Fault :=
  let faults := continuations.map fun more => (scanText (more.length + lookahead) (s ++ more)).2
  match faults with
  | some f :: rest => if rest.all (· == some f) then some f else none
  | _ => none

/-- The fault that ends the reading of these bytes in front of the portion that cannot be taken
in. -/
def frontFault? (bytes : List UInt8) : Option Fault :=
  match front? bytes with
  | none => none
  | some s => (faultOf? (settled (scanText lookahead s).1)).or (lexicalFault? s)

/-! ## Documents that nest too deep -/

/-- The collections that are open behind a token, the innermost first. Two kinds of them have no
mark of their own and are noted by another one: a sequence that is not indented by that of its
entries, and a mapping of one entry by that of its key. -/
def opened (outer : List Token) (t : Token) : List Token :=
  match t, outer with
  | .blockSequence, _ => t :: outer
  | .blockMapping, _ => t :: outer
  | .openSequence, _ => t :: outer
  | .openMapping, _ => t :: outer
  | .entry, .blockMapping :: _ => t :: outer
  | .key, .openSequence :: _ => t :: outer
  | .key, .entry :: rest => rest
  | .value, .entry :: rest => rest
  | .comma, .key :: rest => rest
  | .blockEnd, .entry :: _ :: rest => rest
  | .closeSequence, .key :: _ :: rest => rest
  | .blockEnd, _ :: rest => rest
  | .closeSequence, _ :: rest => rest
  | .closeMapping, _ :: rest => rest
  | _, _ => outer

/-- How deep a document may nest. -/
def documentDepth : Nat := 485

/-- The tokens up to the first one that is nested too deep; none if there is no such token. -/
def tooDeep? : (before outer : List Token) → List Token → Option (List Token)
  | _, _, [] => none
  | before, outer, t :: ts =>
    let outer := opened outer t
    if outer.length > documentDepth then some (t :: before).reverse
    else tooDeep? (t :: before) outer ts

/-- Whether a document nests too deep before a fault ends it. -/
def nestsTooDeep (bytes : List UInt8) : Bool :=
  let s := match front? bytes with
    | some front => (scanText lookahead front).1
    | none => (scanText 0 (Lines.unify (decodable bytes))).1
  match tooDeep? [] [] (settled s) with
  | none => false
  | some tokens => (faultOf? tokens).isNone

/-! ## Source files that nest too deep -/

open Source

/-- How many calls a walk over a source file may have under way. -/
def walkDepth : Nat := 985

mutual

/-- How many calls a walk over a part of a source file has under way at most. -/
def calls : Tree → Nat
  | .name _ _ => 5
  | .literal _ => 4
  | .attribute _ object _ => 2 + calls object
  | .call _ callee args keywords =>
    3 + max (calls callee) (max (callsAll args) (2 + callsKeywords keywords))
  | .sign _ t => 2 + calls t
  | .sum _ left right => 2 + max (calls left) (calls right)
  | .tuple items => 2 + callsAll items
  | .list items => 2 + callsAll items
  | .set items => 2 + callsAll items
  | .dict entries => 2 + callsEntries entries
  | .declaration _ decorators parts => 3 + max (callsDecorators decorators) (callsAll parts)
  | .compound parts => 2 + callsAll parts

def callsAll : List Tree → Nat
  | [] => 0
  | t :: ts => max (calls t) (callsAll ts)

def callsKeywords : List (Option String × Tree) → Nat
  | [] => 0
  | (_, t) :: rest => max (calls t) (callsKeywords rest)

def callsEntries : List (Option Tree × Tree) → Nat
  | [] => 0
  | (none, v) :: rest => max (calls v) (callsEntries rest)
  | (some k, v) :: rest => max (max (calls k) (calls v)) (callsEntries rest)

/-- The arguments of a decorator that calls `debt` are not walked over. -/
def callsDecorators : List Tree → Nat
  | [] => 0
  | .call line callee args keywords :: rest =>
    max (if callee.lastName? = some "debt" then 0 else calls (.call line callee args keywords))
      (callsDecorators rest)
  | t :: rest => max (calls t) (callsDecorators rest)

end

/-- Whether the walk over a source file goes too deep. -/
def walksTooDeep (bytes : List UInt8) : Bool :=
  match parse (Lines.unify (decodable bytes)) with
  | .ok nodes => callsAll (Node.outlines nodes) > walkDepth
  | .error _ => false

/-! ## Sets -/

/-- The prime by which the hashes of numbers are taken, one less than the 61st power of two. -/
def hashModulus : Int := 2305843009213693951

/-- The hash of a whole number or a truth value, as a number of 64 bits. -/
def hash? : Value → Option Nat
  | .bool b => some (if b then 1 else 0)
  | .int i =>
    let rest := i.tmod hashModulus
    some ((if rest = -1 then -2 else rest) % 18446744073709551616).toNat
  | _ => none

/-- A table of hashes, each with the number of its member. -/
abbrev Table := List (Option (Nat × Nat))

namespace Table

/-- The place for a hash: the first free one in a run from where it falls, and if there is none, in
the run from the next place of its sequence. -/
def free (t : Table) : (fuel place perturbation : Nat) → Nat
  | 0, place, _ => place
  | fuel + 1, place, perturbation =>
    let run := if place + 9 < t.length then 10 else 1
    match (List.range run).find? fun j => ((t[place + j]?).getD none).isNone with
    | some j => place + j
    | none =>
      let perturbation := perturbation / 32
      free t fuel ((5 * place + 1 + perturbation) % t.length) perturbation

def insert (t : Table) (member : Nat × Nat) : Table :=
  t.set (t.free (t.length + 64) (member.1 % t.length) member.1) (some member)

/-- The members in a new table for at least so many. -/
def resized (t : Table) (least : Nat) : Table :=
  let size := ((List.range 64).map fun n => Nat.pow 2 (n + 3)).find? (least < ·)
  (t.filterMap id).foldl insert (List.replicate (size.getD 8) none)

/-- Adds a member, and makes the table larger once three fifths of it are taken. -/
def add (t : Table) (member : Nat × Nat) : Table :=
  let t := t.insert member
  let taken := (t.filterMap id).length
  if taken * 5 < (t.length - 1) * 3 then t
  else t.resized (if taken > 50000 then 2 * taken else 4 * taken)

/-- The table of hashes that are added in order. -/
def ofHashes (hashes : List Nat) : Table := hashes.zipIdx.foldl add (List.replicate 8 none)

/-- Where the member of a number stands. -/
def position (t : Table) (number : Nat) : Nat :=
  t.findIdx fun place => (place.map (·.2)) == some number

end Table

/-- The members of a set in the order of its table, if all of them are numbers. -/
def tableOrder (members : List Value) : List Value :=
  match members.mapM hash? with
  | none => members
  | some hashes =>
    let table := Table.ofHashes hashes
    (members.zipIdx.mergeSort fun a b => table.position a.2 ≤ table.position b.2).map (·.1)

theorem tableOrder_perm (members : List Value) : (tableOrder members).Perm members := by
  unfold tableOrder
  split
  · exact .refl _
  · exact ((List.mergeSort_perm _ _).map _).trans (.of_eq (List.zipIdx_map_fst 0 members))

/-! ## The host -/

/-- Bytes that are too few for anything to nest too deep in them. -/
def isShort (bytes : List UInt8) : Bool := bytes.length < documentDepth

/-- The host that the program runs on. -/
def standard : Host where
  refusal? _ := none
  exhaustsDocument _ bytes := !isShort bytes && nestsTooDeep bytes
  exhaustsSource _ bytes := !isShort bytes && walksTooDeep bytes
  endsEarly? := frontFault?
  setOrder := tableOrder
  setOrder_perm := tableOrder_perm

end Overdue.Host
