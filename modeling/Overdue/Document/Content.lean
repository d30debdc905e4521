import Overdue.Document.Base64
import Overdue.Document.Plain
import Overdue.Document.Token
import Overdue.Number.Numeral
import Overdue.Value

/-!
# Values of nodes

A node's value by its tag. Collections are looked into level by level: of several faults, the one at
the least depth is the answer, and among those the first. A mapping may take over the entries of
others; its own come behind them.
-/
namespace Overdue.Document

/-- A value, or a fault with the depth at which it was met. -/
abbrev Outcome (α : Type) := Except (Nat × Fault) α

/-- Both results, or the fault that is met first. -/
def Outcome.both {α β : Type} : Outcome α → Outcome β → Outcome (α × β)
  | .ok a, .ok b => .ok (a, b)
  | .error e, .ok _ => .error e
  | .ok _, .error e => .error e
  | .error e, .error f => .error (if f.1 < e.1 then f else e)

/-- All results, or the fault that is met first. -/
def Outcome.all {α : Type} : List (Outcome α) → Outcome (List α)
  | [] => .ok []
  | r :: rs => (Outcome.both r (all rs)).map fun (a, as) => a :: as

namespace Content

/-! ## Scalars -/

def integerFault (base : Nat) (s : List Char) : Numeral.Fault → Fault
  | .malformed => .numeral base (String.ofList s)
  | .tooLong n => .digits n

def decimal (s : List Char) : Except Fault Int :=
  match Numeral.readInt s with
  | .ok i => .ok i
  | .error f => .error (integerFault 10 s f)

def inBase (base : Nat) (letter : Char) (s : List Char) : Except Fault Int :=
  match Numeral.readIntIn base (some letter) s with
  | .ok i => .ok i
  | .error f => .error (integerFault base s f)

/-- The parts between colons. -/
def parts : List Char → List (List Char)
  | [] => [[]]
  | c :: rest =>
    if c = ':' then [] :: parts rest
    else match parts rest with
      | p :: ps => (c :: p) :: ps
      | [] => [[c]]

/-- A whole number: binary, octal, decimal, hexadecimal, or in parts of sixty. -/
def int (text : String) : Except Fault Int := do
  let s := text.toList.filter (· != '_')
  let (negative, body) ← match s with
    | [] => .error .empty
    | _ => .ok (Numeral.sign s)
  let magnitude ← match body with
    | [] => .error .empty
    | ['0'] => .ok 0
    | '0' :: 'b' :: ds => inBase 2 'b' ds
    | '0' :: 'x' :: ds => inBase 16 'x' ds
    | '0' :: _ => inBase 8 'o' body
    | _ =>
      if body.contains ':' then ((parts body).mapM decimal).map (·.foldl (fun n d => n * 60 + d) 0)
      else decimal body
  return if negative then -magnitude else magnitude

def double (s : List Char) : Except Fault Binary64 :=
  match Numeral.readDouble? s with
  | some x => .ok x
  | none => .error (.double (String.ofList s))

/-- Doubles in parts of sixty, last one first. -/
def sixtieths : (base : Int) → (sum : Binary64) → List Binary64 → Except Fault Binary64
  | _, sum, [] => .ok sum
  | base, sum, x :: xs =>
    match Binary64.ofInt? base with
    | some b => sixtieths (base * 60) (sum.add (x.mul b)) xs
    | none => .error .tooLarge

/-- A double: decimal, in parts of sixty, or one of the words for infinity and for what is not a
number. -/
def float (text : String) : Except Fault Binary64 := do
  let s := (text.toList.filter (· != '_')).map Char.toLower
  let (negative, body) ← match s with
    | [] => .error .empty
    | _ => .ok (Numeral.sign s)
  if body = ".nan".toList then return .nan
  let magnitude ←
    if body = ".inf".toList then .ok (Binary64.infinite false)
    else if body.contains ':' then do
      let numbers ← (parts body).mapM double
      sixtieths 1 Binary64.zero numbers.reverse
    else double body
  return if negative then magnitude.neg else magnitude

def bool (text : String) : Except Fault Bool :=
  let word := text.toLower
  if ["yes", "true", "on"].contains word then .ok true
  else if ["no", "false", "off"].contains word then .ok false
  else .error .truth

/-- The microseconds that digits behind a point stand for; only the first six count. -/
def microseconds (ds : List Char) : Nat :=
  Plain.number (ds.take 6 ++ List.replicate (6 - ds.length) '0')

def timestamp (text : String) : Except Fault Value :=
  match Plain.timeParts? (Plain.form text.toList) with
  | none => .error .notMoment
  | some p =>
    match p.time with
    | none =>
      match Date.ofNumbers p.year p.month p.day with
      | .ok d => .ok (.date d)
      | .error f => .error (.moment (.date f))
    | some (hour, minute, second, fraction) =>
      match Moment.ofNumbers p.year p.month p.day hour minute second (microseconds fraction)
        p.offset with
      | .ok m => .ok (.moment m)
      | .error f => .error (.moment f)

/-! ## Nodes -/

/-- The text of a node: that of a scalar, or of the default value of a mapping. -/
def text : (fuel : Nat) → Node → Except Fault String
  | _, .scalar _ text => .ok text
  | 0, _ => .error .malformed
  | fuel + 1, .mapping _ entries =>
    match entries.find? fun (k, _) => k.tag == .default with
    | some (_, v) => text fuel v
    | none => .error .malformed
  | _, _ => .error .malformed

/-- A key of a mapping: the key of a default value is a text there. -/
def plainKey : Node → Node
  | .scalar .default text => .scalar .str text
  | n => n

/-- Whether a key takes over the entries of other mappings. -/
def merges (n : Node) : Bool := n.tag == .merge

mutual

/-- The entries of a mapping behind those that it takes over from others. Of several mappings, the
last one's come first. -/
def merged : Node → Except Fault (List (Node × Node))
  | .mapping _ entries => do
    let taken ← takenOver entries
    return taken ++ own entries
  | .enclosing true => .ok []
  | _ => .error .malformed

/-- The entries that mappings under merging keys have. -/
def takenOver : List (Node × Node) → Except Fault (List (Node × Node))
  | [] => .ok []
  | (k, v) :: rest =>
    if merges k then do
      let first ← match v with
        | .sequence _ items => mergedItems items
        | .enclosing _ => .ok []
        | n => merged n
      let others ← takenOver rest
      return first ++ others
    else takenOver rest

/-- The entries of a sequence of mappings. -/
def mergedItems : List Node → Except Fault (List (Node × Node))
  | [] => .ok []
  | n :: ns => do
    let first ← merged n
    let others ← mergedItems ns
    return others ++ first

def own : List (Node × Node) → List (Node × Node)
  | [] => []
  | (k, v) :: rest => if merges k then own rest else (plainKey k, v) :: own rest

end

/-- An entry of a list of pairs: a mapping with one entry. -/
def onlyEntry : Node → Except Fault (Node × Node)
  | .mapping _ [entry] => .ok entry
  | _ => .error .malformed

def atDepth {α : Type} (depth : Nat) : Except Fault α → Outcome α
  | .ok a => .ok a
  | .error f => .error (depth, f)

/-- Puts entries one after the other. -/
def gather (entries : List (Value × Value)) : Entries :=
  entries.foldl (fun done (k, v) => done.put k v) []

/-- Whether a node's value can be a key: collections cannot. -/
def isKeyNode (n : Node) : Bool :=
  !(n.tag = .seq ∨ n.tag = .map ∨ n.tag = .set ∨ n.tag = .orderedMap ∨ n.tag = .pairs)

/-- The value of a node at a depth. -/
def value : (fuel depth : Nat) → Node → Outcome Value
  | 0, depth, _ => .error (depth, .malformed)
  | fuel + 1, depth, n =>
    let inner := depth + 1
    let scalar {α : Type} (read : String → Except Fault α) : Outcome α :=
      atDepth depth (text (fuel + 1) n >>= read)
    let key (k : Node) : Outcome Value :=
      if isKeyNode k then value fuel inner k else .error (inner, .malformed)
    let entries : Outcome (List (Value × Value)) :=
      match merged n with
      | .error f => .error (inner, f)
      | .ok entries =>
        Outcome.all (entries.map fun (k, v) => Outcome.both (key k) (value fuel inner v))
    let pairs : Outcome (List Value) :=
      match n with
      | .sequence _ items =>
        Outcome.all (items.map fun item =>
          match onlyEntry item with
          | .error f => .error (inner, f)
          | .ok (k, v) =>
            (Outcome.both (value fuel inner k) (value fuel inner v)).map fun (a, b) =>
              .tuple [a, b])
      | _ => .error (inner, .malformed)
    match n.tag with
    | .null => scalar fun _ => .ok .null
    | .bool => scalar fun s => (bool s).map .bool
    | .int => scalar fun s => (int s).map .int
    | .float => scalar fun s => (float s).map .float
    | .binary => scalar fun s =>
      match Base64.decode s with
      | some bs => .ok (.bytes bs)
      | none => .error .malformed
    | .timestamp =>
      match n with
      | .mapping _ _ => scalar fun _ => .error .notText
      | n => atDepth depth (text 1 n >>= timestamp)
    | .str => scalar fun s => .ok (.text s)
    | .seq =>
      match n with
      | .sequence _ items => (Outcome.all (items.map (value fuel inner))).map .list
      | .enclosing _ => .ok (.enclosing false)
      | _ => .error (inner, .malformed)
    | .map =>
      match n with
      | .enclosing _ => .ok (.enclosing true)
      | _ => entries.map fun es => .map (gather es)
    | .set => entries.map fun es => .set ((gather es).map (·.1))
    | .orderedMap => pairs.map .list
    | .pairs => pairs.map .list
    | .merge => .error (depth, .malformed)
    | .default => .error (depth, .malformed)
    | .other => .error (depth, .malformed)

end Content

/-- The value of a node. -/
def Node.value (n : Node) : Except Fault Value :=
  match Content.value (n.height + 1) 0 n with
  | .ok v => .ok v
  | .error (_, f) => .error f

end Overdue.Document
