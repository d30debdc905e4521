import Overdue.Calendar.Moment
import Overdue.Number.Binary64

/-!
# Declared values

A declaration gives its fields as literals of a source file or as nodes of a document; both become
a `Value`. Mappings keep the order in which their keys were first written; the members of a set come
in that order too, until a host lays the set out.
`Value.same` is the equality by which keys of a mapping coincide: numbers are equal across their
kinds.
-/
namespace Overdue

/-- A literal of a declaration. -/
inductive Value
  | null
  | bool (b : Bool)
  | int (i : Int)
  | float (x : Binary64)
  | complex (re im : Binary64)
  | text (s : String)
  | bytes (bs : List UInt8)
  | date (d : Date)
  | moment (m : Moment)
  | ellipsis
  | list (items : List Value)
  | tuple (items : List Value)
  | set (items : List Value)
  | map (entries : List (Value × Value))
  /-- The list or mapping that the value itself lies in. -/
  | enclosing (isMap : Bool)
deriving Repr, Inhabited

namespace Value

/-- A number as whole number, or as real and imaginary double. -/
inductive Numeric
  | whole (i : Int)
  | double (re im : Binary64)

/-- The number that a value is; a truth value counts as zero or one. -/
def numeric? : Value → Option Numeric
  | .bool b => some (.whole (if b then 1 else 0))
  | .int i => some (.whole i)
  | .float x => some (.double x (Binary64.zero))
  | .complex re im => some (.double re im)
  | _ => none

def Numeric.same : Numeric → Numeric → Bool
  | .whole i, .whole j => i == j
  | .whole i, .double re im => re.sameInt i && im.isZero
  | .double re im, .whole i => re.sameInt i && im.isZero
  | .double a b, .double c d => a.same c && b.same d

/-- Equality of values that do not nest. -/
def sameLeaf : Value → Value → Bool
  | .null, .null => true
  | .text s, .text t => s == t
  | .bytes a, .bytes b => a == b
  | .date a, .date b => a == b
  | .moment a, .moment b => a.same b
  | .ellipsis, .ellipsis => true
  | a, b =>
    match a.numeric?, b.numeric? with
    | some x, some y => x.same y
    | _, _ => false

mutual

/-- Whether two values are equal as keys of a mapping or members of a set. -/
def same : Value → Value → Bool
  | .tuple as, b =>
    match b with
    | .tuple bs => sameAll as bs
    | _ => false
  | a, b => sameLeaf a b

def sameAll : List Value → List Value → Bool
  | [], bs => bs.isEmpty
  | _ :: _, [] => false
  | a :: as, b :: bs => same a b && sameAll as bs

end

mutual

/-- Whether a value may be a key: no list, set or mapping, nor a tuple that holds one. -/
def isKey : Value → Bool
  | .list _ => false
  | .set _ => false
  | .map _ => false
  | .enclosing _ => false
  | .tuple items => allKeys items
  | _ => true

def allKeys : List Value → Bool
  | [] => true
  | v :: vs => isKey v && allKeys vs

end

/-- Whether a value counts as given: not null, false, zero or empty. -/
def truthy : Value → Bool
  | .null => false
  | .bool b => b
  | .int i => i != 0
  | .float x => !x.isZero
  | .complex re im => !(re.isZero && im.isZero)
  | .text s => s != ""
  | .bytes bs => !bs.isEmpty
  | .date _ => true
  | .moment _ => true
  | .ellipsis => true
  | .list items => !items.isEmpty
  | .tuple items => !items.isEmpty
  | .set items => !items.isEmpty
  | .map entries => !entries.isEmpty
  | .enclosing _ => true

/-- A member of a collection; where it stands for that collection it is the collection. One level is
opened: what stands for a collection further out is taken for the one that it lies in. -/
def inside (v collection : Value) : Value :=
  match v, collection with
  | .enclosing false, .list _ => collection
  | .enclosing true, .map _ => collection
  | _, _ => v

/-- What a value yields one by one: the members of a collection, the keys of a mapping, the
characters of a text, the numbers of bytes. -/
def elements? : Value → Option (List Value)
  | .list items => some items
  | .tuple items => some items
  | .set items => some items
  | .map entries => some (entries.map (·.1))
  | .text s => some (s.toList.map fun c => .text c.toString)
  | .bytes bs => some (bs.map fun b => .int b.toNat)
  | _ => none

end Value

/-- Entries of a mapping in the order of their keys' first appearance. -/
abbrev Entries := List (Value × Value)

namespace Entries

/-- Sets a key: an equal key keeps its place and its spelling and takes the new value. -/
def put (key value : Value) : Entries → Entries
  | [] => [(key, value)]
  | (k, v) :: rest => if k.same key then (k, value) :: rest else (k, v) :: put key value rest

def get? (key : Value) (entries : Entries) : Option Value :=
  (entries.find? fun (k, _) => k.same key).map (·.2)

/-- The value under a text key. -/
def field? (name : String) (entries : Entries) : Option Value :=
  entries.get? (.text name)

def erase (key : Value) (entries : Entries) : Entries :=
  entries.filter fun (k, _) => !k.same key

/-- Adds a member to a set unless an equal one is there. -/
def insertMember (v : Value) (items : List Value) : List Value :=
  if items.any (·.same v) then items else items ++ [v]

end Entries

end Overdue
