import Overdue.Source.Tree

/-!
# Literals

`Tree.value` gives the value of a tree that is a literal: constants, displays of literals, the
empty call of `set`, a number with a sign, and a real number plus or minus an imaginary one. Parts
are taken in order, and the first fault is the answer.
-/
namespace Overdue.Source

/-- Why a tree has no literal value. -/
inductive LiteralFault
  | notLiteral
  /-- A whole number beyond the doubles stands beside an imaginary one. -/
  | tooLarge
deriving DecidableEq, Repr

namespace Tree

/-- A number as a literal gives it; truth values are none. -/
def number? : Tree → Option Value
  | .literal (.int i) => some (.int i)
  | .literal (.float x) => some (.float x)
  | .literal (.complex re im) => some (.complex re im)
  | _ => none

def negate : Value → Value
  | .int i => .int (-i)
  | .float x => .float x.neg
  | .complex re im => .complex re.neg im.neg
  | v => v

/-- A number, perhaps with a sign. -/
def signedNumber? : Tree → Option Value
  | .sign negative t => t.number?.map fun v => if negative then negate v else v
  | t => t.number?

/-- A real number plus or minus a complex one. -/
def complexSum (subtract : Bool) (left right : Value) : Except LiteralFault Value :=
  let sum (x re im : Binary64) : Value :=
    if subtract then .complex (x.add re.neg) (Binary64.zero.add im.neg)
    else .complex (x.add re) (Binary64.zero.add im)
  match left, right with
  | .int i, .complex re im =>
    match Binary64.ofInt? i with
    | some x => .ok (sum x re im)
    | none => .error .tooLarge
  | .float x, .complex re im => .ok (sum x re im)
  | _, _ => .error .notLiteral

mutual

def value : Tree → Except LiteralFault Value
  | .literal v => .ok v
  | .tuple items => (values items).map .tuple
  | .list items => (values items).map .list
  | .set items => (members [] items).map .set
  | .call _ (.name _ id) [] [] => if id = "set" then .ok (.set []) else .error .notLiteral
  | .dict es => (entries [] es).map .map
  | .sum subtract left right =>
    match left.signedNumber?, right.number? with
    | some a, some b => complexSum subtract a b
    | _, _ => .error .notLiteral
  | .sign negative t =>
    match signedNumber? (.sign negative t) with
    | some v => .ok v
    | none => .error .notLiteral
  | _ => .error .notLiteral

def values : List Tree → Except LiteralFault (List Value)
  | [] => .ok []
  | t :: ts => do
    let v ← value t
    let vs ← values ts
    return v :: vs

/-- Members of a set; none may be a list, a set or a mapping. -/
def members (done : List Value) : List Tree → Except LiteralFault (List Value)
  | [] => .ok done
  | t :: ts => do
    let v ← value t
    if v.isKey then members (Entries.insertMember v done) ts else .error .notLiteral

def entries (done : Entries) : List (Option Tree × Tree) → Except LiteralFault Entries
  | [] => .ok done
  | (none, _) :: _ => .error .notLiteral
  | (some k, t) :: rest => do
    let key ← value k
    let v ← value t
    if key.isKey then entries (Entries.put key v done) rest else .error .notLiteral

end

end Tree

end Overdue.Source
