import Overdue.Document.Plain
import Overdue.Document.Token

/-!
# Nodes from tokens

The grammar of documents. An alias stands for the node of its anchor, which may be one that the
alias lies in; an anchor is given once. A text holds at most one document.
-/
namespace Overdue.Document

namespace Composition

/-- What is left to read, the anchors so far, and what handles of tags stand for. -/
structure State where
  tokens : List Token
  fault : Option Fault
  anchors : List (String × Node) := []
  handles : List (String × String) := [("!", "!"), ("!!", Tag.home)]

namespace State

def peek (s : State) : Except Fault Token :=
  match s.tokens with
  | t :: _ => .ok t
  | [] => .error (s.fault.getD .malformed)

def drop (s : State) : State := { s with tokens := s.tokens.drop 1 }

def anchored (s : State) (name : String) (node : Node) : State :=
  { s with anchors := (name, node) :: s.anchors }

end State

/-- A node where none is written. -/
def absentNode : Node := .scalar .null ""

/-- The name and the tag in front of a node. -/
structure Properties where
  anchor : Option String := none
  tag : Option (Option String × String) := none

/-- Reads an anchor and a tag in either order, at most one of each. -/
def properties (s : State) : Except Fault (Properties × State) := do
  match ← s.peek with
  | .anchor name =>
    let s := s.drop
    match ← s.peek with
    | .tag handle suffix => return (⟨some name, some (handle, suffix)⟩, s.drop)
    | _ => return (⟨some name, none⟩, s)
  | .tag handle suffix =>
    let s := s.drop
    match ← s.peek with
    | .anchor name => return (⟨some name, some (handle, suffix)⟩, s.drop)
    | _ => return (⟨none, some (handle, suffix)⟩, s)
  | _ => return ({}, s)

/-- The full name of a tag; its handle has to be known. -/
def tagName (s : State) : Option (Option String × String) → Except Fault (Option String)
  | none => .ok none
  | some (none, suffix) => .ok (some suffix)
  | some (some handle, suffix) =>
    match s.handles.find? fun (h, _) => h == handle with
    | some (_, full) => .ok (some (full ++ suffix))
    | none => .error .malformed

/-- The tag of a scalar. A lone exclamation mark has it resolved as if it were plain. -/
def scalarTag (name : Option String) (plain : Bool) (text : String) : Tag :=
  match name with
  | none => if plain then Plain.tag text else .str
  | some name => if name = "!" then Plain.tag text else Tag.ofText name

/-- The tag of a sequence or mapping. -/
def collectionTag (name : Option String) (usual : Tag) : Tag :=
  match name with
  | none => usual
  | some name => if name = "!" then usual else Tag.ofText name

/-- The places where a node may be missing: in front of one of some tokens. -/
def isOneOf (ts : List Token) (t : Token) : Bool := ts.contains t

mutual

/-- Reads a node. In a block context it may be a block; behind a key it may be a sequence that is
not indented. -/
def node : (fuel : Nat) → (blocks loose : Bool) → State → Except Fault (Node × State)
  | 0, _, _, _ => .error .malformed
  | fuel + 1, blocks, loose, s => do
    match ← s.peek with
    | .alias name =>
      match s.anchors.find? fun (n, _) => n == name with
      | some (_, n) => return (n, s.drop)
      | none => .error .malformed
    | _ =>
      let (props, s) ← properties s
      let name ← tagName s props.tag
      let t ← s.peek
      let sequence (s : State) (read : State → Except Fault (List Node × State)) :
          Except Fault (Node × State) := do
        let s ← announce props.anchor (.enclosing false) s
        let (items, s) ← read s
        let n := Node.sequence (collectionTag name .seq) items
        return (n, settle props.anchor n s)
      let mapping (read : State → Except Fault (List (Node × Node) × State)) :
          Except Fault (Node × State) := do
        let s ← announce props.anchor (.enclosing true) s.drop
        let (entries, s) ← read s
        let n := Node.mapping (collectionTag name .map) entries
        return (n, settle props.anchor n s)
      match t, blocks, loose with
      | .entry, _, true => sequence s (looseSequence fuel)
      | .scalar text plain, _, _ =>
        let n := Node.scalar (scalarTag name plain text) text
        return (n, ← announce props.anchor n s.drop)
      | .openSequence, _, _ => sequence s.drop (flowSequence fuel true)
      | .openMapping, _, _ => mapping (flowMapping fuel true)
      | .blockSequence, true, _ => sequence s.drop (blockSequence fuel)
      | .blockMapping, true, _ => mapping (blockMapping fuel)
      | _, _, _ =>
        if props.anchor.isSome || name.isSome then
          let n := Node.scalar (scalarTag name (name.isNone) "") ""
          return (n, ← announce props.anchor n s)
        else .error .malformed
where
  /-- An anchor may be given once. -/
  announce (anchor : Option String) (n : Node) (s : State) : Except Fault State :=
    match anchor with
    | none => .ok s
    | some name =>
      if s.anchors.any fun (n, _) => n == name then .error .malformed
      else .ok (s.anchored name n)
  settle (anchor : Option String) (n : Node) (s : State) : State :=
    match anchor with
    | none => s
    | some name => s.anchored name n

/-- A node, unless one of some tokens stands there. -/
def nodeUnless : (fuel : Nat) → (stops : List Token) → (blocks loose : Bool) → State →
    Except Fault (Node × State)
  | 0, _, _, _, _ => .error .malformed
  | fuel + 1, stops, blocks, loose, s => do
    if isOneOf stops (← s.peek) then return (absentNode, s) else node fuel blocks loose s

def blockSequence : (fuel : Nat) → State → Except Fault (List Node × State)
  | 0, _ => .error .malformed
  | fuel + 1, s => do
    match ← s.peek with
    | .entry =>
      let (n, s) ← nodeUnless fuel [.entry, .blockEnd] true false s.drop
      let (ns, s) ← blockSequence fuel s
      return (n :: ns, s)
    | .blockEnd => return ([], s.drop)
    | _ => .error .malformed

def looseSequence : (fuel : Nat) → State → Except Fault (List Node × State)
  | 0, _ => .error .malformed
  | fuel + 1, s => do
    match ← s.peek with
    | .entry =>
      let (n, s) ← nodeUnless fuel [.entry, .key, .value, .blockEnd] true false s.drop
      let (ns, s) ← looseSequence fuel s
      return (n :: ns, s)
    | _ => return ([], s)

def blockMapping : (fuel : Nat) → State → Except Fault (List (Node × Node) × State)
  | 0, _ => .error .malformed
  | fuel + 1, s => do
    let stops := [Token.key, .value, .blockEnd]
    match ← s.peek with
    | .key =>
      let (k, s) ← nodeUnless fuel stops true true s.drop
      let (v, s) ← valueAfter fuel stops true s
      let (rest, s) ← blockMapping fuel s
      return ((k, v) :: rest, s)
    | .blockEnd => return ([], s.drop)
    | _ => .error .malformed

/-- The value behind a key; it is absent without its mark. -/
def valueAfter : (fuel : Nat) → (stops : List Token) → (blocks : Bool) → State →
    Except Fault (Node × State)
  | 0, _, _, _ => .error .malformed
  | fuel + 1, stops, blocks, s => do
    match ← s.peek with
    | .value => nodeUnless fuel stops blocks blocks s.drop
    | _ => return (absentNode, s)

/-- The items of a sequence in brackets. An item may be one entry of a mapping. -/
def flowSequence : (fuel : Nat) → (first : Bool) → State → Except Fault (List Node × State)
  | 0, _, _ => .error .malformed
  | fuel + 1, first, s => do
    let t ← s.peek
    if t = .closeSequence then return ([], s.drop)
    else
      let s ← if first then .ok s else if t = .comma then .ok s.drop else .error .malformed
      match ← s.peek with
      | .closeSequence => if first then .error .malformed else return ([], s.drop)
      | .key =>
        let stops := [Token.comma, .closeSequence]
        let (k, s) ← nodeUnless fuel (.value :: stops) false false s.drop
        let (v, s) ← valueAfter fuel stops false s
        let (ns, s) ← flowSequence fuel false s
        return (.mapping .map [(k, v)] :: ns, s)
      | _ =>
        let (n, s) ← node fuel false false s
        let (ns, s) ← flowSequence fuel false s
        return (n :: ns, s)

/-- The entries of a mapping in brackets. An entry may be a key alone. -/
def flowMapping : (fuel : Nat) → (first : Bool) → State →
    Except Fault (List (Node × Node) × State)
  | 0, _, _ => .error .malformed
  | fuel + 1, first, s => do
    let t ← s.peek
    if t = .closeMapping then return ([], s.drop)
    else
      let s ← if first then .ok s else if t = .comma then .ok s.drop else .error .malformed
      let stops := [Token.comma, .closeMapping]
      match ← s.peek with
      | .closeMapping => if first then .error .malformed else return ([], s.drop)
      | .key =>
        let (k, s) ← nodeUnless fuel (.value :: stops) false false s.drop
        let (v, s) ← valueAfter fuel stops false s
        let (rest, s) ← flowMapping fuel false s
        return ((k, v) :: rest, s)
      | _ =>
        let (k, s) ← node fuel false false s
        let (rest, s) ← flowMapping fuel false s
        return ((k, absentNode) :: rest, s)

end

/-- The directives of a document: handles of tags, each given once, and at most one version, which
has to be one of the first. -/
def directives : (versioned : Bool) → (given : List (String × String)) → List Token →
    Except Fault (List (String × String) × List Token)
  | versioned, given, .version major :: ts =>
    if versioned || major != 1 then .error .malformed else directives true given ts
  | versioned, given, .tagHandle handle full :: ts =>
    if given.any fun (h, _) => h == handle then .error .malformed
    else directives versioned ((handle, full) :: given) ts
  | versioned, given, .otherDirective :: ts => directives versioned given ts
  | _, given, ts => .ok (given ++ [("!", "!"), ("!!", Tag.home)], ts)

/-- Reads what stands behind the mark of a document's start. -/
def content (fuel : Nat) (s : State) : Except Fault (Node × State) := do
  match ← s.peek with
  | .version _ => return (absentNode, s)
  | .tagHandle _ _ => return (absentNode, s)
  | .otherDirective => return (absentNode, s)
  | .documentStart => return (absentNode, s)
  | .documentEnd => return (absentNode, s)
  | .finish => return (absentNode, s)
  | _ => node fuel true false s

/-- Nothing may follow a document but the marks of its end. -/
def finish (s : State) : Except Fault Unit :=
  match s.tokens.dropWhile (· == .documentEnd) with
  | [.finish] => .ok ()
  | [] => .error (s.fault.getD .malformed)
  | _ => .error .malformed

/-- The document of a text; none if the text holds no document. -/
def document (ts : TokenList) : Except Fault (Option Node) := do
  let fuel := 4 * ts.tokens.length + 8
  let s : State := { tokens := ts.tokens, fault := ts.fault }
  match ← s.peek with
  | .finish => return none
  | .documentStart => explicit fuel s
  | .version _ => explicit fuel s
  | .tagHandle _ _ => explicit fuel s
  | .otherDirective => explicit fuel s
  | _ =>
    let (n, s) ← node fuel true false s
    finish s
    return some n
where
  explicit (fuel : Nat) (s : State) : Except Fault (Option Node) := do
    let (handles, tokens) ← directives false [] s.tokens
    let s := { s with handles, tokens }
    match ← s.peek with
    | .documentStart =>
      let (n, s) ← content fuel s.drop
      finish s
      return some n
    | _ => .error .malformed

end Composition

end Overdue.Document
