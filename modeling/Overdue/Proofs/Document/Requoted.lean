import Overdue.Proofs.Attempts
import Overdue.Proofs.Document.WrittenDates

/-!
# Documents with dates in quotes or without

Where a date is the value of a key, it may be written plainly or in quotes; two documents may be the
same but for this (`Requoted`). Their tokens are put together in the same way, whatever stands
around the date: the two nodes are the same but that such a date is a timestamp in the one and a
text in the other (`Node.Alike`). `simulates` says so of every rule of the grammar, for as long as
it goes on, and `document_alike` of whole documents.
-/
namespace Overdue.Document

/-! ## Tokens and nodes -/

/-- Two lists of tokens are the same, but that a date that is the value of a key may have quotes in
the one and none in the other. -/
inductive Requoted : List Token → List Token → Prop
  | nil : Requoted [] []
  | same {ts ts' : List Token} (t : Token) : Requoted ts ts' → Requoted (t :: ts) (t :: ts')
  | date {ts ts' : List Token} (d : Date) (plain plain' : Bool) : Requoted ts ts' →
      Requoted (.value :: .scalar d.iso plain :: ts) (.value :: .scalar d.iso plain' :: ts')

/-- The scalar is a date, whether it had quotes or not. -/
def Node.IsDate (d : Date) (n : Node) : Prop :=
  n = .scalar .timestamp d.iso ∨ n = .scalar .str d.iso

/-- What does not depend on the quotes of a date is the same for two scalars of it. -/
theorem Node.IsDate.congr {α : Type} {f : Node → α} {d : Date} {n n' : Node} (here : n.IsDate d)
    (there : n'.IsDate d) (same : f (.scalar .timestamp d.iso) = f (.scalar .str d.iso)) :
    f n = f n' := by
  rcases here with rfl | rfl <;> rcases there with rfl | rfl
  · rfl
  · exact same
  · exact same.symm
  · rfl

mutual

/-- Two nodes are the same, but that a date that is the value of a key may have had quotes in the
one and none in the other. The flag tells whether the node is such a value. -/
inductive Node.Alike : (field : Bool) → Node → Node → Prop
  | scalar {field : Bool} (tag : Tag) (text : String) :
      Node.Alike field (.scalar tag text) (.scalar tag text)
  | enclosing {field : Bool} (isMapping : Bool) :
      Node.Alike field (.enclosing isMapping) (.enclosing isMapping)
  | date {n n' : Node} (d : Date) : n.IsDate d → n'.IsDate d → Node.Alike true n n'
  | sequence {field : Bool} {items items' : List Node} (tag : Tag) :
      List.Forall₂ (Node.Alike false) items items' →
        Node.Alike field (.sequence tag items) (.sequence tag items')
  | mapping {field : Bool} {entries entries' : List (Node × Node)} (tag : Tag) :
      List.Forall₂ Node.AlikeEntry entries entries' →
        Node.Alike field (.mapping tag entries) (.mapping tag entries')

inductive Node.AlikeEntry : Node × Node → Node × Node → Prop
  | entry {k k' v v' : Node} : Node.Alike false k k' → Node.Alike true v v' →
      Node.AlikeEntry (k, v) (k', v')

end

theorem Node.Alike.toField {field : Bool} {n n' : Node} (h : Node.Alike field n n') :
    Node.Alike true n n' := by
  cases h with
  | scalar tag text => exact .scalar tag text
  | enclosing isMapping => exact .enclosing isMapping
  | date d here there => exact .date d here there
  | sequence tag items => exact .sequence tag items
  | mapping tag entries => exact .mapping tag entries

namespace Composition

open List (Forall₂)

/-! ## States -/

/-- What may be left of two lists behind the mark of a value: the value may be a date. -/
def Behind (ts ts' : List Token) : Prop :=
  Requoted ts ts' ∨ ∃ (d : Date) (plain plain' : Bool) (rest rest' : List Token),
    ts = .scalar d.iso plain :: rest ∧ ts' = .scalar d.iso plain' :: rest' ∧ Requoted rest rest'

/-- Two states are the same, but for what is left to read, and for the nodes of anchors. -/
structure State.Alike (Left : List Token → List Token → Prop) (s s' : State) : Prop where
  tokens : Left s.tokens s'.tokens
  fault : s.fault = s'.fault
  anchors : Forall₂ (fun a a' => a.1 = a'.1 ∧ Node.Alike false a.2 a'.2) s.anchors s'.anchors
  handles : s.handles = s'.handles

variable {s s' : State}

theorem State.Alike.peek (alike : s.Alike Requoted s') : s.peek = s'.peek := by
  obtain ⟨tokens, fault, -, -⟩ := alike
  unfold State.peek
  rw [fault]
  generalize s.tokens = ts at tokens
  generalize s'.tokens = ts' at tokens
  cases tokens <;> rfl

/-- What is read off the token ahead is read alike if it is for every token. -/
theorem State.Alike.peek_bind {α : Type} {R : α → α → Prop} {f g : Token → Except Fault α}
    (alike : s.Alike Requoted s') (next : ∀ t, s.peek = .ok t → Matches R (f t) (g t)) :
    Matches R (s.peek >>= f) (s'.peek >>= g) := by
  rw [← alike.peek]
  cases peeked : s.peek with
  | error f => exact .error f
  | ok t => exact next t peeked

theorem State.Alike.drop {t : Token} (alike : s.Alike Requoted s') (peeked : s.peek = .ok t)
    (other : t ≠ .value) : s.drop.Alike Requoted s'.drop := by
  refine ⟨?_, alike.fault, alike.anchors, alike.handles⟩
  have tokens := alike.tokens
  unfold State.peek at peeked
  unfold State.drop
  dsimp only
  generalize s.tokens = ts at tokens peeked
  generalize s'.tokens = ts' at tokens
  cases tokens with
  | nil => exact .nil
  | same t rest => exact rest
  | date d plain plain' rest =>
      cases peeked
      exact absurd rfl other

theorem State.Alike.behind (alike : s.Alike Requoted s') : s.drop.Alike Behind s'.drop := by
  refine ⟨?_, alike.fault, alike.anchors, alike.handles⟩
  have tokens := alike.tokens
  unfold State.drop
  dsimp only
  generalize s.tokens = ts at tokens
  generalize s'.tokens = ts' at tokens
  cases tokens with
  | nil => exact .inl .nil
  | same t rest => exact .inl rest
  | date d plain plain' rest => exact .inr ⟨d, plain, plain', _, _, rfl, rfl, rest⟩

theorem State.Alike.anchored {n n' : Node} (alike : s.Alike Requoted s') (name : String)
    (nodes : Node.Alike false n n') : (s.anchored name n).Alike Requoted (s'.anchored name n') :=
  ⟨alike.tokens, alike.fault, .cons ⟨rfl, nodes⟩ alike.anchors, alike.handles⟩

/-- An anchor stands for nodes that are alike, or for none in both states. -/
theorem find?_anchors {anchors anchors' : List (String × Node)}
    (alike : Forall₂ (fun a a' => a.1 = a'.1 ∧ Node.Alike false a.2 a'.2) anchors anchors')
    (name : String) :
    (anchors.find? (fun (n, _) => n == name) = none ∧
        anchors'.find? (fun (n, _) => n == name) = none) ∨
      ∃ a a', anchors.find? (fun (n, _) => n == name) = some a ∧
        anchors'.find? (fun (n, _) => n == name) = some a' ∧ Node.Alike false a.2 a'.2 := by
  induction alike with
  | nil => exact .inl ⟨rfl, rfl⟩
  | @cons a a' anchors anchors' first rest ih =>
      obtain ⟨known, n⟩ := a
      obtain ⟨known', n'⟩ := a'
      obtain ⟨rfl, nodes⟩ := first
      rw [List.find?_cons, List.find?_cons]
      dsimp only at nodes ⊢
      cases known == name with
      | true => exact .inr ⟨_, _, rfl, rfl, nodes⟩
      | false => exact ih

/-- Two results of reading: what was read is related, and so is what is left. -/
def Paired {α : Type} (R : α → α → Prop) (r r' : α × State) : Prop :=
  R r.1 r'.1 ∧ r.2.Alike Requoted r'.2

theorem announce_alike {n n' : Node} (alike : s.Alike Requoted s') (anchor : Option String)
    (nodes : Node.Alike false n n') :
    Matches (State.Alike Requoted) (node.announce anchor n s) (node.announce anchor n' s') := by
  cases anchor with
  | none => exact .ok alike
  | some name =>
      have known : (s.anchors.any fun (n, _) => n == name) =
          s'.anchors.any fun (n, _) => n == name := by
        have anchors := alike.anchors
        generalize s.anchors = as at anchors
        generalize s'.anchors = as' at anchors
        induction anchors with
        | nil => rfl
        | @cons a a' _ _ first _ ih =>
            obtain ⟨known, n⟩ := a
            obtain ⟨known', n'⟩ := a'
            obtain ⟨rfl, -⟩ := first
            rw [List.any_cons, List.any_cons, ih]
      unfold node.announce
      dsimp only
      rw [known]
      split
      · exact .error _
      · exact .ok (alike.anchored name nodes)

theorem settle_alike {n n' : Node} (alike : s.Alike Requoted s') (anchor : Option String)
    (nodes : Node.Alike false n n') :
    (node.settle anchor n s).Alike Requoted (node.settle anchor n' s') := by
  cases anchor with
  | none => exact alike
  | some name => exact alike.anchored name nodes

theorem properties_alike (alike : s.Alike Requoted s') :
    Matches (Paired (· = ·)) (properties s) (properties s') := by
  unfold properties
  refine alike.peek_bind fun t peeked => ?_
  cases t with
  | anchor name =>
      have behind := alike.drop peeked nofun
      refine behind.peek_bind fun t next => ?_
      cases t with
      | tag handle suffix => exact .ok ⟨rfl, behind.drop next nofun⟩
      | _ => exact .ok ⟨rfl, behind⟩
  | tag handle suffix =>
      have behind := alike.drop peeked nofun
      refine behind.peek_bind fun t next => ?_
      cases t with
      | anchor name => exact .ok ⟨rfl, behind.drop next nofun⟩
      | _ => exact .ok ⟨rfl, behind⟩
  | _ => exact .ok ⟨rfl, alike⟩

theorem tagName_alike (alike : s.Alike Requoted s') (tag : Option (Option String × String)) :
    tagName s tag = tagName s' tag := by
  unfold tagName
  rw [alike.handles]

/-! ## The rules of the grammar -/

/-- Up to an amount of fuel, every rule of the grammar reads alike from states that are alike. -/
structure Simulates (fuel : Nat) : Prop where
  node {s s' : State} (blocks loose : Bool) : s.Alike Requoted s' →
    Matches (Paired (Node.Alike false)) (node fuel blocks loose s) (node fuel blocks loose s')
  nodeUnless {s s' : State} (stops : List Token) (blocks loose : Bool) : s.Alike Requoted s' →
    Matches (Paired (Node.Alike false)) (nodeUnless fuel stops blocks loose s)
      (nodeUnless fuel stops blocks loose s')
  blockSequence {s s' : State} : s.Alike Requoted s' →
    Matches (Paired (Forall₂ (Node.Alike false))) (blockSequence fuel s) (blockSequence fuel s')
  looseSequence {s s' : State} : s.Alike Requoted s' →
    Matches (Paired (Forall₂ (Node.Alike false))) (looseSequence fuel s) (looseSequence fuel s')
  blockMapping {s s' : State} : s.Alike Requoted s' →
    Matches (Paired (Forall₂ Node.AlikeEntry)) (blockMapping fuel s) (blockMapping fuel s')
  valueAfter {s s' : State} {stops : List Token} (blocks : Bool) :
    (∀ text plain, Token.scalar text plain ∉ stops) → s.Alike Requoted s' →
    Matches (Paired (Node.Alike true)) (valueAfter fuel stops blocks s)
      (valueAfter fuel stops blocks s')
  flowSequence {s s' : State} (first : Bool) : s.Alike Requoted s' →
    Matches (Paired (Forall₂ (Node.Alike false))) (flowSequence fuel first s)
      (flowSequence fuel first s')
  flowMapping {s s' : State} (first : Bool) : s.Alike Requoted s' →
    Matches (Paired (Forall₂ Node.AlikeEntry)) (flowMapping fuel first s)
      (flowMapping fuel first s')

variable {fuel : Nat}

/-- A node that is a scalar and nothing else. -/
theorem node_of_scalar {text : String} {plain : Bool} {rest : List Token}
    (here : s.tokens = .scalar text plain :: rest) (blocks loose : Bool) :
    node (fuel + 1) blocks loose s = .ok (.scalar (scalarTag none plain text) text, s.drop) := by
  have peeked : s.peek = .ok (.scalar text plain) := by rw [State.peek, here]
  have props : properties s = .ok ({}, s) := by
    rw [properties, peeked]
    rfl
  rw [node, peeked]
  change properties s >>= _ = _
  rw [props]
  change s.peek >>= _ = _
  rw [peeked]
  rfl

theorem ok_bind {α β : Type} (a : α) (f : α → Except Fault β) : (Except.ok a >>= f) = f a := rfl

/-- A collection is read alike if what stands in it is. -/
theorem collection_alike {α : Type} {R : α → α → Prop} {read : State → Except Fault (α × State)}
    {make : α → Node} (alike : s.Alike Requoted s') (anchor : Option String) (isMapping : Bool)
    (reads : ∀ {s s' : State}, s.Alike Requoted s' → Matches (Paired R) (read s) (read s'))
    (nodes : ∀ a a', R a a' → Node.Alike false (make a) (make a')) :
    Matches (Paired (Node.Alike false))
      (do
        let s ← node.announce anchor (.enclosing isMapping) s
        let (a, s) ← read s
        return (make a, node.settle anchor (make a) s))
      (do
        let s ← node.announce anchor (.enclosing isMapping) s'
        let (a, s) ← read s
        return (make a, node.settle anchor (make a) s)) := by
  refine (announce_alike alike anchor (.enclosing isMapping)).bind ?_
  intro s s' alike
  refine (reads alike).bind ?_
  rintro ⟨a, s⟩ ⟨a', s'⟩ ⟨related, alike⟩
  exact .ok ⟨nodes a a' related, settle_alike alike anchor (nodes a a' related)⟩

/-- A scalar is read alike. -/
theorem scalar_alike (alike : s.Alike Requoted s') (anchor : Option String) (tag : Tag)
    (text : String) :
    Matches (Paired (Node.Alike false))
      (do return (Node.scalar tag text, ← node.announce anchor (.scalar tag text) s))
      (do return (Node.scalar tag text, ← node.announce anchor (.scalar tag text) s')) := by
  refine (announce_alike alike anchor (.scalar tag text)).bind ?_
  intro s s' alike
  exact .ok ⟨.scalar tag text, alike⟩

theorem node_alike (below : Simulates fuel) (alike : s.Alike Requoted s') (blocks loose : Bool) :
    Matches (Paired (Node.Alike false)) (node (fuel + 1) blocks loose s)
      (node (fuel + 1) blocks loose s') := by
  rw [node, node]
  refine alike.peek_bind fun t peeked => ?_
  split
  · rename_i name
    have behind := alike.drop peeked nofun
    rcases find?_anchors alike.anchors name with ⟨here, there⟩ | ⟨a, a', here, there, nodes⟩
    · rw [here, there]
      exact .error _
    · rw [here, there]
      exact .ok ⟨nodes, behind⟩
  refine (properties_alike alike).bind ?_
  rintro ⟨props, s⟩ ⟨_, s'⟩ ⟨rfl, alike⟩
  dsimp only
  rw [← tagName_alike alike]
  cases tagName s props.tag with
  | error f => exact .error f
  | ok name =>
  rw [ok_bind, ok_bind, ← alike.peek]
  cases peeked : s.peek with
  | error f => exact .error f
  | ok t =>
  have sequences (items items' : List Node) (each : Forall₂ (Node.Alike false) items items') :
      Node.Alike false (.sequence (collectionTag name .seq) items)
        (.sequence (collectionTag name .seq) items') := .sequence _ each
  have mappings (entries entries' : List (Node × Node))
      (each : Forall₂ Node.AlikeEntry entries entries') :
      Node.Alike false (.mapping (collectionTag name .map) entries)
        (.mapping (collectionTag name .map) entries') := .mapping _ each
  rw [ok_bind, ok_bind]
  split
  case h_1 => exact collection_alike alike _ false below.looseSequence sequences
  case h_2 => exact scalar_alike (alike.drop peeked nofun) _ _ _
  case h_3 =>
    exact collection_alike (alike.drop peeked nofun) _ false (below.flowSequence true) sequences
  case h_4 =>
    exact collection_alike (alike.drop peeked nofun) _ true (below.flowMapping true) mappings
  case h_5 =>
    exact collection_alike (alike.drop peeked nofun) _ false below.blockSequence sequences
  case h_6 =>
    exact collection_alike (alike.drop peeked nofun) _ true below.blockMapping mappings
  case h_7 =>
    split
    · exact scalar_alike alike _ _ _
    · exact .error _

theorem nodeUnless_alike (below : Simulates fuel) (alike : s.Alike Requoted s')
    (stops : List Token) (blocks loose : Bool) :
    Matches (Paired (Node.Alike false)) (nodeUnless (fuel + 1) stops blocks loose s)
      (nodeUnless (fuel + 1) stops blocks loose s') := by
  rw [nodeUnless, nodeUnless]
  refine alike.peek_bind fun t _ => ?_
  split
  · exact .ok ⟨.scalar _ _, alike⟩
  · exact below.node blocks loose alike

theorem blockSequence_alike (below : Simulates fuel) (alike : s.Alike Requoted s') :
    Matches (Paired (Forall₂ (Node.Alike false))) (blockSequence (fuel + 1) s)
      (blockSequence (fuel + 1) s') := by
  rw [blockSequence, blockSequence]
  refine alike.peek_bind fun t peeked => ?_
  split
  · refine (below.nodeUnless _ true false (alike.drop peeked nofun)).bind ?_
    rintro ⟨n, s⟩ ⟨n', s'⟩ ⟨first, alike⟩
    refine (below.blockSequence alike).bind ?_
    rintro ⟨ns, s⟩ ⟨ns', s'⟩ ⟨rest, alike⟩
    exact .ok ⟨.cons first rest, alike⟩
  · exact .ok ⟨.nil, alike.drop peeked nofun⟩
  · exact .error _

theorem looseSequence_alike (below : Simulates fuel) (alike : s.Alike Requoted s') :
    Matches (Paired (Forall₂ (Node.Alike false))) (looseSequence (fuel + 1) s)
      (looseSequence (fuel + 1) s') := by
  rw [looseSequence, looseSequence]
  refine alike.peek_bind fun t peeked => ?_
  split
  · refine (below.nodeUnless _ true false (alike.drop peeked nofun)).bind ?_
    rintro ⟨n, s⟩ ⟨n', s'⟩ ⟨first, alike⟩
    refine (below.looseSequence alike).bind ?_
    rintro ⟨ns, s⟩ ⟨ns', s'⟩ ⟨rest, alike⟩
    exact .ok ⟨.cons first rest, alike⟩
  · exact .ok ⟨.nil, alike⟩

theorem blockMapping_alike (below : Simulates fuel) (alike : s.Alike Requoted s') :
    Matches (Paired (Forall₂ Node.AlikeEntry)) (blockMapping (fuel + 1) s)
      (blockMapping (fuel + 1) s') := by
  rw [blockMapping, blockMapping]
  refine alike.peek_bind fun t peeked => ?_
  split
  · refine (below.nodeUnless _ true true (alike.drop peeked nofun)).bind ?_
    rintro ⟨k, s⟩ ⟨k', s'⟩ ⟨key, alike⟩
    refine (below.valueAfter true (by simp) alike).bind ?_
    rintro ⟨v, s⟩ ⟨v', s'⟩ ⟨value, alike⟩
    refine (below.blockMapping alike).bind ?_
    rintro ⟨rest, s⟩ ⟨rest', s'⟩ ⟨others, alike⟩
    exact .ok ⟨.cons (.entry key value) others, alike⟩
  · exact .ok ⟨.nil, alike.drop peeked nofun⟩
  · exact .error _

/-- A scalar that stands where a node may be missing is that node. -/
theorem nodeUnless_of_scalar {text : String} {plain : Bool} {rest : List Token}
    (here : s.tokens = .scalar text plain :: rest) {stops : List Token}
    (apart : ∀ text plain, Token.scalar text plain ∉ stops) (blocks loose : Bool) :
    nodeUnless (fuel + 1) stops blocks loose s = node fuel blocks loose s := by
  have peeked : s.peek = .ok (.scalar text plain) := by rw [State.peek, here]
  have goesOn : isOneOf stops (.scalar text plain) = false := by
    rw [isOneOf, ← Bool.not_eq_true, List.contains_iff_mem]
    exact apart _ _
  rw [nodeUnless, peeked, ok_bind, goesOn, if_neg Bool.false_ne_true]

theorem isDate_scalarTag (d : Date) (plain : Bool) :
    Node.IsDate d (.scalar (scalarTag none plain d.iso) d.iso) := by
  cases plain with
  | true =>
      simp only [scalarTag, if_true, tag_iso]
      exact .inl rfl
  | false => exact .inr rfl

theorem valueAfter_alike (below : Simulates fuel) (alike : s.Alike Requoted s') {stops : List Token}
    (apart : ∀ text plain, Token.scalar text plain ∉ stops) (blocks : Bool) :
    Matches (Paired (Node.Alike true)) (valueAfter (fuel + 1) stops blocks s)
      (valueAfter (fuel + 1) stops blocks s') := by
  rw [valueAfter, valueAfter]
  refine alike.peek_bind fun t peeked => ?_
  split
  · obtain ⟨left, fault, anchors, handles⟩ := alike.behind
    rcases left with same | ⟨d, plain, plain', rest, rest', here, there, left⟩
    · refine (below.nodeUnless stops blocks blocks ⟨same, fault, anchors, handles⟩).mono ?_
      exact fun _ _ ⟨nodes, alike⟩ => ⟨nodes.toField, alike⟩
    · match fuel with
      | 0 => exact .error _
      | 1 =>
          rw [nodeUnless_of_scalar here apart, nodeUnless_of_scalar there apart]
          exact .error _
      | fuel + 2 =>
          rw [nodeUnless_of_scalar here apart, nodeUnless_of_scalar there apart,
            node_of_scalar here, node_of_scalar there]
          refine .ok ⟨.date d (isDate_scalarTag d plain) (isDate_scalarTag d plain'), ?_⟩
          -- The tokens behind the date are those that were alike before.
          refine ⟨?_, fault, anchors, handles⟩
          change Requoted (s.drop.tokens.drop 1) (s'.drop.tokens.drop 1)
          rw [here, there]
          exact left
  · exact .ok ⟨.scalar _ _, alike⟩

/-! ### In brackets -/

/-- What stands in front of an item: nothing in front of the first, then a comma. -/
def opening (first : Bool) (t : Token) (s : State) : Except Fault State :=
  if first then .ok s else if t = .comma then .ok s.drop else .error .malformed

theorem opening_bind {α : Type} (first : Bool) (t : Token) (s : State)
    (next : State → Except Fault α) :
    opening first t s >>= next =
      if first then next s else if t = .comma then next s.drop else .error .malformed := by
  unfold opening
  split
  · rfl
  · split <;> rfl

theorem opening_alike {t : Token} (alike : s.Alike Requoted s') (peeked : s.peek = .ok t)
    (first : Bool) : Matches (State.Alike Requoted) (opening first t s) (opening first t s') := by
  unfold opening
  split
  · exact .ok alike
  · split
    · rename_i comma
      exact .ok (alike.drop peeked (comma ▸ nofun))
    · exact .error _

/-- What stands in brackets: nothing more, or what is read behind the opening. -/
def bracketed {α : Type} (close : Token) (first : Bool)
    (behind : State → Except Fault (List α × State)) (s : State) :
    Except Fault (List α × State) := do
  let t ← s.peek
  if t = close then return ([], s.drop) else opening first t s >>= behind

theorem bracketed_alike {α : Type} {R : α → α → Prop} {close : Token}
    {behind : State → Except Fault (List α × State)} (alike : s.Alike Requoted s')
    (other : close ≠ .value) (first : Bool)
    (reads : ∀ {s s' : State}, s.Alike Requoted s' →
      Matches (Paired (Forall₂ R)) (behind s) (behind s')) :
    Matches (Paired (Forall₂ R)) (bracketed close first behind s)
      (bracketed close first behind s') := by
  refine alike.peek_bind fun t peeked => ?_
  split
  · rename_i closed
    exact .ok ⟨.nil, alike.drop peeked (closed ▸ other)⟩
  · exact (opening_alike alike peeked first).bind fun _ _ alike => reads alike

/-- An item of a sequence in brackets and those behind it. -/
def flowItems (fuel : Nat) (first : Bool) (s : State) : Except Fault (List Node × State) := do
  match ← s.peek with
  | .closeSequence => if first then .error .malformed else return ([], s.drop)
  | .key =>
    let (k, s) ← nodeUnless fuel [.value, .comma, .closeSequence] false false s.drop
    let (v, s) ← valueAfter fuel [.comma, .closeSequence] false s
    let (ns, s) ← flowSequence fuel false s
    return (.mapping .map [(k, v)] :: ns, s)
  | _ =>
    let (n, s) ← node fuel false false s
    let (ns, s) ← flowSequence fuel false s
    return (n :: ns, s)

theorem flowSequence_succ (fuel : Nat) (first : Bool) (s : State) :
    flowSequence (fuel + 1) first s = bracketed .closeSequence first (flowItems fuel first) s := by
  simp only [bracketed, opening_bind]
  rw [flowSequence]
  rfl

theorem flowSequence_alike (below : Simulates fuel) (alike : s.Alike Requoted s') (first : Bool) :
    Matches (Paired (Forall₂ (Node.Alike false))) (flowSequence (fuel + 1) first s)
      (flowSequence (fuel + 1) first s') := by
  rw [flowSequence_succ, flowSequence_succ]
  refine bracketed_alike alike (by decide) first ?_
  intro s s' alike
  rw [flowItems, flowItems]
  refine alike.peek_bind fun t peeked => ?_
  split
  · split
    · exact .error _
    · exact .ok ⟨.nil, alike.drop peeked nofun⟩
  · refine (below.nodeUnless _ false false (alike.drop peeked nofun)).bind ?_
    rintro ⟨k, s⟩ ⟨k', s'⟩ ⟨key, alike⟩
    refine (below.valueAfter false (by simp) alike).bind ?_
    rintro ⟨v, s⟩ ⟨v', s'⟩ ⟨value, alike⟩
    refine (below.flowSequence false alike).bind ?_
    rintro ⟨ns, s⟩ ⟨ns', s'⟩ ⟨rest, alike⟩
    exact .ok ⟨.cons (.mapping _ (.cons (.entry key value) .nil)) rest, alike⟩
  · refine (below.node false false alike).bind ?_
    rintro ⟨n, s⟩ ⟨n', s'⟩ ⟨node, alike⟩
    refine (below.flowSequence false alike).bind ?_
    rintro ⟨ns, s⟩ ⟨ns', s'⟩ ⟨rest, alike⟩
    exact .ok ⟨.cons node rest, alike⟩

/-- An entry of a mapping in brackets and those behind it. -/
def flowEntries (fuel : Nat) (first : Bool) (s : State) :
    Except Fault (List (Node × Node) × State) := do
  match ← s.peek with
  | .closeMapping => if first then .error .malformed else return ([], s.drop)
  | .key =>
    let (k, s) ← nodeUnless fuel [.value, .comma, .closeMapping] false false s.drop
    let (v, s) ← valueAfter fuel [.comma, .closeMapping] false s
    let (rest, s) ← flowMapping fuel false s
    return ((k, v) :: rest, s)
  | _ =>
    let (k, s) ← node fuel false false s
    let (rest, s) ← flowMapping fuel false s
    return ((k, absentNode) :: rest, s)

theorem flowMapping_succ (fuel : Nat) (first : Bool) (s : State) :
    flowMapping (fuel + 1) first s = bracketed .closeMapping first (flowEntries fuel first) s := by
  simp only [bracketed, opening_bind]
  rw [flowMapping]
  rfl

theorem flowMapping_alike (below : Simulates fuel) (alike : s.Alike Requoted s') (first : Bool) :
    Matches (Paired (Forall₂ Node.AlikeEntry)) (flowMapping (fuel + 1) first s)
      (flowMapping (fuel + 1) first s') := by
  rw [flowMapping_succ, flowMapping_succ]
  refine bracketed_alike alike (by decide) first ?_
  intro s s' alike
  rw [flowEntries, flowEntries]
  refine alike.peek_bind fun t peeked => ?_
  split
  · split
    · exact .error _
    · exact .ok ⟨.nil, alike.drop peeked nofun⟩
  · refine (below.nodeUnless _ false false (alike.drop peeked nofun)).bind ?_
    rintro ⟨k, s⟩ ⟨k', s'⟩ ⟨key, alike⟩
    refine (below.valueAfter false (by simp) alike).bind ?_
    rintro ⟨v, s⟩ ⟨v', s'⟩ ⟨value, alike⟩
    refine (below.flowMapping false alike).bind ?_
    rintro ⟨rest, s⟩ ⟨rest', s'⟩ ⟨others, alike⟩
    exact .ok ⟨.cons (.entry key value) others, alike⟩
  · refine (below.node false false alike).bind ?_
    rintro ⟨k, s⟩ ⟨k', s'⟩ ⟨key, alike⟩
    refine (below.flowMapping false alike).bind ?_
    rintro ⟨rest, s⟩ ⟨rest', s'⟩ ⟨others, alike⟩
    exact .ok ⟨.cons (.entry key (.scalar _ _)) others, alike⟩

/-- **The grammar reads alike.** -/
theorem simulates (fuel : Nat) : Simulates fuel := by
  induction fuel with
  | zero =>
      exact ⟨fun _ _ _ => .error _, fun _ _ _ _ => .error _, fun _ => .error _, fun _ => .error _,
        fun _ => .error _, fun _ _ _ => .error _, fun _ _ => .error _, fun _ _ => .error _⟩
  | succ fuel below =>
      exact ⟨fun blocks loose alike => node_alike below alike blocks loose,
        fun stops blocks loose alike => nodeUnless_alike below alike stops blocks loose,
        blockSequence_alike below, looseSequence_alike below, blockMapping_alike below,
        fun blocks apart alike => valueAfter_alike below alike apart blocks,
        fun first alike => flowSequence_alike below alike first,
        fun first alike => flowMapping_alike below alike first⟩

/-! ## Whole documents -/

theorem directives_alike {ts ts' : List Token} (left : Requoted ts ts') (versioned : Bool)
    (given : List (String × String)) :
    Matches (fun r r' => r.1 = r'.1 ∧ Requoted r.2 r'.2) (directives versioned given ts)
      (directives versioned given ts') := by
  induction left generalizing versioned given with
  | nil => exact .ok ⟨rfl, .nil⟩
  | date d plain plain' left => exact .ok ⟨rfl, .date d plain plain' left⟩
  | same t left ih =>
      cases t with
      | version major =>
          rw [directives, directives]
          split
          · exact .error _
          · exact ih true given
      | tagHandle handle uri =>
          rw [directives, directives]
          split
          · exact .error _
          · exact ih versioned _
      | otherDirective => exact ih versioned given
      | _ => exact .ok ⟨rfl, .same _ left⟩

theorem content_alike (alike : s.Alike Requoted s') :
    Matches (Paired (Node.Alike false)) (content fuel s) (content fuel s') := by
  rw [content, content]
  refine alike.peek_bind fun t _ => ?_
  split
  all_goals first
    | exact .ok ⟨.scalar _ _, alike⟩
    | exact (simulates fuel).node true false alike

theorem finish_alike (alike : s.Alike Requoted s') : finish s = finish s' := by
  obtain ⟨left, fault, -, -⟩ := alike
  unfold finish
  rw [fault]
  generalize s.tokens = ts at left
  generalize s'.tokens = ts' at left
  induction left with
  | nil => rfl
  | date d plain plain' left => rfl
  | @same ts ts' t left ih =>
      -- Marks of a document's end are skipped; what counts is the token behind them.
      simp only [List.dropWhile_cons]
      cases t == .documentEnd with
      | true => exact ih
      | false =>
          cases left with
          | nil => rfl
          | same _ _ => cases t <;> rfl
          | date _ _ _ _ => cases t <;> rfl

theorem length_of_requoted {ts ts' : List Token} (left : Requoted ts ts') :
    ts.length = ts'.length := by
  induction left with
  | nil => rfl
  | same t _ ih => rw [List.length_cons, List.length_cons, ih]
  | date d _ _ _ ih => simp only [List.length_cons, ih]

/-- What two documents come to is alike. -/
inductive AlikeDocuments : Option Node → Option Node → Prop
  | none : AlikeDocuments none none
  | some {n n' : Node} : Node.Alike false n n' → AlikeDocuments (some n) (some n')

/-- A document whose node is read alike ends alike. -/
theorem ended_alike {x x' : Except Fault (Node × State)}
    (read : Matches (Paired (Node.Alike false)) x x') :
    Matches AlikeDocuments
      (do
        let (n, s) ← x
        finish s
        return some n)
      (do
        let (n, s) ← x'
        finish s
        return some n) := by
  refine read.bind ?_
  rintro ⟨n, s⟩ ⟨n', s'⟩ ⟨nodes, alike⟩
  dsimp only
  rw [finish_alike alike]
  cases finish s' with
  | error f => exact .error f
  | ok _ => exact .ok (.some nodes)

theorem explicit_alike (alike : s.Alike Requoted s') :
    Matches AlikeDocuments (document.explicit fuel s) (document.explicit fuel s') := by
  rw [document.explicit, document.explicit]
  refine (directives_alike alike.tokens false []).bind ?_
  rintro ⟨handles, ts⟩ ⟨_, ts'⟩ ⟨rfl, left⟩
  have alike : State.Alike Requoted { s with handles, tokens := ts }
      { s' with handles, tokens := ts' } := ⟨left, alike.fault, alike.anchors, rfl⟩
  dsimp only
  refine alike.peek_bind fun t peeked => ?_
  split
  · exact ended_alike (content_alike (alike.drop peeked nofun))
  · exact .error _

/-- **A document is the same, but for the quotes of dates**, if its tokens are. -/
theorem document_alike {ts ts' : TokenList} (left : Requoted ts.tokens ts'.tokens)
    (fault : ts.fault = ts'.fault) :
    Matches AlikeDocuments (document ts) (document ts') := by
  rw [document, document, length_of_requoted left]
  have alike : State.Alike Requoted { tokens := ts.tokens, fault := ts.fault }
      { tokens := ts'.tokens, fault := ts'.fault } := ⟨left, fault, .nil, rfl⟩
  dsimp only
  refine alike.peek_bind fun t _ => ?_
  split
  case h_1 => exact .ok .none
  case h_6 => exact ended_alike ((simulates _).node true false alike)
  all_goals exact explicit_alike alike

end Composition

end Overdue.Document
