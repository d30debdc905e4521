import Overdue.Proofs.Document.Requoted
import Overdue.Proofs.Value.Unwritable

/-!
# Values of documents with dates in quotes or without

Where two documents are the same but for the quotes of dates, so are their values: under some keys
there stands a date in the one and its text in the other (`Value.Alike`), and everything else,
faults included, is equal. `readsAlike_value` says so of the values of nodes, `read_alike` of whole
texts.
-/
namespace Overdue

open List (Forall₂)

theorem exists_of_mem_left {α β : Type} {R : α → β → Prop} {as : List α} {bs : List β}
    (each : Forall₂ R as bs) {a : α} (member : a ∈ as) : ∃ b ∈ bs, R a b := by
  induction each with
  | nil => cases member
  | @cons _ b _ bs related _ ih =>
      rcases List.mem_cons.mp member with rfl | later
      · exact ⟨b, List.mem_cons_self, related⟩
      · obtain ⟨b', among, related⟩ := ih later
        exact ⟨b', List.mem_cons_of_mem b among, related⟩

theorem exists_of_mem_right {α β : Type} {R : α → β → Prop} {as : List α} {bs : List β}
    (each : Forall₂ R as bs) {b : β} (member : b ∈ bs) : ∃ a ∈ as, R a b :=
  exists_of_mem_left each.flip member

namespace Value

/-- A date, or the text that is its written form. -/
def IsDate (d : Date) (v : Value) : Prop := v = .date d ∨ v = .text d.iso

/-- What does not tell a date from its text is the same for both. -/
theorem IsDate.congr {α : Type} {f : Value → α} {d : Date} {v v' : Value} (here : v.IsDate d)
    (there : v'.IsDate d) (same : f (.date d) = f (.text d.iso)) : f v = f v' := by
  rcases here with rfl | rfl <;> rcases there with rfl | rfl
  · rfl
  · exact same
  · exact same.symm
  · rfl

mutual

/-- Two values are the same, but that a date under a key may be a text in the one and none in the
other. The flag tells whether the value stands under a key. -/
inductive Alike : (field : Bool) → Value → Value → Prop
  | same {field : Bool} (v : Value) : Alike field v v
  | date {v v' : Value} (d : Date) : v.IsDate d → v'.IsDate d → Alike true v v'
  | list {field : Bool} {items items' : List Value} :
      Forall₂ (Alike false) items items' → Alike field (.list items) (.list items')
  | pair {field : Bool} {a a' b b' : Value} : Alike false a a' → Alike true b b' →
      Alike field (.tuple [a, b]) (.tuple [a', b'])
  | map {field : Bool} {entries entries' : List (Value × Value)} :
      Forall₂ AlikeEntry entries entries' → Alike field (.map entries) (.map entries')

inductive AlikeEntry : Value × Value → Value × Value → Prop
  | entry {v v' : Value} (key : Value) : Alike true v v' → AlikeEntry (key, v) (key, v')

end

variable {field : Bool} {v v' : Value}

theorem Alike.parts (alike : Alike field v v') :
    Forall₂ (fun p p' => ∃ field, Alike field p p') v.parts v'.parts := by
  cases alike with
  | same v => exact List.forall₂_same.mpr fun p _ => ⟨false, .same p⟩
  | date d here there =>
      rcases here with rfl | rfl <;> rcases there with rfl | rfl <;> exact .nil
  | list each => exact each.imp fun p p' alike => ⟨false, alike⟩
  | pair first second => exact .cons ⟨_, first⟩ (.cons ⟨_, second⟩ .nil)
  | map each =>
      refine List.rel_flatMap each ?_
      rintro ⟨key, v⟩ ⟨-, v'⟩ ⟨-, alike⟩
      exact .cons ⟨true, .same key⟩ (.cons ⟨_, alike⟩ .nil)

theorem Alike.int_iff (alike : Alike field v v') (i : Int) : v = .int i ↔ v' = .int i := by
  cases alike with
  | same v => rfl
  | date d here there => exact Eq.to_iff (here.congr (f := (· = .int i)) there (by simp))
  | _ => simp

theorem Alike.truthy (alike : Alike field v v') : v.truthy = v'.truthy := by
  cases alike with
  | same v => rfl
  | date d here there => exact here.congr there (by simp [Value.truthy, Date.iso_ne_empty])
  | pair first second => rfl
  | list each => cases each <;> rfl
  | map each => cases each <;> rfl

/-- A date has no number beyond the digit limit in it, nor has its text. -/
theorem Alike.holdsUnwritable_iff (alike : Alike field v v') :
    v.HoldsUnwritable ↔ v'.HoldsUnwritable := by
  constructor
  · -- By induction on where the number stands: each part has a partner that is alike.
    intro holds
    induction holds generalizing field v' with
    | int beyond => exact (alike.int_iff _).mp rfl ▸ .int beyond
    | part inside holds ih =>
        obtain ⟨p', inside', _, alike⟩ := exists_of_mem_left alike.parts inside
        exact .part inside' (ih alike)
  · intro holds
    induction holds generalizing field v with
    | int beyond => exact (alike.int_iff _).mpr rfl ▸ .int beyond
    | part inside holds ih =>
        obtain ⟨p, inside', _, alike⟩ := exists_of_mem_right alike.parts inside
        exact .part inside' (ih alike)

end Value

namespace Document

namespace Content

mutual

theorem height_alike : ∀ {field : Bool} {n n' : Node}, Node.Alike field n n' → n.height = n'.height
  | _, _, _, .scalar _ _ => rfl
  | _, _, _, .enclosing _ => rfl
  | _, _, _, .date d here there => here.congr there rfl
  | _, _, _, .sequence _ each => by
      rw [Node.height, Node.height, heightOfItems_alike each]
  | _, _, _, .mapping _ each => by
      rw [Node.height, Node.height, heightOfEntries_alike each]

theorem heightOfItems_alike : ∀ {items items' : List Node},
    Forall₂ (Node.Alike false) items items' → Node.heightOfItems items = Node.heightOfItems items'
  | _, _, .nil => rfl
  | _, _, .cons first rest => by
      rw [Node.heightOfItems, Node.heightOfItems, height_alike first, heightOfItems_alike rest]

theorem heightOfEntries_alike : ∀ {entries entries' : List (Node × Node)},
    Forall₂ Node.AlikeEntry entries entries' →
      Node.heightOfEntries entries = Node.heightOfEntries entries'
  | _, _, .nil => rfl
  | _, _, .cons (.entry key value) rest => by
      rw [Node.heightOfEntries, Node.heightOfEntries, height_alike key, height_alike value,
        heightOfEntries_alike rest]

end

theorem tag_alike {n n' : Node} (alike : Node.Alike false n n') : n.tag = n'.tag := by
  cases alike <;> rfl

/-- The text of a node is the same, with the quotes of dates or without. -/
theorem text_alike {field : Bool} {n n' : Node} (alike : Node.Alike field n n') (fuel : Nat) :
    text fuel n = text fuel n' := by
  induction fuel generalizing field n n' with
  | zero =>
      cases alike with
      | date d here there => exact here.congr there rfl
      | _ => rfl
  | succ fuel ih =>
      cases alike with
      | date d here there => exact here.congr there rfl
      | mapping tag each =>
          rw [text, text]
          induction each with
          | nil => rfl
          | @cons entry entry' _ _ first rest again =>
              obtain ⟨k, v⟩ := entry
              obtain ⟨k', v'⟩ := entry'
              obtain ⟨key, value⟩ := first
              rw [List.find?_cons, List.find?_cons]
              dsimp only
              rw [tag_alike key]
              cases k'.tag == .default with
              | true => exact ih value
              | false => exact again
      | _ => rfl

/-! ### Entries that are taken over -/

theorem merges_alike {k k' : Node} (alike : Node.Alike false k k') : merges k = merges k' := by
  rw [merges, merges, tag_alike alike]

theorem plainKey_alike {k k' : Node} (alike : Node.Alike false k k') :
    Node.Alike false (plainKey k) (plainKey k') := by
  cases alike with
  | scalar tag text => cases tag <;> exact .scalar _ text
  | enclosing isMapping => exact .enclosing isMapping
  | sequence tag each => exact .sequence tag each
  | mapping tag each => exact .mapping tag each

theorem own_alike {entries entries' : List (Node × Node)}
    (each : Forall₂ Node.AlikeEntry entries entries') :
    Forall₂ Node.AlikeEntry (own entries) (own entries') := by
  induction each with
  | nil => exact .nil
  | cons first rest ih =>
      obtain ⟨key, value⟩ := first
      rw [own, own, merges_alike key]
      split
      · exact ih
      · exact .cons (.entry (plainKey_alike key) value) ih

mutual

theorem merged_alike : ∀ {field : Bool} {n n' : Node}, Node.Alike field n n' →
    Matches (Forall₂ Node.AlikeEntry) (merged n) (merged n')
  | _, _, _, .scalar _ _ => .error _
  | _, _, _, .enclosing isMapping => by
      cases isMapping with
      | true => exact .ok .nil
      | false => exact .error _
  | _, _, _, .date d here there => by
      rcases here with rfl | rfl <;> rcases there with rfl | rfl <;> exact .error _
  | _, _, _, .sequence _ _ => .error _
  | _, _, _, .mapping _ each => by
      rw [merged, merged]
      refine (takenOver_alike each).bind fun taken taken' related => ?_
      exact .ok (List.rel_append related (own_alike each))

theorem takenOver_alike : ∀ {entries entries' : List (Node × Node)},
    Forall₂ Node.AlikeEntry entries entries' →
      Matches (Forall₂ Node.AlikeEntry) (takenOver entries) (takenOver entries')
  | _, _, .nil => .ok .nil
  | _, _, .cons (.entry key value) rest => by
      rw [takenOver, takenOver, merges_alike key]
      split
      · have behind (first first' : List (Node × Node))
            (related : Forall₂ Node.AlikeEntry first first') :=
          (takenOver_alike rest).bind fun others others' alike =>
            Matches.ok (ε := Fault) (List.rel_append related alike)
        cases value with
        | sequence tag each => exact (mergedItems_alike each).bind behind
        | enclosing isMapping => exact behind [] [] .nil
        | scalar tag text => exact .error _
        | date d here there =>
            rcases here with rfl | rfl <;> rcases there with rfl | rfl <;> exact .error _
        | mapping tag each => exact (@merged_alike true _ _ (.mapping tag each)).bind behind
      · exact takenOver_alike rest

theorem mergedItems_alike : ∀ {items items' : List Node},
    Forall₂ (Node.Alike false) items items' →
      Matches (Forall₂ Node.AlikeEntry) (mergedItems items) (mergedItems items')
  | _, _, .nil => .ok .nil
  | _, _, .cons first rest => by
      rw [mergedItems, mergedItems]
      refine (merged_alike first).bind fun entries entries' related => ?_
      refine (mergedItems_alike rest).bind fun others others' alike => ?_
      exact .ok (List.rel_append alike related)

end

/-! ### What stands in a collection -/

theorem both_alike {α β : Type} {R : α → α → Prop} {S : β → β → Prop} {r r' : Outcome α}
    {q q' : Outcome β} (left : Matches R r r') (right : Matches S q q') :
    Matches (fun p p' => R p.1 p'.1 ∧ S p.2 p'.2) (Outcome.both r q) (Outcome.both r' q') := by
  cases left with
  | ok first =>
      cases right with
      | ok second => exact .ok ⟨first, second⟩
      | error e => exact .error e
  | error e =>
      cases right with
      | ok second => exact .error e
      | error f => exact .error _

theorem all_alike {α : Type} {R : α → α → Prop} {rs rs' : List (Outcome α)}
    (each : Forall₂ (Matches R) rs rs') :
    Matches (Forall₂ R) (Outcome.all rs) (Outcome.all rs') := by
  induction each with
  | nil => exact .ok .nil
  | cons first rest ih =>
      rw [Outcome.all, Outcome.all]
      exact (both_alike first ih).map fun p p' ⟨head, tail⟩ => .cons head tail

theorem put_alike {v v' : Value} {es es' : Entries} (each : Forall₂ Value.AlikeEntry es es')
    (key : Value) (alike : Value.Alike true v v') :
    Forall₂ Value.AlikeEntry (es.put key v) (es'.put key v') := by
  induction each with
  | nil => exact .cons (.entry key alike) .nil
  | cons first rest ih =>
      obtain ⟨known, others⟩ := first
      rw [Entries.put, Entries.put]
      split
      · exact .cons (.entry known alike) rest
      · exact .cons (.entry known others) ih

theorem gather_alike {es es' : Entries} (each : Forall₂ Value.AlikeEntry es es') :
    Forall₂ Value.AlikeEntry (gather es) (gather es') := by
  refine List.rel_foldl (R := Value.AlikeEntry) ?_ .nil each
  rintro done done' known - - ⟨key, alike⟩
  exact put_alike known key alike

theorem keys_alike {es es' : Entries} (each : Forall₂ Value.AlikeEntry es es') :
    es.map (·.1) = es'.map (·.1) := by
  induction each with
  | nil => rfl
  | cons first rest ih =>
      obtain ⟨key, -⟩ := first
      rw [List.map_cons, List.map_cons, ih]

/-! ### Reading by level -/

/-- The value of a key, given how nodes are read; collections are none. -/
def keyValue (read : Node → Outcome Value) (depth : Nat) (k : Node) : Outcome Value :=
  if isKeyNode k then read k else .error (depth, .malformed)

/-- The entries of a mapping behind those that it takes over, given how nodes are read. -/
def entryValues (read : Node → Outcome Value) (depth : Nat) (n : Node) :
    Outcome (List (Value × Value)) :=
  match merged n with
  | .error f => .error (depth, f)
  | .ok entries =>
    Outcome.all (entries.map fun (k, v) => Outcome.both (keyValue read depth k) (read v))

/-- The pair of an entry, given how nodes are read. -/
def pairValue (read : Node → Outcome Value) (depth : Nat) (n : Node) : Outcome Value :=
  match onlyEntry n with
  | .error f => .error (depth, f)
  | .ok (k, v) => (Outcome.both (read k) (read v)).map fun (a, b) => .tuple [a, b]

/-- Nodes that are alike are read alike, and keys are even read to the same value. -/
structure ReadsAlike (read : Node → Outcome Value) : Prop where
  node {field : Bool} {n n' : Node} : Node.Alike field n n' →
    Matches (Value.Alike field) (read n) (read n')
  key {k k' : Node} : Node.Alike false k k' → isKeyNode k = true → read k = read k'

variable {read : Node → Outcome Value} {depth : Nat}

theorem keyValue_alike (reads : ReadsAlike read) {k k' : Node} (alike : Node.Alike false k k') :
    keyValue read depth k = keyValue read depth k' := by
  have same : isKeyNode k = isKeyNode k' := by rw [isKeyNode, isKeyNode, tag_alike alike]
  rw [keyValue, keyValue, ← same]
  split
  · rename_i key
    exact reads.key alike key
  · rfl

theorem entryValues_alike (reads : ReadsAlike read) {field : Bool} {n n' : Node}
    (alike : Node.Alike field n n') :
    Matches (Forall₂ Value.AlikeEntry) (entryValues read depth n) (entryValues read depth n') := by
  have taken := merged_alike alike
  rw [entryValues, entryValues]
  generalize merged n = entries at taken
  generalize merged n' = entries' at taken
  cases taken with
  | error f => exact .error _
  | ok each =>
      refine all_alike (List.rel_map ?_ each)
      rintro - - ⟨key, value⟩
      dsimp only
      rw [keyValue_alike reads key]
      refine (both_alike (.of_eq _ fun _ => rfl) (reads.node value)).mono ?_
      rintro ⟨k, v⟩ ⟨-, v'⟩ ⟨rfl, alike⟩
      exact .entry k alike

theorem pairValue_alike (reads : ReadsAlike read) {n n' : Node} (alike : Node.Alike false n n') :
    Matches (Value.Alike false) (pairValue read depth n) (pairValue read depth n') := by
  cases alike with
  | scalar tag text => exact .error _
  | enclosing isMapping => exact .error _
  | sequence tag each => exact .error _
  | mapping tag each =>
      match each with
      | .nil => exact .error _
      | .cons (.entry key value) .nil =>
          refine (both_alike (reads.node key) (reads.node value)).map ?_
          exact fun p p' ⟨first, second⟩ => .pair first second
      | .cons (.entry _ _) (.cons (.entry _ _) _) => exact .error _

theorem value_of_key {k k' : Node} (alike : Node.Alike false k k') (key : isKeyNode k = true)
    (fuel depth : Nat) : value fuel depth k = value fuel depth k' := by
  cases fuel with
  | zero => rfl
  | succ fuel =>
      have same := text_alike alike (fuel + 1)
      cases alike with
      | scalar tag text => rfl
      | enclosing isMapping => cases isMapping <;> rfl
      | sequence tag each =>
          cases tag with
          | seq | map | set | orderedMap | pairs => cases key
          | _ => rfl
      | mapping tag each =>
          cases tag with
          | seq | map | set | orderedMap | pairs => cases key
          | merge | default | other => rfl
          | _ =>
              unfold value
              dsimp only [Node.tag]
              rw [same]

theorem value_timestamp_iso (d : Date) (fuel depth : Nat) :
    value (fuel + 1) depth (.scalar .timestamp d.iso) = .ok (.date d) := by
  unfold value
  dsimp only [Node.tag, text]
  rw [Composition.ok_bind, timestamp_iso]
  rfl

/-- **The scalar of a date** is the date without quotes, and its text in quotes. -/
theorem value_iso (d : Date) (plain : Bool) (fuel depth : Nat) :
    value (fuel + 1) depth (.scalar (Composition.scalarTag none plain d.iso) d.iso) =
      .ok (if plain then .date d else .text d.iso) := by
  unfold Composition.scalarTag
  cases plain with
  | true => simp only [if_true, tag_iso, value_timestamp_iso]
  | false => rfl

theorem exists_value_of_isDate {n : Node} {d : Date} (date : n.IsDate d) (fuel depth : Nat) :
    ∃ v, value (fuel + 1) depth n = .ok v ∧ v.IsDate d := by
  rcases date with rfl | rfl
  · exact ⟨.date d, value_timestamp_iso d fuel depth, .inl rfl⟩
  · exact ⟨.text d.iso, rfl, .inr rfl⟩

/-- **The values of nodes that are alike are alike**, and so are their faults. -/
theorem readsAlike_value (fuel depth : Nat) : ReadsAlike (value fuel depth) := by
  refine ⟨?_, fun alike key => value_of_key alike key fuel depth⟩
  induction fuel generalizing depth with
  | zero => exact fun _ => .error _
  | succ fuel ih =>
      have below : ReadsAlike (value fuel (depth + 1)) :=
        ⟨ih (depth + 1), fun alike key => value_of_key alike key fuel (depth + 1)⟩
      intro field n n' alike
      have scalar {k k' : Node} (alike : Node.Alike false k k') (key : isKeyNode k = true) :
          Matches (Value.Alike field) (value (fuel + 1) depth k) (value (fuel + 1) depth k') := by
        rw [value_of_key alike key]
        exact .of_eq _ .same
      cases alike with
      | scalar tag text => exact .of_eq _ .same
      | enclosing isMapping => exact .of_eq _ .same
      | date d here there =>
          obtain ⟨v, read, date⟩ := exists_value_of_isDate here fuel depth
          obtain ⟨v', read', date'⟩ := exists_value_of_isDate there fuel depth
          rw [read, read']
          exact .ok (.date d date date')
      | sequence tag each =>
          have values :=
            all_alike (List.rel_map (R := Node.Alike false) (fun _ _ => below.node) each)
          have pairs := all_alike (List.rel_map (R := Node.Alike false)
            (fun _ _ => @pairValue_alike _ (depth + 1) below _ _) each)
          cases tag with
          | seq => exact values.map fun _ _ => .list
          | map => exact .error _
          | set => exact .error _
          | orderedMap => exact pairs.map fun _ _ => .list
          | pairs => exact pairs.map fun _ _ => .list
          | _ => exact scalar (.sequence _ each) rfl
      | mapping tag each =>
          have entries {tag : Tag} :=
            @entryValues_alike _ (depth + 1) below field _ _ (.mapping tag each)
          cases tag with
          | seq => exact .error _
          | map => exact entries.map fun es es' each => .map (gather_alike each)
          | set =>
              refine entries.map fun es es' each => ?_
              rw [keys_alike (gather_alike each)]
              exact .same _
          | orderedMap => exact .error _
          | pairs => exact .error _
          | _ => exact scalar (.mapping _ each) rfl

end Content

/-! ## Whole texts -/

/-- Two texts are the same, but that a date that is the value of a key may have quotes in the one
and none in the other. Characters that may not stand in a document do so in both or in none. -/
structure SameButQuotes (s s' : List Char) : Prop where
  allowed : s.all isAllowed = s'.all isAllowed
  tokens : Requoted (tokenize s).tokens (tokenize s').tokens
  fault : (tokenize s).fault = (tokenize s').fault

/-- **Texts that are the same but for the quotes of dates are read alike.** -/
theorem read_alike {s s' : List Char} (same : SameButQuotes s s') :
    Matches (Value.Alike false) (read s) (read s') := by
  have documents := Composition.document_alike same.tokens same.fault
  rw [read, read]
  generalize Composition.document (tokenize s) = document at documents
  generalize Composition.document (tokenize s') = document' at documents
  cases documents with
  | error f => exact .error f
  | ok alike =>
      cases alike with
      | none => exact .ok (.same .null)
      | @some n n' alike =>
          have values := (Content.readsAlike_value (n.height + 1) 0).node alike
          dsimp only
          rw [Node.value, Node.value, ← Content.height_alike alike]
          generalize Content.value (n.height + 1) 0 n = value at values
          generalize Content.value (n.height + 1) 0 n' = value' at values
          cases values with
          | error f => exact .error _
          | ok alike => exact .ok alike

end Document

end Overdue
