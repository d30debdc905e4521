import Overdue.Proofs.Source.Parts
import Overdue.Source.Outline

/-!
# What stands in an outline

`Node.nodes` lists a parse tree and everything inside it. `exists_of_mem_nodes` says that everything
inside the outline of a parse tree is itself the outline of something inside that parse tree: an
outline drops and reorders, but it makes nothing up.

The functions that choose from a list of children all have one shape, and `yields_of_selection` is
the one induction for them.
-/
namespace Overdue.Source.Node

/-- What a branch is built around. -/
def children : Node → List Node
  | .branch _ _ ns => ns
  | _ => []

theorem sizeOf_lt_of_mem_children {n m : Node} (member : m ∈ n.children) : sizeOf m < sizeOf n := by
  cases n with
  | branch c line ns =>
      have smaller : sizeOf m < sizeOf ns := List.sizeOf_lt_of_mem member
      simp
      omega
  | _ => cases member

@[elab_as_elim]
theorem induction {motive : Node → Prop}
    (children : ∀ n : Node, (∀ m ∈ n.children, motive m) → motive n) (n : Node) : motive n :=
  children n fun m _ => induction children m
termination_by n
decreasing_by exact sizeOf_lt_of_mem_children ‹_›

/-- A parse tree and everything inside it. -/
def nodes (n : Node) : List Node := n :: n.children.attach.flatMap fun ⟨m, _⟩ => nodes m
termination_by n
decreasing_by exact sizeOf_lt_of_mem_children ‹_›

theorem nodes_eq (n : Node) : n.nodes = n :: n.children.flatMap nodes := by
  rw [nodes]
  simp

theorem mem_nodes_self (n : Node) : n ∈ n.nodes := by
  rw [nodes_eq]
  exact List.mem_cons_self

theorem mem_nodes_trans {a b c : Node} (ab : a ∈ b.nodes) (bc : b ∈ c.nodes) : a ∈ c.nodes := by
  induction c using Node.induction with
  | children c ih =>
      rw [nodes_eq] at bc
      rcases List.mem_cons.mp bc with rfl | inside
      · exact ab
      · obtain ⟨m, child, inside⟩ := List.mem_flatMap.mp inside
        rw [nodes_eq]
        exact List.mem_cons_of_mem c (List.mem_flatMap.mpr ⟨m, child, ih m child inside⟩)

/-- The tree comes from a node among some or inside them. -/
def Yields (ns : List Node) (t : Tree) : Prop := ∃ m ∈ ns.flatMap nodes, t = outline m

theorem Yields.head (n : Node) (ns : List Node) : Yields (n :: ns) (outline n) :=
  ⟨n, List.mem_flatMap.mpr ⟨n, List.mem_cons_self, mem_nodes_self n⟩, rfl⟩

theorem Yields.inside {n : Node} {t : Tree} (ns : List Node) (h : Yields n.children t) :
    Yields (n :: ns) t := by
  obtain ⟨m, member, rfl⟩ := h
  refine ⟨m, List.mem_flatMap.mpr ⟨n, List.mem_cons_self, ?_⟩, rfl⟩
  rw [nodes_eq]
  exact List.mem_cons_of_mem n member

theorem Yields.tail {ns : List Node} {t : Tree} (n : Node) (h : Yields ns t) :
    Yields (n :: ns) t := by
  obtain ⟨m, member, rfl⟩ := h
  obtain ⟨k, later, inside⟩ := List.mem_flatMap.mp member
  exact ⟨m, List.mem_flatMap.mpr ⟨k, List.mem_cons_of_mem n later, inside⟩, rfl⟩

/-- A selection from a list of nodes that takes from each node the outline of it, or something from
inside it, or what it selects from inside it. -/
theorem yields_of_selection {f : List Node → List Tree} (nil : f [] = [])
    (cons : ∀ n ns, ∀ t ∈ f (n :: ns),
      t = outline n ∨ Yields n.children t ∨ t ∈ f n.children ∨ t ∈ f ns)
    (ns : List Node) : ∀ t ∈ f ns, Yields ns t := by
  have step : ∀ ns : List Node, (∀ n ∈ ns, ∀ t ∈ f n.children, Yields n.children t) →
      ∀ t ∈ f ns, Yields ns t := by
    intro ns
    induction ns with
    | nil => simp [nil]
    | cons n ns ih =>
        intro each t member
        rw [List.forall_mem_cons] at each
        rcases cons n ns t member with rfl | inside | deeper | later
        · exact .head n ns
        · exact inside.inside ns
        · exact (each.1 t deeper).inside ns
        · exact (ih each.2 t later).tail n
  have inside (n : Node) : ∀ t ∈ f n.children, Yields n.children t := by
    induction n using Node.induction with
    | children n ih => exact step n.children ih
  exact step ns fun n _ => inside n

theorem outlines_yield : ∀ ns, ∀ t ∈ outlines ns, Yields ns t := by
  refine yields_of_selection rfl fun n ns t member => ?_
  rw [outlines] at member
  grind

theorem positional_yields : ∀ ns, ∀ t ∈ positional ns, Yields ns t := by
  refine yields_of_selection rfl fun n ns t member => ?_
  unfold positional at member
  split at member <;> grind

theorem keywords_yield : ∀ ns, ∀ t ∈ (keywords ns).map Prod.snd, Yields ns t := by
  refine yields_of_selection rfl fun n ns t member => ?_
  unfold keywords at member
  split at member <;> grind [children, Yields.head, Yields.tail]

theorem entryKeys_yield : ∀ ns, ∀ t ∈ (entries ns).filterMap Prod.fst, Yields ns t := by
  refine yields_of_selection rfl fun n ns t member => ?_
  unfold entries at member
  split at member <;> grind [children, Yields.head, Yields.tail]

theorem entryValues_yield : ∀ ns, ∀ t ∈ (entries ns).map Prod.snd, Yields ns t := by
  refine yields_of_selection rfl fun n ns t member => ?_
  unfold entries at member
  split at member <;> grind [children, Yields.head, Yields.tail]

theorem pairKeys_yield : ∀ ns, ∀ t ∈ pairKeys ns, Yields ns t := by
  refine yields_of_selection rfl fun n ns t member => ?_
  unfold pairKeys at member
  split at member <;> grind [children, Yields.head, Yields.tail]

theorem pairValues_yield : ∀ ns, ∀ t ∈ pairValues ns, Yields ns t := by
  refine yields_of_selection rfl fun n ns t member => ?_
  unfold pairValues at member
  split at member <;> grind [children, Yields.head, Yields.tail]

theorem hints_yield : ∀ ns, ∀ t ∈ hints ns, Yields ns t := by
  refine yields_of_selection rfl fun n ns t member => ?_
  unfold hints at member
  split at member <;> grind [children, outlines_yield]

theorem defaults_yield : ∀ ns, ∀ t ∈ defaults ns, Yields ns t := by
  refine yields_of_selection rfl fun n ns t member => ?_
  unfold defaults at member
  split at member <;> grind [children, outlines_yield]

theorem starHint_yields : ∀ ns, ∀ t ∈ starHint ns, Yields ns t := by
  refine yields_of_selection rfl fun n ns t member => ?_
  unfold starHint at member
  split at member <;> grind [children, hints_yield]

theorem doubleStarHint_yields : ∀ ns, ∀ t ∈ doubleStarHint ns, Yields ns t := by
  refine yields_of_selection rfl fun n ns t member => ?_
  unfold doubleStarHint at member
  split at member <;> grind [children, hints_yield]

theorem behindStar_yields : ∀ ns, ∀ t ∈ behindStar ns, Yields ns t := by
  refine yields_of_selection rfl fun n ns t member => ?_
  unfold behindStar at member
  split at member <;>
    grind [children, hints_yield, starHint_yields, defaults_yield, doubleStarHint_yields]

theorem unlessReturns_yield : ∀ ns, ∀ t ∈ unlessReturns ns, Yields ns t := by
  refine yields_of_selection rfl fun n ns t member => ?_
  unfold unlessReturns at member
  split at member <;> grind

theorem returns_yield : ∀ ns, ∀ t ∈ returns ns, Yields ns t := by
  refine yields_of_selection rfl fun n ns t member => ?_
  unfold returns at member
  split at member <;> grind [children, outlines_yield]

theorem parts_ofToken (t : Token) : (ofToken t).parts = [] := by
  unfold ofToken
  split
  · rfl
  · split <;> rfl

/-- The parts of an outline come from inside the node. -/
theorem parts_yield (n : Node) : ∀ p ∈ (outline n).parts, Yields n.children p := by
  induction n using Node.induction with
  | children n ih =>
      intro p part
      cases n with
      | token t =>
          rw [outline, parts_ofToken] at part
          cases part
      | literal line v => cases part
      | branch c line ns =>
          cases c with
          | «attribute» | call | binary | conditional =>
              unfold outline at part
              dsimp only at part
              split at part
              · grind [Tree.parts, children, Yields.head, Yields.tail, positional_yields,
                  keywords_yield]
              · exact outlines_yield _ p part
          | arguments | dict | mappingPattern | parameters | function =>
              unfold outline at part
              grind [Tree.parts, children, positional_yields, keywords_yield, entryKeys_yield,
                entryValues_yield, pairKeys_yield, pairValues_yield, hints_yield,
                behindStar_yields, defaults_yield, unlessReturns_yield, returns_yield]
          | unary =>
              unfold outline at part
              dsimp only at part
              split at part
              · split at part
                · grind [Tree.parts, children, Yields.head, Yields.tail]
                · split at part <;> grind [Tree.parts, children, Yields.head, Yields.tail]
              · exact outlines_yield _ p part
          | decorated =>
              unfold outline at part
              dsimp only at part
              split at part
              · rename_i decorators definition
                split at part
                · rename_i ds own above inside left right
                  have first := ih decorators List.mem_cons_self p
                  have second := ih definition (List.mem_cons_of_mem _ List.mem_cons_self) p
                  rw [left] at first
                  rw [right] at second
                  rcases List.mem_append.mp part with d | i
                  · exact (first d).inside _
                  · exact ((second (List.mem_append_right _ i)).inside _).tail _
                · grind [Tree.parts, children, Yields.head, Yields.tail]
              · exact outlines_yield _ p part
          | _ => exact outlines_yield ns p part

/-- **Everything inside an outline is the outline of something inside the parse tree.** -/
theorem exists_of_mem_nodes {t x : Tree} (inside : x ∈ t.nodes) (n : Node) (of : t = outline n) :
    ∃ m ∈ n.nodes, x = outline m := by
  induction t using Tree.induction generalizing n with
  | parts t ih =>
      rw [Tree.nodes_eq] at inside
      rcases List.mem_cons.mp inside with rfl | inside
      · exact ⟨n, mem_nodes_self n, of⟩
      · obtain ⟨p, part, inside⟩ := List.mem_flatMap.mp inside
        rw [of] at part
        obtain ⟨m, within, rfl⟩ := parts_yield n p part
        obtain ⟨k, deeper, same⟩ := ih _ (of ▸ part) inside m rfl
        refine ⟨k, mem_nodes_trans deeper ?_, same⟩
        rw [nodes_eq]
        exact List.mem_cons_of_mem n within

end Overdue.Source.Node
