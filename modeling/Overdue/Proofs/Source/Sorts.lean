import Overdue.Proofs.Source.Outline

/-!
# Expressions and statements

A part of a source file is an expression if no definition stands in it. The decorators of a
definition are expressions: `Tree.WellSorted` says so of all definitions in a tree, and
`Node.WellSorted` of the parse trees that such a tree is the outline of.
-/
namespace Overdue.Source

/-! ## Trees -/

namespace Tree

/-- No definition stands in the tree. -/
def IsExpression (t : Tree) : Prop :=
  ∀ own decorators inside, .declaration own decorators inside ∉ t.nodes

/-- The decorators in a tree are expressions. -/
def WellSorted (t : Tree) : Prop :=
  ∀ own decorators inside, .declaration own decorators inside ∈ t.nodes →
    ∀ d ∈ decorators, d.IsExpression

theorem IsExpression.part {t p : Tree} (h : t.IsExpression) (part : p ∈ t.parts) :
    p.IsExpression :=
  fun own decorators inside member => h own decorators inside (mem_nodes_of_mem_parts part member)

theorem IsExpression.ne {t : Tree} (h : t.IsExpression) (own : String)
    (decorators inside : List Tree) : t ≠ .declaration own decorators inside := by
  rintro rfl
  exact h own decorators inside (mem_nodes_self _)

theorem WellSorted.part {t p : Tree} (h : t.WellSorted) (part : p ∈ t.parts) : p.WellSorted :=
  fun own decorators inside member => h own decorators inside (mem_nodes_of_mem_parts part member)

end Tree

/-! ## Parse trees -/

/-- The constructs that define a symbol. -/
def Construct.isDefinition : Construct → Bool
  | .function | .classDefinition | .decorated => true
  | _ => false

namespace Node

/-- No definition stands in the parse tree. -/
def IsExpression (n : Node) : Prop :=
  ∀ c line ns, .branch c line ns ∈ n.nodes → c.isDefinition = false

/-- What comes first in a decorated definition is an expression, wherever one stands in the parse
tree. -/
def WellSorted (n : Node) : Prop :=
  ∀ line d ns, .branch .decorated line (d :: ns) ∈ n.nodes → d.IsExpression

theorem IsExpression.wellSorted {n : Node} (h : n.IsExpression) : n.WellSorted :=
  fun line d ns member => nomatch h .decorated line (d :: ns) member

/-- A definition is the outline of a construct that defines, and its decorators are those of the
first child, if it has any. -/
theorem definition_of_outline {n : Node} {own : String} {ds inside : List Tree}
    (h : outline n = .declaration own ds inside) :
    ∃ c line ns, n = .branch c line ns ∧ c.isDefinition = true ∧
      ∀ t ∈ ds, ∃ d rest, c = .decorated ∧ ns = d :: rest ∧ t ∈ (outline d).parts := by
  cases n with
  | token t =>
      unfold outline ofToken at h
      split at h
      · cases h
      · split at h <;> cases h
  | literal line v => cases h
  | branch c line ns =>
      refine ⟨c, line, ns, rfl, ?_⟩
      cases c with
      | function | classDefinition =>
          cases h
          simp [Construct.isDefinition]
      | decorated =>
          unfold outline at h
          dsimp only at h
          split at h
          · rename_i decorators definition
            split at h
            · rename_i above given decorated left right
              cases h
              refine ⟨rfl, fun t member => ⟨decorators, [definition], rfl, rfl, ?_⟩⟩
              rw [left]
              exact member
            · cases h
          · cases h
      | «attribute» | call | binary | conditional =>
          unfold outline at h
          dsimp only at h
          split at h <;> cases h
      | unary =>
          unfold outline at h
          dsimp only at h
          split at h
          · split at h
            · cases h
            · split at h <;> cases h
          · cases h
      | _ => cases h

theorem IsExpression.outline {n : Node} (h : n.IsExpression) : (outline n).IsExpression := by
  intro own ds inside member
  obtain ⟨m, within, same⟩ := exists_of_mem_nodes member n rfl
  obtain ⟨c, line, ns, rfl, isDefinition, -⟩ := definition_of_outline same.symm
  rw [h c line ns within] at isDefinition
  cases isDefinition

theorem WellSorted.outline {n : Node} (h : n.WellSorted) : (outline n).WellSorted := by
  intro own ds inside member t above
  obtain ⟨m, within, same⟩ := exists_of_mem_nodes member n rfl
  obtain ⟨c, line, ns, rfl, -, decorators⟩ := definition_of_outline same.symm
  obtain ⟨d, rest, rfl, rfl, part⟩ := decorators t above
  exact (h line d rest within).outline.part part

/-! ## Building parse trees -/

theorem isExpression_token (t : Token) : (token t).IsExpression := by
  intro c line ns member
  simp [nodes_eq, children] at member

theorem isExpression_literal (line : Nat) (v : Value) : (literal line v).IsExpression := by
  intro c line ns member
  simp [nodes_eq, children] at member

theorem isExpression_branch_iff {c : Construct} {line : Nat} {ns : List Node} :
    (branch c line ns).IsExpression ↔ c.isDefinition = false ∧ ∀ n ∈ ns, n.IsExpression := by
  constructor
  · intro h
    refine ⟨h c line ns (mem_nodes_self _), fun n child c' line' ns' member => ?_⟩
    refine h c' line' ns' ?_
    rw [nodes_eq]
    exact List.mem_cons_of_mem _ (List.mem_flatMap.mpr ⟨n, child, member⟩)
  · rintro ⟨plain, each⟩ c' line' ns' member
    rw [nodes_eq] at member
    rcases List.mem_cons.mp member with same | inside
    · cases same
      exact plain
    · obtain ⟨n, child, inside⟩ := List.mem_flatMap.mp inside
      exact each n child c' line' ns' inside

theorem wellSorted_branch {c : Construct} {line : Nat} {ns : List Node}
    (first : c = .decorated → ∀ d ∈ ns.head?, d.IsExpression) (each : ∀ n ∈ ns, n.WellSorted) :
    (branch c line ns).WellSorted := by
  intro line' d rest member
  rw [nodes_eq] at member
  rcases List.mem_cons.mp member with same | inside
  · cases same
    exact first rfl d rfl
  · obtain ⟨n, child, inside⟩ := List.mem_flatMap.mp inside
    exact each n child line' d rest inside

end Node

end Overdue.Source
