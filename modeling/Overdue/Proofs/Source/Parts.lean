import Overdue.Source.Declarations

/-!
# A tree and its parts

`Tree.parts` lists the direct parts of a tree in visiting order, of whatever kind the tree is, and
`Tree.nodes` a tree with everything inside it. `Tree.induction` is induction on the parts.

A walk goes through keywords and mappings by functions of their own. `visit_call` and
`visit_of_parts` put it in terms of parts: a call of `milestone` is recorded, and then the parts are
walked, unless the tree is a definition.
-/
namespace Overdue.Source.Tree

/-- The direct parts of a tree, in visiting order. -/
def parts : Tree → List Tree
  | .name _ _ => []
  | .literal _ => []
  | .attribute _ object _ => [object]
  | .call _ callee args keywords => callee :: (args ++ keywords.map Prod.snd)
  | .sign _ operand => [operand]
  | .sum _ left right => [left, right]
  | .tuple items => items
  | .list items => items
  | .set items => items
  | .dict entries => entries.filterMap Prod.fst ++ entries.map Prod.snd
  | .declaration _ decorators inside => decorators ++ inside
  | .compound inside => inside

theorem sizeOf_lt_of_mem_parts {t p : Tree} (member : p ∈ t.parts) : sizeOf p < sizeOf t := by
  cases t with
  | name | literal => simp [parts] at member
  | «attribute» line object id =>
      simp only [parts, List.mem_singleton] at member
      subst member
      simp
      omega
  | sign negative operand =>
      simp only [parts, List.mem_singleton] at member
      subst member
      simp
  | sum subtract left right =>
      simp only [parts, List.mem_cons, List.not_mem_nil, or_false] at member
      rcases member with rfl | rfl
      · rw [sum.sizeOf_spec]
        omega
      · rw [sum.sizeOf_spec]
        omega
  | tuple items | list items | set items | compound items =>
      have smaller : sizeOf p < sizeOf items := List.sizeOf_lt_of_mem member
      simp
      omega
  | declaration own decorators inside =>
      simp only [parts, List.mem_append] at member
      rcases member with above | inside
      · have smaller := List.sizeOf_lt_of_mem above
        simp
        omega
      · have smaller := List.sizeOf_lt_of_mem inside
        simp
        omega
  | call line callee args keywords =>
      simp only [parts, List.mem_cons, List.mem_append, List.mem_map] at member
      rcases member with rfl | given | ⟨⟨key, v⟩, given, rfl⟩
      · simp
        omega
      · have smaller := List.sizeOf_lt_of_mem given
        simp
        omega
      · have smaller := List.sizeOf_lt_of_mem given
        simp at smaller ⊢
        omega
  | dict entries =>
      simp only [parts, List.mem_append, List.mem_filterMap, List.mem_map] at member
      rcases member with ⟨⟨key, v⟩, given, keyed⟩ | ⟨⟨key, v⟩, given, rfl⟩
      · have smaller := List.sizeOf_lt_of_mem given
        cases keyed
        simp at smaller ⊢
        omega
      · have smaller := List.sizeOf_lt_of_mem given
        simp at smaller ⊢
        omega

/-- Induction on the parts of a tree. -/
@[elab_as_elim]
theorem induction {motive : Tree → Prop}
    (parts : ∀ t : Tree, (∀ p ∈ t.parts, motive p) → motive t) (t : Tree) : motive t :=
  parts t fun p _ => induction parts p
termination_by t
decreasing_by exact sizeOf_lt_of_mem_parts ‹_›

/-- A tree and everything inside it, in visiting order. -/
def nodes (t : Tree) : List Tree := t :: t.parts.attach.flatMap fun ⟨p, _⟩ => nodes p
termination_by t
decreasing_by exact sizeOf_lt_of_mem_parts ‹_›

theorem nodes_eq (t : Tree) : t.nodes = t :: t.parts.flatMap nodes := by
  rw [nodes]
  simp

theorem mem_nodes_self (t : Tree) : t ∈ t.nodes := by
  rw [nodes_eq]
  exact List.mem_cons_self

theorem mem_nodes_of_mem_parts {t p n : Tree} (part : p ∈ t.parts) (inside : n ∈ p.nodes) :
    n ∈ t.nodes := by
  rw [nodes_eq]
  exact List.mem_cons_of_mem t (List.mem_flatMap.mpr ⟨p, part, inside⟩)

/-! ## Walking the parts -/

variable {host : Host} {path : String}

theorem visitAll_append (ts us : List Tree) (w : Walk) :
    visitAll host path (ts ++ us) w = visitAll host path ts w >>= visitAll host path us := by
  induction ts generalizing w with
  | nil => rfl
  | cons t ts ih =>
      simp only [List.cons_append, visitAll, bind_assoc]
      congr 1
      funext w
      exact ih w

theorem visitKeywords_eq (keywords : List (Option String × Tree)) (w : Walk) :
    visitKeywords host path keywords w = visitAll host path (keywords.map Prod.snd) w := by
  induction keywords generalizing w with
  | nil => rfl
  | cons keyword rest ih =>
      simp only [visitKeywords, List.map_cons, visitAll]
      congr 1
      funext w
      exact ih w

theorem visitKeys_eq (entries : List (Option Tree × Tree)) (w : Walk) :
    visitKeys host path entries w = visitAll host path (entries.filterMap Prod.fst) w := by
  induction entries generalizing w with
  | nil => rfl
  | cons entry rest ih =>
      obtain ⟨_ | key, v⟩ := entry
      · exact ih w
      · simp only [visitKeys, List.filterMap_cons, visitAll]
        congr 1
        funext w
        exact ih w

theorem visitValues_eq (entries : List (Option Tree × Tree)) (w : Walk) :
    visitValues host path entries w = visitAll host path (entries.map Prod.snd) w := by
  induction entries generalizing w with
  | nil => rfl
  | cons entry rest ih =>
      simp only [visitValues, List.map_cons, visitAll]
      congr 1
      funext w
      exact ih w

theorem visitAll_singleton (t : Tree) (w : Walk) :
    visitAll host path [t] w = visit host path t w := by
  simp only [visitAll]
  exact bind_pure _

theorem visit_call (line : Nat) (callee : Tree) (args : List Tree)
    (keywords : List (Option String × Tree)) (w : Walk) :
    visit host path (.call line callee args keywords) w =
      visitAll host path (parts (.call line callee args keywords))
        (if callee.lastName? = some "milestone" then
          w.record (milestoneFinding path line args keywords) else w) := by
  simp only [visit, parts, visitAll, visitAll_append, visitKeywords_eq]

/-- A tree that is no call and no definition is walked part by part. -/
theorem visit_of_parts {t : Tree}
    (plain : ∀ line callee args keywords, t ≠ .call line callee args keywords)
    (inner : ∀ own decorators inside, t ≠ .declaration own decorators inside) (w : Walk) :
    visit host path t w = visitAll host path t.parts w := by
  cases t with
  | name | literal => simp only [visit, parts, visitAll]
  | «attribute» line object id | sign negative operand =>
      simp only [visit, parts, visitAll_singleton]
  | sum subtract left right =>
      simp only [visit, parts, visitAll]
      congr 1
      funext w
      exact (bind_pure _).symm
  | tuple items | list items | set items | compound items => simp only [visit, parts]
  | dict entries => simp only [visit, parts, visitAll_append, visitKeys_eq, visitValues_eq]
  | call line callee args keywords => exact absurd rfl (plain line callee args keywords)
  | declaration own decorators inside => exact absurd rfl (inner own decorators inside)

end Overdue.Source.Tree
