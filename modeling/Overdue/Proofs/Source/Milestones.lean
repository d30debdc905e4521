import Mathlib.Data.List.Perm.Basic
import Overdue.Proofs.Source.Literals
import Overdue.Proofs.Source.Results

/-!
# Every call of `milestone` is accounted for

`Tree.openNodes` are the nodes of a tree that are not inside a debt; `nodes_perm` splits all nodes
into these and those inside the debts. A walk that completes has exactly one result for each call of
`milestone` among the open nodes: `milestoneCalls_accounted`.

Inside a debt no milestone is looked for. The arguments of a debt have to be literals, and a tree
with a literal value holds no call of `milestone` (`milestoneCall?_of_hasValue`): a debt with one
among its arguments gives no marker but a problem. `selfDeclared_unread` is the smallest case.
-/
namespace Overdue.Source

namespace Tree

/-! ## Outside and inside of debts -/

/-- The decorators of a tree that are debts. -/
def debtDecorators : Tree → List Tree
  | .declaration _ decorators _ => decorators.filter fun d => d.debt?.isSome
  | _ => []

/-- The parts of a tree but for its debts. -/
def openParts : Tree → List Tree
  | .declaration _ decorators inside => decorators.filter (fun d => d.debt?.isNone) ++ inside
  | t => t.parts

theorem mem_parts_of_mem_openParts {t p : Tree} (member : p ∈ t.openParts) : p ∈ t.parts := by
  unfold openParts at member
  split at member
  · rename_i own decorators inside
    rcases List.mem_append.mp member with above | below
    · exact List.mem_append_left _ (List.mem_of_mem_filter above)
    · exact List.mem_append_right _ below
  · exact member

/-- A tree and everything inside it that is not inside a debt, in visiting order. -/
def openNodes (t : Tree) : List Tree := t :: t.openParts.attach.flatMap fun ⟨p, _⟩ => openNodes p
termination_by t
decreasing_by exact sizeOf_lt_of_mem_parts (mem_parts_of_mem_openParts ‹_›)

theorem openNodes_eq (t : Tree) : t.openNodes = t :: t.openParts.flatMap openNodes := by
  rw [openNodes]
  simp

theorem parts_perm (t : Tree) : t.parts.Perm (t.openParts ++ t.debtDecorators) := by
  cases t with
  | declaration own decorators inside =>
      have split := (List.filter_append_perm (fun d => d.debt?.isNone) decorators).symm
      simp only [Option.not_isNone] at split
      refine (split.append_right inside).trans ?_
      rw [openParts, debtDecorators, List.append_assoc, List.append_assoc]
      exact List.perm_append_comm.append_left _
  | _ => simp [openParts, debtDecorators]

/-- Everything that is inside the debts of some trees. -/
def debtNodes (ts : List Tree) : List Tree := (ts.flatMap debtDecorators).flatMap nodes

theorem debtNodes_flatMap {α : Type} (xs : List α) (f : α → List Tree) :
    debtNodes (xs.flatMap f) = xs.flatMap fun x => debtNodes (f x) := by
  simp only [debtNodes, List.flatMap_assoc]

/-- Every node is outside of all debts, or inside a debt of one that is outside. -/
theorem nodes_perm (t : Tree) : t.nodes.Perm (t.openNodes ++ debtNodes t.openNodes) := by
  induction t using Tree.induction with
  | parts t ih =>
      have inner : (t.openParts.flatMap nodes).Perm
          (t.openParts.flatMap openNodes ++ debtNodes (t.openParts.flatMap openNodes)) := by
        rw [debtNodes_flatMap]
        refine List.Perm.trans ?_ (List.flatMap_append_perm t.openParts openNodes _).symm
        exact List.Perm.flatMap_left _ fun p member => ih p (mem_parts_of_mem_openParts member)
      have outer : debtNodes t.openNodes =
          t.debtDecorators.flatMap nodes ++ debtNodes (t.openParts.flatMap openNodes) := by
        simp only [openNodes_eq t, debtNodes, List.flatMap_cons, List.flatMap_append]
      rw [outer, nodes_eq, openNodes_eq, List.cons_append]
      refine List.Perm.cons t ?_
      refine ((parts_perm t).flatMap_right nodes).trans ?_
      rw [List.flatMap_append]
      refine (inner.append_right _).trans ?_
      rw [List.append_assoc]
      exact List.perm_append_comm.append_left _

/-! ## Outside of debts -/

theorem milestones_of_decoratorSites (scope : List String) (symbol : String) (ds : List Tree) :
    (ds.flatMap (decoratorSites scope symbol)).filterMap Site.milestone? =
      (ds.filter fun d => d.debt?.isNone).flatMap fun d =>
        (d.sites scope).filterMap Site.milestone? := by
  induction ds with
  | nil => rfl
  | cons d ds ih =>
      rw [List.flatMap_cons, List.filterMap_append, ih, decoratorSites]
      cases kind : d.debt? with
      | none => simp [kind]
      | some debt => simp [kind, Site.milestone?]

theorem milestones_of_parts {t : Tree}
    (inner : ∀ own decorators inside, t ≠ .declaration own decorators inside)
    (scope : List String) :
    (t.sites scope).filterMap Site.milestone? =
      t.milestoneCall?.toList ++ t.parts.flatMap fun p =>
        (p.sites scope).filterMap Site.milestone? := by
  rw [sites_of_parts inner, List.filterMap_append, List.filterMap_flatMap]
  cases t.milestoneCall? <;> rfl

theorem filterMap_openNodes (t : Tree) :
    t.openNodes.filterMap milestoneCall? =
      t.milestoneCall?.toList ++ t.openParts.flatMap fun p =>
        p.openNodes.filterMap milestoneCall? := by
  rw [openNodes_eq, List.filterMap_cons, List.filterMap_flatMap]
  cases t.milestoneCall? <;> rfl

/-- The calls of `milestone` among the sites are those among the open nodes. -/
theorem milestones_of_sites (t : Tree) (scope : List String) :
    (t.sites scope).filterMap Site.milestone? = t.openNodes.filterMap milestoneCall? := by
  induction t using Tree.induction generalizing scope with
  | parts t ih =>
      have inner (scope : List String) (ps : List Tree) (all : ∀ p ∈ ps, p ∈ t.parts) :
          (ps.flatMap fun p => (p.sites scope).filterMap Site.milestone?) =
            ps.flatMap fun p => p.openNodes.filterMap milestoneCall? :=
        List.flatMap_congr fun p member => ih p (all p member) scope
      rw [filterMap_openNodes]
      cases t with
      | declaration own decorators inside =>
          rw [sites_declaration, List.filterMap_append, milestones_of_decoratorSites,
            List.filterMap_flatMap, inner, inner, ← List.flatMap_append]
          · rfl
          · exact fun p member => List.mem_append_right _ member
          · exact fun d member => List.mem_append_left _ (List.mem_of_mem_filter member)
      | _ =>
          rw [milestones_of_parts (by simp), inner _ _ fun p member => member]
          rfl

end Tree

/-! ## The account -/

open Overdue.Source.Tree

/-- The calls of `milestone` in some trees, wherever they stand but inside a debt. -/
def openCalls (ts : List Tree) : List Call := (ts.flatMap openNodes).filterMap milestoneCall?

/-- A call of `milestone` stands somewhere in the arguments. -/
def Call.HoldsMilestone (c : Call) : Prop :=
  ∃ t ∈ c.args ++ c.keywords.map Prod.snd, ∃ n ∈ t.nodes, n.milestoneCall? ≠ none

theorem Call.IsLiteral.not_holdsMilestone {c : Call} (literal : c.IsLiteral) :
    ¬ c.HoldsMilestone := by
  rintro ⟨t, given, n, inside, isCall⟩
  exact isCall (milestoneCall?_of_hasValue (literal t given) n inside)

theorem openCalls_eq (ts : List Tree) (scope : List String) :
    (ts.flatMap (sites scope)).filterMap Site.milestone? = openCalls ts := by
  rw [openCalls, List.filterMap_flatMap, List.filterMap_flatMap]
  exact List.flatMap_congr fun t _ => milestones_of_sites t scope

/-- Only a call of `milestone` gives a milestone. -/
theorem Site.Gives.milestone?_eq_none {path : String} (s : Site) (f : Finding)
    (gives : s.Gives path f) (other : s.milestone? = none) : f.milestone? = none := by
  match s with
  | .milestone c => cases other
  | .debt symbol (.called c) =>
      rcases gives with ⟨m, rfl, -⟩ | ⟨message, rfl⟩ <;> rfl
  | .debt symbol (.uncalled line) =>
      cases gives
      rfl

/-- **Every call of `milestone` outside of the debts is accounted for**: what a walk has found are
the results of its sites, one for each, and the sites of one kind are just these calls, in order; so
each has a result of its own, and all milestones come from them. The calls inside of debts are the
others that there are. If one stands in the arguments of a debt, the debt gives a problem. -/
theorem milestoneCalls_accounted {host : Host} {path : String} {ts : List Tree} {w : Walk}
    (completed : visitAll host path ts {} = .ok w) :
    (∃ sites results, List.Forall₂ (Site.Gives path) sites w.found ∧
      sites.filterMap Site.milestone? = openCalls ts ∧
      List.Forall₂ (Call.Gives path) (openCalls ts) results ∧ results.Sublist w.found ∧
      w.found.filterMap Finding.milestone? = results.filterMap Finding.milestone?) ∧
    (ts.flatMap nodes).Perm (ts.flatMap openNodes ++ debtNodes (ts.flatMap openNodes)) ∧
    ∀ symbol c f, Debt.Gives path symbol (.called c) f → c.HoldsMilestone →
      ∃ message, f = .problem ⟨message, some path, some c.line⟩ := by
  refine ⟨?_, ?_, ?_⟩
  · have each := (results_of_visitAll completed).imp fun s f => Site.gives_of_finding
    obtain ⟨results, picked, sublist, milestones⟩ :=
      exists_results Site.Gives.milestone?_eq_none each
    rw [openCalls_eq] at picked
    refine ⟨_, results, each, openCalls_eq ts [], picked.imp ?_, sublist, milestones⟩
    rintro c f ⟨s, kind, gives⟩
    match s with
    | .milestone c' =>
        cases kind
        exact gives
    | .debt symbol d => cases kind
  · rw [debtNodes_flatMap]
    refine (List.Perm.flatMap_left ts fun t _ => nodes_perm t).trans ?_
    exact (List.flatMap_append_perm ts openNodes _).symm
  · rintro symbol c f (⟨m, rfl, -, literal⟩ | problem) holds
    · exact absurd holds literal.not_holdsMilestone
    · exact problem

/-! ## A milestone inside of a debt -/

/-- A debt whose milestone is declared in its own arguments. -/
def selfDeclared : Tree :=
  .declaration "f"
    [.call 1 (.name 1 "debt") []
      [(some "milestone", .call 1 (.name 1 "milestone") [.literal (.text "X")] [])]]
    []

/-- Calls inside of calls, of another decorator and of a default, beside a debt. -/
def scattered : List Tree :=
  [.compound [.name 1 "A", .call 1 (.name 1 "milestone") [.literal (.text "A")] []],
    .declaration "f"
      [.call 2 (.name 2 "wrap") [.call 2 (.name 2 "milestone") [] []] [],
        .call 3 (.name 3 "debt") [.literal (.text "later")] []]
      [.compound [.call 4 (.attribute 4 (.name 4 "td") "milestone")
        [.call 4 (.name 4 "milestone") [.literal (.text "B")] []] []]],
    selfDeclared]

/-- What is found there. -/
def scatteredFound : List Finding :=
  [.milestone "A",
    .problem ⟨"milestone() takes exactly one string argument", some "m.py", some 2⟩,
    .marker { label := "later", location := some ⟨"m.py", 3, some "f"⟩ },
    .problem ⟨"milestone name must be a non-empty string literal", some "m.py", some 4⟩,
    .milestone "B",
    .problem ⟨"debt() arguments on f must be literals", some "m.py", some 1⟩]

theorem scattered_milestoneCalls_accounted :
    visitAll .ideal "m.py" scattered {} = .ok ⟨[], scatteredFound⟩ ∧
    (∃ sites results, List.Forall₂ (Site.Gives "m.py") sites scatteredFound ∧
      sites.filterMap Site.milestone? = openCalls scattered ∧
      List.Forall₂ (Call.Gives "m.py") (openCalls scattered) results ∧
      results.Sublist scatteredFound ∧
      scatteredFound.filterMap Finding.milestone? = results.filterMap Finding.milestone?) ∧
    (scattered.flatMap nodes).Perm
      (scattered.flatMap openNodes ++ debtNodes (scattered.flatMap openNodes)) ∧
    ∀ symbol c f, Debt.Gives "m.py" symbol (.called c) f → c.HoldsMilestone →
      ∃ message, f = .problem ⟨message, some "m.py", some c.line⟩ := by
  have completed : visitAll .ideal "m.py" scattered {} = .ok ⟨[], scatteredFound⟩ := rfl
  exact ⟨completed, milestoneCalls_accounted completed⟩

/-- **A milestone inside of a debt is not read**: one call of `milestone` stands in the tree, it
declares a milestone, and no result of the walk is one that it gives. -/
theorem selfDeclared_unread :
    ∃ c w, ([selfDeclared].flatMap nodes).filterMap milestoneCall? = [c] ∧ c.Declares "X" ∧
      visitAll .ideal "m.py" [selfDeclared] {} = .ok w ∧ (∀ f ∈ w.found, ¬ c.Gives "m.py" f) ∧
      w.found.filterMap Finding.milestone? = [] := by
  refine ⟨⟨1, [.literal (.text "X")], []⟩, ⟨[], [.problem
    ⟨"debt() arguments on f must be literals", some "m.py", some 1⟩]⟩, ?_, ?_, rfl, ?_, rfl⟩
  · simp only [selfDeclared, nodes_eq, parts, List.flatMap_cons, List.flatMap_nil, List.map_cons,
      List.map_nil, List.append_nil, List.nil_append]
    rfl
  · exact ⟨rfl, rfl, by decide⟩
  · intro f found gives
    rw [List.mem_singleton.mp found] at gives
    rcases gives with ⟨name, -, same⟩ | ⟨undeclared, -⟩
    · cases same
    · exact undeclared "X" ⟨rfl, rfl, by decide⟩

end Overdue.Source
