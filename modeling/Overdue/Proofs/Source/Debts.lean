import Mathlib
import Overdue.Proofs.Source.Grammar
import Overdue.Proofs.Source.Results

/-!
# Every debt is accounted for

`Tree.definitions` lists the definitions of a tree, an outer one before those inside it, each with
its dotted name. A walk that completes has exactly one result for each debt among their decorators,
in this order: `debts_accounted`.

The order is that of the walk because decorators are expressions: a definition inside of a decorator
would come between that decorator and the next. The grammar reads no such thing
(`wellSorted_of_parse`).
-/
namespace Overdue.Source

/-- A definition with its dotted name and its decorators. -/
structure Definition where
  symbol : String
  decorators : List Tree

/-- The debts above a definition, in order. -/
def Definition.debts (d : Definition) : List (String × Debt) :=
  d.decorators.filterMap fun t => t.debt?.map fun debt => (d.symbol, debt)

namespace Tree

/-- The definitions of a tree that stands in a scope, an outer one before those inside it. -/
def definitions (scope : List String) : Tree → List Definition
  | .declaration own decorators inside =>
    ⟨Walk.symbolOf scope own, decorators⟩ ::
      ((decorators.attach.flatMap fun ⟨d, _⟩ => definitions scope d) ++
        inside.attach.flatMap fun ⟨p, _⟩ => definitions (scope ++ [own]) p)
  | t => t.parts.attach.flatMap fun ⟨p, _⟩ => definitions scope p
termination_by t => t
decreasing_by
  · exact sizeOf_lt_of_mem_parts (List.mem_append_left _ ‹_›)
  · exact sizeOf_lt_of_mem_parts (List.mem_append_right _ ‹_›)
  · exact sizeOf_lt_of_mem_parts ‹_›

theorem definitions_declaration (scope : List String) (own : String)
    (decorators inside : List Tree) :
    definitions scope (.declaration own decorators inside) =
      ⟨Walk.symbolOf scope own, decorators⟩ ::
        (decorators.flatMap (definitions scope) ++
          inside.flatMap (definitions (scope ++ [own]))) := by
  rw [definitions]
  simp

theorem definitions_of_parts {t : Tree}
    (inner : ∀ own decorators inside, t ≠ .declaration own decorators inside)
    (scope : List String) : t.definitions scope = t.parts.flatMap (definitions scope) := by
  rw [definitions]
  · simp
  · exact inner

theorem IsExpression.definitions_eq {t : Tree} (h : t.IsExpression) (scope : List String) :
    t.definitions scope = [] := by
  induction t using Tree.induction with
  | parts t ih =>
      rw [definitions_of_parts h.ne]
      exact List.flatMap_eq_nil_iff.mpr fun p part => ih p part (h.part part)

/-! ## The debts among the sites -/

theorem debts_of_parts {t : Tree}
    (inner : ∀ own decorators inside, t ≠ .declaration own decorators inside)
    (scope : List String) :
    (t.sites scope).filterMap Site.debt? =
      t.parts.flatMap fun p => (p.sites scope).filterMap Site.debt? := by
  rw [sites_of_parts inner, List.filterMap_append, List.filterMap_flatMap]
  cases t.milestoneCall? <;> rfl

theorem IsExpression.debts_of_sites {t : Tree} (h : t.IsExpression) (scope : List String) :
    (t.sites scope).filterMap Site.debt? = [] := by
  induction t using Tree.induction with
  | parts t ih =>
      rw [debts_of_parts h.ne]
      exact List.flatMap_eq_nil_iff.mpr fun p part => ih p part (h.part part)

theorem debts_of_decoratorSites (scope : List String) (symbol : String) {ds : List Tree}
    (sorted : ∀ d ∈ ds, d.IsExpression) :
    (ds.flatMap (decoratorSites scope symbol)).filterMap Site.debt? =
      Definition.debts ⟨symbol, ds⟩ := by
  unfold Definition.debts
  induction ds with
  | nil => rfl
  | cons d ds ih =>
      rw [List.forall_mem_cons] at sorted
      rw [List.flatMap_cons, List.filterMap_append, ih sorted.2, decoratorSites]
      cases kind : d.debt? with
      | none => simp [kind, sorted.1.debts_of_sites]
      | some debt => simp [kind, Site.debt?]

theorem debts_of_sites {t : Tree} (sorted : t.WellSorted) (scope : List String) :
    (t.sites scope).filterMap Site.debt? = (t.definitions scope).flatMap Definition.debts := by
  induction t using Tree.induction generalizing scope with
  | parts t ih =>
      have inner (scope : List String) (ps : List Tree) (all : ∀ p ∈ ps, p ∈ t.parts) :
          (ps.flatMap fun p => (p.sites scope).filterMap Site.debt?) =
            (ps.flatMap (definitions scope)).flatMap Definition.debts := by
        rw [List.flatMap_assoc]
        exact List.flatMap_congr fun p member =>
          ih p (all p member) (sorted.part (all p member)) scope
      cases t with
      | declaration own decorators inside =>
          have expressions := sorted own decorators inside (mem_nodes_self _)
          have none : decorators.flatMap (definitions scope) = [] :=
            List.flatMap_eq_nil_iff.mpr fun d member => (expressions d member).definitions_eq scope
          rw [sites_declaration, List.filterMap_append, debts_of_decoratorSites _ _ expressions,
            List.filterMap_flatMap, inner _ _ fun p member => List.mem_append_right _ member,
            definitions_declaration, none]
          rfl
      | _ =>
          rw [debts_of_parts (by simp), definitions_of_parts (by simp)]
          exact inner scope _ fun p member => member

end Tree

/-! ## The account -/

open Overdue.Source.Tree

/-- The debts above the definitions in some trees, each with the symbol that it is about. -/
def debtsOf (ts : List Tree) : List (String × Debt) :=
  (ts.flatMap (definitions [])).flatMap Definition.debts

theorem debtsOf_eq {ts : List Tree} (sorted : ∀ t ∈ ts, t.WellSorted) :
    (ts.flatMap (sites [])).filterMap Site.debt? = debtsOf ts := by
  rw [debtsOf, List.filterMap_flatMap, List.flatMap_assoc]
  exact List.flatMap_congr fun t member => debts_of_sites (sorted t member) []

/-- Only a debt gives a marker. -/
theorem Site.Gives.marker?_eq_none {path : String} (s : Site) (f : Finding)
    (gives : s.Gives path f) (other : s.debt? = none) : f.marker? = none := by
  match s with
  | .milestone c => rcases gives with ⟨name, -, rfl⟩ | ⟨-, message, rfl⟩ <;> rfl
  | .debt symbol d => cases other

/-- **Every debt above a definition is accounted for**: what a walk has found are the results of its
sites, one for each, and the debts among the sites are just those above the definitions, in order;
so each has a result of its own, which its own arguments decide, and all markers come from them. The
walk ends outside of all definitions. -/
theorem debts_accounted :
    (∀ code nodes, parse code = .ok nodes → ∀ t ∈ Node.outlines nodes, t.WellSorted) ∧
    ∀ host path ts w, (∀ t ∈ ts, t.WellSorted) → visitAll host path ts {} = .ok w →
      w.scope = [] ∧
      ∃ sites results, List.Forall₂ (Site.Gives path) sites w.found ∧
        sites.filterMap Site.debt? = debtsOf ts ∧
        List.Forall₂
          (fun d f => (Site.debt d.1 d.2).finding host path = .ok f ∧ d.2.Gives path d.1 f)
          (debtsOf ts) results ∧
        results.Sublist w.found ∧
        w.found.filterMap Finding.marker? = results.filterMap Finding.marker? := by
  refine ⟨fun code nodes => wellSorted_of_parse, fun host path ts w sorted completed => ?_⟩
  refine ⟨(visitAll_eq_ok_iff.mp completed).1, ?_⟩
  have each := results_of_visitAll completed
  have gives := each.imp fun s f => Site.gives_of_finding
  obtain ⟨results, picked, sublist, markers⟩ := exists_results
    (fun s f done => Site.Gives.marker?_eq_none s f (Site.gives_of_finding done)) each
  rw [debtsOf_eq sorted] at picked
  refine ⟨_, results, gives, debtsOf_eq sorted, picked.imp ?_, sublist, markers⟩
  rintro ⟨symbol, d⟩ f ⟨s, kind, done⟩
  match s with
  | .milestone c => cases kind
  | .debt symbol' d' =>
      cases kind
      exact ⟨done, Site.gives_of_finding done⟩

/-- A debt above a class, and one that is not called above a method of it. -/
def nestedText : String := "@debt()\nclass S:\n @debt\n def f(): 0"

def nested : List Tree :=
  [.declaration "S" [.call 1 (.name 1 "debt") [] []]
    [.name 2 "S", .compound [.declaration "f" [.name 3 "debt"]
      [.name 4 "f", .compound [.literal (.int 0)]]]]]

def nestedFound : List Finding :=
  [.marker { location := some ⟨"m.py", 1, some "S"⟩ },
    .problem ⟨"@debt on S.f must be called, e.g. @debt()", some "m.py", some 3⟩]

theorem outlines_nestedText : (parse nestedText.toList).map Node.outlines = .ok nested := by
  cbv

theorem nested_debts_accounted :
    ∃ nodes, parse nestedText.toList = .ok nodes ∧ Node.outlines nodes = nested ∧
      (∀ t ∈ nested, t.WellSorted) ∧ visitAll .ideal "m.py" nested {} = .ok ⟨[], nestedFound⟩ ∧
      (⟨[], nestedFound⟩ : Walk).scope = [] ∧
      ∃ sites results, List.Forall₂ (Site.Gives "m.py") sites nestedFound ∧
        sites.filterMap Site.debt? = debtsOf nested ∧
        List.Forall₂
          (fun d f => (Site.debt d.1 d.2).finding .ideal "m.py" = .ok f ∧ d.2.Gives "m.py" d.1 f)
          (debtsOf nested) results ∧
        results.Sublist nestedFound ∧
        nestedFound.filterMap Finding.marker? = results.filterMap Finding.marker? := by
  obtain ⟨nodes, parsed, same⟩ := ok_of_map_eq_ok outlines_nestedText
  have sorted : ∀ t ∈ nested, t.WellSorted := same ▸ debts_accounted.1 _ nodes parsed
  have completed : visitAll .ideal "m.py" nested {} = .ok ⟨[], nestedFound⟩ := rfl
  exact ⟨nodes, parsed, same, sorted, completed,
    debts_accounted.2 .ideal "m.py" nested _ sorted completed⟩

end Overdue.Source
