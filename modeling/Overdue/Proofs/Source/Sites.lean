import Overdue.Proofs.Source.Parts

/-!
# A walk records the sites of a tree

A `Site` is a place that gives a result: a call of `milestone`, or a decorator that is `debt` or a
call of it. `Tree.sites` lists the sites of a tree by recursion on the tree alone; there is no
state, and only the inside of a definition is given a longer scope.

`visit_eq_follow` says that a walk through a tree records the results of its sites one after the
other and comes out in the scope that it went in with. The invariant is that of `follow_append`:
following leaves the scope alone, so that the sites of what comes next are known beforehand.
-/
namespace Overdue.Source

/-- A call, without what is called. -/
structure Call where
  line : Nat
  args : List Tree
  keywords : List (Option String × Tree)

/-- A decorator that is `debt` or a call of it. -/
inductive Debt
  | called (c : Call)
  | uncalled (line : Nat)

/-- A place in a source file that gives a result. -/
inductive Site
  | milestone (c : Call)
  /-- A debt above the definition of a symbol. -/
  | debt (symbol : String) (d : Debt)

namespace Site

/-- What a site gives. -/
def finding (host : Host) (path : String) : Site → Except Interruption Finding
  | .milestone c => .ok (Tree.milestoneFinding path c.line c.args c.keywords)
  | .debt symbol (.called c) => Tree.markerFinding host path symbol c.line c.args c.keywords
  | .debt symbol (.uncalled line) =>
    .ok (.problem ⟨"@debt on " ++ symbol ++ " must be called, e.g. @debt()", some path, some line⟩)

def milestone? : Site → Option Call
  | .milestone c => some c
  | .debt _ _ => none

def debt? : Site → Option (String × Debt)
  | .milestone _ => none
  | .debt symbol d => some (symbol, d)

end Site

namespace Tree

/-- The call of `milestone` that a tree is. -/
def milestoneCall? : Tree → Option Call
  | .call line callee args keywords =>
    if callee.lastName? = some "milestone" then some ⟨line, args, keywords⟩ else none
  | _ => none

/-- The debt that a decorator is. -/
def debt? : Tree → Option Debt
  | .call line callee args keywords =>
    if callee.lastName? = some "debt" then some (.called ⟨line, args, keywords⟩) else none
  | .name line id => if id = "debt" then some (.uncalled line) else none
  | .attribute line _ id => if id = "debt" then some (.uncalled line) else none
  | _ => none

/-- The sites of a tree that stands in a scope, in visiting order. Nothing is looked for inside a
debt. -/
def sites (scope : List String) : Tree → List Site
  | .declaration own decorators inside =>
    (decorators.attach.flatMap fun ⟨d, _⟩ =>
      match d.debt? with
      | some debt => [.debt (Walk.symbolOf scope own) debt]
      | none => sites scope d) ++
    inside.attach.flatMap fun ⟨p, _⟩ => sites (scope ++ [own]) p
  | t => t.milestoneCall?.toList.map .milestone ++
    t.parts.attach.flatMap fun ⟨p, _⟩ => sites scope p
termination_by t => t
decreasing_by
  · exact sizeOf_lt_of_mem_parts (List.mem_append_left _ ‹_›)
  · exact sizeOf_lt_of_mem_parts (List.mem_append_right _ ‹_›)
  · exact sizeOf_lt_of_mem_parts ‹_›

/-- The sites of a decorator above the definition of a symbol. -/
def decoratorSites (scope : List String) (symbol : String) (d : Tree) : List Site :=
  match d.debt? with
  | some debt => [.debt symbol debt]
  | none => d.sites scope

theorem sites_declaration (scope : List String) (own : String) (decorators inside : List Tree) :
    sites scope (.declaration own decorators inside) =
      decorators.flatMap (decoratorSites scope (Walk.symbolOf scope own)) ++
        inside.flatMap (sites (scope ++ [own])) := by
  rw [sites]
  simp only [List.flatMap_subtype, List.unattach_attach]
  rfl

/-- A tree that is no definition has the sites of its parts behind its own. -/
theorem sites_of_parts {t : Tree}
    (inner : ∀ own decorators inside, t ≠ .declaration own decorators inside)
    (scope : List String) :
    t.sites scope =
      t.milestoneCall?.toList.map .milestone ++ t.parts.flatMap (sites scope) := by
  rw [sites]
  · simp
  · exact inner

end Tree

/-! ## Following sites -/

namespace Walk

variable (host : Host) (path : String)

/-- Records the results of some sites one after the other. -/
def follow (host : Host) (path : String) (w : Walk) (sites : List Site) :
    Except Interruption Walk :=
  (sites.mapM (Site.finding host path)).map fun found => { w with found := w.found ++ found }

theorem follow_nil (w : Walk) : w.follow host path [] = .ok w := by
  simp [follow, Except.map, pure, Except.pure]

theorem follow_singleton (w : Walk) (s : Site) :
    w.follow host path [s] = (s.finding host path).map w.record := by
  simp only [follow, List.mapM_cons, List.mapM_nil]
  cases s.finding host path <;> rfl

/-- Following leaves the scope as it is, so that what comes next may depend on it. -/
theorem follow_append (w : Walk) (first : List Site) (next : List String → List Site) :
    (w.follow host path first >>= fun w => w.follow host path (next w.scope)) =
      w.follow host path (first ++ next w.scope) := by
  unfold follow
  rw [List.mapM_append]
  cases first.mapM (Site.finding host path) with
  | error cause => rfl
  | ok found =>
      change Except.map _ _ = Except.map _ (Except.bind _ _)
      cases (next w.scope).mapM (Site.finding host path) with
      | error cause => rfl
      | ok more => simp [Except.map, bind, Except.bind, pure, Except.pure]

theorem follow_enter_leave (w : Walk) (name : String) (sites : List Site) :
    ((w.enter name).follow host path sites).map leave = w.follow host path sites := by
  unfold follow
  cases sites.mapM (Site.finding host path) with
  | error cause => rfl
  | ok found => simp [Except.map, enter, leave]

end Walk

/-! ## Walking is following -/

namespace Tree

variable (host : Host) (path : String)

theorem visitAll_eq_follow_of {ts : List Tree}
    (each : ∀ t ∈ ts, ∀ w, visit host path t w = w.follow host path (t.sites w.scope)) (w : Walk) :
    visitAll host path ts w = w.follow host path (ts.flatMap (sites w.scope)) := by
  induction ts generalizing w with
  | nil => exact (w.follow_nil host path).symm
  | cons t ts ih =>
      have rest : visitAll host path ts =
          fun w => w.follow host path (ts.flatMap (sites w.scope)) :=
        funext (ih fun u member => each u (List.mem_cons_of_mem t member))
      rw [visitAll, each t List.mem_cons_self, rest, List.flatMap_cons]
      exact w.follow_append host path _ fun scope => ts.flatMap (sites scope)

theorem visitDecorators_cons (symbol : String) (d : Tree) (rest : List Tree) (w : Walk) :
    visitDecorators host path symbol (d :: rest) w =
      (match d.debt? with
        | some debt => w.follow host path [.debt symbol debt]
        | none => visit host path d w) >>= visitDecorators host path symbol rest := by
  cases d with
  | call line callee args keywords =>
      by_cases isDebt : callee.lastName? = some "debt" <;>
        simp [visitDecorators, debt?, isDebt, Walk.follow_singleton, Site.finding]
  | name line id =>
      by_cases isDebt : id = "debt" <;>
        simp [visitDecorators, debt?, uncalled, isDebt, Walk.follow_singleton, Site.finding,
          Except.map]
  | «attribute» line object id =>
      by_cases isDebt : id = "debt" <;>
        simp [visitDecorators, debt?, uncalled, isDebt, Walk.follow_singleton, Site.finding,
          Except.map]
  | _ => simp [visitDecorators, debt?, uncalled]

theorem visitDecorators_eq_follow {ds : List Tree}
    (each : ∀ d ∈ ds, ∀ w, visit host path d w = w.follow host path (d.sites w.scope))
    (symbol : String) (w : Walk) :
    visitDecorators host path symbol ds w =
      w.follow host path (ds.flatMap (decoratorSites w.scope symbol)) := by
  induction ds generalizing w with
  | nil => exact (w.follow_nil host path).symm
  | cons d ds ih =>
      have rest : visitDecorators host path symbol ds =
          fun w => w.follow host path (ds.flatMap (decoratorSites w.scope symbol)) :=
        funext (ih fun u member => each u (List.mem_cons_of_mem d member))
      have one : (match d.debt? with
          | some debt => w.follow host path [.debt symbol debt]
          | none => visit host path d w) =
            w.follow host path (decoratorSites w.scope symbol d) := by
        unfold decoratorSites
        cases d.debt? with
        | some debt => rfl
        | none => exact each d List.mem_cons_self w
      rw [visitDecorators_cons, one, rest, List.flatMap_cons]
      exact w.follow_append host path _ fun scope => ds.flatMap (decoratorSites scope symbol)

/-- **A walk records the sites of a tree**, and comes out in the scope that it went in with. -/
theorem visit_eq_follow (t : Tree) (w : Walk) :
    visit host path t w = w.follow host path (t.sites w.scope) := by
  induction t using Tree.induction generalizing w with
  | parts t ih =>
      cases t with
      | declaration own decorators inside =>
          have above := visitDecorators_eq_follow host path fun d (member : d ∈ decorators) =>
            ih d (List.mem_append_left _ member)
          have below := visitAll_eq_follow_of host path fun p (member : p ∈ inside) =>
            ih p (List.mem_append_right _ member)
          rw [sites_declaration, visit, above]
          rw [← w.follow_append host path _ fun scope => inside.flatMap (sites (scope ++ [own]))]
          congr 1
          funext w
          rw [below, ← w.follow_enter_leave host path own]
          change ((w.enter own).follow host path
            (inside.flatMap (sites (w.scope ++ [own]))) >>= _) = _
          cases (w.enter own).follow host path (inside.flatMap (sites (w.scope ++ [own]))) <;> rfl
      | call line callee args keywords =>
          have below := visitAll_eq_follow_of host path ih
          rw [visit_call, below, sites_of_parts (by simp)]
          by_cases isMilestone : callee.lastName? = some "milestone"
          · have own : milestoneCall? (.call line callee args keywords) =
                some ⟨line, args, keywords⟩ := by simp [milestoneCall?, isMilestone]
            have recorded := w.follow_append host path [.milestone ⟨line, args, keywords⟩]
              fun scope => (parts (.call line callee args keywords)).flatMap (sites scope)
            rw [Walk.follow_singleton] at recorded
            rw [own, if_pos isMilestone]
            exact recorded
          · simp [milestoneCall?, isMilestone]
      | _ =>
          rw [visit_of_parts (by simp) (by simp), sites_of_parts (by simp)]
          exact visitAll_eq_follow_of host path ih w

theorem visitAll_eq_follow (ts : List Tree) (w : Walk) :
    visitAll host path ts w = w.follow host path (ts.flatMap (sites w.scope)) :=
  visitAll_eq_follow_of host path (fun t _ => visit_eq_follow host path t) w

end Tree

end Overdue.Source
