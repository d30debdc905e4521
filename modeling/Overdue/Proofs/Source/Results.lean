import Overdue.Proofs.Marker.Declared
import Overdue.Proofs.Source.Literals

/-!
# The results of sites

What a site gives: a call of `milestone` the one milestone that it declares or a problem, a debt one
marker or a problem, each at its own line. `visitAll_eq_ok_iff` says that a walk completes exactly
if every site has a result, and that it has found these results then, one for each site.
-/
namespace Overdue.Source

/-! ## What sites give -/

/-- The call names one milestone, by a text. -/
def Call.Declares (c : Call) (name : String) : Prop :=
  c.args = [.literal (.text name)] ∧ c.keywords = [] ∧ name ≠ ""

/-- What a call of `milestone` gives: the milestone that it declares, or else a problem at its
line. -/
def Call.Gives (path : String) (c : Call) (f : Finding) : Prop :=
  (∃ name, c.Declares name ∧ f = .milestone name) ∨
    (∀ name, ¬ c.Declares name) ∧ ∃ message, f = .problem ⟨message, some path, some c.line⟩

/-- The arguments of a call have literal values. -/
def Call.IsLiteral (c : Call) : Prop :=
  ∀ t ∈ c.args ++ c.keywords.map Prod.snd, t.HasValue

/-- What a debt above the definition of a symbol gives. If it is called that is a marker for the
symbol, read from literals, or a problem, and otherwise a problem, always at its own line. -/
def Debt.Gives (path symbol : String) : Debt → Finding → Prop
  | .called c, f =>
    (∃ m, f = .marker m ∧ m.location = some ⟨path, c.line, some symbol⟩ ∧ c.IsLiteral) ∨
      ∃ message, f = .problem ⟨message, some path, some c.line⟩
  | .uncalled line, f =>
    f = .problem ⟨"@debt on " ++ symbol ++ " must be called, e.g. @debt()", some path, some line⟩

def Site.Gives (path : String) : Site → Finding → Prop
  | .milestone c, f => c.Gives path f
  | .debt symbol d, f => d.Gives path symbol f

/-! ## Arguments -/

namespace Tree

/-- What taking arguments in order comes to: all of them have values, or they are refused, and as
too large only if one of them is. -/
inductive Taken (ts : List Tree) : Except ArgumentFault Entries → Prop
  | whole (fields : Entries) (each : ∀ t ∈ ts, t.HasValue) : Taken ts (.ok fields)
  | refused (fault : ArgumentFault)
      (large : fault = .tooLarge → ∃ t ∈ ts, t.value = .error .tooLarge) : Taken ts (.error fault)

theorem Taken.behind {t : Tree} {ts : List Tree} {x : Except ArgumentFault Entries}
    (value : t.HasValue) (h : Taken ts x) : Taken (t :: ts) x := by
  cases h with
  | whole fields each => exact .whole fields (List.forall_mem_cons.mpr ⟨value, each⟩)
  | refused fault large =>
      refine .refused fault fun tooLarge => ?_
      obtain ⟨u, member, fails⟩ := large tooLarge
      exact ⟨u, List.mem_cons_of_mem t member, fails⟩

theorem argument_outcome (t : Tree) :
    (∃ v, t.argument = .ok v ∧ t.HasValue) ∨
      ∃ fault, t.argument = .error fault ∧ (fault = .tooLarge → t.value = .error .tooLarge) := by
  unfold argument
  cases given : t.value with
  | ok v => exact .inl ⟨v, rfl, v, given⟩
  | error fault =>
      refine .inr ⟨.ofLiteral fault, rfl, fun large => ?_⟩
      cases fault with
      | notLiteral => cases large
      | tooLarge => rfl

theorem taken_keywordFields (fields : Entries) (keywords : List (Option String × Tree)) :
    Taken (keywords.map Prod.snd) (keywordFields fields keywords) := by
  induction keywords generalizing fields with
  | nil => exact .whole fields (by simp)
  | cons keyword rest ih =>
      obtain ⟨_ | key, t⟩ := keyword
      · exact .refused .unpacked nofun
      · rw [keywordFields]
        rcases t.argument_outcome with ⟨v, taken, value⟩ | ⟨fault, taken, large⟩
        · rw [taken]
          exact (ih _).behind value
        · rw [taken]
          exact .refused fault fun tooLarge => ⟨t, List.mem_cons_self, large tooLarge⟩

theorem taken_markerFields (args : List Tree) (keywords : List (Option String × Tree)) :
    Taken (args ++ keywords.map Prod.snd) (markerFields args keywords) := by
  match args with
  | [] => exact taken_keywordFields [] keywords
  | [t] =>
      rw [markerFields]
      rcases t.argument_outcome with ⟨v, taken, value⟩ | ⟨fault, taken, large⟩
      · rw [taken]
        exact (taken_keywordFields _ keywords).behind value
      · rw [taken]
        exact .refused fault fun tooLarge => ⟨t, List.mem_cons_self, large tooLarge⟩
  | _ :: _ :: _ => exact .refused .severalPositional nofun

theorem isLiteral_of_markerFields {c : Call} {fields : Entries}
    (h : markerFields c.args c.keywords = .ok fields) : c.IsLiteral := by
  have taken := taken_markerFields c.args c.keywords
  rw [h] at taken
  cases taken with
  | whole _ each => exact each

end Tree

/-! ## One result each -/

variable {host : Host} {path : String}

theorem Call.gives_milestoneFinding (c : Call) :
    c.Gives path (Tree.milestoneFinding path c.line c.args c.keywords) := by
  unfold Call.Gives Call.Declares Tree.milestoneFinding
  split
  · rename_i given args keywords
    by_cases empty : given = ""
    · refine .inr ⟨?_, ?_⟩
      · rintro name ⟨same, -, nonempty⟩
        rw [args] at same
        cases same
        exact nonempty empty
      · exact ⟨_, if_pos empty⟩
    · exact .inl ⟨given, ⟨args, keywords, empty⟩, if_neg empty⟩
  · rename_i t noText args keywords
    refine .inr ⟨?_, _, rfl⟩
    rintro name ⟨same, -, -⟩
    rw [args] at same
    cases same
    exact noText name rfl
  · rename_i noText notOne
    refine .inr ⟨?_, _, rfl⟩
    rintro name ⟨args, keywords, -⟩
    exact notOne _ args keywords

theorem Debt.gives_markerFinding {symbol : String} {c : Call} {f : Finding}
    (h : Tree.markerFinding host path symbol c.line c.args c.keywords = .ok f) :
    Debt.Gives path symbol (.called c) f := by
  unfold Tree.markerFinding at h
  dsimp only at h
  split at h
  · cases h
    exact .inr ⟨_, rfl⟩
  · cases h
    exact .inr ⟨_, rfl⟩
  · cases h
    exact .inr ⟨_, rfl⟩
  · cases h
  · rename_i fields given
    split at h
    · rename_i m taken
      cases h
      exact .inl ⟨m, rfl, Marker.location_of_ofFields taken, Tree.isLiteral_of_markerFields given⟩
    · split at h
      · cases h
        exact .inr ⟨_, rfl⟩
      · cases h
        exact .inr ⟨_, rfl⟩

theorem Site.gives_of_finding {s : Site} {f : Finding} (h : s.finding host path = .ok f) :
    s.Gives path f := by
  match s with
  | .milestone c =>
      cases h
      exact c.gives_milestoneFinding
  | .debt symbol (.called c) => exact Debt.gives_markerFinding h
  | .debt symbol (.uncalled line) =>
      cases h
      rfl

/-! ## One result for each site -/

/-- **A walk that completes has one result for each site**, and is back in its first scope. -/
theorem Tree.visitAll_eq_ok_iff {ts : List Tree} {w w' : Walk} :
    visitAll host path ts w = .ok w' ↔
      w'.scope = w.scope ∧ ∃ results, w'.found = w.found ++ results ∧
        List.Forall₂ (fun s f => s.finding host path = .ok f)
          (ts.flatMap (sites w.scope)) results := by
  rw [visitAll_eq_follow, Walk.follow]
  simp only [← mapM_eq_ok_iff]
  cases (ts.flatMap (sites w.scope)).mapM (Site.finding host path) with
  | error cause => simp [Except.map]
  | ok found =>
      obtain ⟨scope, results⟩ := w'
      simp [Except.map, eq_comm]

theorem results_of_visitAll {ts : List Tree} {w : Walk}
    (completed : Tree.visitAll host path ts {} = .ok w) :
    List.Forall₂ (fun s f => s.finding host path = .ok f) (ts.flatMap (Tree.sites [])) w.found := by
  obtain ⟨-, results, found, each⟩ := Tree.visitAll_eq_ok_iff.mp completed
  rw [found]
  exact each

/-- The results of the sites of one kind: they are among all results in order, and if no other site
gives what is looked for, nothing of it is lost. -/
theorem exists_results {β γ : Type} {pick : Site → Option β} {keep : Finding → Option γ}
    {R : Site → Finding → Prop} (others : ∀ s f, R s f → pick s = none → keep f = none)
    {sites : List Site} {found : List Finding} (each : List.Forall₂ R sites found) :
    ∃ results,
      List.Forall₂ (fun b f => ∃ s, pick s = some b ∧ R s f) (sites.filterMap pick) results ∧
      results.Sublist found ∧ found.filterMap keep = results.filterMap keep := by
  induction each with
  | nil => exact ⟨[], .nil, .slnil, rfl⟩
  | @cons s f sites found gives _ ih =>
      obtain ⟨results, picked, sublist, same⟩ := ih
      cases kind : pick s with
      | none =>
          refine ⟨results, ?_, sublist.cons f, ?_⟩
          · rwa [List.filterMap_cons_none kind]
          · rw [List.filterMap_cons_none (others s f gives kind), same]
      | some b =>
          refine ⟨f :: results, ?_, sublist.cons_cons f, ?_⟩
          · rw [List.filterMap_cons_some kind]
            exact .cons ⟨s, kind, gives⟩ picked
          · rw [List.filterMap_cons, List.filterMap_cons, same]

end Overdue.Source
