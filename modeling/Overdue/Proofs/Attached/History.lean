import Mathlib.Data.List.Basic
import Mathlib.Data.List.Induction
import Overdue.Attached

/-!
# Whose markers they are

A definition owns the markers that were attached to it since it was made, and nothing else. What a
step does is told once, by `Effect`: it makes a definition that owns nothing, it attaches one marker
to one definition, or it is refused and changes nothing. From there `ownOf_afterAll` follows the
markers of a definition through a run, and `find?_made_iff` tells from the run which definition a
name stands for. A class comes behind all that it inherits from (`WellFormed`), so its bases are
other definitions, whose markers stay theirs. `own_by_history` puts this together.
-/
namespace Overdue.Definitions

variable {ds : Definitions} {s : Step} {name : String} {m : Marker} {n k : Nat}

/-- The own markers of the definition of a number. -/
def ownOf (ds : Definitions) (n : Nat) : List Marker :=
  (ds.all[n]?.map Definition.own).getD []

/-- The line of ancestry of the definition of a number. -/
def lineageOf (ds : Definitions) (n : Nat) : List Nat :=
  (ds.all[n]?.map Definition.lineage).getD []

/-- What the steps of a program make and mark. -/
def made (steps : List Step) : Definitions := ({} : Definitions).afterAll steps

/-- The name that a step defines. -/
def Step.definedName? : Step → Option String
  | .makeClass name _ => some name
  | .makeFunction name => some name
  | .mark _ _ => none

/-- The step makes the definition of a number, under a name. -/
structure Makes (ds : Definitions) (s : Step) (name : String) (n : Nat) : Prop where
  defines : s.definedName? = some name
  performed : ∃ ds', ds.perform s = .ok ds'
  next : n = ds.all.size

/-- The marker that a step attaches to the definition of a number, if it does. -/
def Step.markerFor? (ds : Definitions) (n : Nat) : Step → Option Marker
  | .mark name (.ok m) => if ds.find? name = some n then some m else none
  | _ => none

/-- The markers that steps attach to the definition of a number, one after the other. -/
def applied (n : Nat) : Definitions → List Step → List Marker
  | _, [] => []
  | ds, s :: steps => (s.markerFor? ds n).toList ++ applied n (ds.after s) steps

/-! ## Lines of ancestry -/

/-- What lines are merged into stands in one of them. -/
theorem mem_of_mem_mergeLines {fuel : Nat} {lines : List (List Nat)} {line : List Nat}
    (merged : mergeLines fuel lines = some line) (member : k ∈ line) : k ∈ lines.flatten := by
  induction fuel generalizing lines line with
  | zero =>
      cases merged
      cases member
  | succ fuel ih =>
      rw [mergeLines] at merged
      dsimp only at merged
      split at merged
      · cases merged
        cases member
      · split at merged
        · cases merged
        · rename_i n found
          obtain ⟨rest, whole, rfl⟩ := Option.map_eq_some_iff.mp merged
          rcases List.mem_cons.mp member with rfl | inside
          · obtain ⟨head, among, first⟩ := List.mem_filterMap.mp (List.mem_of_find?_eq_some found)
            exact List.mem_flatten.mpr
              ⟨head, (List.mem_filter.mp among).1, List.mem_of_head? first⟩
          · obtain ⟨shorter, among, there⟩ := List.mem_flatten.mp (ih whole inside)
            obtain ⟨line, within, rfl⟩ := List.mem_map.mp among
            refine List.mem_flatten.mpr ⟨line, (List.mem_filter.mp within).1, ?_⟩
            split at there
            · exact List.mem_of_mem_tail there
            · exact there

/-- Names stand for definitions that are there, and a definition comes behind all others in its line
of ancestry. -/
structure WellFormed (ds : Definitions) : Prop where
  named : ∀ name n, ds.find? name = some n → n < ds.all.size
  lineage : ∀ n, n < ds.all.size → ∃ bases, ds.lineageOf n = n :: bases ∧ ∀ k ∈ bases, k < n

theorem wellFormed_empty : WellFormed {} where
  named := by simp [find?]
  lineage := by simp

theorem WellFormed.lt_of_mem_lineage (formed : ds.WellFormed) {d : Definition}
    (there : ds.all[n]? = some d) (member : k ∈ d.lineage) : k < ds.all.size := by
  obtain ⟨inside, -⟩ := Array.getElem?_eq_some_iff.mp there
  obtain ⟨bases, line, before⟩ := formed.lineage n inside
  have own : ds.lineageOf n = d.lineage := by
    rw [lineageOf, there, Option.map_some, Option.getD_some]
  rw [← own, line] at member
  rcases List.mem_cons.mp member with rfl | inherited
  · exact inside
  · exact Nat.lt_trans (before k inherited) inside

theorem WellFormed.lt_of_lineage? (formed : ds.WellFormed) {bases line : List Nat}
    (known : ∀ n ∈ bases, n < ds.all.size) (merged : lineage? ds.all bases = some line) :
    ∀ k ∈ line, k < ds.all.size := by
  intro k member
  unfold lineage? at merged
  dsimp only at merged
  split at merged
  · cases merged
  · obtain ⟨from', among, there⟩ := List.mem_flatten.mp (mem_of_mem_mergeLines merged member)
    rcases List.mem_append.mp among with inherited | own
    · obtain ⟨base, -, found⟩ := List.mem_filterMap.mp inherited
      obtain ⟨d, at', rfl⟩ := Option.map_eq_some_iff.mp found
      exact formed.lt_of_mem_lineage at' there
    · rw [List.mem_singleton.mp own] at there
      exact known k there

theorem WellFormed.lt_of_mapM_find? (formed : ds.WellFormed) {names : List String}
    {bases : List Nat} (found : names.mapM ds.find? = some bases) :
    ∀ n ∈ bases, n < ds.all.size := by
  induction names generalizing bases with
  | nil =>
      cases found
      exact List.forall_mem_nil _
  | cons name names ih =>
      rw [List.mapM_cons] at found
      obtain ⟨n, here, rest⟩ := Option.bind_eq_some_iff.mp found
      obtain ⟨others, there, same⟩ := Option.bind_eq_some_iff.mp rest
      cases same
      exact List.forall_mem_cons.mpr ⟨formed.named name n here, ih there⟩

/-! ## One step -/

/-- The definitions with one more, which takes over its name. -/
def Adds (ds : Definitions) (name : String) (ds' : Definitions) : Prop :=
  ∃ line functions, (∀ k ∈ line, k < ds.all.size) ∧
    ds' = { ds.define name line with functions }

/-- The definitions with a marker attached to one of them. -/
def marked (ds : Definitions) (n : Nat) (m : Marker) : Definitions :=
  { ds with all := ds.all.modify n fun d => { d with own := d.own ++ [m] } }

/-- What a step does: it makes a definition, or attaches a marker to one, or is refused. -/
inductive Effect (ds : Definitions) (s : Step) : Prop
  | makes {name : String} {ds' : Definitions} : s.definedName? = some name → ds.Adds name ds' →
      ds.perform s = .ok ds' → Effect ds s
  | marks {name : String} {n : Nat} {m : Marker} : s = .mark name (.ok m) →
      ds.find? name = some n → ds.perform s = .ok (ds.marked n m) → Effect ds s
  | refused {misuse : Misuse} : ds.perform s = .error misuse →
      (∀ n, s.markerFor? ds n = none) → Effect ds s

theorem WellFormed.effect (formed : ds.WellFormed) (s : Step) : Effect ds s := by
  cases s with
  | makeClass name bases =>
      cases outcome : ds.defineClass name bases with
      | error misuse => exact .refused outcome fun _ => rfl
      | ok ds' =>
          refine .makes rfl ?_ outcome
          unfold defineClass at outcome
          split at outcome
          · cases outcome
          · rename_i numbers found
            split at outcome
            · cases outcome
            · split at outcome
              · cases outcome
              · rename_i line merged
                cases outcome
                exact ⟨line, ds.functions,
                  formed.lt_of_lineage? (formed.lt_of_mapM_find? found) merged, rfl⟩
  | makeFunction name => exact .makes rfl ⟨[], _, List.forall_mem_nil _, rfl⟩ rfl
  | mark name call =>
      cases call with
      | error misuse => exact .refused rfl fun _ => rfl
      | ok m =>
          cases found : ds.find? name with
          | none =>
              have refused : ds.perform (.mark name (.ok m)) = .error .unknownName := by
                simp only [perform, attach, found]
              exact .refused refused fun n => by simp [Step.markerFor?, found]
          | some n =>
              have done : ds.perform (.mark name (.ok m)) = .ok (ds.marked n m) := by
                simp only [perform, attach, found, marked]
              exact .marks rfl found done

theorem after_of_ok {ds' : Definitions} (done : ds.perform s = .ok ds') : ds.after s = ds' := by
  rw [after, done]

theorem after_of_error {misuse : Misuse} (refused : ds.perform s = .error misuse) :
    ds.after s = ds := by
  rw [after, refused]

/-! ### What a new definition changes -/

section Adds

variable {ds' : Definitions} (adds : ds.Adds name ds')

include adds

theorem Adds.size : ds'.all.size = ds.all.size + 1 := by
  obtain ⟨line, functions, -, rfl⟩ := adds
  exact Array.size_push _

theorem Adds.find? (other : String) :
    ds'.find? other = if other = name then some ds.all.size else ds.find? other := by
  obtain ⟨line, functions, -, rfl⟩ := adds
  simp only [Definitions.find?, define, List.find?_cons]
  by_cases same : name = other
  · subst same
    simp
  · rw [beq_eq_false_iff_ne.mpr same, if_neg (Ne.symm same)]

/-- The new definition owns nothing, whatever it inherits. All others are as they were. -/
theorem Adds.ownOf (n : Nat) : ds'.ownOf n = ds.ownOf n := by
  obtain ⟨line, functions, -, rfl⟩ := adds
  simp only [Definitions.ownOf, define, Array.getElem?_push]
  split
  · rename_i new
    subst new
    simp
  · rfl

theorem Adds.wellFormed (formed : ds.WellFormed) : ds'.WellFormed where
  named other n found := by
    rw [adds.find?] at found
    rw [adds.size]
    split at found
    · cases found
      exact Nat.lt_succ_self _
    · exact Nat.lt_succ_of_lt (formed.named other n found)
  lineage n there := by
    rw [adds.size] at there
    obtain ⟨line, functions, before, rfl⟩ := adds
    simp only [lineageOf, define, Array.getElem?_push]
    split
    · rename_i new
      subst new
      exact ⟨line, rfl, before⟩
    · exact formed.lineage n (by omega)

end Adds

/-! ### What a marker changes -/

theorem size_marked (ds : Definitions) (n : Nat) (m : Marker) :
    (ds.marked n m).all.size = ds.all.size := Array.size_modify

theorem find?_marked (ds : Definitions) (n : Nat) (m : Marker) (name : String) :
    (ds.marked n m).find? name = ds.find? name := rfl

theorem lineageOf_marked (ds : Definitions) (n : Nat) (m : Marker) (k : Nat) :
    (ds.marked n m).lineageOf k = ds.lineageOf k := by
  simp only [lineageOf, marked, Array.getElem?_modify]
  split
  · rw [Option.map_map]
    rfl
  · rfl

/-- The marker comes behind the own markers of its definition, and to no other definition. -/
theorem ownOf_marked (there : n < ds.all.size) (m : Marker) (k : Nat) :
    (ds.marked n m).ownOf k = if k = n then ds.ownOf n ++ [m] else ds.ownOf k := by
  simp only [ownOf, marked, Array.getElem?_modify]
  by_cases same : k = n
  · subst same
    simp [Array.getElem?_eq_getElem there]
  · rw [if_neg same, if_neg (Ne.symm same)]

theorem WellFormed.marked (formed : ds.WellFormed) (n : Nat) (m : Marker) :
    (ds.marked n m).WellFormed where
  named name k found := by
    rw [size_marked]
    exact formed.named name k found
  lineage k there := by
    rw [lineageOf_marked]
    exact formed.lineage k (size_marked ds n m ▸ there)

/-! ## A run of steps -/

theorem WellFormed.after (formed : ds.WellFormed) (s : Step) : (ds.after s).WellFormed := by
  cases formed.effect s with
  | makes _ adds done => exact after_of_ok done ▸ adds.wellFormed formed
  | marks _ _ done => exact after_of_ok done ▸ formed.marked _ _
  | refused refused _ => exact (after_of_error refused).symm ▸ formed

theorem markerFor?_of_definedName? (defines : s.definedName? = some name) (ds : Definitions)
    (n : Nat) : s.markerFor? ds n = none := by
  cases s with
  | mark _ _ => cases defines
  | _ => rfl

/-- **What a step attaches comes behind what a definition owns.** -/
theorem WellFormed.ownOf_after (formed : ds.WellFormed) (s : Step) (n : Nat) :
    (ds.after s).ownOf n = ds.ownOf n ++ (s.markerFor? ds n).toList := by
  cases formed.effect s with
  | makes defines adds done =>
      rw [after_of_ok done, adds.ownOf, markerFor?_of_definedName? defines]
      exact (List.append_nil _).symm
  | @marks name k m same found done =>
      subst same
      rw [after_of_ok done, ownOf_marked (formed.named name k found)]
      simp only [Step.markerFor?, found, Option.some.injEq]
      by_cases here : n = k
      · subst here
        simp
      · simp [here, Ne.symm here]
  | refused refused none =>
      rw [after_of_error refused, none]
      exact (List.append_nil _).symm

theorem afterAll_append (ds : Definitions) (steps steps' : List Step) :
    ds.afterAll (steps ++ steps') = (ds.afterAll steps).afterAll steps' :=
  List.foldl_append

theorem WellFormed.afterAll (formed : ds.WellFormed) (steps : List Step) :
    (ds.afterAll steps).WellFormed := by
  induction steps generalizing ds with
  | nil => exact formed
  | cons s steps ih => exact ih (formed.after s)

theorem wellFormed_made (steps : List Step) : (made steps).WellFormed :=
  wellFormed_empty.afterAll steps

theorem made_append (steps steps' : List Step) :
    made (steps ++ steps') = (made steps).afterAll steps' :=
  afterAll_append _ _ _

theorem made_concat (steps : List Step) (s : Step) : made (steps ++ [s]) = (made steps).after s :=
  made_append steps [s]

/-- **A run adds to the markers of a definition what its steps attach to it.** -/
theorem WellFormed.ownOf_afterAll (formed : ds.WellFormed) (steps : List Step) (n : Nat) :
    (ds.afterAll steps).ownOf n = ds.ownOf n ++ applied n ds steps := by
  induction steps generalizing ds with
  | nil => exact (List.append_nil _).symm
  | cons s steps ih =>
      change ((ds.after s).afterAll steps).ownOf n = _
      rw [ih (formed.after s), formed.ownOf_after, List.append_assoc]
      rfl

/-! ## Which step made a definition -/

/-- A step makes a definition, after which there is one more, or it makes none. -/
theorem WellFormed.makes_or (formed : ds.WellFormed) (s : Step) :
    (∃ name, Makes ds s name ds.all.size ∧ ds.Adds name (ds.after s)) ∨
      (∀ name n, ¬ Makes ds s name n) ∧ (ds.after s).all.size = ds.all.size ∧
        ∀ name, (ds.after s).find? name = ds.find? name := by
  cases formed.effect s with
  | makes defines adds done => exact .inl ⟨_, ⟨defines, ⟨_, done⟩, rfl⟩, after_of_ok done ▸ adds⟩
  | marks same found done =>
      subst same
      refine .inr ⟨fun name n makes => ?_, ?_, fun other => ?_⟩
      · cases makes.defines
      · rw [after_of_ok done, size_marked]
      · rw [after_of_ok done, find?_marked]
  | refused refused _ =>
      rw [after_of_error refused]
      refine .inr ⟨fun name n makes => ?_, rfl, fun _ => rfl⟩
      obtain ⟨ds', done⟩ := makes.performed
      cases refused.symm.trans done

/-- Every definition was made by a step. -/
theorem exists_makes (steps : List Step) (there : n < (made steps).all.size) :
    ∃ before s after name, steps = before ++ s :: after ∧ Makes (made before) s name n := by
  induction steps using List.reverseRecOn with
  | nil => cases there
  | append_singleton steps s ih =>
      rw [made_concat] at there
      rcases (wellFormed_made steps).makes_or s with ⟨name, makes, adds⟩ | ⟨-, size, -⟩
      · rw [adds.size] at there
        by_cases new : n = (made steps).all.size
        · subst new
          exact ⟨steps, s, [], name, rfl, makes⟩
        · obtain ⟨before, s', after, name', rfl, makes'⟩ := ih (by omega)
          exact ⟨before, s', after ++ [s], name', by simp, makes'⟩
      · rw [size] at there
        obtain ⟨before, s', after, name', rfl, makes'⟩ := ih there
        exact ⟨before, s', after ++ [s], name', by simp, makes'⟩

theorem ownOf_of_ge (absent : ds.all.size ≤ n) : ds.ownOf n = [] := by
  rw [ownOf, Array.getElem?_eq_none absent]
  rfl

/-- A definition that a step makes owns nothing. -/
theorem ownOf_of_makes (formed : ds.WellFormed) (makes : Makes ds s name n) :
    (ds.after s).ownOf n = [] := by
  rw [formed.ownOf_after, markerFor?_of_definedName? makes.defines, makes.next,
    ownOf_of_ge (Nat.le_refl _)]
  rfl

/-- No step makes a definition of the name, the first one being taken behind some others. -/
def Unmade (name : String) (before steps : List Step) : Prop :=
  ∀ inner s outer, steps = inner ++ s :: outer → ∀ n, ¬ Makes (made (before ++ inner)) s name n

/-- The last step that makes a definition of the name makes the one of the number. -/
def MadeLast (name : String) (n : Nat) (steps : List Step) : Prop :=
  ∃ before s after, steps = before ++ s :: after ∧ Makes (made before) s name n ∧
    Unmade name (before ++ [s]) after

theorem unmade_nil (name : String) (before : List Step) : Unmade name before [] := by
  intro inner s outer same
  cases inner <;> cases same

theorem unmade_concat {before steps : List Step} :
    Unmade name before (steps ++ [s]) ↔
      Unmade name before steps ∧ ∀ n, ¬ Makes (made (before ++ steps)) s name n := by
  constructor
  · intro unmade
    refine ⟨fun inner s' outer same n => ?_, unmade steps s [] rfl⟩
    refine unmade inner s' (outer ++ [s]) ?_ n
    rw [same, List.append_assoc, List.cons_append]
  · rintro ⟨front, last⟩ inner s' outer same
    rcases List.eq_nil_or_concat' outer with rfl | ⟨outer, s'', rfl⟩
    · obtain ⟨rfl, one⟩ := List.append_inj' same rfl
      cases one
      exact last
    · rw [← List.cons_append, ← List.append_assoc] at same
      exact front inner s' outer (List.append_inj' same rfl).1

theorem not_madeLast_nil (name : String) (n : Nat) : ¬ MadeLast name n [] := by
  rintro ⟨before, s, after, same, -⟩
  cases before <;> cases same

/-- One more step decides if it makes a definition of the name; else those before it do. -/
theorem madeLast_concat {steps : List Step} :
    MadeLast name n (steps ++ [s]) ↔ Makes (made steps) s name n ∨
      (∀ k, ¬ Makes (made steps) s name k) ∧ MadeLast name n steps := by
  constructor
  · rintro ⟨before, s', after, split, makes, unmade⟩
    rcases List.eq_nil_or_concat' after with rfl | ⟨after, s'', rfl⟩
    · obtain ⟨rfl, one⟩ := List.append_inj' split rfl
      cases one
      exact .inl makes
    · rw [← List.cons_append, ← List.append_assoc] at split
      obtain ⟨rfl, one⟩ := List.append_inj' split rfl
      cases one
      obtain ⟨unmade, last⟩ := unmade_concat.mp unmade
      rw [List.append_assoc, List.singleton_append] at last
      exact .inr ⟨last, before, s', after, rfl, makes, unmade⟩
  · rintro (makes | ⟨last, before, s', after, rfl, makes, unmade⟩)
    · exact ⟨steps, s, [], rfl, makes, unmade_nil _ _⟩
    · refine ⟨before, s', after ++ [s], by simp, makes, unmade_concat.mpr ⟨unmade, ?_⟩⟩
      rw [List.append_assoc, List.singleton_append]
      exact last

/-- **A name stands for the last definition that was made under it.** -/
theorem find?_made_iff (steps : List Step) :
    (made steps).find? name = some n ↔ MadeLast name n steps := by
  induction steps using List.reverseRecOn with
  | nil => exact iff_of_false (by simp [made, afterAll, find?]) (not_madeLast_nil name n)
  | append_singleton steps s ih =>
      rw [made_concat, madeLast_concat, ← ih]
      rcases (wellFormed_made steps).makes_or s with ⟨name', makes, adds⟩ | ⟨none, -, same⟩
      · rw [adds.find?]
        have names (k : Nat) (makes' : Makes (made steps) s name k) : name = name' :=
          Option.some.inj (makes'.defines.symm.trans makes.defines)
        split
        · rename_i this
          subst this
          constructor
          · rintro ⟨⟩
            exact .inl makes
          · rintro (makes' | ⟨last, -⟩)
            · rw [makes'.next]
            · exact absurd makes (last _)
        · rename_i other
          have last (k : Nat) : ¬ Makes (made steps) s name k :=
            fun makes' => other (names k makes')
          exact ⟨fun found => .inr ⟨last, found⟩, fun cases => (cases.resolve_left (last n)).2⟩
      · rw [same]
        exact ⟨fun found => .inr ⟨none name, found⟩,
          fun cases => (cases.resolve_left (none name n)).2⟩

/-- **Markers belong to the definition that they were attached to.** Whatever steps are taken, each
definition was made by one of them and owns the markers that later steps attached to it, in their
order, and no others; a name stands for the last definition made under it. A marker comes behind
what the definition of its name owns: no other definition's markers change, those of its bases and
of its subclasses among them, which are other definitions, and nothing that is inherited is taken
over. A definition that is made owns nothing, and a step that is refused changes nothing. -/
theorem own_by_history (steps : List Step) :
    let ds := made steps
    (∀ n, n < ds.all.size → ∃ before s after name, steps = before ++ s :: after ∧
      Makes (made before) s name n ∧ ds.ownOf n = applied n (made (before ++ [s])) after) ∧
    (∀ name n, ds.find? name = some n ↔ MadeLast name n steps) ∧
    (∀ name n, ds.find? name = some n → n < ds.all.size ∧ ds.own name = ds.ownOf n) ∧
    (∀ n, n < ds.all.size → ∃ bases, ds.lineageOf n = n :: bases ∧ ∀ k ∈ bases, k < n) ∧
    (∀ name n m, ds.find? name = some n → ∃ ds', ds.perform (.mark name (.ok m)) = .ok ds' ∧
      ds'.ownOf n = ds.ownOf n ++ [m] ∧ (∀ k, k ≠ n → ds'.ownOf k = ds.ownOf k) ∧
      (∀ k, ds'.lineageOf k = ds.lineageOf k) ∧ ∀ other, ds'.find? other = ds.find? other) ∧
    (∀ s name n, Makes ds s name n →
      (ds.after s).ownOf n = [] ∧ ∀ k, (ds.after s).ownOf k = ds.ownOf k) ∧
    ∀ s misuse, ds.perform s = .error misuse →
      ds.after s = ds ∧ ∀ n, s.markerFor? ds n = none := by
  intro ds
  have formed : ds.WellFormed := wellFormed_made steps
  refine ⟨fun n there => ?_, fun name n => find?_made_iff steps, fun name n found => ?_,
    formed.lineage, fun name n m found => ?_, fun s name n makes => ?_,
    fun s misuse refused => ⟨after_of_error refused, ?_⟩⟩
  · obtain ⟨before, s, after, name, rfl, makes⟩ := exists_makes steps there
    refine ⟨before, s, after, name, rfl, makes, ?_⟩
    have run : ds = (made (before ++ [s])).afterAll after := by
      rw [← made_append, List.append_assoc, List.singleton_append]
    rw [run, (wellFormed_made _).ownOf_afterAll, made_concat,
      ownOf_of_makes (wellFormed_made before) makes, List.nil_append]
  · refine ⟨formed.named name n found, ?_⟩
    rw [own, found]
    rfl
  · have done : ds.perform (.mark name (.ok m)) = .ok (ds.marked n m) := by
      simp only [perform, attach, found, marked]
    have owned := ownOf_marked (formed.named name n found) m
    refine ⟨_, done, ?_, fun k other => ?_, lineageOf_marked ds n m, find?_marked ds n m⟩
    · rw [owned, if_pos rfl]
    · rw [owned, if_neg other]
  · refine ⟨ownOf_of_makes formed makes, fun k => ?_⟩
    rw [formed.ownOf_after, markerFor?_of_definedName? makes.defines]
    exact List.append_nil _
  · cases formed.effect s with
    | makes _ _ done => cases refused.symm.trans done
    | marks _ _ done => cases refused.symm.trans done
    | refused _ none => exact none

/-- A class shows the marker of its base and owns none; marked itself, it owns and shows its own. -/
example :
    let steps : List Step :=
      [.makeClass "Base" [], .mark "Base" (.ok { label := "base" }), .makeClass "Child" ["Base"],
        .mark "Child" (.error .arguments)]
    let ds := made steps
    let ds' := ds.after (.mark "Child" (.ok { label := "child" }))
    (ds.own "Child", (ds.visible "Child").map Marker.label) = ([], ["base"]) ∧
      ((ds'.visible "Child").map Marker.label, (ds'.own "Base").map Marker.label) =
        (["child"], ["base"]) := by
  decide

end Overdue.Definitions
