import Mathlib.Data.List.Forall2

/-!
# Attempts

Running a computation that may fail over a list ends with the first failure. `mapM_eq_ok_iff` says
what comes of it if there is none. `account_of_total` closes the account of one computation, and
`Matches` compares two.
-/
namespace Overdue

variable {α β ε : Type}

theorem ok_of_map_eq_ok {f : α → β} {x : Except ε α} {b : β} (h : x.map f = .ok b) :
    ∃ a, x = .ok a ∧ f a = b := by
  cases x with
  | error e => cases h
  | ok a => exact ⟨a, rfl, Except.ok.inj h⟩

theorem ok_of_toOption_eq_some {x : Except ε α} {a : α} (h : x.toOption = some a) :
    x = .ok a := by
  cases x with
  | error e => cases h
  | ok b => exact congrArg Except.ok (Option.some.inj h)

theorem exists_of_map_toOption {f : α → β} {x : Except ε α} {b : β}
    (h : x.toOption.map f = some b) : ∃ a, x = .ok a ∧ f a = b := by
  cases x with
  | error e => cases h
  | ok a => exact ⟨a, rfl, Option.some.inj h⟩

theorem ok_of_bind_eq_ok {x : Except ε α} {f : α → Except ε β} {b : β} (h : x >>= f = .ok b) :
    ∃ a, x = .ok a ∧ f a = .ok b := by
  cases x with
  | error e => cases h
  | ok a => exact ⟨a, rfl, h⟩

/-- An attempt that comes to what is given, and fails for a cause, comes to nothing else and fails
for nothing else if something is given or there is a cause. -/
theorem account_of_total {x : Except ε α} {Given : α → Prop} {Cause : ε → Prop}
    (done : ∀ a, Given a → x = .ok a) (fails : ∀ e, Cause e → x = .error e)
    (total : (∃ a, Given a) ∨ ∃ e, Cause e) :
    (∀ a, x = .ok a ↔ Given a) ∧ ∀ e, x = .error e ↔ Cause e := by
  rcases total with ⟨a, given⟩ | ⟨e, cause⟩
  · have ends := done a given
    refine ⟨fun b => ⟨?_, done b⟩, fun e => ⟨?_, fails e⟩⟩
    · intro same
      cases ends.symm.trans same
      exact given
    · intro same
      cases ends.symm.trans same
  · have ends := fails e cause
    refine ⟨fun a => ⟨?_, done a⟩, fun e' => ⟨?_, fails e'⟩⟩
    · intro same
      cases ends.symm.trans same
    · intro same
      cases ends.symm.trans same
      exact cause

/-- Two attempts fail alike, or come to results that are related. -/
inductive Matches (R : α → β → Prop) : Except ε α → Except ε β → Prop
  | ok {a : α} {b : β} : R a b → Matches R (.ok a) (.ok b)
  | error (e : ε) : Matches R (.error e) (.error e)

theorem Matches.bind {γ δ : Type} {R : α → β → Prop} {S : γ → δ → Prop} {x : Except ε α}
    {y : Except ε β} {f : α → Except ε γ} {g : β → Except ε δ} (h : Matches R x y)
    (next : ∀ a b, R a b → Matches S (f a) (g b)) : Matches S (x >>= f) (y >>= g) := by
  cases h with
  | ok related => exact next _ _ related
  | error e => exact .error e

theorem Matches.map {γ δ : Type} {R : α → β → Prop} {S : γ → δ → Prop} {x : Except ε α}
    {y : Except ε β} {f : α → γ} {g : β → δ} (h : Matches R x y)
    (each : ∀ a b, R a b → S (f a) (g b)) : Matches S (x.map f) (y.map g) := by
  cases h with
  | ok related => exact .ok (each _ _ related)
  | error e => exact .error e

theorem Matches.mono {R S : α → β → Prop} {x : Except ε α} {y : Except ε β} (h : Matches R x y)
    (weaker : ∀ a b, R a b → S a b) : Matches S x y := by
  cases h with
  | ok related => exact .ok (weaker _ _ related)
  | error e => exact .error e

theorem Matches.of_eq {R : α → α → Prop} (x : Except ε α) (itself : ∀ a, R a a) :
    Matches R x x := by
  cases x with
  | error e => exact .error e
  | ok a => exact .ok (itself a)

variable {f : α → Except ε β} {xs : List α}

theorem mapM_eq_ok_iff {ys : List β} :
    xs.mapM f = .ok ys ↔ List.Forall₂ (fun x y => f x = .ok y) xs ys := by
  induction xs generalizing ys with
  | nil => simp [pure, Except.pure, eq_comm]
  | cons x xs ih =>
      rw [List.mapM_cons, List.forall₂_cons_left_iff]
      simp only [← ih]
      cases f x with
      | error e => simp [bind, Except.bind]
      | ok y => cases xs.mapM f <;> simp [bind, Except.bind, pure, Except.pure, eq_comm]

theorem mapM_congr {g : α → Except ε β} (each : ∀ x ∈ xs, f x = g x) : xs.mapM f = xs.mapM g := by
  induction xs with
  | nil => rfl
  | cons x xs ih =>
      rw [List.forall_mem_cons] at each
      rw [List.mapM_cons, List.mapM_cons, each.1, ih each.2]

/-- Every result is that of a step. -/
theorem exists_of_mapM_eq_ok {ys : List β} (h : xs.mapM f = .ok ys) {y : β} (member : y ∈ ys) :
    ∃ x ∈ xs, f x = .ok y := by
  have each := mapM_eq_ok_iff.mp h
  clear h
  induction each with
  | nil => cases member
  | @cons x _ xs _ done _ ih =>
      rcases List.mem_cons.mp member with rfl | later
      · exact ⟨x, List.mem_cons_self, done⟩
      · obtain ⟨x', among, done⟩ := ih later
        exact ⟨x', List.mem_cons_of_mem x among, done⟩

/-- Every step has its result. -/
theorem ok_of_mapM_eq_ok {ys : List β} (h : xs.mapM f = .ok ys) {x : α} (member : x ∈ xs) :
    ∃ y, f x = .ok y := by
  have each := mapM_eq_ok_iff.mp h
  clear h
  induction each with
  | nil => cases member
  | @cons _ y _ _ done _ ih =>
      rcases List.mem_cons.mp member with rfl | later
      · exact ⟨y, done⟩
      · exact ih later

/-- A failure is that of a step. -/
theorem exists_of_mapM_eq_error {e : ε} (h : xs.mapM f = .error e) : ∃ x ∈ xs, f x = .error e := by
  induction xs with
  | nil => cases h
  | cons x xs ih =>
      rw [List.mapM_cons] at h
      cases head : f x with
      | error e' =>
          rw [head] at h
          cases h
          exact ⟨x, List.mem_cons_self, head⟩
      | ok b =>
          rw [head] at h
          cases tail : xs.mapM f with
          | error e' =>
              rw [tail] at h
              cases h
              obtain ⟨y, member, fails⟩ := ih tail
              exact ⟨y, List.mem_cons_of_mem x member, fails⟩
          | ok bs =>
              rw [tail] at h
              cases h

/-- If there is only one way to fail, one step that fails is enough. -/
theorem mapM_eq_error {e : ε} (only : ∀ x e', f x = .error e' → e' = e) {x : α} (member : x ∈ xs)
    (fails : f x = .error e) : xs.mapM f = .error e := by
  cases h : xs.mapM f with
  | error e' =>
      obtain ⟨y, -, fails'⟩ := exists_of_mapM_eq_error h
      rw [only y e' fails']
  | ok ys =>
      obtain ⟨y, done⟩ := ok_of_mapM_eq_ok h member
      rw [fails] at done
      cases done

end Overdue
