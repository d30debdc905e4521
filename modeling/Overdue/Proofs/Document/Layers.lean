import Overdue.Proofs.Document.Keys

/-!
# Entries laid over others

`atop above below` puts the entries of one mapping into another, one after the other. What comes of
it is said by membership (`mem_atop_iff`): all that lies above, and what lies below under keys that
the upper layer leaves free. Keys that are equal keep the spelling of the lower layer, so the lower
layer has to spell them as the upper one does (`Aligned`), which texts always do.

The keys of the lower layer keep their places in front (`keys_atop`). So what has been laid over a
mapping can be laid over it again and nothing changes: `atop_atop`.
-/
namespace Overdue.Entries

/-- The upper entries put into the lower ones, in order. -/
def atop (above below : Entries) : Entries := above.foldl (fun es (k, v) => put k v es) below

/-- A lower key that equals an upper one is written as that one is. -/
def Aligned (below above : Entries) : Prop :=
  ∀ b ∈ below, ∀ a ∈ above, b.1.same a.1 = true → b.1 = a.1

/-- Every key is a text. -/
def Textual (entries : Entries) : Prop := ∀ entry ∈ entries, ∃ s, entry.1 = .text s

variable {above below entries : Entries} {key v k w : Value}

theorem atop_cons (entry : Value × Value) (above below : Entries) :
    atop (entry :: above) below = atop above (put entry.1 entry.2 below) := rfl

theorem atop_append (first second below : Entries) :
    atop (first ++ second) below = atop second (atop first below) := List.foldl_append

theorem Textual.aligned (textual : below.Textual) (above : Entries) : Aligned below above := by
  intro b member a _ same
  obtain ⟨s, text⟩ := textual b member
  rw [text] at same ⊢
  exact (Value.text_same_iff.mp same).symm

/-! ## What is laid over -/

/-- One entry over distinct ones. -/
theorem mem_put_iff (distinct : entries.Distinct)
    (alike : ∀ b ∈ entries, b.1.same key = true → b.1 = key) :
    (k, w) ∈ put key v entries ↔
      (k, w) = (key, v) ∨ (k, w) ∈ entries ∧ k.same key = false := by
  induction entries with
  | nil => simp [put]
  | cons first rest ih =>
      obtain ⟨k', w'⟩ := first
      obtain ⟨apart, distinct⟩ := List.pairwise_cons.mp distinct
      obtain ⟨here, alike⟩ := List.forall_mem_cons.mp alike
      rw [put]
      by_cases same : k'.same key = true
      · obtain rfl : k' = key := here same
        have other (u : Value) (later : (k, u) ∈ rest) : k.same k' = false := by
          rw [← Bool.not_eq_true]
          intro also
          obtain rfl : k = k' := alike (k, u) later also
          exact Bool.eq_false_iff.mp (apart (k, u) later) same
        rw [if_pos same, List.mem_cons, List.mem_cons]
        constructor
        · rintro (this | later)
          · exact .inl this
          · exact .inr ⟨.inr later, other w later⟩
        · rintro (this | ⟨this | later, free⟩)
          · exact .inl this
          · cases this
            exact absurd same (Bool.eq_false_iff.mp free)
          · exact .inr later
      · rw [if_neg same, List.mem_cons, List.mem_cons, ih distinct alike]
        rw [Bool.not_eq_true] at same
        constructor
        · rintro (this | new | ⟨later, free⟩)
          · cases this
            exact .inr ⟨.inl rfl, same⟩
          · exact .inl new
          · exact .inr ⟨.inr later, free⟩
        · rintro (new | ⟨this | later, free⟩)
          · exact .inr (.inl new)
          · exact .inl this
          · exact .inr (.inr ⟨later, free⟩)

theorem Aligned.put (aligned : Aligned below ((key, v) :: above))
    (distinct : Distinct ((key, v) :: above)) (w : Value) :
    Aligned (Entries.put key w below) above := by
  intro b member a among same
  rcases key_of_mem_put member with ⟨u, before⟩ | own
  · exact aligned (b.1, u) before a (List.mem_cons_of_mem _ among) same
  · have apart := (List.pairwise_cons.mp distinct).1 a among
    rw [own] at same
    exact absurd same (Bool.eq_false_iff.mp apart)

/-- **What is laid over others is all there, and of the others is there what it leaves free.** -/
theorem mem_atop_iff (aligned : Aligned below above) (lower : below.Distinct)
    (upper : above.Distinct) :
    (k, w) ∈ atop above below ↔
      (k, w) ∈ above ∨ (k, w) ∈ below ∧ ∀ a ∈ above, k.same a.1 = false := by
  induction above generalizing below with
  | nil => simp [atop]
  | cons first above ih =>
      obtain ⟨key, v⟩ := first
      obtain ⟨apart, rest⟩ := List.pairwise_cons.mp upper
      have alike (b : Value × Value) (member : b ∈ below) (same : b.1.same key = true) :
          b.1 = key := aligned b member (key, v) List.mem_cons_self same
      rw [atop_cons, ih (aligned.put upper v) (lower.put key v) rest, mem_put_iff lower alike,
        List.mem_cons, List.forall_mem_cons]
      constructor
      · rintro (later | ⟨this | ⟨before, free⟩, others⟩)
        · exact .inl (.inr later)
        · exact .inl (.inl this)
        · exact .inr ⟨before, free, others⟩
      · rintro ((this | later) | ⟨before, free, others⟩)
        · cases this
          exact .inr ⟨.inl rfl, apart⟩
        · exact .inl later
        · exact .inr ⟨.inr ⟨before, free⟩, others⟩

theorem Distinct.atop (lower : below.Distinct) (above : Entries) :
    (Entries.atop above below).Distinct := by
  induction above generalizing below with
  | nil => exact lower
  | cons first above ih => exact ih (lower.put first.1 first.2)

/-- What is put under one key does not hide another. -/
theorem get?_put_of_other (alike : ∀ b ∈ entries, b.1.same key = true → b.1 = key)
    (other : key.same k = false) : (put key v entries).get? k = entries.get? k := by
  induction entries with
  | nil => rw [put, get?_cons, if_neg (Bool.eq_false_iff.mp other)]
  | cons first rest ih =>
      obtain ⟨k', w'⟩ := first
      obtain ⟨here, alike⟩ := List.forall_mem_cons.mp alike
      rw [put, get?_cons]
      by_cases same : k'.same key = true
      · obtain rfl : k' = key := here same
        have apart := Bool.eq_false_iff.mp other
        rw [if_pos same, get?_cons, if_neg apart, if_neg apart]
      · rw [if_neg same, get?_cons, ih alike]

/-! ## The order of what is laid over -/

theorem keys_put (key v : Value) (entries : Entries) :
    entries.map Prod.fst <+: (put key v entries).map Prod.fst := by
  induction entries with
  | nil => exact List.nil_prefix
  | cons first rest ih =>
      obtain ⟨k', w'⟩ := first
      rw [put]
      split
      · exact List.prefix_rfl
      · rw [List.map_cons, List.map_cons]
        exact (List.prefix_cons_inj k').mpr ih

/-- The lower keys keep their places in front. -/
theorem keys_atop (above below : Entries) :
    below.map Prod.fst <+: (atop above below).map Prod.fst := by
  induction above generalizing below with
  | nil => exact List.prefix_rfl
  | cons first above ih => exact (keys_put first.1 first.2 below).trans (ih _)

theorem put_past {front : Entries} (fresh : ∀ a ∈ front, a.1.same key = false)
    (itself : key.same key = true) (w : Value) (back : Entries) :
    put key v (front ++ (key, w) :: back) = front ++ (key, v) :: back := by
  induction front with
  | nil => rw [List.nil_append, put, if_pos itself, List.nil_append]
  | cons first front ih =>
      obtain ⟨k', w'⟩ := first
      obtain ⟨here, fresh⟩ := List.forall_mem_cons.mp fresh
      have other : ¬ k'.same key = true := by simp [here]
      rw [List.cons_append, put, if_neg other, ih fresh, List.cons_append]

/-- Entries laid over some with the same keys in the same places take their places. -/
theorem atop_of_same_keys (front : Entries) {above below : Entries} (distinct : above.Distinct)
    (apart : ∀ a ∈ front, ∀ b ∈ above, a.1.same b.1 = false)
    (itself : ∀ a ∈ above, a.1.same a.1 = true)
    (keys : above.map Prod.fst = below.map Prod.fst) :
    atop above (front ++ below) = front ++ above := by
  induction above generalizing front below with
  | nil =>
      obtain rfl : below = [] := List.map_eq_nil_iff.mp keys.symm
      rfl
  | cons first above ih =>
      obtain ⟨key, v⟩ := first
      cases below with
      | nil => cases keys
      | cons lower below =>
          obtain ⟨key', w⟩ := lower
          obtain ⟨rfl, behindKeys⟩ := List.cons.inj keys
          obtain ⟨behind, distinct⟩ := List.pairwise_cons.mp distinct
          obtain ⟨same, itself⟩ := List.forall_mem_cons.mp itself
          have fresh (a : Value × Value) (member : a ∈ front) : a.1.same key = false :=
            apart a member (key, v) List.mem_cons_self
          have apart' : ∀ a ∈ front ++ [(key, v)], ∀ b ∈ above, a.1.same b.1 = false := by
            intro a member b among
            rcases List.mem_append.mp member with before | last
            · exact apart a before b (List.mem_cons_of_mem _ among)
            · obtain rfl := List.mem_singleton.mp last
              exact behind b among
          have step := ih (front ++ [(key, v)]) distinct apart' itself behindKeys
          rw [List.append_assoc, List.append_assoc, List.singleton_append,
            List.singleton_append] at step
          rw [atop_cons, put_past fresh same]
          exact step

/-- Entries of new keys laid over others stand behind them. -/
theorem atop_of_fresh {above below : Entries} (distinct : (below ++ above).Distinct) :
    atop above below = below ++ above := by
  induction above generalizing below with
  | nil => exact (List.append_nil below).symm
  | cons first above ih =>
      obtain ⟨key, v⟩ := first
      have fresh (b : Value × Value) (member : b ∈ below) : b.1.same key = false :=
        (List.pairwise_append.mp distinct).2.2 b member (key, v) List.mem_cons_self
      have together : (below ++ [(key, v)] ++ above).Distinct := by
        rwa [List.append_assoc, List.singleton_append]
      rw [atop_cons, put_of_fresh fresh, ih together, List.append_assoc, List.singleton_append]

/-- Distinct entries that start with the lower keys do not change when they are laid over them. -/
theorem atop_of_keys_prefix (textual : below.Textual) (distinct : above.Distinct)
    (keys : below.map Prod.fst <+: above.map Prod.fst) : atop above below = above := by
  obtain ⟨behind, whole⟩ := keys
  obtain ⟨front, back, rfl, same, -⟩ := List.map_eq_append_iff.mp whole.symm
  have itself : ∀ a ∈ front, a.1.same a.1 = true := by
    intro a member
    have among : a.1 ∈ below.map Prod.fst := by
      rw [← same]
      exact List.mem_map_of_mem member
    obtain ⟨b, there, written⟩ := List.mem_map.mp among
    obtain ⟨s, text⟩ := textual b there
    rw [← written, text]
    exact Value.same_text_iff.mpr rfl
  have first : atop front below = front :=
    atop_of_same_keys [] (List.pairwise_append.mp distinct).1 (by simp) itself same
  rw [atop_append, first, atop_of_fresh distinct]

/-- **What is laid over a mapping twice lies there as if once.** -/
theorem atop_atop (textual : below.Textual) (lower : below.Distinct) (above : Entries) :
    atop (atop above below) below = atop above below :=
  atop_of_keys_prefix textual (lower.atop above) (keys_atop above below)

theorem atop_self (textual : below.Textual) (distinct : below.Distinct) :
    atop below below = below :=
  atop_of_keys_prefix textual distinct List.prefix_rfl

end Overdue.Entries
