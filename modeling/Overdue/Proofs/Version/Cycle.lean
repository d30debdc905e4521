import Overdue.Proofs.Version.Comparison

/-!
# Comparing is a preorder but for its cycles

Comparing readable versions is reflexive and oriented, and of three versions the first ranks at or
below the last whenever it should, unless the three are `Entangled`:
`compare_isPreorder_except_cycles`. `compare_cycle` shows the smallest cycle there is.
-/
namespace Overdue.Version

open Std

/-- All numerals behind the three numbers are short enough to be read. -/
def Readable (v : Version) : Prop := ∀ s ∈ v.prerelease ++ v.build, ¬ s.IsOverlong

instance (v : Version) : Decidable v.Readable :=
  inferInstanceAs (Decidable (∀ s ∈ v.prerelease ++ v.build, ¬ s.IsOverlong))

theorem not_obstructed_of_readable {as bs : List Identifier} (ha : ∀ s ∈ as, ¬ s.IsOverlong)
    (hb : ∀ s ∈ bs, ¬ s.IsOverlong) : ¬ Obstructed as bs := by
  intro h
  induction h with
  | here clash =>
      simp only [List.forall_mem_cons] at ha hb
      rcases clash.2 with long | long
      · exact ha.1 ⟨clash.1.1, long⟩
      · exact hb.1 ⟨clash.1.2, long⟩
  | later _ _ ih =>
      simp only [List.forall_mem_cons] at ha hb
      exact ih ha.2 hb.2

theorem Readable.not_obstructs {a b : Version} (ha : a.Readable) (hb : b.Readable) :
    ¬ a.Obstructs b := by
  rintro ⟨-, obstructed⟩
  exact not_obstructed_of_readable (fun s member => ha s (List.mem_append_right _ member))
    (fun s member => hb s (List.mem_append_right _ member)) obstructed

theorem Readable.compare_eq {a b : Version} (ha : a.Readable) (hb : b.Readable) :
    a.compare b = .ok (a.order b) := by
  have clear : ¬ Obstructed a.prerelease b.prerelease :=
    not_obstructed_of_readable (fun s member => ha s (List.mem_append_left _ member))
      (fun s member => hb s (List.mem_append_left _ member))
  exact compare_eq_ok (limited_eq_ok fun _ => clear) (ha.not_obstructs hb)

/-! ## Transitivity and its exceptions -/

/-- The first version ranks at or below the second. -/
def AtMost (a b : Version) : Prop := ∃ o, a.compare b = .ok o ∧ o ≠ .gt

/-- The first version ranks below the second. -/
def Below (a b : Version) : Prop := a.compare b = .ok .lt

/-- Three versions of one precedence whose builds agree up to a place where a word stands between
two numerals: the second is above the first and below the third. -/
def Entangled (a b c : Version) : Prop :=
  a.precedence b = .eq ∧ b.precedence c = .eq ∧ Straddle a.build b.build c.build

theorem atMost_iff {a b : Version} (ha : a.Readable) (hb : b.Readable) :
    a.AtMost b ↔ (a.order b).isLE := by
  unfold AtMost
  rw [ha.compare_eq hb]
  cases a.order b <;> simp

theorem below_iff {a b : Version} (ha : a.Readable) (hb : b.Readable) :
    a.Below b ↔ a.order b = .lt := by
  unfold Below
  rw [ha.compare_eq hb, Except.ok.injEq]

theorem emptyLast_of_straddle {as bs cs : List Identifier} (h : Straddle as bs cs) :
    emptyLast buildsOrder as bs = .lt ∧ emptyLast buildsOrder bs cs = .lt := by
  have left := h.lt_left
  have right := h.lt_right
  cases h <;> exact ⟨left, right⟩

theorem Entangled.order_lt {a b c : Version} (h : Entangled a b c) :
    a.order b = .lt ∧ b.order c = .lt := by
  obtain ⟨ab, bc, straddle⟩ := h
  obtain ⟨left, right⟩ := emptyLast_of_straddle straddle
  constructor
  · rw [order, ab, metadataOrder, left]; rfl
  · rw [order, bc, metadataOrder, right]; rfl

/-- An absent build is above all others, so three that do not ascend are all present. -/
theorem emptyLast_buildsOrder_trans {as bs cs : List Identifier}
    (hab : (emptyLast buildsOrder as bs).isLE) (hbc : (emptyLast buildsOrder bs cs).isLE) :
    (emptyLast buildsOrder as cs).isLE ∨ Straddle as bs cs ∨ Straddle bs cs as ∨
      Straddle cs as bs := by
  cases cs with
  | nil => simp
  | cons c cs =>
      cases bs with
      | nil => simp at hbc
      | cons b bs =>
          cases as with
          | nil => simp at hab
          | cons a as => exact buildsOrder_trans hab hbc

theorem order_trans {a b c : Version} (hab : (a.order b).isLE) (hbc : (b.order c).isLE) :
    (a.order c).isLE ∨ Entangled a b c ∨ Entangled b c a ∨ Entangled c a b := by
  simp only [order, Ordering.isLE_then_iff_and] at hab hbc ⊢
  have le := TransCmp.isLE_trans hab.1 hbc.1
  obtain lt | tie := hab.2
  · exact .inl ⟨le, .inl (TransCmp.lt_of_lt_of_isLE lt hbc.1)⟩
  obtain lt | tie' := hbc.2
  · exact .inl ⟨le, .inl (TransCmp.lt_of_isLE_of_lt hab.1 lt)⟩
  -- Were two of the three of different precedence, that alone would decide.
  rcases Ordering.isLE_iff_eq_lt_or_eq_eq.mp hab.1 with lt | ab
  · exact .inl ⟨le, .inl (TransCmp.lt_of_lt_of_isLE lt hbc.1)⟩
  rcases Ordering.isLE_iff_eq_lt_or_eq_eq.mp hbc.1 with lt | bc
  · exact .inl ⟨le, .inl (TransCmp.lt_of_isLE_of_lt hab.1 lt)⟩
  have ca : c.precedence a = .eq := OrientedCmp.eq_symm (TransCmp.eq_trans ab bc)
  rcases emptyLast_buildsOrder_trans tie tie' with rest | first | second | third
  · exact .inl ⟨le, .inr rest⟩
  · exact .inr (.inl ⟨ab, bc, first⟩)
  · exact .inr (.inr (.inl ⟨bc, ca, second⟩))
  · exact .inr (.inr (.inr ⟨ca, ab, third⟩))

/-- **Comparing is reflexive and oriented, and transitive but for the cycles of a word between two
numerals.** -/
theorem compare_isPreorder_except_cycles {a b c : Version} (ha : a.Readable) (hb : b.Readable)
    (hc : c.Readable) :
    a.compare a = .ok .eq ∧
      (∃ o : Ordering, a.compare b = .ok o ∧ b.compare a = .ok o.swap) ∧
      ((a.AtMost b → b.AtMost c → a.AtMost c) ↔
        ¬ (Entangled a b c ∧ c.Below a ∨ Entangled b c a ∧ a.AtMost b ∨
          Entangled c a b ∧ b.AtMost c)) := by
  refine ⟨?_, ⟨a.order b, ha.compare_eq hb, ?_⟩, ?_⟩
  · rw [ha.compare_eq ha, @ReflCmp.compare_self _ order]
  · rw [hb.compare_eq ha, @OrientedCmp.eq_swap _ order _ b a]
  · rw [atMost_iff ha hb, atMost_iff hb hc, atMost_iff ha hc, below_iff hc ha]
    constructor
    · rintro transitive (⟨entangled, below⟩ | ⟨entangled, ab⟩ | ⟨entangled, bc⟩)
      · obtain ⟨left, right⟩ := entangled.order_lt
        exact OrientedCmp.not_isLE_of_lt below (transitive (by simp [left]) (by simp [right]))
      · obtain ⟨left, right⟩ := entangled.order_lt
        exact OrientedCmp.not_isLE_of_lt right (transitive ab (by simp [left]))
      · obtain ⟨left, right⟩ := entangled.order_lt
        exact OrientedCmp.not_isLE_of_lt left (transitive (by simp [right]) bc)
    · intro apart ab bc
      rcases order_trans ab bc with le | first | second | third
      · exact le
      · cases le : (a.order c).isLE with
        | true => rfl
        | false =>
            have below : c.order a = .lt := OrientedCmp.lt_of_not_isLE (by simp [le])
            exact absurd (.inl ⟨first, below⟩) apart
      · exact absurd (.inr (.inl ⟨second, ab⟩)) apart
      · exact absurd (.inr (.inr ⟨third, bc⟩)) apart

/-! ## The smallest cycle -/

def nine : Version := ⟨1, 0, 0, [], [['9']]⟩

def ten : Version := ⟨1, 0, 0, [], [['1', '0']]⟩

def oneA : Version := ⟨1, 0, 0, [], [['1', 'a']]⟩

theorem nine_isPreorder_except_cycles :
    (nine.Readable ∧ ten.Readable ∧ oneA.Readable) ∧
      nine.compare nine = .ok .eq ∧
      (∃ o : Ordering, nine.compare ten = .ok o ∧ ten.compare nine = .ok o.swap) ∧
      ((nine.AtMost ten → ten.AtMost oneA → nine.AtMost oneA) ↔
        ¬ (Entangled nine ten oneA ∧ oneA.Below nine ∨ Entangled ten oneA nine ∧ nine.AtMost ten ∨
          Entangled oneA nine ten ∧ ten.AtMost oneA)) :=
  ⟨by decide, compare_isPreorder_except_cycles (by decide) (by decide) (by decide)⟩

/-- **Comparing is not transitive**: three readable version names, each below the next and the last
below the first. -/
theorem compare_cycle :
    (read "1.0.0+9" = .ok nine ∧ read "1.0.0+10" = .ok ten ∧ read "1.0.0+1a" = .ok oneA) ∧
      (nine.Readable ∧ ten.Readable ∧ oneA.Readable) ∧
      nine.compare ten = .ok .lt ∧ ten.compare oneA = .ok .lt ∧ nine.compare oneA = .ok .gt :=
  ⟨⟨rfl, rfl, rfl⟩, by decide, rfl, rfl, rfl⟩

end Overdue.Version
