import Overdue.Proofs.Version.Precedence

/-!
# Build metadata is no total preorder

Build identifiers compare as numbers if both are numerals and as texts otherwise. Text order and
number order disagree on numerals (`10` stands before `9` as a text), so a word between two
numerals as a text can close a cycle: `9 < 10 < 1a < 9`.

The order stays reflexive and oriented. Transitivity fails in the cycles just described and nowhere
else: `Identifier.buildOrder_trans` says so of one position, `Version.buildsOrder_trans` of lists.

`buildsOrder` reads every numeral, however long it is. `orderBuilds_eq_ok` and
`orderBuilds_eq_error` say where it is `Version.orderBuilds`: unless the builds are `Obstructed`.
-/
namespace Overdue

open Std

namespace Identifier

/-! ## One position -/

/-- The order of two build identifiers with every numeral read, however long it is. -/
def buildOrder (s t : Identifier) : Ordering :=
  if s.isNumeric && t.isNumeric then Ord.compare s.value t.value else compareText s t

/-- Two identifiers that count as one: the same text, or numerals of one value. -/
def Same (s t : Identifier) : Prop :=
  s = t ∨ (s.isNumeric = true ∧ t.isNumeric = true ∧ s.value = t.value)

theorem Same.symm {s t : Identifier} (h : s.Same t) : t.Same s := by
  rcases h with rfl | ⟨hs, ht, equal⟩
  · exact .inl rfl
  · exact .inr ⟨ht, hs, equal.symm⟩

theorem Same.trans {s t u : Identifier} (hst : s.Same t) (htu : t.Same u) : s.Same u := by
  rcases hst with rfl | ⟨hs, ht, equal⟩
  · exact htu
  · rcases htu with rfl | ⟨-, hu, equal'⟩
    · exact .inr ⟨hs, ht, equal⟩
    · exact .inr ⟨hs, hu, equal.trans equal'⟩

/-- The word `w` stands between the numerals `p` and `q` as a text. -/
structure Between (p w q : Identifier) : Prop where
  left : p.isNumeric = true
  word : w.isNumeric = false
  right : q.isNumeric = true
  above : compareText p w = .lt
  below : compareText w q = .lt

theorem buildOrder_of_numeric {s t : Identifier} (hs : s.isNumeric = true)
    (ht : t.isNumeric = true) : s.buildOrder t = Ord.compare s.value t.value := by
  simp [buildOrder, hs, ht]

theorem buildOrder_of_word_left {s : Identifier} (t : Identifier) (hs : s.isNumeric = false) :
    s.buildOrder t = compareText s t := by
  simp [buildOrder, hs]

theorem buildOrder_of_word_right (s : Identifier) {t : Identifier} (ht : t.isNumeric = false) :
    s.buildOrder t = compareText s t := by
  simp [buildOrder, ht]

/-- Two numerals, one of which is too long. -/
def Clash (s t : Identifier) : Prop :=
  (s.isNumeric = true ∧ t.isNumeric = true) ∧
    (Numeral.digitLimit < s.length ∨ Numeral.digitLimit < t.length)

theorem compareBuild_eq_ok {s t : Identifier} (clear : ¬ Clash s t) :
    s.compareBuild t = .ok (s.buildOrder t) := by
  unfold compareBuild buildOrder
  split
  · rename_i numeric
    rw [Bool.and_eq_true] at numeric
    rw [if_neg fun long => clear ⟨numeric, .inl long⟩,
      if_neg fun long => clear ⟨numeric, .inr long⟩]
  · rfl

theorem compareBuild_eq_error {s t : Identifier} (clash : Clash s t) :
    ∃ n, Numeral.digitLimit < n ∧ s.compareBuild t = .error n := by
  obtain ⟨numeric, long⟩ := clash
  unfold compareBuild
  rw [if_pos (by simp [numeric])]
  by_cases left : Numeral.digitLimit < s.length
  · exact ⟨s.length, left, if_pos left⟩
  · have right := long.resolve_left left
    exact ⟨t.length, right, by rw [if_neg left, if_pos right]⟩

instance : OrientedCmp buildOrder where
  eq_swap {s t} := by
    unfold buildOrder
    rw [Bool.and_comm t.isNumeric]
    split
    · exact OrientedOrd.eq_swap
    · exact OrientedCmp.eq_swap

theorem buildOrder_eq_eq {s t : Identifier} : s.buildOrder t = .eq ↔ s.Same t := by
  unfold buildOrder Same
  split
  · rename_i numeric
    simp only [Bool.and_eq_true] at numeric
    rw [Nat.compare_eq_eq]
    constructor
    · exact fun equal => .inr ⟨numeric.1, numeric.2, equal⟩
    · rintro (rfl | ⟨-, -, equal⟩)
      · rfl
      · exact equal
  · rename_i other
    simp only [Bool.and_eq_true, not_and] at other
    rw [LawfulEqCmp.compare_eq_iff_eq]
    constructor
    · exact .inl
    · rintro (same | ⟨hs, ht, -⟩)
      · exact same
      · exact absurd ht (other hs)

theorem Between.lt_left {p w q : Identifier} (h : Between p w q) : p.buildOrder w = .lt := by
  rw [buildOrder_of_word_right p h.word, h.above]

theorem Between.lt_right {p w q : Identifier} (h : Between p w q) : w.buildOrder q = .lt := by
  rw [buildOrder_of_word_left q h.word, h.below]

/-- A word and a numeral are never the same text. -/
theorem compareText_lt_of_isLE {s t : Identifier} (mixed : s.isNumeric ≠ t.isNumeric)
    (le : (compareText s t).isLE) : compareText s t = .lt := by
  refine (Ordering.isLE_iff_eq_lt_or_eq_eq.mp le).resolve_right fun same => mixed ?_
  exact congrArg isNumeric (LawfulEqCmp.eq_of_compare same)

theorem compareText_lt_or_gt {s t : Identifier} (mixed : s.isNumeric ≠ t.isNumeric) :
    compareText s t = .lt ∨ compareText t s = .lt := by
  cases text : compareText s t with
  | lt => exact .inl rfl
  | eq => exact absurd (congrArg isNumeric (LawfulEqCmp.eq_of_compare text)) mixed
  | gt => exact .inr (OrientedCmp.lt_of_gt text)

/-- Where three comparisons are all by text, or all by number, they are transitive. -/
theorem buildOrder_lt_of_trans {x y z : Identifier} (cmp : Identifier → Identifier → Ordering)
    [TransCmp cmp] (xy : x.buildOrder y = cmp x y) (yz : y.buildOrder z = cmp y z)
    (xz : x.buildOrder z = cmp x z) (hxy : (x.buildOrder y).isLE) (hyz : (y.buildOrder z).isLE)
    (distinct : ¬ (x.Same y ∧ y.Same z)) : x.buildOrder z = .lt := by
  rw [← buildOrder_eq_eq, ← buildOrder_eq_eq] at distinct
  rw [xy] at hxy distinct
  rw [yz] at hyz distinct
  rw [xz]
  rcases Ordering.isLE_iff_eq_lt_or_eq_eq.mp hxy with lt | eq
  · exact TransCmp.lt_of_lt_of_isLE lt hyz
  · refine TransCmp.lt_of_isLE_of_lt hxy ?_
    exact (Ordering.isLE_iff_eq_lt_or_eq_eq.mp hyz).resolve_right fun eq' => distinct ⟨eq, eq'⟩

/-- Three identifiers in ascending order, not all the same, ascend from the first to the last unless
one of them is a word between two numerals. -/
theorem buildOrder_trans {x y z : Identifier} (hxy : (x.buildOrder y).isLE)
    (hyz : (y.buildOrder z).isLE) (distinct : ¬ (x.Same y ∧ y.Same z)) :
    x.buildOrder z = .lt ∨ Between x y z ∨ Between y z x ∨ Between z x y := by
  cases nx : x.isNumeric <;> cases ny : y.isNumeric <;> cases nz : z.isNumeric
  case true.true.true =>
    exact .inl (buildOrder_lt_of_trans (compareOn value) (buildOrder_of_numeric nx ny)
      (buildOrder_of_numeric ny nz) (buildOrder_of_numeric nx nz) hxy hyz distinct)
  case true.true.false =>
    rw [buildOrder_of_word_right x nz]
    rw [buildOrder_of_word_right y nz] at hyz
    rcases compareText_lt_or_gt (s := x) (t := z) (by simp [nx, nz]) with before | after
    · exact .inl before
    · exact .inr (.inr (.inl ⟨ny, nz, nx, compareText_lt_of_isLE (by simp [ny, nz]) hyz, after⟩))
  case true.false.true =>
    rw [buildOrder_of_word_right x ny] at hxy
    rw [buildOrder_of_word_left z ny] at hyz
    exact .inr (.inl ⟨nx, ny, nz, compareText_lt_of_isLE (by simp [nx, ny]) hxy,
      compareText_lt_of_isLE (by simp [ny, nz]) hyz⟩)
  case false.true.true =>
    rw [buildOrder_of_word_left z nx]
    rw [buildOrder_of_word_left y nx] at hxy
    rcases compareText_lt_or_gt (s := x) (t := z) (by simp [nx, nz]) with before | after
    · exact .inl before
    · exact .inr (.inr (.inr ⟨nz, nx, ny, after, compareText_lt_of_isLE (by simp [nx, ny]) hxy⟩))
  -- At most one numeral is left among the three, so all comparisons are by text.
  all_goals exact .inl (buildOrder_lt_of_trans compareText (by simp [buildOrder, nx, ny])
    (by simp [buildOrder, ny, nz]) (by simp [buildOrder, nx, nz]) hxy hyz distinct)

end Identifier

namespace Version

/-! ## Lists of identifiers -/

/-- The order of two builds with every numeral read, however long it is. -/
def buildsOrder (as bs : List Identifier) : Ordering :=
  List.compareLex Identifier.buildOrder as bs

instance : OrientedCmp buildsOrder :=
  inferInstanceAs (OrientedCmp (List.compareLex Identifier.buildOrder))

/-- Two builds agree up to a place where two numerals stand, one of them too long. -/
inductive Obstructed : List Identifier → List Identifier → Prop
  | here {s t : Identifier} {ss ts : List Identifier} :
      s.Clash t → Obstructed (s :: ss) (t :: ts)
  | later {s t : Identifier} {ss ts : List Identifier} :
      s.Same t → Obstructed ss ts → Obstructed (s :: ss) (t :: ts)

theorem orderBuilds_eq_ok {as bs : List Identifier} (clear : ¬ Obstructed as bs) :
    orderBuilds as bs = .ok (buildsOrder as bs) := by
  induction as generalizing bs with
  | nil => cases bs <;> rfl
  | cons a as ih =>
      cases bs with
      | nil => rfl
      | cons b bs =>
          rw [orderBuilds, Identifier.compareBuild_eq_ok fun clash => clear (.here clash),
            buildsOrder, List.compareLex_cons_cons]
          cases heads : a.buildOrder b with
          | lt => rfl
          | gt => rfl
          | eq => exact ih fun rest => clear (.later (Identifier.buildOrder_eq_eq.mp heads) rest)

theorem orderBuilds_eq_error {as bs : List Identifier} (h : Obstructed as bs) :
    ∃ n, Numeral.digitLimit < n ∧ orderBuilds as bs = .error n := by
  induction h with
  | here clash =>
      obtain ⟨n, beyond, failed⟩ := Identifier.compareBuild_eq_error clash
      exact ⟨n, beyond, by rw [orderBuilds, failed]⟩
  | @later s t ss ts same _ ih =>
      by_cases clash : s.Clash t
      · obtain ⟨n, beyond, failed⟩ := Identifier.compareBuild_eq_error clash
        exact ⟨n, beyond, by rw [orderBuilds, failed]⟩
      · obtain ⟨n, beyond, failed⟩ := ih
        refine ⟨n, beyond, ?_⟩
        rw [orderBuilds, Identifier.compareBuild_eq_ok clash,
          Identifier.buildOrder_eq_eq.mpr same, failed]

/-- At the first place where three builds are not all the same, the word of the second stands
between the numerals of the others. -/
inductive Straddle : List Identifier → List Identifier → List Identifier → Prop
  | here {p w q : Identifier} {ps ws qs : List Identifier} :
      Identifier.Between p w q → Straddle (p :: ps) (w :: ws) (q :: qs)
  | later {p w q : Identifier} {ps ws qs : List Identifier} :
      p.Same w → w.Same q → Straddle ps ws qs → Straddle (p :: ps) (w :: ws) (q :: qs)

theorem Straddle.lt_left {ps ws qs : List Identifier} (h : Straddle ps ws qs) :
    buildsOrder ps ws = .lt := by
  induction h with
  | here between => simp [buildsOrder, List.compareLex_cons_cons, between.lt_left]
  | later left right rest ih =>
      rw [buildsOrder, List.compareLex_cons_cons, Identifier.buildOrder_eq_eq.mpr left]
      exact ih

theorem Straddle.lt_right {ps ws qs : List Identifier} (h : Straddle ps ws qs) :
    buildsOrder ws qs = .lt := by
  induction h with
  | here between => simp [buildsOrder, List.compareLex_cons_cons, between.lt_right]
  | later left right rest ih =>
      rw [buildsOrder, List.compareLex_cons_cons, Identifier.buildOrder_eq_eq.mpr right]
      exact ih

theorem buildsOrder_trans {as bs cs : List Identifier} (hab : (buildsOrder as bs).isLE)
    (hbc : (buildsOrder bs cs).isLE) :
    (buildsOrder as cs).isLE ∨ Straddle as bs cs ∨ Straddle bs cs as ∨ Straddle cs as bs := by
  induction as generalizing bs cs with
  | nil => exact .inl List.isLE_compareLex_nil_left
  | cons a as ih =>
      cases bs with
      | nil => simp [buildsOrder, List.compareLex_cons_nil] at hab
      | cons b bs =>
          cases cs with
          | nil => simp [buildsOrder, List.compareLex_cons_nil] at hbc
          | cons c cs =>
              simp only [buildsOrder, List.compareLex_cons_cons,
                Ordering.isLE_then_iff_and] at hab hbc ⊢
              by_cases same : a.Same b ∧ b.Same c
              · obtain ⟨ab, bc⟩ := same
                have ac := ab.trans bc
                simp only [Identifier.buildOrder_eq_eq.mpr ab, Identifier.buildOrder_eq_eq.mpr bc,
                  Identifier.buildOrder_eq_eq.mpr ac, reduceCtorEq, false_or, Ordering.isLE_eq,
                  true_and] at hab hbc ⊢
                rcases ih hab hbc with le | first | second | third
                · exact .inl le
                · exact .inr (.inl (.later ab bc first))
                · exact .inr (.inr (.inl (.later bc ac.symm second)))
                · exact .inr (.inr (.inr (.later ac.symm ab third)))
              · rcases Identifier.buildOrder_trans hab.1 hbc.1 same with lt | first | second | third
                · exact .inl ⟨by simp [lt], .inl lt⟩
                · exact .inr (.inl (.here first))
                · exact .inr (.inr (.inl (.here second)))
                · exact .inr (.inr (.inr (.here third)))

end Version

end Overdue
