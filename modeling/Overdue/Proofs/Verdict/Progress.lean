import Overdue.Proofs.Verdict.Conditions
import Overdue.Proofs.Version.Comparison

/-!
# Expiry is never taken back

A `Situation` is what a verdict depends on beside the marker. It makes progress if days pass,
milestones go, the version code does not fall, and the version name stays or rises in precedence.
`expired_of_progress` says that a marker that has expired stays so, whichever library ranks the
versions by precedence.

Each check behind a verdict is monotone by itself. Comparing version names breaks ties of precedence
by build metadata, which is no preorder. But a rise in precedence leaves no tie behind, so that
precedence, which is one, carries the check over.
-/
namespace Overdue

open Std

/-- What a verdict depends on beside the marker. -/
structure Situation where
  milestones : Milestones
  build : Build
  today : Date

/-- Both names are read as versions, and the second is of higher precedence, by numerals of any
length. -/
def Version.Rises (before after : Option String) : Prop :=
  ∃ a b, readName before = .ok a ∧ readName after = .ok b ∧ a.precedence b = .lt

/-- The version code is unknown before, or known before and after and does not fall. -/
def Build.CodeGrows (before after : Build) : Prop :=
  before.versionCode = none ∨
    ∃ code code', before.versionCode = some code ∧ after.versionCode = some code' ∧ code ≤ code'

/-- The second situation is one that the project may reach from the first. -/
structure Situation.Progress (s t : Situation) : Prop where
  today : s.today ≤ t.today
  milestones : ∀ name, t.milestones.contains name = true → s.milestones.contains name = true
  versionCode : s.build.CodeGrows t.build
  versionName : s.build.versionName = t.build.versionName ∨
    Version.Rises s.build.versionName t.build.versionName

/-! ## Versions -/

namespace Version

/-- A version that is reached stays below all that are of higher precedence than what reached it. -/
theorem compare_lt_of_precedence {ranking : Ranking} (faithful : IsPrecedence ranking)
    {a b c : Version} {o o' : Ordering} (ab : a.compare b ranking = .ok o) (reached : o ≠ .gt)
    (bc : b.precedence c = .lt) (ac : a.compare c ranking = .ok o') : o' = .lt := by
  have atMost : (a.order b).isLE := by
    rw [order_of_compare faithful ab]
    cases o <;> simp_all
  have le : (a.precedence b).isLE := (Ordering.isLE_then_iff_and.mp atMost).1
  have lt : a.precedence c = .lt := TransCmp.lt_of_isLE_of_lt le bc
  rw [← order_of_compare faithful ac, order, lt]
  rfl

end Version

/-! ## The checks -/

namespace Verdict

theorem dateCondition_error (m : Marker) (today today' : Date) :
    (dateCondition m today).2 = (dateCondition m today').2 := by
  unfold dateCondition
  split
  · rfl
  · split <;> rfl

theorem dateCondition_of_le {m : Marker} {today today' : Date} (le : today ≤ today')
    (met : (dateCondition m today).1 = true) : (dateCondition m today').1 = true := by
  unfold dateCondition at met ⊢
  split
  · rename_i unset
    simp [unset] at met
  · rename_i set
    rw [if_neg set] at met
    split
    · rename_i removal readable
      rw [readable] at met
      have come : removal ≤ today := by simpa using met
      have later : removal ≤ today' := Nat.le_trans come le
      simpa using later
    · rename_i fault unreadable
      rw [unreadable] at met
      cases met

theorem milestoneCondition_of_subset {m : Marker} {before after : Milestones}
    (subset : ∀ name, after.contains name = true → before.contains name = true)
    (met : milestoneCondition m before = true) : milestoneCondition m after = true := by
  simp only [milestoneCondition, Bool.and_eq_true, bne_iff_ne, Bool.not_eq_true'] at met ⊢
  refine ⟨met.1, ?_⟩
  rw [Bool.eq_false_iff]
  intro declared
  rw [subset m.milestone declared] at met
  cases met.2

theorem codeReached_of_grows {m : Marker} {before after : Build} (grows : before.CodeGrows after)
    (met : codeReached m before = true) : codeReached m after = true := by
  unfold codeReached at met
  split at met
  · rename_i threshold code set known
    have reached : threshold ≤ code := by simpa using met
    rcases grows with unknown | ⟨code', code'', known', after, le⟩
    · cases known.symm.trans unknown
    · cases known.symm.trans known'
      have still : threshold ≤ code'' := Int.le_trans reached le
      simpa [codeReached, set, after] using still
  · cases met

/-- A word in the place of a version code leaves the check open unless the build has no code. -/
theorem codeReached_of_condition {m : Marker} {build : Build} {met : Bool}
    (h : versionCodeCondition m build = .ok met) : met = codeReached m build := by
  unfold versionCodeCondition at h
  unfold codeReached
  split at h <;> simp_all

variable {ranking : Version.Ranking}

theorem versionNameCondition_congr {m : Marker} {before after : Build}
    (same : before.versionName = after.versionName) :
    versionNameCondition m before ranking = versionNameCondition m after ranking := by
  unfold versionNameCondition
  rw [same]

theorem versionNameCondition_of_rises (faithful : Version.IsPrecedence ranking) {m : Marker}
    {before after : Build} {met met' : Bool} {error error' : Option ParseError}
    (rises : Version.Rises before.versionName after.versionName)
    (first : versionNameCondition m before ranking = .ok (met, error))
    (second : versionNameCondition m after ranking = .ok (met', error')) (reached : met = true) :
    met' = true := by
  obtain ⟨a, b, readA, readB, higher⟩ := rises
  have check := nameCheck m before ranking
  rw [first] at check
  have check' := nameCheck m after ranking
  rw [second] at check'
  cases check' with
  | unset unset =>
      cases check with
      | unset => cases reached
      | compared set => exact absurd unset set
      | unread set => exact absurd unset set
  | unread => rfl
  | @compared threshold current o set readThreshold readCurrent compared =>
      cases check with
      | unset unset => exact absurd unset set
      | unread _ unread => exact absurd ⟨threshold, a, readThreshold, readA⟩ unread
      | @compared threshold' current' o' _ readThreshold' readCurrent' compared' =>
          cases readThreshold.symm.trans readThreshold'
          cases readA.symm.trans readCurrent'
          cases readB.symm.trans readCurrent
          have notAbove : o' ≠ .gt := by simpa using reached
          rw [Version.compare_lt_of_precedence faithful compared' notAbove higher compared]
          rfl

theorem nameMet_of_progress (faithful : Version.IsPrecedence ranking) {m : Marker}
    {s t : Situation} {met met' : Bool} {error error' : Option ParseError}
    (progress : s.Progress t) (first : versionNameCondition m s.build ranking = .ok (met, error))
    (second : versionNameCondition m t.build ranking = .ok (met', error')) (reached : met = true) :
    met' = true := by
  rcases progress.versionName with same | rises
  · rw [versionNameCondition_congr same, second] at first
    cases first
    exact reached
  · exact versionNameCondition_of_rises faithful rises first second reached

end Verdict

/-! ## The verdict -/

namespace Marker

/-- A verdict is put together from the checks. The version code is looked at only where none of the
first three lets the marker expire, so this holds also of a marker whose version code is a word. -/
theorem checks_of_verdict {m : Marker} {milestones : Milestones} {build : Build} {today : Date}
    {v : Verdict} {ranking : Version.Ranking}
    (decided : m.verdict milestones build today ranking = .ok v) :
    ∃ nameMet nameError,
      Verdict.versionNameCondition m build ranking = .ok (nameMet, nameError) ∧ v = ⟨!(m.usable today).hasCondition || (Verdict.dateCondition m today).1 ||
          Verdict.milestoneCondition m milestones || Verdict.codeReached m build || nameMet,
        (Verdict.dateCondition m today).2.toList ++ nameError.toList⟩ := by
  unfold verdict at decided
  cases named : Verdict.versionNameCondition m build ranking with
  | error undecided =>
      rw [named] at decided
      cases decided
  | ok checked =>
      obtain ⟨nameMet, nameError⟩ := checked
      refine ⟨nameMet, nameError, rfl, ?_⟩
      rw [named] at decided
      change (if (!(m.usable today).hasCondition || (Verdict.dateCondition m today).1 ||
        Verdict.milestoneCondition m milestones) = true then _ else _) = _ at decided
      split at decided
      · rename_i early
        cases decided
        rw [early]
        rfl
      · rename_i late
        cases coded : Verdict.versionCodeCondition m build with
        | error undecided =>
            rw [coded] at decided
            cases decided
        | ok codeMet =>
            rw [coded] at decided
            cases decided
            rw [Bool.eq_false_iff.mpr late, Verdict.codeReached_of_condition coded]
            rfl

/-- Which checks let a marker expire. -/
theorem expired_iff {m : Marker} {milestones : Milestones} {build : Build} {today : Date}
    {v : Verdict} {ranking : Version.Ranking}
    (decided : m.verdict milestones build today ranking = .ok v) :
    ∃ nameMet nameError, Verdict.versionNameCondition m build ranking = .ok (nameMet, nameError) ∧
      (v.expired = true ↔
        (m.usable today).hasCondition = false ∨ (Verdict.dateCondition m today).1 = true ∨
          Verdict.milestoneCondition m milestones = true ∨ Verdict.codeReached m build = true ∨
            nameMet = true) := by
  obtain ⟨nameMet, nameError, named, rfl⟩ := checks_of_verdict decided
  exact ⟨nameMet, nameError, named, by simp [or_assoc]⟩

theorem usable_congr (m : Marker) (today today' : Date) : m.usable today = m.usable today' := by
  unfold usable
  rw [Verdict.dateCondition_error m today today']

end Marker

/-- **Expiry is never taken back**: progress of the project keeps every marker expired. -/
theorem expired_of_progress {m : Marker} {s t : Situation} {v w : Verdict}
    {ranking : Version.Ranking} (faithful : Version.IsPrecedence ranking) (progress : s.Progress t)
    (first : m.verdict s.milestones s.build s.today ranking = .ok v)
    (second : m.verdict t.milestones t.build t.today ranking = .ok w) (expired : v.expired = true) :
    w.expired = true := by
  obtain ⟨met, error, named, expired_iff⟩ := Marker.expired_iff first
  obtain ⟨met', error', named', expired_iff'⟩ := Marker.expired_iff second
  rw [expired_iff']
  rcases expired_iff.mp expired with condition | date | milestone | code | name
  · exact .inl (m.usable_congr t.today s.today ▸ condition)
  · exact .inr (.inl (Verdict.dateCondition_of_le progress.today date))
  · exact .inr (.inr (.inl (Verdict.milestoneCondition_of_subset progress.milestones milestone)))
  · exact .inr (.inr (.inr (.inl (Verdict.codeReached_of_grows progress.versionCode code))))
  · exact .inr (.inr (.inr (.inr (Verdict.nameMet_of_progress faithful progress named named' name))))

/-! ## A release candidate behind a threshold with build metadata -/

/-- Due with the second release candidate, from its ninth build on. -/
def candidate : Marker :=
  { removalDate := "2031-01-01"
    milestone := "GA"
    versionCode := some (.number 50)
    versionName := "1.0.0-rc.2+9" }

/-- Exactly the threshold, by build metadata. -/
def beforeRelease : Situation where
  milestones := ⟨["GA", "LTS"], true⟩
  build := ⟨none, some "1.0.0-rc.2+09"⟩
  today := ⟨2030, 12, 31, by decide⟩

/-- Of higher precedence, though as a text its prerelease is lower. -/
def laterCandidate : Situation where
  milestones := ⟨["GA"], true⟩
  build := ⟨some 49, some "1.0.0-rc.10+1"⟩
  today := ⟨2030, 12, 31, by decide⟩

theorem candidate_expired_of_progress :
    (Version.IsPrecedence Version.limited ∧ beforeRelease.Progress laterCandidate ∧
      candidate.verdict beforeRelease.milestones beforeRelease.build beforeRelease.today =
        .ok ⟨true, []⟩ ∧
      candidate.verdict laterCandidate.milestones laterCandidate.build laterCandidate.today =
        .ok ⟨true, []⟩) ∧
      Verdict.expired ⟨true, []⟩ = true := by
  have progress : beforeRelease.Progress laterCandidate := by
    refine ⟨Nat.le_refl _, ?_, .inl rfl, .inr ⟨_, _, rfl, rfl, rfl⟩⟩
    intro name declared
    simp_all [beforeRelease, laterCandidate, Milestones.contains]
  have first : candidate.verdict beforeRelease.milestones beforeRelease.build beforeRelease.today =
      .ok ⟨true, []⟩ := rfl
  have second : candidate.verdict laterCandidate.milestones laterCandidate.build
      laterCandidate.today = .ok ⟨true, []⟩ := rfl
  exact ⟨⟨Version.isPrecedence_limited, progress, first, second⟩,
    expired_of_progress Version.isPrecedence_limited progress first second rfl⟩

end Overdue
