import Overdue.Proofs.Verdict.Conditions

/-!
# When a marker has not expired

`verdict_iff_pending`: a verdict's errors are those of the two fields with a form to keep, in a
fixed order, and the marker has not expired exactly if it sets a condition and every condition that
it sets is still ahead, however versions are ranked.
-/
namespace Overdue

/-- The conditions that a marker sets are pending if each of the four kinds is. -/
theorem Marker.forall_pending_iff (m : Marker) (milestones : Milestones) (build : Build)
    (today : Date) (ranking : Version.Ranking) :
    (∀ condition, m.Sets condition → condition.Pending milestones build today ranking) ↔
      (((∀ date, m.Sets (.removalDate date) → today.Before date) ∧
        ∀ name, m.Sets (.milestone name) → milestones.contains name = true) ∧
        ∀ threshold, m.Sets (.versionCode threshold) →
          ∀ code, build.versionCode = some code → code < threshold) ∧
        ∀ name, m.Sets (.versionName name) →
          Version.Ahead (some name) build.versionName ranking := by
  constructor
  · intro all
    exact ⟨⟨⟨fun date => all (.removalDate date), fun name => all (.milestone name)⟩,
      fun threshold => all (.versionCode threshold)⟩, fun name => all (.versionName name)⟩
  · rintro ⟨⟨⟨date, milestone⟩, code⟩, name⟩ condition
    cases condition with
    | removalDate d => exact date d
    | milestone n => exact milestone n
    | versionCode t => exact code t
    | versionName n => exact name n

/-- **A verdict is decided by the conditions that are set.** -/
theorem verdict_iff_pending {m : Marker} {milestones : Milestones} {build : Build} {today : Date}
    {v : Verdict} {ranking : Version.Ranking} (numeric : m.HasNumericCode)
    (decided : m.verdict milestones build today ranking = .ok v) :
    (∃ dateErrors nameErrors, v.parseErrors = dateErrors ++ nameErrors ∧
      Verdict.DateErrors m dateErrors ∧ Verdict.NameErrors m build nameErrors) ∧
    (v.expired = false ↔
      (∃ condition, m.Sets condition) ∧
        ∀ condition, m.Sets condition → condition.Pending milestones build today ranking) := by
  rw [Marker.verdict_eq numeric] at decided
  cases checked : Verdict.versionNameCondition m build ranking with
  | error undecided => rw [checked] at decided; cases decided
  | ok name =>
      rw [checked] at decided
      cases decided
      refine ⟨⟨_, _, rfl, Verdict.dateErrors m today, Verdict.nameErrors checked⟩, ?_⟩
      simp only [Bool.or_eq_false_iff, Bool.not_eq_false']
      rw [Marker.usable_hasCondition_iff numeric, Verdict.dateCondition_met_iff,
        Verdict.milestoneCondition_met_iff, Verdict.codeReached_iff,
        Verdict.versionNameCondition_met_iff checked, Marker.forall_pending_iff]
      simp only [and_assoc]

/-! ## A malformed date beside conditions that are ahead -/

/-- The date is none and counts as unset; three conditions are set. -/
def undated : Marker :=
  { removalDate := "01-01-2000"
    milestone := "M"
    versionCode := some (.number 0)
    versionName := "1.0.0" }

/-- Behind the marker's code, and behind its name by build metadata alone. -/
def earlyBuild : Build := ⟨some (-1), some "1.0.0+b1"⟩

def newYear : Date := ⟨2021, 1, 1, by decide⟩

def undatedVerdict : Verdict :=
  ⟨false, [⟨.removalDate, "01-01-2000",
    Verdict.dateMessage "01-01-2000" (.form "01-01-2000")⟩]⟩

theorem undated_iff_pending :
    (undated.HasNumericCode ∧
      undated.verdict ⟨["M"], true⟩ earlyBuild newYear = .ok undatedVerdict) ∧
      (∃ dateErrors nameErrors, undatedVerdict.parseErrors = dateErrors ++ nameErrors ∧
        Verdict.DateErrors undated dateErrors ∧
        Verdict.NameErrors undated earlyBuild nameErrors) ∧
      (undatedVerdict.expired = false ↔
        (∃ condition, undated.Sets condition) ∧
          ∀ condition, undated.Sets condition →
            condition.Pending ⟨["M"], true⟩ earlyBuild newYear Version.limited) := by
  have numeric : undated.HasNumericCode := fun word h => by cases h
  have decided : undated.verdict ⟨["M"], true⟩ earlyBuild newYear = .ok undatedVerdict := rfl
  exact ⟨⟨numeric, decided⟩, verdict_iff_pending numeric decided⟩

end Overdue
