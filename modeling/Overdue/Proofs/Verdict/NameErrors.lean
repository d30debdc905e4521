import Overdue.Proofs.Verdict.Progress
import Overdue.Proofs.Verdict.Undecided
import Overdue.Proofs.Version.WrittenForm

/-!
# When a version name is reported

A marker that sets a version name has an error for it exactly if the name, or that of the build,
cannot be read: it is missing, or it is no text of the grammar, or one of its numbers is beyond the
digit limit. `nameError_iff_unreadable` says so, however versions are ranked, and that the condition
then counts as met.

The digit limit is no part of the grammar: `repunitName_reported` is a version name that is reported
for its length alone.
-/
namespace Overdue

theorem Version.bothRead_iff {threshold current : Option String} :
    BothRead threshold current ↔ ¬ (Unreadable threshold ∨ Unreadable current) := by
  rw [not_or, ← exists_readName_iff, ← exists_readName_iff]
  constructor
  · rintro ⟨a, b, readA, readB⟩
    exact ⟨⟨a, readA⟩, ⟨b, readB⟩⟩
  · rintro ⟨⟨a, readA⟩, ⟨b, readB⟩⟩
    exact ⟨a, b, readA, readB⟩

theorem Verdict.field_of_mem_dateErrors {m : Marker} {today : Date} {e : ParseError}
    (member : e ∈ (dateCondition m today).2.toList) : e.field = .removalDate := by
  rcases dateErrors m today with ⟨-, none⟩ | ⟨-, fault, -, one⟩
  · rw [none] at member
    cases member
  · rw [one, List.mem_singleton] at member
    rw [member]

/-- **A version name is reported exactly if it, or that of the build, cannot be read.** Then the
condition counts as met, and what is reported is the marker's name. -/
theorem nameError_iff_unreadable {m : Marker} {milestones : Milestones} {build : Build}
    {today : Date} {v : Verdict} {ranking : Version.Ranking} (set : m.versionName ≠ "")
    (decided : m.verdict milestones build today ranking = .ok v) :
    ((∃ e ∈ v.parseErrors, e.field = .versionName) ↔
      Version.Unreadable (some m.versionName) ∨ Version.Unreadable build.versionName) ∧
    ∀ e ∈ v.parseErrors, e.field = .versionName →
      Verdict.versionNameCondition m build ranking = .ok (true, some e) ∧
        e.value = m.versionName ∧ v.expired = true := by
  obtain ⟨met, error, named, verdict⟩ := Marker.checks_of_verdict decided
  have errors := congrArg Verdict.parseErrors verdict
  have ofName : ∀ e ∈ v.parseErrors, e.field = .versionName → error = some e := by
    intro e member field
    rw [errors, List.mem_append] at member
    rcases member with ofDate | found
    · rw [Verdict.field_of_mem_dateErrors ofDate] at field
      cases field
    · exact Option.mem_toList.mp found
  have check := Verdict.nameCheck m build ranking
  rw [named] at check
  cases check with
  | unset unset => exact absurd unset set
  | compared _ readThreshold readCurrent compared =>
      have readable := Version.bothRead_iff.mp ⟨_, _, readThreshold, readCurrent⟩
      refine ⟨iff_of_false ?_ readable, ?_⟩
      · rintro ⟨e, member, field⟩
        cases ofName e member field
      · intro e member field
        cases ofName e member field
  | unread _ unread =>
      have unreadable := not_not.mp (mt Version.bothRead_iff.mpr unread)
      constructor
      · refine iff_of_true ?_ unreadable
        rw [errors]
        exact ⟨_, List.mem_append_right _ (List.mem_singleton_self _), rfl⟩
      · intro e member field
        cases ofName e member field
        refine ⟨named, rfl, ?_⟩
        rw [verdict, Bool.or_true]

/-- A numeral of the prerelease has a zero in front. -/
def zeroLed : Marker := { versionName := "1.0.0-rc.01" }

def zeroLedVerdict : Verdict :=
  ⟨true, [⟨.versionName, "1.0.0-rc.01", Verdict.versionMessage "1.0.0-rc.01" (some "1.0.0")⟩]⟩

theorem zeroLed_error_iff_unreadable :
    (zeroLed.versionName ≠ "" ∧
      zeroLed.verdict (Milestones.ofList []) release auditDay = .ok zeroLedVerdict) ∧
      ((∃ e ∈ zeroLedVerdict.parseErrors, e.field = .versionName) ↔
        Version.Unreadable (some "1.0.0-rc.01") ∨ Version.Unreadable (some "1.0.0")) ∧
      ∀ e ∈ zeroLedVerdict.parseErrors, e.field = .versionName →
        Verdict.versionNameCondition zeroLed release = .ok (true, some e) ∧
          e.value = "1.0.0-rc.01" ∧ zeroLedVerdict.expired = true := by
  have set : zeroLed.versionName ≠ "" := by decide
  have decided : zeroLed.verdict (Milestones.ofList []) release auditDay = .ok zeroLedVerdict := rfl
  exact ⟨⟨set, decided⟩, nameError_iff_unreadable set decided⟩

/-! ## A version name beyond the digit limit -/

/-- A version name whose first number has one digit more than can be read. -/
def repunitName : String := String.ofList (repunit ++ ".0.0".toList)

theorem written_repunitName :
    Version.Written ⟨[repunit, ['0'], ['0']], [], []⟩ repunitName.toList := by
  have number : repunit.IsNumber := by
    refine .inr ⟨'1', List.replicate Numeral.digitLimit '1', rfl, by decide, fun c member => ?_⟩
    rw [(List.mem_replicate.mp member).2]
    exact Identifier.isDigit_iff.mp rfl
  refine ⟨repunit ++ ".0.0".toList, [], [], ?_, ⟨by simp, ?_, ?_⟩, .inl ⟨rfl, rfl⟩, .inl ⟨rfl, rfl⟩⟩
  · rw [repunitName, String.toList_ofList, List.append_nil, List.append_nil]
  · intro i member
    simp only [List.mem_cons, List.not_mem_nil, or_false] at member
    rcases member with rfl | rfl | rfl
    · exact number
    · exact .inl rfl
    · exact .inl rfl
  · simp only [List.intercalate_cons_cons, List.intercalate_singleton, List.append_assoc]
    rfl

theorem hasOverlongNumber_repunitName : Version.HasOverlongNumber repunitName :=
  ⟨_, _, _, _, _, written_repunitName, repunit, List.mem_cons_self, isOverlong_repunit.2⟩

/-- **Not only what breaks the grammar is reported**: both names are of the grammar, and there is an
error all the same. -/
theorem repunitName_reported :
    let m : Marker := { versionName := repunitName }
    Version.IsSemVer repunitName ∧ Version.IsSemVer "1.0.0" ∧
      release.versionName = some "1.0.0" ∧
      ∃ v, m.verdict (Milestones.ofList []) release auditDay = .ok v ∧
        ∃ e ∈ v.parseErrors, e.field = .versionName := by
  intro m
  have set : m.versionName ≠ "" := by
    rw [Ne, ← String.toList_eq_nil_iff]
    simp [m, repunitName]
  have unread : ¬ Version.BothRead (some m.versionName) release.versionName := by
    rw [Version.bothRead_iff, not_not]
    exact .inl (.tooLong hasOverlongNumber_repunitName)
  have numeric : m.HasNumericCode := fun word h => by cases h
  refine ⟨⟨_, _, _, _, _, written_repunitName⟩, Version.isSemVer_of_read rfl, rfl, ?_⟩
  rw [Marker.verdict_eq numeric, Verdict.versionNameCondition_of_not_both set unread]
  exact ⟨_, rfl, _, List.mem_append_right _ (List.mem_singleton_self _), rfl⟩

end Overdue
