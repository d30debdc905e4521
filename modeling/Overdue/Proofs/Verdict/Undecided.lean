import Overdue.Proofs.Marker.Declared
import Overdue.Proofs.Scan.Isolation
import Overdue.Proofs.Version.Comparison

/-!
# When nothing is decided about a marker

A declared marker is decided unless its version names are read and cannot be compared. There are two
causes for that. It `HitsLimit`: the names are of one precedence, and a numeral beyond the digit
limit decides between their builds. Or the library that ranks versions `Stops` at the names, which
one under the digit limit does at numerals of the prereleases (`stops_limited_iff`).
`undecided_iff_hitsLimit` says so for every library that ranks by precedence, and that a scan loses
exactly these markers: it counts each as a failure and reports nothing about it. `elevens` is such a
marker.
-/
namespace Overdue

/-- Comparing the version names gets to a numeral beyond the digit limit. The two agree in their
three numbers and in their prereleases, and it stands against a numeral in the builds. -/
def Marker.HitsLimit (m : Marker) (build : Build) : Prop :=
  ∃ threshold current, Version.readName (some m.versionName) = .ok threshold ∧
    Version.readName build.versionName = .ok current ∧
    (threshold.major = current.major ∧ threshold.minor = current.minor ∧
      threshold.patch = current.patch) ∧
    threshold.prerelease = current.prerelease ∧
    Version.Obstructed threshold.build current.build

/-- The version names are read, and the ranking stops at them. -/
def Marker.Stops (m : Marker) (ranking : Version.Ranking) (build : Build) : Prop :=
  ∃ threshold current, Version.readName (some m.versionName) = .ok threshold ∧
    Version.readName build.versionName = .ok current ∧ ∃ n, ranking threshold current = .error n

/-- The ranking under the digit limit stops where versions agree in their three numbers and a
numeral stands against a numeral in the prereleases. -/
theorem Marker.stops_limited_iff {m : Marker} {build : Build} :
    m.Stops Version.limited build ↔
      ∃ threshold current, Version.readName (some m.versionName) = .ok threshold ∧
        Version.readName build.versionName = .ok current ∧
        (threshold.major = current.major ∧ threshold.minor = current.minor ∧
          threshold.patch = current.patch) ∧
        Version.Obstructed threshold.prerelease current.prerelease := by
  simp only [Stops, ← Version.orderCore_eq_eq]
  constructor
  · rintro ⟨threshold, current, left, right, n, stopped⟩
    refine ⟨threshold, current, left, right, ?_⟩
    by_contra clear
    rw [Version.limited_eq_ok fun tie obstructed => clear ⟨tie, obstructed⟩] at stopped
    cases stopped
  · rintro ⟨threshold, current, left, right, tie, obstructed⟩
    obtain ⟨n, -, stopped⟩ := Version.limited_eq_error tie obstructed
    exact ⟨threshold, current, left, right, n, stopped⟩

variable {ranking : Version.Ranking}

namespace Verdict

variable {m : Marker} {build : Build}

theorem hitsLimit_iff_obstructs {threshold current : Version}
    (left : Version.readName (some m.versionName) = .ok threshold)
    (right : Version.readName build.versionName = .ok current) :
    m.HitsLimit build ↔ threshold.Obstructs current := by
  have tie := Version.prereleaseOrder_eq_eq (Version.prerelease_of_readName left)
    (Version.prerelease_of_readName right)
  unfold Version.Obstructs Version.precedence
  rw [Ordering.then_eq_eq, Version.orderCore_eq_eq, tie, and_assoc]
  constructor
  · rintro ⟨a, b, readA, readB, found⟩
    cases left.symm.trans readA
    cases right.symm.trans readB
    exact found
  · exact fun found => ⟨threshold, current, left, right, found⟩

theorem stops_iff {threshold current : Version}
    (left : Version.readName (some m.versionName) = .ok threshold)
    (right : Version.readName build.versionName = .ok current) :
    m.Stops ranking build ↔ ∃ n, ranking threshold current = .error n := by
  constructor
  · rintro ⟨a, b, readA, readB, stopped⟩
    cases left.symm.trans readA
    cases right.symm.trans readB
    exact stopped
  · exact fun stopped => ⟨threshold, current, left, right, stopped⟩

theorem ne_empty_of_readName {name : String} {v : Version}
    (h : Version.readName (some name) = .ok v) : name ≠ "" := by
  rintro rfl
  cases h

/-- The check of a version name is left open for these two causes, and goes through otherwise. -/
theorem versionNameCondition_outcome (faithful : Version.IsPrecedence ranking) (m : Marker)
    (build : Build) :
    ((m.HitsLimit build ∨ m.Stops ranking build) ∧
        ∃ n, versionNameCondition m build ranking = .error (.numeralTooLong n)) ∨
      ¬ (m.HitsLimit build ∨ m.Stops ranking build) ∧
        ∃ checked, versionNameCondition m build ranking = .ok checked := by
  by_cases both : Version.BothRead (some m.versionName) build.versionName
  · obtain ⟨threshold, current, left, right⟩ := both
    have cause : m.HitsLimit build ∨ m.Stops ranking build ↔
        ∃ n, threshold.compare current ranking = .error n := by
      rw [hitsLimit_iff_obstructs left right, stops_iff left right]
      exact or_comm.trans (Version.compare_isError_iff faithful).symm
    rw [cause, versionNameCondition_of_both (ne_empty_of_readName left) left right]
    cases compared : threshold.compare current ranking <;> simp
  · right
    constructor
    · rintro (⟨a, b, left, right, -⟩ | ⟨a, b, left, right, -⟩) <;> exact both ⟨a, b, left, right⟩
    · by_cases unset : m.versionName = ""
      · exact ⟨_, if_pos unset⟩
      · exact ⟨_, versionNameCondition_of_not_both unset both⟩

end Verdict

namespace Marker

theorem verdict_outcome (faithful : Version.IsPrecedence ranking) {m : Marker}
    (numeric : m.HasNumericCode) (milestones : Milestones) (build : Build) (today : Date) :
    ((m.HitsLimit build ∨ m.Stops ranking build) ∧
        ∃ n, m.verdict milestones build today ranking = .error (.numeralTooLong n)) ∨
      ¬ (m.HitsLimit build ∨ m.Stops ranking build) ∧
        ∃ v, m.verdict milestones build today ranking = .ok v := by
  rw [verdict_eq numeric milestones build today ranking]
  rcases Verdict.versionNameCondition_outcome faithful m build with
    ⟨cause, n, failed⟩ | ⟨clear, checked, went⟩
  · exact .inl ⟨cause, n, by rw [failed]; rfl⟩
  · exact .inr ⟨clear, _, by rw [went]; rfl⟩

theorem verdict_isOk_iff (faithful : Version.IsPrecedence ranking) {m : Marker}
    (numeric : m.HasNumericCode) (milestones : Milestones) (build : Build) (today : Date) :
    (m.verdict milestones build today ranking).isOk = true ↔
      ¬ (m.HitsLimit build ∨ m.Stops ranking build) := by
  rcases verdict_outcome faithful numeric milestones build today with
    ⟨cause, n, failed⟩ | ⟨clear, v, decided⟩
  · rw [failed]
    exact iff_of_false nofun (not_not.mpr cause)
  · rw [decided]
    exact iff_of_true rfl clear

end Marker

/-! ## What a scan loses -/

open scoped Classical in
/-- **A numeral of build metadata beyond the digit limit is fatal**, and nothing else in the
program is: the markers that hit the limit, or at which the library that ranks versions stops, have
no verdict, are the failures of a scan, and are not reported. -/
theorem undecided_iff_hitsLimit (faithful : Version.IsPrecedence ranking) {markers : List Marker}
    (declared : ∀ m ∈ markers, m.Declared) (names : List String) (build : Build) (today : Date) :
    let scan := Scan.run names markers build today (fun _ => false) ranking
    (∀ m ∈ markers, ∀ milestones : Milestones,
      (m.HitsLimit build ∨ m.Stops ranking build →
        ∃ n, m.verdict milestones build today ranking = .error (.numeralTooLong n)) ∧
      (¬ (m.HitsLimit build ∨ m.Stops ranking build) →
        ∃ v, m.verdict milestones build today ranking = .ok v)) ∧
    scan.summary.failures =
      markers.countP (fun m => m.HitsLimit build ∨ m.Stops ranking build) ∧
    ∀ d ∈ scan.delivered, ∃ m ∈ markers, d.marker = some m ∧
      ¬ (m.HitsLimit build ∨ m.Stops ranking build) := by
  intro scan
  obtain ⟨delivered, failures⟩ := Scan.run_accepting names markers build today ranking
  refine ⟨fun m member milestones => ?_, ?_, fun d handed => ?_⟩
  · rcases Marker.verdict_outcome faithful (declared m member).hasNumericCode milestones build
        today with ⟨cause, failed⟩ | ⟨clear, decided⟩
    · exact ⟨fun _ => failed, fun clear => absurd cause clear⟩
    · exact ⟨fun cause => absurd cause clear, fun _ => decided⟩
  · refine failures.trans (List.countP_congr fun m member => ?_)
    have decided := Marker.verdict_isOk_iff faithful (declared m member).hasNumericCode
      (Milestones.ofList names) build today
    rw [Bool.not_eq_true', ← Bool.not_eq_true, decided, not_not, decide_eq_true_iff]
  · rw [delivered] at handed
    obtain ⟨m, member, reported⟩ := List.mem_flatMap.mp handed
    obtain ⟨named, ok⟩ := Scan.marker_of_mem_reports reported
    exact ⟨m, member, named,
      (Marker.verdict_isOk_iff faithful (declared m member).hasNumericCode _ build today).mp ok⟩

/-! ## A marker that is lost -/

/-- A numeral with one digit more than can be read. -/
def repunit : Identifier := List.replicate (Numeral.digitLimit + 1) '1'

/-- Due with a build that cannot be compared. -/
def elevens : Marker := { versionName := String.ofList ("1.0.0+".toList ++ repunit) }

/-- The first build. -/
def firstBuild : Build := ⟨none, some "1.0.0+1"⟩

def release : Build := ⟨none, some "1.0.0"⟩

def auditDay : Date := ⟨2020, 12, 1, by decide⟩

theorem isOverlong_repunit : repunit.IsOverlong := by
  constructor
  · simp [repunit, Identifier.isNumeric]
  · simp [repunit]

theorem isBuild_repunit : repunit.isBuild = true := by
  have chars : ∀ c ∈ repunit, c = '1' := fun c member => (List.mem_replicate.mp member).2
  simp only [Identifier.isBuild, Bool.and_eq_true, List.all_eq_true]
  refine ⟨rfl, fun c member => ?_⟩
  rw [chars c member]
  rfl

theorem readName_elevens :
    Version.readName (some elevens.versionName) = .ok ⟨1, 0, 0, [], [repunit]⟩ :=
  Version.readName_of_read (Version.read_build isBuild_repunit)

theorem elevens_hitsLimit : elevens.HitsLimit firstBuild :=
  ⟨_, ⟨1, 0, 0, [], [['1']]⟩, readName_elevens, rfl, ⟨rfl, rfl, rfl⟩, rfl,
    .here ⟨⟨isOverlong_repunit.1, rfl⟩, .inl isOverlong_repunit.2⟩⟩

theorem elevens_declared : elevens.Declared :=
  ⟨[(.text "version_name", .text elevens.versionName)], none, rfl⟩

theorem undecided_iff_elevens_hitsLimit :
    let scan := Scan.run [] [elevens, {}] firstBuild auditDay fun _ => false
    (Version.IsPrecedence Version.limited ∧ (∀ m ∈ [elevens, {}], m.Declared) ∧
      elevens.HitsLimit firstBuild) ∧
      (∃ n, elevens.verdict (Milestones.ofList []) firstBuild auditDay =
        .error (.numeralTooLong n)) ∧
      (∃ v, Marker.verdict {} (Milestones.ofList []) firstBuild auditDay = .ok v) ∧
      ∀ d ∈ scan.delivered, d.marker = some {} := by
  intro scan
  have declared : ∀ m ∈ [elevens, {}], m.Declared := by
    intro m member
    rcases List.mem_pair.mp member with rfl | rfl
    · exact elevens_declared
    · exact ⟨[], none, rfl⟩
  have clear : ¬ (Marker.HitsLimit {} firstBuild ∨ Marker.Stops {} Version.limited firstBuild) := by
    rintro (⟨_, _, unread, -⟩ | ⟨_, _, unread, -⟩) <;> cases unread
  obtain ⟨verdicts, -, reported⟩ :=
    undecided_iff_hitsLimit Version.isPrecedence_limited declared [] firstBuild auditDay
  refine ⟨⟨Version.isPrecedence_limited, declared, elevens_hitsLimit⟩,
    (verdicts elevens (by simp) _).1 (.inl elevens_hitsLimit),
    (verdicts {} (by simp) _).2 clear, fun d handed => ?_⟩
  obtain ⟨m, member, named, reported⟩ := reported d handed
  rcases List.mem_pair.mp member with rfl | rfl
  · exact absurd (.inl elevens_hitsLimit) reported
  · exact named

/-- **A declared marker without a verdict**: a scan of it alone counts one failure and reports
nothing. -/
theorem elevens_undecided :
    elevens.Declared ∧
      (∃ n, elevens.verdict (Milestones.ofList []) firstBuild auditDay =
        .error (.numeralTooLong n)) ∧
      (Scan.run [] [elevens] firstBuild auditDay fun _ => false).summary.failures = 1 ∧
      (Scan.run [] [elevens] firstBuild auditDay fun _ => false).delivered = [] := by
  have failed : ∃ n, elevens.verdict (Milestones.ofList []) firstBuild auditDay =
      .error (.numeralTooLong n) := by
    rcases Marker.verdict_outcome Version.isPrecedence_limited elevens_declared.hasNumericCode
        (Milestones.ofList []) firstBuild auditDay with ⟨-, failed⟩ | ⟨clear, -⟩
    · exact failed
    · exact absurd (.inl elevens_hitsLimit) clear
  obtain ⟨delivered, failures⟩ := Scan.run_accepting [] [elevens] firstBuild auditDay
  dsimp only at delivered failures
  refine ⟨elevens_declared, failed, ?_, ?_⟩
  · obtain ⟨n, failed⟩ := failed
    rw [failures, List.countP_singleton, failed]
    rfl
  · obtain ⟨n, failed⟩ := failed
    rw [delivered, List.flatMap_singleton, failed]
    rfl

end Overdue
