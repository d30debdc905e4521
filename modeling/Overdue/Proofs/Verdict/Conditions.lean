import Overdue.Proofs.Calendar.Reader
import Overdue.Verdict

/-!
# The conditions of a marker, one by one

A `Condition` is what a marker can set; `Marker.Sets` says that it does, with a form that can be
read where the form matters, and `Condition.Pending` that the condition is still ahead. Each of the
four checks behind a verdict is put in these terms, and `Marker.verdict_eq` puts a verdict together
from the checks: of a marker whose version code is no word, only the check of the version name can
leave the verdict open.
-/
namespace Overdue

/-- A condition under which a marker expires. -/
inductive Condition
  | removalDate (date : Date)
  | milestone (name : String)
  | versionCode (threshold : Int)
  | versionName (name : String)
deriving DecidableEq

/-- The marker sets the condition; a text that is no date sets none. -/
def Marker.Sets (m : Marker) : Condition → Prop
  | .removalDate date => m.removalDate = date.iso
  | .milestone name => m.milestone = name ∧ name ≠ ""
  | .versionCode threshold => m.versionCode = some (.number threshold)
  | .versionName name => m.versionName = name ∧ name ≠ ""

/-- The version code is a number or absent. -/
def Marker.HasNumericCode (m : Marker) : Prop := ∀ word, m.versionCode ≠ some (.word word)

/-- Both names are read as versions. -/
def Version.BothRead (threshold current : Option String) : Prop :=
  ∃ a b, readName threshold = .ok a ∧ readName current = .ok b

/-- Both names are read as versions, and the first ranks above the second. -/
def Version.Ahead (threshold current : Option String) (ranking : Ranking) : Prop :=
  ∃ a b, readName threshold = .ok a ∧ readName current = .ok b ∧ a.compare b ranking = .ok .gt

/-- The condition is still ahead of the project. A version name that cannot be compared is not. -/
def Condition.Pending (milestones : Milestones) (build : Build) (today : Date)
    (ranking : Version.Ranking) : Condition → Prop
  | .removalDate date => today.Before date
  | .milestone name => milestones.contains name = true
  | .versionCode threshold => ∀ code, build.versionCode = some code → code < threshold
  | .versionName name => Version.Ahead (some name) build.versionName ranking

namespace Verdict

/-! ## The removal date -/

/-- The errors that a removal date gives rise to: one if it is set but no day of the calendar. -/
def DateErrors (m : Marker) (errors : List ParseError) : Prop :=
  (m.removalDate = "" ∨ ∃ date : Date, m.removalDate = date.iso) ∧ errors = [] ∨
    (m.removalDate ≠ "" ∧ ∀ date : Date, m.removalDate ≠ date.iso) ∧
      ∃ fault, Date.read m.removalDate = .error fault ∧
        errors = [⟨.removalDate, m.removalDate, dateMessage m.removalDate fault⟩]

theorem dateErrors (m : Marker) (today : Date) :
    DateErrors m (dateCondition m today).2.toList := by
  unfold dateCondition
  split
  · rename_i unset
    exact .inl ⟨.inl unset, rfl⟩
  · rename_i set
    split
    · rename_i date readable
      exact .inl ⟨.inr ⟨date, Date.read_eq_ok_iff.mp readable⟩, rfl⟩
    · rename_i fault unreadable
      refine .inr ⟨⟨set, fun date written => ?_⟩, fault, unreadable, rfl⟩
      rw [Date.read_eq_ok_iff.mpr written] at unreadable
      cases unreadable

theorem dateCondition_met_iff (m : Marker) (today : Date) :
    (dateCondition m today).1 = false ↔
      ∀ date, m.Sets (.removalDate date) → today.Before date := by
  unfold dateCondition Marker.Sets
  split
  · rename_i unset
    exact ⟨fun _ date written => absurd (written.symm.trans unset) date.iso_ne_empty, fun _ => rfl⟩
  · split
    · rename_i date readable
      have written := Date.read_eq_ok_iff.mp readable
      dsimp only
      rw [decide_eq_false_iff_not, Date.not_le_iff_before]
      constructor
      · rintro before date' written'
        rw [written', Date.read_iso] at readable
        cases readable
        exact before
      · exact fun all => all date written
    · rename_i fault unreadable
      refine ⟨fun _ date written => ?_, fun _ => rfl⟩
      rw [Date.read_eq_ok_iff.mpr written] at unreadable
      cases unreadable

/-! ## The milestone and the version code -/

theorem milestoneCondition_met_iff (m : Marker) (milestones : Milestones) :
    milestoneCondition m milestones = false ↔
      ∀ name, m.Sets (.milestone name) → milestones.contains name = true := by
  simp only [milestoneCondition, Marker.Sets, Bool.and_eq_false_iff, bne_eq_false_iff_eq,
    Bool.not_eq_false']
  constructor
  · rintro (unset | declared) name ⟨rfl, set⟩
    · exact absurd unset set
    · exact declared
  · intro all
    by_cases unset : m.milestone = ""
    · exact .inl unset
    · exact .inr (all m.milestone ⟨rfl, unset⟩)

/-- Whether the build has reached the version code; a word is never reached. -/
def codeReached (m : Marker) (build : Build) : Bool :=
  match m.versionCode, build.versionCode with
  | some (.number threshold), some code => decide (threshold ≤ code)
  | _, _ => false

theorem versionCodeCondition_eq_ok {m : Marker} (numeric : m.HasNumericCode) (build : Build) :
    versionCodeCondition m build = .ok (codeReached m build) := by
  unfold versionCodeCondition codeReached
  cases set : m.versionCode with
  | none => rfl
  | some threshold =>
      cases threshold with
      | number threshold => cases build.versionCode <;> rfl
      | word word => exact absurd set (numeric word)

theorem codeReached_iff (m : Marker) (build : Build) :
    codeReached m build = false ↔
      ∀ threshold, m.Sets (.versionCode threshold) →
        ∀ code, build.versionCode = some code → code < threshold := by
  unfold codeReached Marker.Sets
  split
  · rename_i threshold code set known
    simp only [decide_eq_false_iff_not, Int.not_le, set, known, Option.some.injEq,
      Threshold.number.injEq, forall_eq']
  · rename_i other
    refine ⟨fun _ threshold set code known => ?_, fun _ => rfl⟩
    exact absurd known (other threshold code set)

/-! ## The version name -/

variable {m : Marker} {build : Build} {ranking : Version.Ranking}

/-- The errors that a version name gives rise to: one if it is set and it, or that of the build,
cannot be read. -/
def NameErrors (m : Marker) (build : Build) (errors : List ParseError) : Prop :=
  (m.versionName = "" ∨ Version.BothRead (some m.versionName) build.versionName) ∧ errors = [] ∨
    (m.versionName ≠ "" ∧ ¬ Version.BothRead (some m.versionName) build.versionName) ∧
      errors =
        [⟨.versionName, m.versionName, versionMessage m.versionName build.versionName⟩]

theorem versionNameCondition_of_both {threshold current : Version} (set : m.versionName ≠ "")
    (left : Version.readName (some m.versionName) = .ok threshold)
    (right : Version.readName build.versionName = .ok current) :
    versionNameCondition m build ranking =
      match threshold.compare current ranking with
      | .ok o => .ok (o != .gt, none)
      | .error digits => .error (.numeralTooLong digits) := by
  cases compared : threshold.compare current ranking <;>
    simp only [versionNameCondition, if_neg set, left, right, compared]

theorem versionNameCondition_of_not_both (set : m.versionName ≠ "")
    (unread : ¬ Version.BothRead (some m.versionName) build.versionName) :
    versionNameCondition m build ranking = .ok (true, some
      ⟨.versionName, m.versionName, versionMessage m.versionName build.versionName⟩) := by
  unfold versionNameCondition
  rw [if_neg set]
  split
  · rename_i threshold current left right
    exact absurd ⟨threshold, current, left, right⟩ unread
  · rfl

/-- What the check of a version name comes to. -/
inductive NameCheck (m : Marker) (build : Build) (ranking : Version.Ranking) :
    Except Undecided (Bool × Option ParseError) → Prop
  | unset : m.versionName = "" → NameCheck m build ranking (.ok (false, none))
  | compared {threshold current : Version} {o : Ordering} :
      m.versionName ≠ "" → Version.readName (some m.versionName) = .ok threshold →
        Version.readName build.versionName = .ok current →
          threshold.compare current ranking = .ok o →
            NameCheck m build ranking (.ok (o != .gt, none))
  | tooLong {threshold current : Version} {digits : Nat} :
      m.versionName ≠ "" → Version.readName (some m.versionName) = .ok threshold →
        Version.readName build.versionName = .ok current →
          threshold.compare current ranking = .error digits →
            NameCheck m build ranking (.error (.numeralTooLong digits))
  | unread : m.versionName ≠ "" → ¬ Version.BothRead (some m.versionName) build.versionName →
      NameCheck m build ranking (.ok (true, some
        ⟨.versionName, m.versionName, versionMessage m.versionName build.versionName⟩))

theorem nameCheck (m : Marker) (build : Build) (ranking : Version.Ranking) :
    NameCheck m build ranking (versionNameCondition m build ranking) := by
  by_cases unset : m.versionName = ""
  · rw [versionNameCondition, if_pos unset]
    exact .unset unset
  by_cases both : Version.BothRead (some m.versionName) build.versionName
  · obtain ⟨threshold, current, left, right⟩ := both
    rw [versionNameCondition_of_both unset left right]
    cases compared : threshold.compare current ranking with
    | ok o => exact .compared unset left right compared
    | error digits => exact .tooLong unset left right compared
  · rw [versionNameCondition_of_not_both unset both]
    exact .unread unset both

theorem nameErrors {met : Bool} {error : Option ParseError}
    (h : versionNameCondition m build ranking = .ok (met, error)) :
    NameErrors m build error.toList := by
  have check := nameCheck m build ranking
  rw [h] at check
  cases check with
  | unset unset => exact .inl ⟨.inl unset, rfl⟩
  | compared set left right => exact .inl ⟨.inr ⟨_, _, left, right⟩, rfl⟩
  | unread set unread => exact .inr ⟨⟨set, unread⟩, rfl⟩

theorem versionNameCondition_met_iff {met : Bool} {error : Option ParseError}
    (h : versionNameCondition m build ranking = .ok (met, error)) :
    met = false ↔
      ∀ name, m.Sets (.versionName name) → Version.Ahead (some name) build.versionName ranking := by
  have check := nameCheck m build ranking
  rw [h] at check
  cases check with
  | unset unset =>
      refine ⟨fun _ name sets => ?_, fun _ => rfl⟩
      exact absurd (sets.1.symm.trans unset) sets.2
  | @compared threshold current o set left right compared =>
      constructor
      · rintro above name ⟨rfl, -⟩
        have gt : o = .gt := by simpa using above
        exact ⟨threshold, current, left, right, by rw [compared, gt]⟩
      · intro all
        obtain ⟨a, b, readA, readB, above⟩ := all m.versionName ⟨rfl, set⟩
        cases left.symm.trans readA
        cases right.symm.trans readB
        cases compared.symm.trans above
        rfl
  | unread set unread =>
      refine ⟨fun met => absurd met (by simp), fun all => ?_⟩
      obtain ⟨a, b, readA, readB, -⟩ := all m.versionName ⟨rfl, set⟩
      exact absurd ⟨a, b, readA, readB⟩ unread

end Verdict

/-! ## The verdict from its checks -/

namespace Marker

/-- The marker without a removal date that cannot be read. -/
def usable (m : Marker) (today : Date) : Marker :=
  if (Verdict.dateCondition m today).2.isSome then { m with removalDate := "" } else m

/-- Of a marker whose version code is no word, the verdict is open only if the check of the version
name is. -/
theorem verdict_eq {m : Marker} (numeric : m.HasNumericCode) (milestones : Milestones)
    (build : Build) (today : Date) (ranking : Version.Ranking) :
    m.verdict milestones build today ranking =
      (Verdict.versionNameCondition m build ranking).map fun (nameMet, nameError) =>
        ⟨!(m.usable today).hasCondition || (Verdict.dateCondition m today).1 ||
            Verdict.milestoneCondition m milestones || Verdict.codeReached m build || nameMet,
          (Verdict.dateCondition m today).2.toList ++ nameError.toList⟩ := by
  unfold verdict
  rw [Verdict.versionCodeCondition_eq_ok numeric]
  cases Verdict.versionNameCondition m build ranking with
  | error undecided => rfl
  | ok checked =>
      change (if (!(m.usable today).hasCondition || (Verdict.dateCondition m today).1 ||
        Verdict.milestoneCondition m milestones) = true then _ else _) = _
      dsimp only [Except.map]
      split
      · rename_i decided
        rw [decided]
        rfl
      · rename_i undecided
        rw [Bool.eq_false_iff.mpr undecided]
        rfl

theorem usable_eq (m : Marker) (today : Date) :
    m.usable today = { m with removalDate := (m.usable today).removalDate } := by
  unfold usable
  split <;> rfl

theorem usable_removalDate_iff (m : Marker) (today : Date) :
    (m.usable today).removalDate ≠ "" ↔ ∃ date, m.Sets (.removalDate date) := by
  unfold usable
  rcases Verdict.dateErrors m today with ⟨readable, none⟩ | ⟨⟨set, unreadable⟩, fault, -, one⟩
  · rw [Option.toList_eq_nil_iff.mp none]
    simp only [Option.isSome_none, Bool.false_eq_true, if_false, Sets]
    rcases readable with unset | ⟨date, written⟩
    · refine ⟨fun set => absurd unset set, ?_⟩
      rintro ⟨date, written⟩
      exact absurd (written.symm.trans unset) date.iso_ne_empty
    · exact ⟨fun _ => ⟨date, written⟩, fun _ => written ▸ date.iso_ne_empty⟩
  · rw [Option.toList_eq_singleton_iff.mp one]
    simp only [Option.isSome_some, if_true, ne_eq, not_true_eq_false, false_iff, not_exists]
    exact unreadable

theorem hasCondition_iff {m : Marker} (numeric : m.HasNumericCode) :
    m.hasCondition = true ↔
      ((m.removalDate ≠ "" ∨ m.milestone ≠ "") ∨ m.versionName ≠ "") ∨
        ∃ threshold, m.Sets (.versionCode threshold) := by
  unfold hasCondition Sets
  simp only [Bool.or_eq_true, bne_iff_ne]
  cases set : m.versionCode with
  | none => simp
  | some threshold =>
      cases threshold with
      | number threshold => simp
      | word word => exact absurd set (numeric word)

/-- What can be used of a marker holds a condition exactly if the marker sets one. -/
theorem usable_hasCondition_iff {m : Marker} (numeric : m.HasNumericCode) (today : Date) :
    (m.usable today).hasCondition = true ↔ ∃ condition, m.Sets condition := by
  have date := m.usable_removalDate_iff today
  have same : ({ m with removalDate := (m.usable today).removalDate } : Marker).HasNumericCode :=
    numeric
  rw [usable_eq, hasCondition_iff same]
  dsimp only
  rw [date]
  constructor
  · rintro (((⟨date, sets⟩ | milestone) | name) | ⟨threshold, sets⟩)
    · exact ⟨_, sets⟩
    · exact ⟨.milestone m.milestone, rfl, milestone⟩
    · exact ⟨.versionName m.versionName, rfl, name⟩
    · exact ⟨.versionCode threshold, sets⟩
  · rintro ⟨condition, sets⟩
    cases condition with
    | removalDate date => exact .inl (.inl (.inl ⟨date, sets⟩))
    | milestone name => exact .inl (.inl (.inr (sets.1 ▸ sets.2)))
    | versionName name => exact .inl (.inr (sets.1 ▸ sets.2))
    | versionCode threshold => exact .inr ⟨threshold, sets⟩

end Marker

end Overdue
