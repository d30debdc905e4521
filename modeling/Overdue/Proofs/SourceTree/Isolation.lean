import Mathlib
import Overdue.Proofs.Source.Interruption
import Overdue.SourceTree

/-!
# Files are read on their own

`LocatedFile.own` is what a file declares by itself. Reading a source tree gives what its files
declare one after the other, and a file that is refused declares nothing and is one problem; but the
first file that breaks the reading off ends it for all of them: `reading_isolates_files`.
-/
namespace Overdue

namespace LocatedFile

section

variable (host : Host) (root : String) (f : LocatedFile)

/-- What a file declares by itself; nothing if its reading breaks off. -/
def own : List Source.Finding :=
  match f.findings host root with
  | .ok found => found
  | .error _ => []

def milestones : List String := (f.own host root).filterMap Source.Finding.milestone?

def markers : List Marker := (f.own host root).filterMap Source.Finding.marker?

def problems : List Problem := (f.own host root).filterMap Source.Finding.problem?

/-- The file cannot be read: it is not opened, it is no text, or the grammar refuses it. -/
def IsRefused : Prop := Source.IsRefused host (Path.join root f.path) f.bytes

/-- A cause breaks the reading of the file off. -/
def Breaks (cause : Source.Interruption) : Prop :=
  Source.Breaks host (Path.join root f.path) f.bytes cause

/-- Nothing breaks the reading of the file off. -/
def IsWhole : Prop := ∀ cause, ¬ f.Breaks host root cause

end

variable {host : Host} {root : String} {f : LocatedFile}

theorem findings_eq_error_iff {cause : Source.Interruption} :
    f.findings host root = .error cause ↔ f.Breaks host root cause :=
  Source.fileFindings_eq_error_iff

theorem IsWhole.findings (h : f.IsWhole host root) :
    f.findings host root = .ok (f.own host root) := by
  unfold own
  cases read : f.findings host root with
  | error cause => exact absurd (findings_eq_error_iff.mp read) (h cause)
  | ok found => rfl

theorem isWhole_of_findings {found : List Source.Finding}
    (h : f.findings host root = .ok found) : f.IsWhole host root := by
  intro cause breaks
  rw [findings_eq_error_iff.mpr breaks] at h
  cases h

theorem own_of_isRefused (h : f.IsRefused host root) :
    f.IsWhole host root ∧ ∃ p, f.own host root = [.problem p] ∧ p.path = some f.path := by
  obtain ⟨p, read, there⟩ := Source.fileFindings_of_isRefused h f.path
  refine ⟨isWhole_of_findings read, p, ?_, there⟩
  rw [own, findings, read]

end LocatedFile

namespace SourceTree

section

variable {host : Host} {root : String}

theorem findings_of_isWhole {before : List LocatedFile} (whole : ∀ f ∈ before, f.IsWhole host root)
    (after : List LocatedFile) :
    findings host root (before ++ after) =
      (before.flatMap (LocatedFile.own host root) ++ (findings host root after).1,
        (findings host root after).2) := by
  induction before with
  | nil => rfl
  | cons f before ih =>
      rw [List.forall_mem_cons] at whole
      rw [List.cons_append, findings, whole.1.findings, ih whole.2, List.flatMap_cons,
        List.append_assoc]

/-- The findings up to the first file that breaks the reading off, and why it does. -/
theorem findings_of_breaks {before after : List LocatedFile} {f : LocatedFile}
    {cause : Source.Interruption} (whole : ∀ g ∈ before, g.IsWhole host root)
    (breaks : f.Breaks host root cause) :
    findings host root (before ++ f :: after) =
      (before.flatMap (LocatedFile.own host root), some (.interruption cause)) := by
  rw [findings_of_isWhole whole, findings, LocatedFile.findings_eq_error_iff.mpr breaks]
  simp

end

variable {files : Files} {t : SourceTree} {located : List LocatedFile}

theorem collect_of_isWhole (fresh : t.kept = none) (selected : t.selected files = .ok located)
    (whole : ∀ f ∈ located, f.IsWhole files.host t.root) :
    t.collect files =
      ({ t with
          problems := t.problems ++ located.flatMap (LocatedFile.problems files.host t.root)
          kept := some (located.flatMap (LocatedFile.milestones files.host t.root),
            located.flatMap (LocatedFile.markers files.host t.root)) },
        none,
        [.collected (located.flatMap (LocatedFile.milestones files.host t.root)).length
          (located.flatMap (LocatedFile.markers files.host t.root)).length t.root]) := by
  have found := findings_of_isWhole whole []
  rw [List.append_nil] at found
  rw [collect, fresh]
  simp only [selected, found, findings, List.append_nil, List.filterMap_flatMap]
  rfl

theorem collect_of_breaks {before after : List LocatedFile} {f : LocatedFile}
    {cause : Source.Interruption} (fresh : t.kept = none)
    (whole : ∀ g ∈ before, g.IsWhole files.host t.root)
    (selected : t.selected files = .ok (before ++ f :: after))
    (breaks : f.Breaks files.host t.root cause) :
    t.collect files =
      ({ t with
          problems := t.problems ++ before.flatMap (LocatedFile.problems files.host t.root) },
        some (.interruption cause), []) := by
  rw [collect, fresh]
  simp only [selected, findings_of_breaks whole breaks, List.filterMap_flatMap]
  rfl

/-- **Files are read on their own, up to the first one that breaks the reading off.** If none does,
nothing fails, and what is found is what the files declare by themselves, one after the other; both
lists are kept. If one does, every reading fails for its reason and gives nothing. A file that is
refused never does: it declares nothing, and is one problem with its path. -/
theorem reading_isolates_files (fresh : t.kept = none) (selected : t.selected files = .ok located) :
    ((∀ f ∈ located, f.IsWhole files.host t.root) →
      (t.milestones files).2.failure = none ∧ (t.markers files).2.failure = none ∧
      (t.milestones files).2.items = located.flatMap (LocatedFile.milestones files.host t.root) ∧
      (t.markers files).2.items = located.flatMap (LocatedFile.markers files.host t.root) ∧
      (t.collect files).1 = { t with
        problems := t.problems ++ located.flatMap (LocatedFile.problems files.host t.root)
        kept := some (located.flatMap (LocatedFile.milestones files.host t.root),
          located.flatMap (LocatedFile.markers files.host t.root)) }) ∧
    (∀ before f after cause, located = before ++ f :: after →
      (∀ g ∈ before, g.IsWhole files.host t.root) → f.Breaks files.host t.root cause →
      (t.milestones files).2.failure = some (.interruption cause) ∧
      (t.markers files).2.failure = some (.interruption cause) ∧
      (t.milestones files).2.items = [] ∧ (t.markers files).2.items = [] ∧
      (t.collect files).1 = { t with
        problems := t.problems ++ before.flatMap (LocatedFile.problems files.host t.root) }) ∧
    ∀ f ∈ located, f.IsRefused files.host t.root →
      f.IsWhole files.host t.root ∧
      f.milestones files.host t.root = [] ∧ f.markers files.host t.root = [] ∧
      ∃ p, f.problems files.host t.root = [p] ∧ p.path = some f.path := by
  refine ⟨fun whole => ?_, fun before f after cause split whole breaks => ?_, fun f _ refused => ?_⟩
  · have collected := collect_of_isWhole fresh selected whole
    simp [milestones, markers, drain, collected]
  · subst split
    have collected := collect_of_breaks fresh whole selected breaks
    simp [milestones, markers, drain, collected, fresh]
  · obtain ⟨whole, p, own, there⟩ := LocatedFile.own_of_isRefused refused
    refine ⟨whole, ?_, ?_, p, ?_, there⟩
    · rw [LocatedFile.milestones, own]
      rfl
    · rw [LocatedFile.markers, own]
      rfl
    · rw [LocatedFile.problems, own]
      rfl

/-! ## Two trees -/

/-- A file that declares a milestone. -/
def declaring : LocatedFile :=
  ⟨"ok.py", "ok.py", Utf8.encode "milestone(r'A')".toList⟩

theorem findings_declaring : declaring.findings .ideal "/r" = .ok [.milestone "A"] := by
  cbv

theorem milestones_declaring : declaring.milestones .ideal "/r" = ["A"] := by
  rw [LocatedFile.milestones, LocatedFile.own, findings_declaring]
  rfl

theorem markers_declaring : declaring.markers .ideal "/r" = [] := by
  rw [LocatedFile.markers, LocatedFile.own, findings_declaring]
  rfl

/-- A file that is no text. -/
def undecodable : LocatedFile := ⟨"raw.py", "raw.py", [0xFF]⟩

def withUndecodable : Files :=
  { base := "/r", top := [("raw.py", .file undecodable.bytes), ("ok.py", .file declaring.bytes)] }

theorem withUndecodable_isolates_files :
    let t : SourceTree := { root := "/r" }
    t.kept = none ∧ t.selected withUndecodable = .ok [declaring, undecodable] ∧
      (t.milestones withUndecodable).2.failure = none ∧
      (t.milestones withUndecodable).2.items = ["A"] ∧
      (t.markers withUndecodable).2.items = [] ∧
      ∃ p, undecodable.problems .ideal "/r" = [p] ∧ p.path = some "raw.py" := by
  intro t
  have selected : t.selected withUndecodable = .ok [declaring, undecodable] := by cbv
  have refused : undecodable.IsRefused withUndecodable.host t.root := .undecodable rfl
  obtain ⟨read, -, alone⟩ := reading_isolates_files rfl selected
  obtain ⟨isWhole, unnamed, unmarked, problem⟩ := alone undecodable (by simp) refused
  have whole : ∀ f ∈ [declaring, undecodable], f.IsWhole withUndecodable.host t.root := by
    simp only [List.mem_cons, List.not_mem_nil, or_false]
    rintro f (rfl | rfl)
    · exact LocatedFile.isWhole_of_findings findings_declaring
    · exact isWhole
  obtain ⟨failure, -, named, marked, -⟩ := read whole
  refine ⟨rfl, selected, failure, ?_, ?_, problem⟩
  · rw [named, List.flatMap_cons, List.flatMap_singleton, unnamed, List.append_nil]
    exact milestones_declaring
  · rw [marked, List.flatMap_cons, List.flatMap_singleton, unmarked, List.append_nil]
    exact markers_declaring

/-- A file that holds the character zero. -/
def torn : LocatedFile := ⟨"bad.py", "bad.py", [0]⟩

def withTorn : Files :=
  { base := "/r", top := [("bad.py", .file torn.bytes), ("ok.py", .file declaring.bytes)] }

/-- **One file can end the reading of all others**: beside a file that holds the character zero, a
file that declares a milestone is not read. -/
theorem torn_ends_reading :
    let t : SourceTree := { root := "/r" }
    t.selected withTorn = .ok [torn, declaring] ∧ declaring.milestones .ideal "/r" = ["A"] ∧
      (t.milestones withTorn).2.failure = some (.interruption .zeroCharacter) ∧
      (t.milestones withTorn).2.items = [] := by
  intro t
  have selected : t.selected withTorn = .ok [torn, declaring] := by cbv
  have zero : '\x00' ∈ ['\x00'] := List.mem_singleton_self _
  have breaks : torn.Breaks withTorn.host t.root .zeroCharacter := .zeroCharacter ⟨rfl, rfl⟩ zero
  have whole : ∀ g ∈ ([] : List LocatedFile), g.IsWhole withTorn.host t.root := by simp
  have collected := collect_of_breaks rfl whole selected breaks
  refine ⟨selected, milestones_declaring, ?_, ?_⟩
  · rw [milestones, drain, collected]
  · rw [milestones, drain, collected]
    rfl

end SourceTree

end Overdue
