import Overdue.Proofs.Command.Hosts
import Overdue.Proofs.Command.Status
import Overdue.Proofs.Files.Seat
import Overdue.Proofs.Gate.Reads

/-!
# Runs on the tree that a run leaves

A run that goes through changes the tree by its reports alone. Nothing that a run reads comes to
them (`Keeps`): not the root, nor the configuration, the ignore file, the source files, nor the
ledger unless it is configured to. So the next run finds what the first one has found, and its
reports stand already: `run_again`. Both runs are on one host; on another one the second run is the
same as long as the sets in what it reads come in the same order.
-/
namespace Overdue.Command

open Overdue.Path Overdue.Files

/-! ## What the reports leave as it is -/

/-- The names of the reports. -/
def reportNames : List String := [jsonName, markdownName]

theorem isPlain_of_mem_reportNames : ∀ name ∈ reportNames, IsPlain name := by decide

theorem endsWith_of_mem_reportNames : ∀ name ∈ reportNames, name.endsWith ".py" = false := by
  simp only [← Bool.not_eq_true, endsWith_iff]
  decide

/-- Everywhere but at the reports of a root the same stands in two trees on one host, and they have
the same source files. -/
structure Keeps (root : String) (files files' : Files) : Prop where
  host : files.host = files'.host
  same (path : String) :
    (∀ name ∈ reportNames, Path.normalize path ≠ Path.normalize (join root name)) →
      SameAt files files' path
  listed (ignored : LocatedFile → Bool) :
    files.listing root ".py" ignored = files'.listing root ".py" ignored

variable {files files' : Files} {root name : String} {bytes : List UInt8}

theorem Keeps.refl (root : String) (files : Files) : Keeps root files files :=
  ⟨rfl, fun _ _ => .refl _ _, fun _ => rfl⟩

theorem Keeps.trans {files'' : Files} (first : Keeps root files files')
    (second : Keeps root files' files'') : Keeps root files files'' :=
  ⟨first.host.trans second.host,
    fun path other => (first.same path other).trans (second.same path other),
    fun ignored => (first.listed ignored).trans (second.listed ignored)⟩

section Normal

variable (normal : single root = Path.normalize root)

include normal

theorem keeps_of_write (report : name ∈ reportNames)
    (written : files.write root name bytes = .ok files') : Keeps root files files' := by
  have plain := isPlain_of_mem_reportNames name report
  obtain ⟨folders, seat⟩ := exists_seat normal plain written
  refine ⟨by rw [eq_of_write seat plain written],
    fun path other => sameAt_of_write seat plain written (other name report), ?_⟩
  intro ignored
  exact (listing_of_write seat plain written (endsWith_of_mem_reportNames name report) ignored).symm

end Normal

/-- A name in a folder that is not that of a report. -/
theorem Keeps.same_join (keeps : Keeps root files files') (plain : IsPlain name)
    (other : name ∉ reportNames) (folder : String) : SameAt files files' (join folder name) := by
  refine keeps.same _ fun report member => ?_
  refine normalize_join_ne plain (isPlain_of_mem_reportNames report member) ?_ folder root
  rintro rfl
  exact other member

theorem Keeps.repositoryRoot (keeps : Keeps root files files') (path : String) :
    files.repositoryRoot path = files'.repositoryRoot path :=
  repositoryRoot_congr fun folder _ => keeps.same_join (by decide) (by decide) folder

theorem Keeps.load (keeps : Keeps root files files') :
    Configuration.load files root = Configuration.load files' root :=
  Configuration.load_congr (keeps.same_join (by decide) (by decide) root)

theorem Keeps.scan (keeps : Keeps root files files') {c : Configuration}
    (ledger : ∀ path, c.ledger = .ok (some (.text path)) → ∀ name ∈ reportNames,
      Path.normalize (join root path) ≠ Path.normalize (join root name))
    (build : Build) (today : Date) (printed : String) :
    Gate.scan files root c build today printed = Gate.scan files' root c build today printed := by
  refine Gate.scan_congr fun origins named => ?_
  refine Gate.forall_mem_origins named (fun excludes _ => ?_) fun path given => ?_
  · refine Origin.readsAlike_sources keeps.host ?_
    refine SourceTree.selected_congr ?_ fun _ _ _ _ => keeps.listed _
    exact Ignore.load_congr (keeps.same_join (by decide) (by decide) root)
  · exact Ledger.load_congr (keeps.same _ (ledger path given))

/-! ## Reports that stand -/

/-- The report stands in the tree already, if it is asked for. -/
def Stands (wanted : Bool) (root name : String) (text : Except Failure String) (files : Files) :
    Prop :=
  wanted = true → ∃ s, text = .ok s ∧ files.write root name (Utf8.encode s.toList) = .ok files

variable {wanted : Bool} {text : Except Failure String} {p q : Progress}

/-- The line about a report. -/
def linesOf (wanted : Bool) (root name : String) : List String :=
  if wanted then [wrote (join root name)] else []

theorem writeReport_of_stands (stands : Stands wanted root name text files)
    (printed : List String) :
    writeReport wanted root name text ⟨printed, files⟩ =
      (⟨printed ++ linesOf wanted root name, files⟩, none) := by
  cases wanted with
  | false => simp [writeReport, linesOf]
  | true =>
      obtain ⟨s, rfl, written⟩ := stands rfl
      simp [writeReport, linesOf, written]

theorem writeReport_outcome (written : writeReport wanted root name text p = (q, none)) :
    q.printed = p.printed ++ linesOf wanted root name ∧
      (wanted = false ∧ q.files = p.files ∨
        ∃ s, text = .ok s ∧ p.files.write root name (Utf8.encode s.toList) = .ok q.files) := by
  cases wanted with
  | false =>
      cases written
      exact ⟨(List.append_nil _).symm, .inl ⟨rfl, rfl⟩⟩
  | true =>
      simp only [writeReport, Bool.not_true, Bool.false_eq_true, if_false] at written
      split at written
      · cases written
      · split at written
        · cases written
        · rename_i s _ files' wrote'
          cases written
          exact ⟨rfl, .inr ⟨s, rfl, wrote'⟩⟩

section Reports

variable (normal : single root = Path.normalize root)

include normal

/-- A report that has been written stands. -/
theorem stands_of_writeReport (report : name ∈ reportNames)
    (written : writeReport wanted root name text p = (q, none)) :
    Stands wanted root name text q.files := by
  intro asked
  rcases (writeReport_outcome written).2 with ⟨unasked, -⟩ | ⟨s, given, wrote⟩
  · cases asked.symm.trans unasked
  · exact ⟨s, given, write_again normal (isPlain_of_mem_reportNames name report) wrote⟩

/-- And it goes on standing when the other one is written. -/
theorem Stands.beside {name' : String} {wanted' : Bool} {text' : Except Failure String}
    (stands : Stands wanted root name text p.files)
    (report : name ∈ reportNames) (report' : name' ∈ reportNames) (other : name ≠ name')
    (written : writeReport wanted' root name' text' p = (q, none)) :
    Stands wanted root name text q.files := by
  rcases (writeReport_outcome written).2 with ⟨-, same⟩ | ⟨_, -, wrote⟩
  · rwa [same]
  · intro asked
    obtain ⟨s, given, kept⟩ := stands asked
    exact ⟨s, given, write_beside normal (isPlain_of_mem_reportNames name report)
      (isPlain_of_mem_reportNames name' report') other kept wrote⟩

theorem keeps_of_writeReport (report : name ∈ reportNames)
    (written : writeReport wanted root name text p = (q, none)) :
    Keeps root p.files q.files := by
  rcases (writeReport_outcome written).2 with ⟨-, same⟩ | ⟨_, -, wrote⟩
  · rw [same]
    exact .refl _ _
  · exact keeps_of_write normal report wrote

/-- **Reports that have been written are written again to no effect**, and nothing but they has
changed. -/
theorem writeReports_again {request : CommandLine.Request} {report : Value}
    (written : writeReports request root report p = (q, none)) :
    Keeps root p.files q.files ∧
      writeReports request root report ⟨p.printed, q.files⟩ = (q, none) := by
  have json : jsonName ∈ reportNames := by decide
  have markdown : markdownName ∈ reportNames := by decide
  rw [writeReports] at written
  split at written
  · cases written
  · rename_i between first
    have stands := (stands_of_writeReport normal json first).beside normal json markdown
      (by decide) written
    have again := writeReport_of_stands stands p.printed
    rw [← (writeReport_outcome first).1] at again
    refine ⟨(keeps_of_writeReport normal json first).trans
      (keeps_of_writeReport normal markdown written), ?_⟩
    rw [writeReports, again]
    dsimp only
    rw [writeReport_of_stands (stands_of_writeReport normal markdown written),
      ← (writeReport_outcome written).1]

end Reports

/-! ## The run on the tree that a run leaves -/

variable {setting : Setting} {request : CommandLine.Request} {c : Configuration} {build : Build}
  {r : Report}

/-- A run that goes through prints what the scan hands out and then names the reports. -/
theorem scan_of_completes (completes : Completes setting files request c build r) :
    let gate := Gate.scan files (rootOf setting request files) c build (dayOf setting request)
      setting.printedCommit
    ∃ q, writeReports request (rootOf setting request files) r.value
        ⟨gate.reported.map Diagnostic.text, files⟩ = (q, none) ∧
      scan setting request files =
        ⟨.exit (if Gate.fails c r then 1 else 0), q.printed, gate.log, q.files⟩ := by
  intro gate
  cases ends : writeReports request (rootOf setting request files) r.value
      ⟨gate.reported.map Diagnostic.text, files⟩ with
  | mk q failure =>
      cases (congrArg Prod.snd ends).symm.trans completes.written
      refine ⟨q, rfl, ?_⟩
      simp only [scan, ← rootOf.eq_def, bind, Except.bind, pure, Except.pure, completes.loaded,
        completes.built]
      simp only [scanRepository, ← dayOf.eq_def, completes.scanned]
      rw [ends]

/-- The second run goes through as the first one did. -/
theorem Completes.again {q : Progress} {day : Date}
    (completes : Completes setting files request c build r) (dated : request.today = some day)
    (written : writeReports request (rootOf setting request files) r.value
      ⟨(Gate.scan files (rootOf setting request files) c build (dayOf setting request)
        setting.printedCommit).reported.map Diagnostic.text, files⟩ = (q, none))
    (ledger : ∀ path, c.ledger = .ok (some (.text path)) → ∀ name ∈ reportNames,
      Path.normalize (join (rootOf setting request files) path) ≠
        Path.normalize (join (rootOf setting request files) name)) (later : Date) :
    scan { setting with today := later } request q.files = scan setting request files := by
  obtain ⟨q', written', first⟩ := scan_of_completes completes
  cases written'.symm.trans written
  have normal : single (rootOf setting request files) =
      Path.normalize (rootOf setting request files) := single_repositoryRoot files _
  have loaded := completes.loaded
  have scanned := completes.scanned
  obtain ⟨keeps, rewritten⟩ := writeReports_again normal written
  have sameRoot : rootOf { setting with today := later } request q.files =
      rootOf setting request files := (keeps.repositoryRoot _).symm
  have sameDay : dayOf { setting with today := later } request = dayOf setting request := by
    rw [dayOf, dayOf, dated, Option.getD_some, Option.getD_some]
  have sameScan := keeps.scan ledger build (dayOf setting request) setting.printedCommit
  have second : Completes { setting with today := later } q.files request c build r := by
    refine ⟨completes.parsed, ?_, completes.built, ?_, ?_⟩
    · rw [sameRoot, ← keeps.load]
      exact loaded
    · rw [sameRoot, sameDay, ← sameScan]
      exact scanned
    · rw [sameRoot, sameDay, ← sameScan]
      exact congrArg Prod.snd rewritten
  obtain ⟨q'', written'', last⟩ := scan_of_completes second
  rw [sameRoot, sameDay, ← sameScan] at written'' last
  cases written''.symm.trans rewritten
  rw [last, first]

end Overdue.Command
