import Overdue.Command
import Overdue.Proofs.Gate.Reads

/-!
# Runs on another host

A second process may lay out its sets differently from the first. Where it lays out the sets that
stand in the documents and source files of a tree as the host of the tree does (`LaysOutAlike`), it
reads them to the same effect, and so `run_onHost` says that a run on it is the same run.
-/
namespace Overdue

namespace Host

/-- Two hosts are the same, but that they may lay out sets differently. -/
structure SameButSets (host host' : Host) : Prop where
  refusal : host.refusal? = host'.refusal?
  documentStack : host.exhaustsDocument = host'.exhaustsDocument
  sourceStack : host.exhaustsSource = host'.exhaustsSource
  early : host.endsEarly? = host'.endsEarly?

/-- The sets in the document of these bytes are laid out alike. -/
def AgreeOnDocument (host host' : Host) (bytes : List UInt8) : Prop :=
  ∀ chars v, Utf8.decode bytes = .ok chars → Document.read (Lines.unify chars) = .ok v →
    host.arranged v = host'.arranged v

/-- The sets in the debts of the source file of these bytes are laid out alike. -/
def AgreeOnSource (host host' : Host) (bytes : List UInt8) : Prop :=
  ∀ chars nodes symbol c fields, Utf8.decode bytes = .ok chars →
    Source.parse (Lines.unify chars) = .ok nodes →
    Source.Site.debt symbol (.called c) ∈
      (Source.Node.outlines nodes).flatMap (Source.Tree.sites []) →
    Source.Tree.markerFields c.args c.keywords = .ok fields →
      host.arrangedEntries fields = host'.arrangedEntries fields

variable {host host' : Host} {bytes : List UInt8}

theorem ofFile_eq (same : SameButSets host host') (agree : AgreeOnDocument host host' bytes)
    (path : String) : Document.ofFile host path bytes = Document.ofFile host' path bytes := by
  have outcome : Document.outcome host bytes = Document.outcome host' bytes := by
    rw [Document.outcome, Document.outcome, same.early]
    cases decoded : Utf8.decode bytes with
    | error f => rfl
    | ok chars =>
        dsimp only
        cases read : Document.read (Lines.unify chars) with
        | error f => rfl
        | ok v => rw [Except.map, Except.map, agree chars v decoded read]
  rw [Document.ofFile, Document.ofFile, same.documentStack, outcome]

theorem markerFinding_eq {path symbol : String} {c : Source.Call}
    (agree : ∀ fields, Source.Tree.markerFields c.args c.keywords = .ok fields →
      host.arrangedEntries fields = host'.arrangedEntries fields) :
    Source.Tree.markerFinding host path symbol c.line c.args c.keywords =
      Source.Tree.markerFinding host' path symbol c.line c.args c.keywords := by
  unfold Source.Tree.markerFinding
  cases read : Source.Tree.markerFields c.args c.keywords with
  | error f => cases f <;> rfl
  | ok fields =>
      dsimp only
      rw [agree fields read]

theorem fileFindings_eq (same : SameButSets host host') (agree : AgreeOnSource host host' bytes)
    (place path : String) :
    Source.fileFindings host place path bytes = Source.fileFindings host' place path bytes := by
  have walk (chars : List Char) (nodes : List Source.Node) (decoded : Utf8.decode bytes = .ok chars)
      (parsed : Source.parse (Lines.unify chars) = .ok nodes) :
      Source.Tree.visitAll host path (Source.Node.outlines nodes) {} =
        Source.Tree.visitAll host' path (Source.Node.outlines nodes) {} := by
    rw [Source.Tree.visitAll_eq_follow, Source.Tree.visitAll_eq_follow]
    refine congrArg _ (mapM_congr fun s member => ?_)
    match s with
    | .milestone _ => rfl
    | .debt _ (.uncalled _) => rfl
    | .debt symbol (.called c) =>
        exact markerFinding_eq fun fields => agree chars nodes symbol c fields decoded parsed member
  rw [Source.fileFindings, Source.fileFindings, same.refusal, same.sourceStack]
  cases host'.refusal? place with
  | some reason => rfl
  | none =>
      cases decoded : Utf8.decode bytes with
      | error f => rfl
      | ok chars =>
          dsimp only
          cases parsed : Source.parse (Lines.unify chars) with
          | error line => rfl
          | ok nodes =>
              dsimp only
              rw [walk chars nodes decoded parsed]

end Host

/-! ## Trees of files on another host -/

namespace Files

/-- The tree of files on another host. -/
def onHost (files : Files) (host : Host) : Files := { files with host }

/-- Another host is the same as that of a tree of files, but for the order of sets, and has the
order of those that stand in the documents and source files of the tree. -/
structure LaysOutAlike (files : Files) (host : Host) : Prop where
  same : Host.SameButSets files.host host
  documents {path : String} {bytes : List UInt8} : files.read path = .ok bytes →
    Host.AgreeOnDocument files.host host bytes
  sources {root : String} {ignored : LocatedFile → Bool} :
    ∀ f ∈ files.listing root ".py" ignored, Host.AgreeOnSource files.host host f.bytes

variable {files : Files} {host : Host}

/-- The host of a tree is one that lays out its sets alike. -/
theorem LaysOutAlike.refl (files : Files) : files.LaysOutAlike files.host :=
  ⟨⟨rfl, rfl, rfl, rfl⟩, fun _ _ _ _ _ => rfl, fun _ _ _ _ _ _ _ _ _ _ _ => rfl⟩

@[simp]
theorem lookup_onHost (files : Files) (host : Host) (path : String) :
    (files.onHost host).lookup path = files.lookup path := rfl

theorem write_onHost (files : Files) (host : Host) (folder name : String) (bytes : List UInt8) :
    (files.onHost host).write folder name bytes =
      (files.write folder name bytes).map (·.onHost host) := by
  have cut : (files.onHost host).segments? = files.segments? := rfl
  rw [write, write, lookup_onHost, lookup_onHost, cut]
  rcases files.lookup folder with a | (bytes | entries)
  · rfl
  · rfl
  · rcases files.lookup (Path.join folder name) with a | (bytes | entries)
    · cases files.segments? (Path.normalize (Path.join folder name)) <;> rfl
    · cases files.segments? (Path.normalize (Path.join folder name)) <;> rfl
    · rfl

variable (alike : files.LaysOutAlike host)

include alike

theorem read_onHost (path : String) : (files.onHost host).read path = files.read path := by
  have opens : (files.onHost host).host.refusal? = files.host.refusal? := alike.same.refusal.symm
  rw [read, read, lookup_onHost, opens]

theorem configuration_onHost (root : String) :
    Configuration.load (files.onHost host) root = Configuration.load files root := by
  rw [Configuration.load, Configuration.load, read_onHost alike]
  cases there : files.read (Path.join root Configuration.fileName) with
  | error a => rfl
  | ok bytes =>
      dsimp only
      rw [Configuration.ofBytes, Configuration.ofBytes,
        Host.ofFile_eq alike.same (alike.documents there)]
      rfl

theorem ignore_onHost (root : String) :
    Ignore.load (files.onHost host) root = Ignore.load files root := by
  rw [Ignore.load, Ignore.load, read_onHost alike]

theorem ledger_onHost (l : Ledger) : l.load (files.onHost host) = l.load files := by
  rw [Ledger.load, Ledger.load, read_onHost alike]
  cases there : files.read l.path with
  | error a => rfl
  | ok bytes =>
      dsimp only
      rw [Ledger.entriesOf, Ledger.entriesOf, Host.ofFile_eq alike.same (alike.documents there)]
      rfl

theorem findings_onHost {root : String} {located : List LocatedFile}
    (agree : ∀ f ∈ located, Host.AgreeOnSource files.host host f.bytes) :
    SourceTree.findings host root located = SourceTree.findings files.host root located := by
  induction located with
  | nil => rfl
  | cons f rest ih =>
      rw [List.forall_mem_cons] at agree
      rw [SourceTree.findings, SourceTree.findings, LocatedFile.findings, LocatedFile.findings,
        Host.fileFindings_eq alike.same agree.1, ih agree.2]

theorem readsAlike_onHost (o : Origin) : o.ReadsAlike (files.onHost host) files := by
  cases o with
  | ledger l => exact ledger_onHost alike l
  | sources t =>
      have selected : t.selected (files.onHost host) = t.selected files := by
        rw [SourceTree.selected, SourceTree.selected, ignore_onHost alike]
        rfl
      refine ⟨selected, fun located picked => findings_onHost alike ?_⟩
      rw [selected, SourceTree.selected] at picked
      obtain ⟨ignored, -, picked⟩ := ok_of_bind_eq_ok picked
      obtain ⟨excluded, -, picked⟩ := ok_of_bind_eq_ok picked
      cases picked
      exact alike.sources

theorem scan_onHost (root : String) (c : Configuration) (build : Build) (today : Date)
    (printed : String) :
    Gate.scan (files.onHost host) root c build today printed =
      Gate.scan files root c build today printed :=
  Gate.scan_congr fun _ _ o _ => readsAlike_onHost alike o

end Files

/-! ## Runs on another host -/

namespace Command

variable {files : Files} {host : Host}

def Progress.onHost (p : Progress) (host : Host) : Progress :=
  { p with files := p.files.onHost host }

def Run.onHost (r : Run) (host : Host) : Run := { r with files := r.files.onHost host }

theorem writeReport_onHost (wanted : Bool) (root name : String) (text : Except Failure String)
    (p : Progress) :
    writeReport wanted root name text (p.onHost host) =
      ((writeReport wanted root name text p).1.onHost host,
        (writeReport wanted root name text p).2) := by
  unfold writeReport
  split
  · rfl
  · split
    · rfl
    · rw [show (p.onHost host).files = p.files.onHost host from rfl, Files.write_onHost]
      cases p.files.write root name _ <;> rfl

theorem writeReports_onHost (request : CommandLine.Request) (root : String) (report : Value)
    (p : Progress) :
    writeReports request root report (p.onHost host) =
      ((writeReports request root report p).1.onHost host,
        (writeReports request root report p).2) := by
  rw [writeReports, writeReports, writeReport_onHost]
  cases writeReport request.json root jsonName (Json.text 0 report) p with
  | mk q failure =>
      cases failure with
      | some f => rfl
      | none => exact writeReport_onHost _ _ _ _ _

theorem endOn_onHost (p : Progress) (log : List Event) (f : Failure) :
    endOn (p.onHost host) log f = (endOn p log f).onHost host := by
  cases f <;> rfl

variable (alike : files.LaysOutAlike host)

include alike

theorem scanRepository_onHost (setting : Setting) (request : CommandLine.Request) (root : String)
    (c : Configuration) (build : Build) :
    scanRepository setting request (files.onHost host) root c build =
      (scanRepository setting request files root c build).onHost host := by
  unfold scanRepository
  rw [Files.scan_onHost alike]
  dsimp only
  generalize Gate.scan files root c build _ _ = gate
  cases gate.report with
  | error f => exact endOn_onHost ⟨_, files⟩ gate.log f
  | ok report =>
      dsimp only
      have written : writeReports request root report.value
          ⟨gate.reported.map Diagnostic.text, files.onHost host⟩ = _ :=
        writeReports_onHost request root report.value ⟨_, files⟩
      rw [written]
      cases writeReports request root report.value ⟨gate.reported.map Diagnostic.text, files⟩ with
      | mk q failure => cases failure <;> rfl

theorem scan_onHost (setting : Setting) (request : CommandLine.Request) :
    scan setting request (files.onHost host) = (scan setting request files).onHost host := by
  have root : (files.onHost host).repositoryRoot (Path.join setting.folder request.path) =
      files.repositoryRoot (Path.join setting.folder request.path) := rfl
  unfold scan
  dsimp only
  rw [root, Files.configuration_onHost alike]
  generalize (Configuration.load files _ >>= _ : Except Failure (Configuration × Build)) = read
  match read with
  | .error f => exact endOn_onHost ⟨[], files⟩ [] f
  | .ok (c, build) => exact scanRepository_onHost alike _ _ _ c build

end Command

end Overdue
