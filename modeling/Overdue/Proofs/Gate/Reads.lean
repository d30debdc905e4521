import Overdue.Gate
import Overdue.Proofs.Files.Agreement
import Overdue.Proofs.Origin.Phases

/-!
# What a scan reads

Of the files, an origin reads what is asked of them before anything is kept: a source tree the files
that are selected, a ledger its own file. Two trees of files in which all origins read the same give
the same scan, `scan_congr`: its report or failure, its diagnostics and its log.
-/
namespace Overdue

variable {files files' : Files}

theorem Configuration.load_congr {root : String}
    (same : Files.SameAt files files' (Path.join root fileName)) :
    load files root = load files' root := by
  rw [load, load, ← same.host]
  rcases same.read with read | ⟨a, a', first, second, nothing, nothing'⟩
  · rw [read]
  · rw [first, second]
    dsimp only
    rw [nothing, nothing']

theorem Ignore.load_congr {root : String}
    (same : Files.SameAt files files' (Path.join root ".gitignore")) :
    load files root = load files' root := by
  rw [load, load]
  rcases same.read with read | ⟨a, a', first, second, nothing, nothing'⟩
  · rw [read]
  · rw [first, second]
    dsimp only
    rw [nothing, nothing']
    rfl

theorem Ledger.load_congr {l : Ledger} (same : Files.SameAt files files' l.path) :
    l.load files = l.load files' := by
  rw [load, load, ← same.host]
  rcases same.read with read | ⟨a, a', first, second, nothing, nothing'⟩
  · rw [read]
  · rw [first, second]
    dsimp only
    rw [nothing, nothing']

theorem SourceTree.selected_congr {t : SourceTree}
    (ignore : Ignore.load files t.root = Ignore.load files' t.root)
    (listed : ∀ ignored excluded, Ignore.load files t.root = .ok ignored →
      Ignore.ofValues t.excludes = .ok excluded →
        (files.listing t.root ".py" fun f => ignored.ignores f.path || excluded.ignores f.path) =
          files'.listing t.root ".py" fun f => ignored.ignores f.path || excluded.ignores f.path) :
    t.selected files = t.selected files' := by
  unfold selected
  rw [← ignore]
  cases loaded : Ignore.load files t.root with
  | error f => rfl
  | ok ignored =>
      cases given : Ignore.ofValues t.excludes with
      | error f => rfl
      | ok excluded => exact congrArg Except.ok (listed ignored excluded loaded given)

namespace Origin

/-- What the origin asks of the files, and of their host, is the same in both trees. -/
def ReadsAlike (files files' : Files) : Origin → Prop
  | .sources t => t.selected files = t.selected files' ∧
      ∀ located, t.selected files = .ok located →
        SourceTree.findings files.host t.root located =
          SourceTree.findings files'.host t.root located
  | .ledger l => l.load files = l.load files'

theorem readsAlike_sources {t : SourceTree} (host : files.host = files'.host)
    (same : t.selected files = t.selected files') : (sources t).ReadsAlike files files' :=
  ⟨same, fun _ _ => by rw [host]⟩

variable {o : Origin}

theorem collect_congr {t : SourceTree} (alike : (sources t).ReadsAlike files files') :
    t.collect files = t.collect files' := by
  obtain ⟨same, found⟩ := alike
  rw [SourceTree.collect, SourceTree.collect, ← same]
  cases selected : t.selected files with
  | error f => rfl
  | ok located =>
      dsimp only
      rw [found located selected]

theorem milestones_congr (alike : o.ReadsAlike files files') :
    o.milestones files = o.milestones files' := by
  cases o with
  | sources t =>
      rw [milestones, milestones, SourceTree.milestones, SourceTree.milestones, SourceTree.drain,
        SourceTree.drain, collect_congr alike]
  | ledger l =>
      rw [milestones, milestones, Ledger.milestones, Ledger.milestones, Ledger.drain, Ledger.drain,
        alike]

theorem markers_congr (alike : o.ReadsAlike files files') :
    o.markers files = o.markers files' := by
  cases o with
  | sources t =>
      rw [markers, markers, SourceTree.markers, SourceTree.markers, SourceTree.drain,
        SourceTree.drain, collect_congr alike]
  | ledger l =>
      rw [markers, markers, Ledger.markers, Ledger.markers, Ledger.drain, Ledger.drain, alike]

/-- After the milestones have been read, the same is read again or nothing. -/
theorem ReadsAlike.milestones (alike : o.ReadsAlike files files') :
    (o.milestones files).1.ReadsAlike files files' := by
  cases o with
  | sources t =>
      change (sources (t.collect files).1).ReadsAlike files files'
      unfold SourceTree.collect
      repeat' split
      all_goals exact alike
  | ledger l =>
      simp only [Origin.milestones, Ledger.milestones, Ledger.drain]
      split
      · exact alike
      · rename_i l' log loaded
        obtain ⟨entries, rfl⟩ := Ledger.exists_of_load loaded
        rfl

/-! ## Reading origins in order -/

variable {α : Type} {drain drain' : Origin → Origin × Reading α} {origins : List Origin}

theorem drainAll_congr (each : ∀ o ∈ origins, drain o = drain' o) :
    drainAll drain origins = drainAll drain' origins := by
  induction origins with
  | nil => rfl
  | cons o rest ih =>
      rw [List.forall_mem_cons] at each
      rw [drainAll, drainAll, each.1, ih each.2]

theorem forall_drainAll {p : Origin → Prop} (keeps : ∀ o, p o → p (drain o).1)
    (each : ∀ o ∈ origins, p o) : ∀ o ∈ (drainAll drain origins).1, p o := by
  induction origins with
  | nil => exact each
  | cons o rest ih =>
      rw [List.forall_mem_cons] at each
      rw [drainAll]
      dsimp only
      split
      · exact List.forall_mem_cons.mpr ⟨keeps o each.1, each.2⟩
      · exact List.forall_mem_cons.mpr ⟨keeps o each.1, ih each.2⟩

end Origin

namespace Gate

variable {root : String} {c : Configuration} {origins : List Origin} {build : Build} {today : Date}
  {printed : String}

theorem scanOrigins_congr (alike : ∀ o ∈ origins, o.ReadsAlike files files') :
    scanOrigins files root origins build today printed =
      scanOrigins files' root origins build today printed := by
  have names : Origin.allMilestones files origins = Origin.allMilestones files' origins :=
    Origin.drainAll_congr fun o member => Origin.milestones_congr (alike o member)
  have later : ∀ o ∈ (Origin.allMilestones files origins).1, o.ReadsAlike files files' :=
    Origin.forall_drainAll (fun _ => Origin.ReadsAlike.milestones) alike
  have marks : Origin.allMarkers files (Origin.allMilestones files origins).1 =
      Origin.allMarkers files' (Origin.allMilestones files origins).1 :=
    Origin.drainAll_congr fun o member => Origin.markers_congr (later o member)
  rw [scanOrigins, scanOrigins, ← names]
  dsimp only
  rw [marks]

/-- **A scan depends on nothing but what its origins read.** -/
theorem scan_congr
    (alike : ∀ origins, Gate.origins root c = .ok origins →
      ∀ o ∈ origins, o.ReadsAlike files files') :
    scan files root c build today printed = scan files' root c build today printed := by
  unfold scan
  cases named : Gate.origins root c with
  | error f => rfl
  | ok os => exact scanOrigins_congr (alike os named)

end Gate

end Overdue
