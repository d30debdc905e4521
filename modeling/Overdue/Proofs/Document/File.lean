import Overdue.Document.File
import Overdue.Proofs.Attempts
import Overdue.Proofs.Host

/-!
# What document files come to

A document file is either read (`Reads`) or its reading ends before that: the stack gives out, or
bytes come in that are no text (`IsUndecodable`). `Comes` puts the cases side by side, and
`ofFile_eq_iff` says that they are the cases of `Document.ofFile`.
-/
namespace Overdue

namespace Document

variable {host : Host} {path : String} {bytes : List UInt8}

/-! ## Reading -/

/-- The stack lasts over the document of these bytes, and reading it comes to this. -/
structure Reads (host : Host) (path : String) (bytes : List UInt8) (r : Except Fault Value) :
    Prop where
  lasts : host.exhaustsDocument path bytes = false
  outcome : Document.outcome host bytes = .ok r

/-- Bytes come in that are no text, and nothing has ended the reading before. -/
structure IsUndecodable (host : Host) (path : String) (bytes : List UInt8) (fault : Utf8.Fault) :
    Prop where
  lasts : host.exhaustsDocument path bytes = false
  outcome : Document.outcome host bytes = .error fault

/-- What the document of these bytes at a path comes to. -/
inductive Comes (host : Host) (path : String) (bytes : List UInt8) : Except Failure Value → Prop
  | exhausted : host.exhaustsDocument path bytes = true → Comes host path bytes (.error .exhausted)
  | undecodable {fault : Utf8.Fault} : IsUndecodable host path bytes fault →
      Comes host path bytes (.error (.encoding fault))
  | faulty {fault : Fault} : Reads host path bytes (.error fault) →
      Comes host path bytes (.error (.document fault))
  | value {v : Value} : Reads host path bytes (.ok v) → Comes host path bytes (.ok v)

/-- Reading bytes as a document comes to one thing. -/
theorem Reads.unique {r r' : Except Fault Value} (h : Reads host path bytes r)
    (h' : Reads host path bytes r') : r = r' :=
  Except.ok.inj (h.outcome.symm.trans h'.outcome)

theorem comes_ofFile (host : Host) (path : String) (bytes : List UInt8) :
    Comes host path bytes (ofFile host path bytes) := by
  unfold ofFile
  cases lasts : host.exhaustsDocument path bytes with
  | true => exact .exhausted lasts
  | false =>
      rw [if_neg Bool.false_ne_true]
      cases outcome : outcome host bytes with
      | error fault => exact .undecodable ⟨lasts, outcome⟩
      | ok r =>
          cases r with
          | error fault => exact .faulty ⟨lasts, outcome⟩
          | ok v => exact .value ⟨lasts, outcome⟩

theorem ofFile_of_comes {r : Except Failure Value} (h : Comes host path bytes r) :
    ofFile host path bytes = r := by
  unfold ofFile
  cases h with
  | exhausted gone => exact if_pos gone
  | undecodable bad => rw [bad.lasts, if_neg Bool.false_ne_true, bad.outcome]
  | faulty reads => rw [reads.lasts, if_neg Bool.false_ne_true, reads.outcome]
  | value reads => rw [reads.lasts, if_neg Bool.false_ne_true, reads.outcome]

/-- **The cases of a document file are all there are**, and one excludes the others. -/
theorem ofFile_eq_iff {r : Except Failure Value} :
    ofFile host path bytes = r ↔ Comes host path bytes r :=
  ⟨fun same => same ▸ comes_ofFile host path bytes, ofFile_of_comes⟩

/-! ## Keys of what is read -/

/-- A value that is read is that of a text, with its sets in the order of the host. -/
theorem Reads.exists_read {v : Value} (h : Reads host path bytes (.ok v)) :
    ∃ chars w, read chars = .ok w ∧ host.arranged w = v := by
  have outcome := h.outcome
  unfold Document.outcome at outcome
  cases decoded : Utf8.decode bytes with
  | error fault =>
      rw [decoded] at outcome
      dsimp only at outcome
      split at outcome <;> cases outcome
  | ok chars =>
      rw [decoded] at outcome
      dsimp only at outcome
      split at outcome
      · exact ⟨_, ok_of_map_eq_ok (Except.ok.inj outcome)⟩
      · cases outcome

/-- A mapping that was read from bytes has every key once. -/
theorem Reads.distinct {entries : Entries} (h : Reads host path bytes (.ok (.map entries))) :
    entries.Distinct := by
  obtain ⟨chars, w, read, arranged⟩ := h.exists_read
  obtain ⟨before, rfl, rfl⟩ := Host.eq_map_of_arranged arranged
  exact Host.distinct_arrangedEntries (distinct_of_read read).1

/-- So have the mappings that stand in it. -/
theorem Reads.distinct_inside {entries : Entries} (h : Reads host path bytes (.ok (.map entries)))
    {key : Value} {es : Entries} (member : (key, .map es) ∈ entries) : es.Distinct := by
  obtain ⟨chars, w, read, arranged⟩ := h.exists_read
  obtain ⟨before, rfl, rfl⟩ := Host.eq_map_of_arranged arranged
  rw [Host.arrangedEntries_eq_map] at member
  obtain ⟨⟨k, w⟩, among, same⟩ := List.mem_map.mp member
  obtain ⟨rfl, arranged⟩ := Prod.mk.inj same
  obtain ⟨inner, rfl, rfl⟩ := Host.eq_map_of_arranged arranged
  exact Host.distinct_arrangedEntries ((distinct_of_read read).2 k inner among)

end Document

end Overdue
