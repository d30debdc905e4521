import Overdue.Proofs.Source.Results
import Overdue.Proofs.Text.Lines
import Overdue.Source.File

/-!
# When the reading of a file breaks off

Three things break the reading of a file off: the character zero, a stack that gives out, and a debt
with a sum in its arguments that is too large. `fileFindings_eq_error_iff` says that there is
nothing else; a file that is not opened or cannot be decoded, or that the grammar refuses, is one
problem and no more (`fileFindings_of_isRefused`).
-/
namespace Overdue.Source

/-! ## Walks -/

/-- The values of the arguments cannot all be computed, since a whole number beyond the doubles
stands beside an imaginary one. -/
def Call.IsTooLarge (c : Call) : Prop := Tree.markerFields c.args c.keywords = .error .tooLarge

/-- **A debt is too large only for a sum in its arguments** of a whole number beyond the doubles and
an imaginary one. -/
theorem Call.IsTooLarge.exists_isOversized {c : Call} (h : c.IsTooLarge) :
    ∃ t ∈ c.args ++ c.keywords.map Prod.snd, ∃ n ∈ t.nodes, n.IsOversized := by
  have taken := Tree.taken_markerFields c.args c.keywords
  rw [show Tree.markerFields c.args c.keywords = .error .tooLarge from h] at taken
  cases taken with
  | refused _ large =>
      obtain ⟨t, given, fails⟩ := large rfl
      exact ⟨t, given, Tree.exists_isOversized fails⟩

theorem Site.finding_eq_error_iff {host : Host} {path : String} {s : Site} {cause : Interruption} :
    s.finding host path = .error cause ↔
      cause = .numberTooLarge ∧ ∃ symbol c, s = .debt symbol (.called c) ∧ c.IsTooLarge := by
  match s with
  | .milestone c => simp [finding]
  | .debt symbol (.uncalled line) => simp [finding]
  | .debt symbol (.called c) =>
      have called : (∃ symbol' c', Site.debt symbol (.called c) = .debt symbol' (.called c') ∧
          c'.IsTooLarge) ↔ c.IsTooLarge := by simp
      rw [called, finding, Tree.markerFinding, Call.IsTooLarge]
      cases Tree.markerFields c.args c.keywords with
      | error fault => cases fault <;> simp [eq_comm]
      | ok fields =>
          dsimp only
          cases Marker.ofFields (host.arrangedEntries fields)
              (some ⟨path, c.line, some symbol⟩) with
          | ok m => simp
          | error fault =>
              dsimp only
              cases fault.message? <;> simp

/-- A debt of the trees is too large. -/
def HoldsTooLarge (ts : List Tree) : Prop :=
  ∃ symbol c, Site.debt symbol (.called c) ∈ ts.flatMap (Tree.sites []) ∧ c.IsTooLarge

theorem Tree.visitAll_eq_error_iff {host : Host} {path : String} {ts : List Tree}
    {cause : Interruption} :
    visitAll host path ts {} = .error cause ↔ cause = .numberTooLarge ∧ HoldsTooLarge ts := by
  have only : ∀ (s : Site) (other : Interruption), s.finding host path = .error other →
      other = .numberTooLarge := fun s other fails => (Site.finding_eq_error_iff.mp fails).1
  have walk : visitAll host path ts {} = .error cause ↔
      (ts.flatMap (sites [])).mapM (Site.finding host path) = .error cause := by
    rw [visitAll_eq_follow, Walk.follow]
    cases (ts.flatMap (sites [])).mapM (Site.finding host path) <;> simp [Except.map]
  rw [walk]
  constructor
  · intro fails
    obtain ⟨s, member, fails⟩ := exists_of_mapM_eq_error fails
    obtain ⟨rfl, symbol, c, rfl, large⟩ := Site.finding_eq_error_iff.mp fails
    exact ⟨rfl, symbol, c, member, large⟩
  · rintro ⟨rfl, symbol, c, member, large⟩
    refine mapM_eq_error only member ?_
    exact Site.finding_eq_error_iff.mpr ⟨rfl, symbol, c, rfl, large⟩

/-! ## Files -/

/-- The file at a place cannot be read: it is not opened, it is no text, or the grammar refuses
it. -/
inductive IsRefused (host : Host) (place : String) (bytes : List UInt8) : Prop
  | unopened {reason : String} : host.refusal? place = some reason → IsRefused host place bytes
  | undecodable {fault : Utf8.Fault} : Utf8.decode bytes = .error fault →
      IsRefused host place bytes
  | unparsed {chars : List Char} {line : Nat} : Utf8.decode bytes = .ok chars → '\x00' ∉ chars →
      host.exhaustsSource place bytes = false → parse (Lines.unify chars) = .error line →
        IsRefused host place bytes

/-- The file at a place is opened, and its bytes are this text. -/
structure IsText (host : Host) (place : String) (bytes : List UInt8) (chars : List Char) :
    Prop where
  opened : host.refusal? place = none
  decoded : Utf8.decode bytes = .ok chars

/-- What breaks the reading of the file at a place off. -/
inductive Breaks (host : Host) (place : String) (bytes : List UInt8) : Interruption → Prop
  | zeroCharacter {chars : List Char} : IsText host place bytes chars → '\x00' ∈ chars →
      Breaks host place bytes .zeroCharacter
  | exhausted {chars : List Char} : IsText host place bytes chars → '\x00' ∉ chars →
      host.exhaustsSource place bytes = true → Breaks host place bytes .exhausted
  | numberTooLarge {chars : List Char} {nodes : List Node} : IsText host place bytes chars →
      '\x00' ∉ chars → host.exhaustsSource place bytes = false →
      parse (Lines.unify chars) = .ok nodes → HoldsTooLarge (Node.outlines nodes) →
        Breaks host place bytes .numberTooLarge

theorem zero_mem_unify (chars : List Char) : '\x00' ∈ Lines.unify chars ↔ '\x00' ∈ chars := by
  fun_induction Lines.unify chars with
  | case1 => rfl
  | case2 rest ih => simp [ih]
  | case3 rest _ ih => simp [ih]
  | case4 c rest _ _ ih => simp [ih]

variable {host : Host} {place path : String} {bytes : List UInt8}

theorem fileFindings_of_unopened {reason : String} (refused : host.refusal? place = some reason) :
    fileFindings host place path bytes =
      .ok [.problem ⟨"cannot read file: " ++ reason, some path, none⟩] := by
  rw [fileFindings, refused]

theorem fileFindings_of_undecodable {fault : Utf8.Fault} (opened : host.refusal? place = none)
    (decoded : Utf8.decode bytes = .error fault) :
    fileFindings host place path bytes =
      .ok [.problem ⟨"cannot read file: " ++ fault.message, some path, none⟩] := by
  rw [fileFindings, opened, decoded]

theorem fileFindings_of_zero {chars : List Char} (text : IsText host place bytes chars)
    (zero : '\x00' ∈ chars) : fileFindings host place path bytes = .error .zeroCharacter := by
  rw [fileFindings, text.opened, text.decoded]
  exact if_pos (by simpa using (zero_mem_unify chars).mpr zero)

theorem fileFindings_of_exhausted {chars : List Char} (text : IsText host place bytes chars)
    (zero : '\x00' ∉ chars) (gone : host.exhaustsSource place bytes = true) :
    fileFindings host place path bytes = .error .exhausted := by
  rw [fileFindings, text.opened, text.decoded]
  dsimp only
  rw [if_neg (by simpa using mt (zero_mem_unify chars).mp zero), if_pos gone]

/-- A text that the grammar gets to see. -/
theorem fileFindings_of_seen {chars : List Char} (text : IsText host place bytes chars)
    (zero : '\x00' ∉ chars) (lasts : host.exhaustsSource place bytes = false) :
    fileFindings host place path bytes =
      match parse (Lines.unify chars) with
      | .error line => .ok [.problem ⟨"cannot parse file: <syntax error>", some path, some line⟩]
      | .ok nodes => (Tree.visitAll host path (Node.outlines nodes) {}).map (·.found) := by
  rw [fileFindings, text.opened, text.decoded]
  dsimp only
  rw [if_neg (by simpa using mt (zero_mem_unify chars).mp zero), lasts]
  exact if_neg Bool.false_ne_true

theorem fileFindings_of_breaks {cause : Interruption} (h : Breaks host place bytes cause) :
    fileFindings host place path bytes = .error cause := by
  cases h with
  | zeroCharacter text zero => exact fileFindings_of_zero text zero
  | exhausted text zero gone => exact fileFindings_of_exhausted text zero gone
  | numberTooLarge text zero lasts parsed large =>
      have walk : Tree.visitAll host path _ {} = .error .numberTooLarge :=
        Tree.visitAll_eq_error_iff.mpr ⟨rfl, large⟩
      rw [fileFindings_of_seen text zero lasts, parsed]
      dsimp only
      rw [walk]
      rfl

theorem fileFindings_of_isRefused (h : IsRefused host place bytes) (path : String) :
    ∃ p, fileFindings host place path bytes = .ok [.problem p] ∧ p.path = some path := by
  cases opened : host.refusal? place with
  | some reason => exact ⟨_, fileFindings_of_unopened opened, rfl⟩
  | none =>
      cases h with
      | unopened refused => cases opened.symm.trans refused
      | undecodable decoded => exact ⟨_, fileFindings_of_undecodable opened decoded, rfl⟩
      | @unparsed chars line decoded zero lasts parsed =>
          refine ⟨⟨"cannot parse file: <syntax error>", some path, some line⟩, ?_, rfl⟩
          rw [fileFindings_of_seen ⟨opened, decoded⟩ zero lasts, parsed]

/-- The file is refused, its reading breaks off, or it is parsed and walked through. -/
theorem refused_or_breaks_or_walked (host : Host) (place path : String) (bytes : List UInt8) :
    IsRefused host place bytes ∨ (∃ cause, Breaks host place bytes cause) ∨
      ∃ nodes w, Tree.visitAll host path (Node.outlines nodes) {} = .ok w ∧
        fileFindings host place path bytes = .ok w.found := by
  cases opened : host.refusal? place with
  | some reason => exact .inl (.unopened opened)
  | none =>
      cases decoded : Utf8.decode bytes with
      | error fault => exact .inl (.undecodable decoded)
      | ok chars =>
          have text : IsText host place bytes chars := ⟨opened, decoded⟩
          by_cases zero : '\x00' ∈ chars
          · exact .inr (.inl ⟨_, .zeroCharacter text zero⟩)
          cases lasts : host.exhaustsSource place bytes with
          | true => exact .inr (.inl ⟨_, .exhausted text zero lasts⟩)
          | false =>
              cases parsed : parse (Lines.unify chars) with
              | error line => exact .inl (.unparsed decoded zero lasts parsed)
              | ok nodes =>
                  right
                  cases walk : Tree.visitAll host path (Node.outlines nodes) {} with
                  | error cause =>
                      obtain ⟨-, large⟩ := Tree.visitAll_eq_error_iff.mp walk
                      exact .inl ⟨_, .numberTooLarge text zero lasts parsed large⟩
                  | ok w =>
                      refine .inr ⟨nodes, w, walk, ?_⟩
                      rw [fileFindings_of_seen text zero lasts, parsed]
                      dsimp only
                      rw [walk]
                      rfl

theorem fileFindings_eq_error_iff {cause : Interruption} :
    fileFindings host place path bytes = .error cause ↔ Breaks host place bytes cause := by
  refine ⟨fun fails => ?_, fileFindings_of_breaks⟩
  rcases refused_or_breaks_or_walked host place path bytes with
    refused | ⟨cause', breaks⟩ | ⟨nodes, w, -, done⟩
  · obtain ⟨p, done, -⟩ := fileFindings_of_isRefused refused path
    cases done.symm.trans fails
  · cases (fileFindings_of_breaks breaks).symm.trans fails
    exact breaks
  · cases done.symm.trans fails

/-! ## Where the problems are -/

theorem Site.Gives.path_of_problem {path : String} {s : Site} {p : Problem}
    (gives : s.Gives path (.problem p)) : p.path = some path := by
  match s with
  | .milestone c =>
      rcases gives with ⟨name, -, same⟩ | ⟨-, message, same⟩
      · cases same
      · cases same
        rfl
  | .debt symbol (.called c) =>
      rcases gives with ⟨m, same, -⟩ | ⟨message, same⟩
      · cases same
      · cases same
        rfl
  | .debt symbol (.uncalled line) =>
      cases gives
      rfl

/-- All problems of a file name it. -/
theorem path_of_fileFindings {found : List Finding}
    (read : fileFindings host place path bytes = .ok found) {p : Problem}
    (member : .problem p ∈ found) : p.path = some path := by
  rcases refused_or_breaks_or_walked host place path bytes with
    refused | ⟨cause, breaks⟩ | ⟨nodes, w, completed, done⟩
  · obtain ⟨p', done, there⟩ := fileFindings_of_isRefused refused path
    cases done.symm.trans read
    cases List.mem_singleton.mp member
    exact there
  · cases (fileFindings_of_breaks breaks).symm.trans read
  · cases done.symm.trans read
    obtain ⟨s, -, finding⟩ :=
      exists_of_mapM_eq_ok (mapM_eq_ok_iff.mpr (results_of_visitAll completed)) member
    exact (Site.gives_of_finding finding).path_of_problem

end Overdue.Source
