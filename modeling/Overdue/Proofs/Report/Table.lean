import Overdue.Proofs.Report.Page
import Overdue.Proofs.Text.Lines

/-!
# The table of a page

Behind the head of the diagnostics' table stand their rows, one to a line, of five cells each,
exactly if the texts in them are `Diagnostic.IsTidy`: of bars only those of the message are escaped,
and no line end is. `Report.table_account` says when a page has the table; the cells of a tidy row
are its fields (`Diagnostic.IsTidy.cells_line`).
-/
namespace Overdue

/-! ## Tidy diagnostics -/

theorem Markdown.unbroken_escapeBars (s : String) :
    Lines.Unbroken (escapeBars s).toList ↔ Lines.Unbroken s.toList := by
  rw [escapeBars, String.toList_ofList]
  induction s.toList with
  | nil => rfl
  | cons c chars ih =>
      rw [List.flatMap_cons, Lines.unbroken_append, Lines.unbroken_cons, ih]
      by_cases bar : c = '|' <;> simp [bar]

theorem Markdown.unbroken_ofFields (fields : List (List Char)) :
    Lines.Unbroken (ofFields fields) ↔ ∀ f ∈ fields, Lines.Unbroken f := by
  rw [ofFields, Lines.unbroken_cons]
  induction fields with
  | nil => simp
  | cons f fields ih => simp_all

theorem Numeral.plain_of_mem_toString {i : Int} {c : Char} (member : c ∈ (toString i).toList) :
    c = '-' ∨ c.isDigit = true := by
  have digit {n : Nat} (member : c ∈ n.repr.toList) : c.isDigit = true := by
    rw [Nat.toList_repr] at member
    exact Nat.isDigit_of_mem_toDigits (by decide) (by decide) member
  cases i with
  | ofNat n => exact .inr (digit member)
  | negSucc n =>
      change c ∈ ("-" ++ (n + 1).repr).toList at member
      rw [String.toList_append, List.mem_append] at member
      rcases member with minus | member
      · exact .inl (List.mem_singleton.mp minus)
      · exact .inr (digit member)

/-- The text of a whole number has neither bars nor line ends. -/
theorem Numeral.plain_toString (i : Int) :
    Lines.Unbroken (toString i).toList ∧ '|' ∉ (toString i).toList := by
  constructor
  · intro c member
    rcases plain_of_mem_toString member with rfl | digit
    · decide
    · constructor <;> rintro rfl <;> cases digit
  · intro member
    rcases plain_of_mem_toString member with same | digit
    · cases same
    · cases digit

namespace Diagnostic

variable {d : Diagnostic}

/-- The texts in the diagnostic's row keep it one row: no line ends within them, and there is no
bare bar in those that are shown as they are. -/
structure IsTidy (d : Diagnostic) : Prop where
  message : Lines.Unbroken d.message.toList
  path (l : Location) : d.location = some l →
    Lines.Unbroken l.path.toList ∧ Markdown.Unbarred l.path.toList
  issue (m : Marker) : d.marker = some m →
    Lines.Unbroken m.issueId.toList ∧ Markdown.Unbarred m.issueId.toList
  cost (m : Marker) : d.marker = some m →
    Lines.Unbroken m.cost.toList ∧ Markdown.Unbarred m.cost.toList

/-- A line is the diagnostic's row, and its bare bars cut it into five cells. -/
structure IsRow (d : Diagnostic) (line : List Char) : Prop where
  text : line = d.line
  cells : ∃ inner, Markdown.cells line = [] :: inner ++ [[]] ∧ inner.length = 5

theorem unbroken_placeText :
    Lines.Unbroken d.placeText.toList ↔
      ∀ l, d.location = some l → Lines.Unbroken l.path.toList := by
  rw [placeText]
  cases d.location with
  | none => simp
  | some l =>
      simp only [Option.some.injEq, forall_eq']
      by_cases empty : l.path = ""
      · simp [empty]
      · have plain := (Numeral.plain_toString l.line).1
        generalize toString l.line = number at plain ⊢
        by_cases zero : l.line = 0 <;> simp [empty, zero, plain]

theorem unbarred_placeText :
    Markdown.Unbarred d.placeText.toList ↔
      ∀ l, d.location = some l → Markdown.Unbarred l.path.toList := by
  rw [placeText]
  cases d.location with
  | none => simp [Markdown.unbarred_field, Markdown.barsAfter]
  | some l =>
      simp only [Option.some.injEq, forall_eq']
      by_cases empty : l.path = ""
      · simp [empty]
      · have plain := (Numeral.plain_toString l.line).2
        generalize toString l.line = number at plain ⊢
        have behind : '|' ∉ ((if l.line = 0 then "" else ":" ++ number) ++ "`").toList := by
          by_cases zero : l.line = 0 <;> simp [zero, plain]
        have front : "`".toList = ['`'] := rfl
        rw [if_neg empty, String.append_assoc, String.toList_append, String.toList_append, front,
          List.singleton_append]
        exact Markdown.unbarred_between (by decide) (by decide) behind

theorem plain_severity (s : Severity) :
    Lines.Unbroken s.name.toList ∧ Markdown.Unbarred s.name.toList := by
  rw [Markdown.unbarred_field]
  have none : '|' ∉ s.name.toList := by cases s <;> simp [Severity.name]
  refine ⟨?_, Markdown.barsAfter_of_not_mem none _⟩
  cases s <;> simp [Severity.name]

/-- What holds of the empty text holds of a marker's text, or of what stands for it, exactly if it
holds of that of each marker there is. -/
theorem ofMarker_iff {P : String → Prop} (empty : P "") (text : Marker → String) :
    P ((d.marker.map text).getD "") ↔ ∀ m, d.marker = some m → P (text m) := by
  cases d.marker <;> simp [empty]

theorem isTidy_iff :
    d.IsTidy ↔ Lines.Unbroken d.line ∧ ∀ f ∈ d.fields.map String.toList, Markdown.Unbarred f := by
  have unbroken := @ofMarker_iff d (fun s => Lines.Unbroken s.toList) Lines.unbroken_nil
  have unbarred := @ofMarker_iff d (fun s => Markdown.Unbarred s.toList)
    ((Markdown.unbarred_field _).mpr rfl)
  have severity := plain_severity d.severity
  have escaped : Markdown.Unbarred (Markdown.escapeBars d.message).toList :=
    (Markdown.unbarred_field _).mpr (Markdown.barsAfter_escapeBars ' ' d.message)
  rw [line, Markdown.unbroken_ofFields]
  simp only [fields, List.map_cons, List.map_nil, List.forall_mem_cons, unbroken_placeText,
    unbarred_placeText, Markdown.unbroken_escapeBars, issueText, costText, unbroken, unbarred]
  constructor
  · intro tidy
    constructor
    · exact ⟨severity.1, fun l h => (tidy.path l h).1, tidy.message,
        fun m h => (tidy.issue m h).1, fun m h => (tidy.cost m h).1, List.forall_mem_nil _⟩
    · exact ⟨severity.2, fun l h => (tidy.path l h).2, escaped,
        fun m h => (tidy.issue m h).2, fun m h => (tidy.cost m h).2, List.forall_mem_nil _⟩
  · rintro ⟨⟨-, path, message, issue, cost, -⟩, -, path', -, issue', cost', -⟩
    exact ⟨message, fun l h => ⟨path l h, path' l h⟩, fun m h => ⟨issue m h, issue' m h⟩,
      fun m h => ⟨cost m h, cost' m h⟩⟩

theorem isRow_line_iff :
    d.IsRow d.line ↔ ∀ f ∈ d.fields.map String.toList, Markdown.Unbarred f := by
  have five : (d.fields.map String.toList).length = 5 := rfl
  rw [← Markdown.cells_ofFields_iff, five, ← line]
  constructor
  · exact IsRow.cells
  · exact IsRow.mk rfl

/-- The cells of a tidy row are its fields, each between blanks. -/
theorem IsTidy.cells_line (tidy : d.IsTidy) :
    Markdown.cells d.line = [] :: d.fields.map (fun f => ' ' :: f.toList ++ [' ']) ++ [[]] := by
  rw [line, Markdown.cells_ofFields_of_unbarred (isTidy_iff.mp tidy).2, List.map_map]
  rfl

theorem forall₂_isRow_iff {ds : List Diagnostic} {lines : List (List Char)} :
    List.Forall₂ IsRow ds lines ↔ lines = ds.map line ∧ ∀ d ∈ ds, d.IsRow d.line := by
  constructor
  · intro each
    induction each with
    | nil => exact ⟨rfl, List.forall_mem_nil _⟩
    | cons first _ ih =>
        obtain ⟨rfl, later⟩ := ih
        cases first.text
        exact ⟨rfl, List.forall_mem_cons.mpr ⟨first, later⟩⟩
  · rintro ⟨rfl, each⟩
    exact List.forall₂_map_right_iff.mpr (List.forall₂_same.mpr each)

end Diagnostic

namespace Report

variable {r : Report}

/-- The lines of the page behind the head of the diagnostics' table are their rows, one for each. -/
def HasTable (r : Report) (page : String) : Prop :=
  ∃ rows, Lines.of page.toList = Lines.of (r.front ++ Markdown.tableHead).toList ++ rows ∧
    List.Forall₂ Diagnostic.IsRow r.diagnostics rows

theorem hasTable_iff :
    r.HasTable (r.front ++ (Markdown.tableHead ++ String.ofList (Markdown.rows r.diagnostics))) ↔
      ∀ d ∈ r.diagnostics, d.IsTidy := by
  obtain ⟨head, ends⟩ : ∃ head, (r.front ++ Markdown.tableHead).toList = head ++ ['\n'] := by
    have last : Markdown.tableHead.toList = Markdown.tableHead.toList.dropLast ++ ['\n'] := by
      decide
    refine ⟨r.front.toList ++ Markdown.tableHead.toList.dropLast, ?_⟩
    rw [String.toList_append, List.append_assoc, ← last]
  have lines : Lines.of (r.front ++
      (Markdown.tableHead ++ String.ofList (Markdown.rows r.diagnostics))).toList =
      Lines.of (r.front ++ Markdown.tableHead).toList ++
        Lines.of (Markdown.rows r.diagnostics) := by
    rw [← String.append_assoc, String.toList_append, String.toList_ofList, ends, List.append_assoc]
    exact Lines.of_append_feed head _
  have tidy : (∀ d ∈ r.diagnostics, d.IsTidy) ↔
      (∀ line ∈ r.diagnostics.map Diagnostic.line, Lines.Unbroken line) ∧
        ∀ d ∈ r.diagnostics, d.IsRow d.line := by
    simp only [Diagnostic.isTidy_iff, Diagnostic.isRow_line_iff, List.forall_mem_map, forall_and]
  rw [HasTable, lines, tidy, ← Lines.of_written_iff]
  simp only [Diagnostic.forall₂_isRow_iff, List.append_cancel_left_eq, exists_eq_left']
  rfl

/-- **A page has the table of its diagnostics, a row of five cells for each, exactly if** all
numbers can be written and the rows are tidy: no line ends within a message, a path, an issue or a
cost, and no bare bar stands in a path, an issue or a cost. Tidy or not, the page is the front, the
head of the table and the rows, and only a number beyond the digit limit keeps it from being
given. -/
theorem table_account (ne : r.diagnostics ≠ []) :
    (∀ page, Markdown.page r.value = .ok page ↔ r.IsWritable ∧
      page = r.front ++ (Markdown.tableHead ++ String.ofList (Markdown.rows r.diagnostics))) ∧
    (∀ f, Markdown.page r.value = .error f ↔ ¬ r.IsWritable ∧ f = .unwritable) ∧
    ((∃ page, Markdown.page r.value = .ok page ∧ r.HasTable page) ↔
      r.IsWritable ∧ ∀ d ∈ r.diagnostics, d.IsTidy) := by
  rcases page_or_unwritable ne with ⟨writable, written⟩ | ⟨beyond, unwritten⟩
  · rw [written]
    simp [writable, eq_comm, hasTable_iff]
  · rw [unwritten]
    simp [beyond, eq_comm]

/-! ## The report of one marker -/

/-- A marker of a ledger that expired on the first day of 2020. -/
def expiredMarker (texts : Marker) : Marker :=
  { texts with removalDate := "2020-01-01", location := some ⟨Configuration.ledgerName, 0, none⟩ }

def expiredDiagnostic (texts : Marker) : Diagnostic :=
  ⟨.warning, Diagnostic.describe texts, (expiredMarker texts).location, some (expiredMarker texts)⟩

/-- The report on such a marker alone. -/
def ofExpired (texts : Marker) : Report :=
  { root := "/r", commit := none, today := Gate.newYear, build := {}
    summary := { markers := 1, expired := 1, warnings := 1 }
    diagnostics := [expiredDiagnostic texts] }

theorem isWritable_ofExpired (texts : Marker) : (ofExpired texts).IsWritable := by
  have short (i : Int) (small : (Nat.toDigits 10 i.natAbs).length ≤ Numeral.digitLimit) :
      ¬ Numeral.IsUnwritable i := Nat.not_lt.mpr small
  refine ⟨nofun, short 1 (by decide), short 1 (by decide), short 1 (by decide), short 0 (by decide),
    fun d member => ?_⟩
  cases List.mem_singleton.mp member
  intro l located _
  cases located
  exact short 0 (by decide)

/-- A bar in a label comes into the message, and does no harm there. -/
def barredLabel : Marker := { label := "a|b", issueId := "X-1" }

theorem isTidy_barredLabel : (expiredDiagnostic barredLabel).IsTidy := by
  have plain {s : String} (none : '|' ∉ s.toList) : Markdown.Unbarred s.toList :=
    (Markdown.unbarred_field _).mpr (Markdown.barsAfter_of_not_mem none _)
  have message : (expiredDiagnostic barredLabel).message = "Debt found: label 'a|b'" := by
    decide +kernel
  constructor
  · rw [message]
    simp
  · intro l located
    cases located
    exact ⟨by simp [Configuration.ledgerName], plain (by simp [Configuration.ledgerName])⟩
  · intro m marked
    cases marked
    exact ⟨by simp [expiredMarker, barredLabel], plain (by simp [expiredMarker, barredLabel])⟩
  · intro m marked
    cases marked
    exact ⟨by simp [expiredMarker, barredLabel], plain (by simp [expiredMarker, barredLabel])⟩

theorem barredLabel_table_account :
    (ofExpired barredLabel).diagnostics ≠ [] ∧
      ∃ page, Markdown.page (ofExpired barredLabel).value = .ok page ∧
        (ofExpired barredLabel).HasTable page := by
  have ne : (ofExpired barredLabel).diagnostics ≠ [] := List.cons_ne_nil _ _
  refine ⟨ne, (table_account ne).2.2.mpr ⟨isWritable_ofExpired _, fun d member => ?_⟩⟩
  cases List.mem_singleton.mp member
  exact isTidy_barredLabel

/-- What the scan of a repository comes to that holds this ledger and nothing else. -/
def ofLedger (ledger : String) : Except Failure Report :=
  (Gate.scan (Gate.ledgerOnly ledger) "/r" Gate.unsourced {} Gate.newYear "").report

/-- The scan gives a report with diagnostics, and the page of the report has not their table. -/
def Untabled (scanned : Except Failure Report) : Prop :=
  ∃ r, scanned = .ok r ∧ r.diagnostics ≠ [] ∧
    ∀ page, Markdown.page r.value = .ok page → ¬ r.HasTable page

theorem untabled_of_untidy {texts : Marker} (untidy : ¬ (expiredDiagnostic texts).IsTidy) :
    Untabled (.ok (ofExpired texts)) := by
  have ne : (ofExpired texts).diagnostics ≠ [] := List.cons_ne_nil _ _
  refine ⟨_, rfl, ne, fun page given tabled => untidy ?_⟩
  rcases page_or_unwritable ne with ⟨-, written⟩ | ⟨-, unwritten⟩
  · have same := Except.ok.inj (given.symm.trans written)
    rw [same, hasTable_iff] at tabled
    exact tabled _ List.mem_cons_self
  · cases unwritten.symm.trans given

/-- **Not every page has its table**: a bar in an issue makes a sixth cell, and a line end in a
reason breaks its row in two. -/
theorem bar_and_line_end_untabled :
    Untabled (ofLedger "debts: [\x7bremoval_date: 2020-01-01, issue_id: a|b\x7d]") ∧
    Untabled (ofLedger "debts: [\x7bremoval_date: 2020-01-01, reason: \"a\\nb\"\x7d]") := by
  constructor
  · have scanned : ofLedger "debts: [\x7bremoval_date: 2020-01-01, issue_id: a|b\x7d]" =
        .ok (ofExpired { issueId := "a|b" }) := ok_of_toOption_eq_some (by decide +kernel)
    rw [scanned]
    refine untabled_of_untidy fun tidy => ?_
    have none := (Markdown.unbarred_field _).mp (tidy.issue _ rfl).2
    exact absurd none (by decide +kernel)
  · have scanned : ofLedger "debts: [\x7bremoval_date: 2020-01-01, reason: \"a\\nb\"\x7d]" =
        .ok (ofExpired { reason := "a\nb" }) := ok_of_toOption_eq_some (by decide +kernel)
    rw [scanned]
    refine untabled_of_untidy fun tidy => ?_
    exact absurd rfl (tidy.message '\n' (by decide +kernel)).1

end Report

end Overdue
