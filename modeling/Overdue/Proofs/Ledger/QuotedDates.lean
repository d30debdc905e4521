import Overdue.Proofs.Document.Keys
import Overdue.Proofs.Document.QuotedLines
import Overdue.Proofs.Ledger.Conservation
import Overdue.Proofs.Marker.FieldWise
import Overdue.Proofs.Verdict.Progress

/-!
# Dates in a ledger, in quotes or without

Two ledgers that are the same but for the quotes of dates give the same markers, and fail alike:
a text field takes a date for its written form, which is the text between the quotes, and every
other field refuses both (`take_agree`). `markers_same_but_quotes` follows the dates from the bytes
of the ledgers to the verdict about a marker.
-/
namespace Overdue

open List (Forall₂)

/-! ## Entries that are alike -/

namespace Entries

variable {entries entries' : Entries}

theorem field?_alike (each : Forall₂ Value.AlikeEntry entries entries') (name : String) :
    Option.Rel (Value.Alike true) (entries.field? name) (entries'.field? name) := by
  induction each with
  | nil => exact .none
  | cons first rest ih =>
      obtain ⟨key, alike⟩ := first
      rw [field?_cons, field?_cons]
      split
      · exact .some alike
      · exact ih

theorem erase_alike (each : Forall₂ Value.AlikeEntry entries entries') (key : Value) :
    Forall₂ Value.AlikeEntry (entries.erase key) (entries'.erase key) := by
  refine List.rel_filter ?_ each
  rintro - - ⟨known, -⟩
  rfl

end Entries

namespace Host

variable (host : Host)

mutual

/-- The order of sets does not matter: a set is the same in both. -/
theorem arranged_alike : ∀ {field : Bool} {v v' : Value}, Value.Alike field v v' →
    Value.Alike field (host.arranged v) (host.arranged v')
  | _, _, _, .same v => .same _
  | _, _, _, .date d here there => by
      rcases here with rfl | rfl <;> rcases there with rfl | rfl
      · exact .same _
      · exact .date d (.inl rfl) (.inr rfl)
      · exact .date d (.inr rfl) (.inl rfl)
      · exact .same _
  | _, _, _, .list each => .list (arrangedAll_alike each)
  | _, _, _, .pair first second => .pair (arranged_alike first) (arranged_alike second)
  | _, _, _, .map each => .map (arrangedEntries_alike each)

theorem arrangedAll_alike : ∀ {items items' : List Value},
    Forall₂ (Value.Alike false) items items' →
    Forall₂ (Value.Alike false) (host.arrangedAll items) (host.arrangedAll items')
  | _, _, .nil => .nil
  | _, _, .cons first rest => .cons (arranged_alike first) (arrangedAll_alike rest)

theorem arrangedEntries_alike : ∀ {entries entries' : Entries},
    Forall₂ Value.AlikeEntry entries entries' →
      Forall₂ Value.AlikeEntry (host.arrangedEntries entries) (host.arrangedEntries entries')
  | _, _, .nil => .nil
  | _, _, .cons (.entry key alike) rest =>
      .cons (.entry key (arranged_alike alike)) (arrangedEntries_alike rest)

end

end Host

namespace Value

/-- The members of alike lists are alike; one that stands for its list does so in both. -/
theorem inside_alike {items items' : List Value} (each : Forall₂ (Alike false) items items')
    {x x' : Value} (member : Alike false x x') :
    Alike false (x.inside (.list items)) (x'.inside (.list items')) := by
  cases member with
  | same x =>
      cases x with
      | enclosing isMap =>
          cases isMap with
          | true => exact .same _
          | false => exact .list each
      | _ => exact .same _
  | list each => exact .list each
  | pair first second => exact .pair first second
  | map each => exact .map each

end Value

/-! ## Markers of entries that are alike -/

namespace Marker

/-- Two attempts at a marker make the same, or both refuse a field; the words may differ, but not
whether there are any. -/
inductive Agree {α : Type} : Except FieldFault α → Except FieldFault α → Prop
  | ok (a : α) : Agree (.ok a) (.ok a)
  | error {f f' : FieldFault} : (f.message? = none ↔ f'.message? = none) →
      Agree (.error f) (.error f')

theorem Agree.refl {α : Type} (x : Except FieldFault α) : Agree x x := by
  cases x with
  | ok a => exact .ok a
  | error f => exact .error .rfl

/-- Two faults about values are put into words alike. -/
theorem Agree.of_quoted {α : Type} {f f' : FieldFault} {v v' : Value} (quoted : f.quoted? = some v)
    (quoted' : f'.quoted? = some v') (alike : Value.Alike true v v') :
    Agree (α := α) (.error f) (.error f') := by
  refine .error ?_
  rw [FieldFault.message?_of_quoted quoted, FieldFault.message?_of_quoted quoted',
    alike.holdsUnwritable_iff]

theorem Agree.map {α β : Type} {x x' : Except FieldFault α} (agree : Agree x x') (f : α → β) :
    Agree (x.map f) (x'.map f) := by
  cases agree with
  | ok a => exact .ok (f a)
  | error words => exact .error words

/-- A text field takes a date and its text for the same, and every other field refuses both. -/
theorem ofValue_agree (field : Field) (name : String) {v v' : Value}
    (alike : Value.Alike true v v') :
    Agree (Content.ofValue field name v) (Content.ofValue field name v') := by
  cases alike with
  | same v => exact .refl _
  | date d here there =>
      have alike := Value.Alike.date d here there
      rcases here with rfl | rfl <;> rcases there with rfl | rfl <;>
        cases field <;> first | exact .ok _ | exact .of_quoted rfl rfl alike
  | list each => cases field <;> exact .of_quoted rfl rfl (.list each)
  | pair first second => cases field <;> exact .of_quoted rfl rfl (.pair first second)
  | map each => cases field <;> exact .of_quoted rfl rfl (.map each)

theorem take_agree (m : Marker) (key : Value) {v v' : Value} (alike : Value.Alike true v v') :
    Agree (m.take key v) (m.take key v') := by
  cases known : fieldOf? key with
  | none =>
      simp only [take, known]
      exact .refl _
  | some found =>
      obtain ⟨field, name⟩ := found
      have agree := (ofValue_agree field name alike).map (m.put field)
      simp only [take, known]
      cases alike with
      | same v => exact .refl _
      | date d here there =>
          rcases here with rfl | rfl <;> rcases there with rfl | rfl <;> exact agree
      | _ => exact agree

theorem takeAll_agree (m : Marker) {fields fields' : Entries}
    (each : Forall₂ Value.AlikeEntry fields fields') :
    Agree (m.takeAll fields) (m.takeAll fields') := by
  induction each generalizing m with
  | nil => exact .ok m
  | cons first rest ih =>
      obtain ⟨key, alike⟩ := first
      have step := take_agree m key alike
      rw [takeAll_cons, takeAll_cons]
      generalize m.take key _ = taken at step
      generalize m.take key _ = taken' at step
      cases step with
      | ok m => exact ih m
      | error words => exact .error words

end Marker

/-! ## Lists of markers -/

/-- Two outcomes are the same item, the same failure, or two problems. -/
inductive Outcome.Agree {α : Type} : Outcome α → Outcome α → Prop
  | item (a : α) : Agree (.item a) (.item a)
  | problem (p p' : Problem) : Agree (.problem p) (.problem p')
  | failure (f : Failure) : Agree (.failure f) (.failure f)

theorem Outcome.Agree.refl {α : Type} (o : Outcome α) : o.Agree o := by
  cases o with
  | item a => exact .item a
  | problem p => exact .problem p p
  | failure f => exact .failure f

/-- Two readings have the same items and the same failure, and as many problems. -/
structure Reading.Agree {α : Type} (r r' : Reading α) : Prop where
  items : r.items = r'.items
  problems : r.problems.length = r'.problems.length
  failure : r.failure = r'.failure

theorem Reading.agree_ofOutcomes {α : Type} {outcomes outcomes' : List (Outcome α)}
    (each : Forall₂ Outcome.Agree outcomes outcomes') :
    (ofOutcomes outcomes).Agree (ofOutcomes outcomes') := by
  induction each with
  | nil => exact ⟨rfl, rfl, rfl⟩
  | cons first rest ih =>
      obtain ⟨items, problems, failure⟩ := ih
      rw [ofOutcomes_cons, ofOutcomes_cons]
      cases first with
      | item a => exact ⟨congrArg (a :: ·) items, problems, failure⟩
      | problem p p' => exact ⟨items, congrArg (· + 1) problems, failure⟩
      | failure f => exact ⟨rfl, rfl, rfl⟩

namespace Ledger

variable {entries entries' : Entries} {v v' : Value}

theorem lineOf_alike (each : Forall₂ Value.AlikeEntry entries entries') :
    lineOf (entries.field? "line") = lineOf (entries'.field? "line") := by
  have named := Entries.field?_alike each "line"
  generalize entries.field? "line" = line at named
  generalize entries'.field? "line" = line' at named
  cases named with
  | none => rfl
  | some alike =>
      cases alike with
      | same v => rfl
      | date d here there => exact here.congr (f := fun v => lineOf (some v)) there rfl
      | _ => rfl

/-- The paths that two values name, if they are entries, are put into words alike. -/
def SamePath (v v' : Value) : Prop :=
  ∀ entry entry' : Entries, v = .map entry → v' = .map entry' →
    (entry.field? "path").map Value.display? = (entry'.field? "path").map Value.display?

theorem locationOf_alike {entry entry' : Entries}
    (each : Forall₂ Value.AlikeEntry entry entry')
    (path : (entry.field? "path").map Value.display? = (entry'.field? "path").map Value.display?)
    (shown : String) : locationOf shown entry = locationOf shown entry' := by
  have named := Entries.field?_alike each "path"
  rw [locationOf, locationOf, lineOf_alike each]
  generalize entry.field? "path" = v at named path
  generalize entry'.field? "path" = v' at named path
  cases named with
  | none => rfl
  | some alike =>
      have words := Option.some.inj path
      dsimp only
      rw [alike.truthy, words]

theorem markerOutcome_agree (alike : Value.Alike false v v') (path : SamePath v v')
    (shown : String) (index : Nat) :
    (markerOutcome shown index v).Agree (markerOutcome shown index v') := by
  cases alike with
  | same v => exact .refl _
  | list each => exact .problem _ _
  | pair first second => exact .problem _ _
  | @map _ entry entry' each =>
      have location := locationOf_alike each (path entry entry' rfl rfl) shown
      have fields : Forall₂ Value.AlikeEntry (fieldsOf entry) (fieldsOf entry') :=
        Entries.erase_alike (Entries.erase_alike each _) _
      unfold markerOutcome
      dsimp only
      rw [← location]
      cases locationOf shown entry with
      | none => exact .failure _
      | some place =>
          have agree : Marker.Agree (Marker.ofFields (fieldsOf entry) (some place))
              (Marker.ofFields (fieldsOf entry') (some place)) := Marker.takeAll_agree _ fields
          dsimp only
          generalize Marker.ofFields (fieldsOf entry) (some place) = made at agree
          generalize Marker.ofFields (fieldsOf entry') (some place) = made' at agree
          cases agree with
          | ok m => exact .item m
          | @error f f' words =>
              dsimp only
              cases said : f.message? with
              | none =>
                  rw [words.mp said]
                  exact .failure _
              | some message =>
                  cases said' : f'.message? with
                  | none =>
                      rw [words.mpr said'] at said
                      cases said
                  | some message' => exact .problem _ _

theorem list_or_other (alike : Value.Alike true v v') :
    (∃ items items', v = .list items ∧ v' = .list items' ∧
        Forall₂ (Value.Alike false) items items') ∨
      (∀ items, v ≠ .list items) ∧ ∀ items, v' ≠ .list items := by
  cases alike with
  | same v =>
      cases v with
      | list items =>
          exact .inl ⟨items, items, rfl, rfl, List.forall₂_same.mpr fun v _ => .same v⟩
      | _ => exact .inr ⟨nofun, nofun⟩
  | date d here there =>
      rcases here with rfl | rfl <;> rcases there with rfl | rfl <;> exact .inr ⟨nofun, nofun⟩
  | list each => exact .inl ⟨_, _, rfl, rfl, each⟩
  | pair first second => exact .inr ⟨nofun, nofun⟩
  | map each => exact .inr ⟨nofun, nofun⟩

/-- Something else than a list is one problem, if it is given. -/
theorem outcomes_of_other {α : Type} {name : String}
    (other : ∀ items, (entries.field? name).getD .null ≠ .list items) (shown : String)
    (outcome : Nat → Value → Outcome α) :
    outcomes shown entries name outcome =
      if ((entries.field? name).getD .null).truthy = true then
        [.problem ⟨"'" ++ name ++ "' must be a list", some shown, none⟩]
      else [] := by
  unfold outcomes
  generalize (entries.field? name).getD .null = v at other
  split
  · exact absurd rfl (other _)
  · rfl

theorem outcomes_agree (each : Forall₂ Value.AlikeEntry entries entries')
    (paths : ∀ (index : Nat) (v v' : Value), (elements entries "debts")[index]? = some v →
      (elements entries' "debts")[index]? = some v' → SamePath v v') (shown : String) :
    Forall₂ Outcome.Agree (outcomes shown entries "debts" (markerOutcome shown))
      (outcomes shown entries' "debts" (markerOutcome shown)) := by
  have alike : Value.Alike true ((entries.field? "debts").getD .null)
      ((entries'.field? "debts").getD .null) := by
    have named := Entries.field?_alike each "debts"
    generalize entries.field? "debts" = debts at named
    generalize entries'.field? "debts" = debts' at named
    cases named with
    | none => exact .same _
    | some alike => exact alike
  rcases list_or_other alike with ⟨items, items', list, list', each⟩ | ⟨other, other'⟩
  · unfold elements at paths
    unfold outcomes
    rw [list, list'] at paths ⊢
    dsimp only at paths ⊢
    rw [List.forall₂_iff_get]
    have length := each.length_eq
    refine ⟨by simp [length], fun index bound bound' => ?_⟩
    simp only [List.length_map, List.length_zipIdx] at bound bound'
    simp only [List.get_eq_getElem, List.getElem_map, List.getElem_zipIdx, Nat.zero_add]
    refine markerOutcome_agree (Value.inside_alike each (each.get bound bound')) ?_ shown index
    exact paths index _ _ (by simp [bound]) (by simp [bound'])
  · rw [outcomes_of_other other, outcomes_of_other other', ← alike.truthy]
    split
    · exact .cons (.problem _ _) .nil
    · exact .nil

/-! ## Whole ledgers -/

/-- The bytes of two ledgers at a path are texts that are the same but for the quotes of dates. The
stack of the host lasts over both of them or over neither, and if they have characters that stand in
no document, the reading comes to these in both of them or ends early in both. -/
structure SameButQuotes (host : Host) (path : String) (bytes bytes' : List UInt8) : Prop where
  stack : host.exhaustsDocument path bytes = host.exhaustsDocument path bytes'
  early : host.endsEarly? bytes = host.endsEarly? bytes'
  texts : ∃ chars chars', Utf8.decode bytes = .ok chars ∧ Utf8.decode bytes' = .ok chars' ∧
    Document.SameButQuotes (Lines.unify chars) (Lines.unify chars')

/-- The entries of two ledgers name the same paths, each that of its place. -/
def SamePaths (host : Host) (path : String) (bytes bytes' : List UInt8) : Prop :=
  ∀ entries entries', Holds host path bytes entries → Holds host path bytes' entries' →
    ∀ (index : Nat) (v v' : Value), (elements entries "debts")[index]? = some v →
      (elements entries' "debts")[index]? = some v' → SamePath v v'

section Bytes

variable {host : Host} {path : String} {bytes bytes' : List UInt8}

theorem ofFile_alike (same : SameButQuotes host path bytes bytes') :
    Matches (Value.Alike false) (Document.ofFile host path bytes)
      (Document.ofFile host path bytes') := by
  obtain ⟨stack, early, chars, chars', decoded, decoded', quotes⟩ := same
  have reads := Document.read_alike quotes
  unfold Document.ofFile Document.outcome
  rw [decoded, decoded', ← stack]
  dsimp only
  rw [← early, ← quotes.allowed]
  generalize Document.read (Lines.unify chars) = result at reads
  generalize Document.read (Lines.unify chars') = result' at reads
  split
  · exact .error _
  · cases Lines.unify chars |>.all Document.isAllowed with
    | false => exact .error _
    | true =>
        cases reads with
        | error f => exact .error _
        | ok alike => exact .ok (host.arranged_alike alike)

theorem entriesOf_alike (same : SameButQuotes host path bytes bytes') :
    Matches (Forall₂ Value.AlikeEntry) (entriesOf host path bytes)
      (entriesOf host path bytes') := by
  have files := ofFile_alike same
  unfold entriesOf
  generalize Document.ofFile host path bytes = result at files
  generalize Document.ofFile host path bytes' = result' at files
  cases files with
  | error f => exact .of_eq _ fun _ => List.forall₂_same.mpr fun v _ => .entry v.1 (.same v.2)
  | @ok v v' alike =>
      dsimp only
      rw [← alike.truthy]
      split
      · exact .ok .nil
      cases alike with
      | same v => exact .of_eq _ fun _ => List.forall₂_same.mpr fun v _ => .entry v.1 (.same v.2)
      | list each => exact .error _
      | pair first second => exact .error _
      | map each => exact .ok each

end Bytes

theorem markers_of_holds {files : Files} {l : Ledger} {bytes : List UInt8}
    (fresh : l.kept = none) (there : files.read l.path = .ok bytes)
    (holds : Holds files.host l.path bytes entries) :
    ∃ log, (l.markers files).2 =
      { Reading.ofOutcomes (outcomes l.shownPath entries "debts" (markerOutcome l.shownPath)) with
        log } := by
  obtain ⟨log, loaded⟩ := load_of_found fresh (.there there holds)
  have list : Ledger.readList { l with kept := some entries } "debts"
      (fun index v => markerOutcome l.shownPath index v) =
      .ofOutcomes (outcomes l.shownPath entries "debts" (markerOutcome l.shownPath)) :=
    readList_eq rfl
  refine ⟨log, ?_⟩
  simp only [markers, drain, loaded, list]

theorem markers_agree {files files' : Files} {l : Ledger} {bytes bytes' : List UInt8}
    (host : files.host = files'.host) (fresh : l.kept = none)
    (here : files.read l.path = .ok bytes) (there : files'.read l.path = .ok bytes')
    (same : SameButQuotes files.host l.path bytes bytes')
    (paths : SamePaths files.host l.path bytes bytes') :
    (l.markers files).2.Agree (l.markers files').2 := by
  have alike := entriesOf_alike same
  rcases entriesOf_outcome files.host l.path bytes with
    ⟨f, fails, unreadable⟩ | ⟨entries, given, holds⟩
  · rcases entriesOf_outcome files.host l.path bytes' with
      ⟨f', fails', unreadable'⟩ | ⟨_, given', -⟩
    · rw [fails, fails'] at alike
      cases alike
      rw [markers, drain_of_unreadable fresh here unreadable, markers,
        drain_of_unreadable fresh there (host ▸ unreadable')]
      exact ⟨rfl, rfl, rfl⟩
    · rw [fails, given'] at alike
      cases alike
  · rcases entriesOf_outcome files.host l.path bytes' with
      ⟨f, fails', -⟩ | ⟨entries', given', holds'⟩
    · rw [given, fails'] at alike
      cases alike
    · rw [given, given'] at alike
      cases alike with
      | ok each =>
          obtain ⟨log, read⟩ := markers_of_holds fresh here holds
          obtain ⟨log', read'⟩ := markers_of_holds fresh there (host ▸ holds')
          obtain ⟨items, problems, failure⟩ := Reading.agree_ofOutcomes
            (outcomes_agree each (paths entries entries' holds holds') l.shownPath)
          rw [read, read']
          exact ⟨items, problems, failure⟩

end Ledger

/-! ## What a marker holds of a date -/

namespace Content

theorem takes_of_textOf {key : String} {v : Value} {s : String} (taken : textOf key v = .ok s) :
    Field.Kind.text.Takes v (.text s) := by
  cases v with
  | int i =>
      have short := Numeral.text?_eq_none_iff (i := i)
      have written := Numeral.text?_of_writable (i := i)
      unfold textOf at taken
      dsimp only at taken
      generalize Numeral.text? i = text at short written taken
      cases text with
      | none => cases taken
      | some t =>
          have same := written fun beyond => nomatch short.mpr beyond
          cases taken
          cases same
          exact .int i
  | text t => exact Except.ok.inj taken ▸ .text t
  | date d => exact Except.ok.inj taken ▸ .date d
  | moment m => exact Except.ok.inj taken ▸ .moment m
  | float x => exact Except.ok.inj taken ▸ .float x
  | _ => cases taken

theorem takes_of_ofValue {field : Field} {key : String} {v : Value} {c : Content}
    (taken : ofValue field key v = .ok c) : c.IsOf field.kind ∧ field.kind.Takes v c.value := by
  cases field with
  | blocking =>
      cases v <;> cases taken
      exact ⟨trivial, .flag _⟩
  | versionCode =>
      cases v <;> cases taken
      exact ⟨trivial, .code _⟩
  | _ =>
      obtain ⟨s, read, rfl⟩ := ok_of_map_eq_ok taken
      exact ⟨trivial, takes_of_textOf read⟩

end Content

namespace Marker

/-- A field that a named value was given for holds it; the others are unchanged. -/
theorem take_follows {m m' : Marker} {key v : Value} (taken : m.take key v = .ok m')
    (field : Field) : Follows m m' field (field.given? [(key, v)]) := by
  cases known : fieldOf? key with
  | none =>
      simp only [take, known] at taken
      cases taken
  | some found =>
      obtain ⟨named, name⟩ := found
      obtain ⟨rfl, isNamed⟩ := fieldOf?_eq_some_iff.mp known
      by_cases null : v = .null
      · subst null
        simp only [take, known] at taken
        cases taken
        exact follows_null m name field
      · rw [take_of_ne_null m isNamed null] at taken
        obtain ⟨c, read, rfl⟩ := ok_of_map_eq_ok taken
        obtain ⟨fits, takes⟩ := Content.takes_of_ofValue read
        exact follows_put m isNamed null fits takes field

theorem takeAll_follows {m m' : Marker} {fields : Entries} (taken : m.takeAll fields = .ok m')
    (field : Field) : Follows m m' field (field.given? fields) := by
  induction fields generalizing m with
  | nil =>
      cases taken
      exact rfl
  | cons entry rest ih =>
      obtain ⟨key, v⟩ := entry
      rw [takeAll_cons] at taken
      split at taken
      · cases taken
      · rename_i next step
        rw [← List.singleton_append, Field.given?_append]
        exact (take_follows step field).trans (ih taken)

/-- The marker's removal date is read as the date: it is met from that day on, and no error is
reported for it. -/
structure ExpiresOn (m : Marker) (d : Date) : Prop where
  met (today : Date) : Verdict.dateCondition m today = (decide (d ≤ today), none)
  unreported {milestones : Milestones} {build : Build} {today : Date} {v : Verdict} :
    m.verdict milestones build today = .ok v → ∀ e ∈ v.parseErrors, e.field ≠ .removalDate

theorem expiresOn_of_iso {m : Marker} {d : Date} (given : m.removalDate = d.iso) :
    m.ExpiresOn d := by
  have met (today : Date) : Verdict.dateCondition m today = (decide (d ≤ today), none) := by
    rw [Verdict.dateCondition, given, if_neg d.iso_ne_empty, Date.read_iso]
  refine ⟨met, ?_⟩
  intro milestones build today v decided e member
  obtain ⟨nameMet, error, named, rfl⟩ := checks_of_verdict decided
  rw [met] at member
  rcases Verdict.nameErrors named with ⟨-, none⟩ | ⟨-, one⟩
  · rw [none] at member
    cases member
  · rw [one] at member
    obtain rfl := List.mem_singleton.mp member
    nofun

/-- A field that a date was given for holds its written form, with quotes or without. -/
theorem held_of_date {m : Marker} {fields : Entries} {location : Option Location} {field : Field}
    {v : Value} {d : Date} (made : ofFields fields location = .ok m) (text : field.kind = .text)
    (given : field.given? fields = some v) (date : v.IsDate d) : m.held field = .text d.iso := by
  have follows := takeAll_follows made field
  rw [given] at follows
  have takes : field.kind.Takes v (m.held field) := follows
  rw [text] at takes
  rcases date with rfl | rfl
  · exact takes.unique (.date d)
  · exact takes.unique (.text d.iso)

end Marker

namespace Ledger

theorem ofFields_of_item {shown : String} {index : Nat} {entry : Entries} {m : Marker}
    (item : markerOutcome shown index (.map entry) = .item m) :
    ∃ location, Marker.ofFields (fieldsOf entry) location = .ok m := by
  unfold markerOutcome at item
  dsimp only at item
  split at item
  · cases item
  · rename_i location _
    split at item
    · rename_i made
      cases item
      exact ⟨some location, made⟩
    · split at item <;> cases item

/-- **Dates with quotes and without mean the same.** Two ledgers that are the same but for the
quotes of dates give the same markers on one host, and fail alike. The scalar of a date is read as
the date without quotes, and as its text in quotes. Where an entry gives either for a text field, its marker
holds the date's written form; a removal date that is so given is met from that day on, and is never
reported. -/
theorem markers_same_but_quotes {files files' : Files} {l : Ledger} {bytes bytes' : List UInt8}
    (host : files.host = files'.host) (fresh : l.kept = none)
    (here : files.read l.path = .ok bytes) (there : files'.read l.path = .ok bytes')
    (same : SameButQuotes files.host l.path bytes bytes')
    (paths : SamePaths files.host l.path bytes bytes') :
    (l.markers files).2.Agree (l.markers files').2 ∧
    (∀ (d : Date) (plain : Bool) (fuel depth : Nat),
      Document.Content.value (fuel + 1) depth
          (.scalar (Document.Composition.scalarTag none plain d.iso) d.iso) =
        .ok (if plain then .date d else .text d.iso)) ∧
    ∀ (index : Nat) (entry : Entries) (m : Marker),
      markerOutcome l.shownPath index (.map entry) = .item m →
        ∀ (field : Field) (v : Value) (d : Date), field.kind = .text →
          field.given? (fieldsOf entry) = some v → v.IsDate d →
            m.held field = .text d.iso ∧ (field = .removalDate → m.ExpiresOn d) := by
  refine ⟨markers_agree host fresh here there same paths, Document.Content.value_iso, ?_⟩
  intro index entry m item field v d text given date
  obtain ⟨location, made⟩ := ofFields_of_item item
  have held := Marker.held_of_date made text given date
  refine ⟨held, ?_⟩
  rintro rfl
  exact Marker.expiresOn_of_iso (Value.text.inj held)

/-! ### The leap day of the year 4 -/

/-- A ledger whose only entry gives a removal date, which is still to be written. -/
def beforeRemovalDate : List Char := "debts:\n- removal_date:".toList

def behindRemovalDate : List Char := "\n  label: Cache\n".toList

def leapDay : Date := ⟨4, 2, 29, by decide⟩

def plainLeapDay : List Char :=
  beforeRemovalDate ++ Document.plainly [' '] leapDay behindRemovalDate

def quotedLeapDay : List Char :=
  beforeRemovalDate ++ Document.inQuotes true [' '] leapDay behindRemovalDate

/-- The scanner at the removal date. -/
def atRemovalDate : Document.Lexer.State where
  here := ⟨[], 1, 15⟩
  indent := 2
  indents := [0, -1]
  allowKey := false
  done := [.value, .scalar "removal_date" true, .key, .blockMapping, .entry, .value,
    .scalar "debts" true, .key, .blockMapping]
  count := 9

theorem sameButQuotes_leapDay (path : String) :
    SameButQuotes .ideal path (Utf8.encode plainLeapDay) (Utf8.encode quotedLeapDay) := by
  refine ⟨rfl, rfl, plainLeapDay, quotedLeapDay, by decide +kernel, by decide +kernel, ?_⟩
  have unified : Lines.unify plainLeapDay = plainLeapDay := by decide +kernel
  have unified' : Lines.unify quotedLeapDay = quotedLeapDay := by decide +kernel
  rw [unified, unified']
  have awaits : atRemovalDate.AwaitsValue atRemovalDate.done.tail :=
    ⟨rfl, rfl, rfl, rfl, rfl, by decide, rfl⟩
  exact Document.sameButQuotes_of_line (n := 5) awaits (by decide +kernel) (by decide +kernel)
    (fun _ => List.mem_singleton.mp) (by decide +kernel) (by decide +kernel) (by decide +kernel)

/-- The entries of a ledger name no paths. -/
def namesNoPath (path : String) (bytes : List UInt8) : Bool :=
  match entriesOf .ideal path bytes with
  | .ok entries => (elements entries "debts").all fun v =>
    match v with
    | .map entry => (Entries.field? "path" entry).isNone
    | _ => true
  | .error _ => true

theorem field?_of_namesNoPath {path : String} {bytes : List UInt8}
    (pathless : namesNoPath path bytes = true) {entries entry : Entries}
    (holds : Holds .ideal path bytes entries) {index : Nat}
    (there : (elements entries "debts")[index]? = some (.map entry)) :
    entry.field? "path" = none := by
  rw [namesNoPath, entriesOf_of_holds holds] at pathless
  have none := List.all_eq_true.mp pathless _ (List.mem_of_getElem? there)
  exact Option.isNone_iff_eq_none.mp none

theorem samePaths_of_namesNoPath {path : String} {bytes bytes' : List UInt8}
    (pathless : namesNoPath path bytes = true) (pathless' : namesNoPath path bytes' = true) :
    SamePaths .ideal path bytes bytes' := by
  rintro entries entries' holds holds' index _ _ there there' entry entry' rfl rfl
  rw [field?_of_namesNoPath pathless holds there, field?_of_namesNoPath pathless' holds' there']

theorem leapDay_same_but_quotes :
    let l : Ledger := { path := "/r/ledger.yml" }
    (l.markers (alone (Utf8.encode plainLeapDay))).2.Agree
        (l.markers (alone (Utf8.encode quotedLeapDay))).2 ∧
      ∃ m, (l.markers (alone (Utf8.encode quotedLeapDay))).2.items = [m] ∧
        m.removalDate = "0004-02-29" ∧ m.ExpiresOn leapDay := by
  intro l
  have here : (alone (Utf8.encode plainLeapDay)).read l.path = .ok (Utf8.encode plainLeapDay) :=
    ok_of_toOption_eq_some (by decide +kernel)
  have there : (alone (Utf8.encode quotedLeapDay)).read l.path = .ok (Utf8.encode quotedLeapDay) :=
    ok_of_toOption_eq_some (by decide +kernel)
  have host : (alone (Utf8.encode plainLeapDay)).host = (alone (Utf8.encode quotedLeapDay)).host :=
    rfl
  obtain ⟨agree, -, dated⟩ := markers_same_but_quotes host rfl here there
    (sameButQuotes_leapDay l.path)
    (samePaths_of_namesNoPath (by decide +kernel) (by decide +kernel))
  obtain ⟨-, expires⟩ := dated 0
    [(.text "removal_date", .date leapDay), (.text "label", .text "Cache")]
    { label := "Cache", removalDate := "0004-02-29", location := some ⟨l.path, 0, none⟩ }
    rfl .removalDate (.date leapDay) leapDay rfl rfl (.inl rfl)
  exact ⟨agree, _, by decide +kernel, rfl, expires rfl⟩

end Ledger

end Overdue
