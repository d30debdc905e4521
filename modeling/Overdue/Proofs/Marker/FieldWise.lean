import Overdue.Proofs.Attempts
import Overdue.Proofs.Marker.Acceptance
import Overdue.Proofs.Marker.Declared

/-!
# Markers, field by field

What `Marker.ofFields` makes of named values, said without its loop. A named value is acceptable if
its name is one of a field and its value is null or of the field's kind. Fields that are all
acceptable give a marker whose every field holds the last value other than null that was given under
one of its names, and its usual value if there is none. Otherwise the first that is not acceptable
is refused, in words that name it. `ofFields_fieldWise` is the whole of this; `take_outcome` is one
step of the loop and `takeAll_outcome` all of them.
-/
namespace Overdue

/-! ## The names of fields -/

namespace Field

/-- The other names that some fields have. -/
def aliases : List (String × Field) :=
  [("stop_ship", .blocking), ("value", .label), ("id", .issueId)]

/-- The key is the name of the field, or another name of it. -/
def isNamedBy (field : Field) : Value → Bool
  | .text s => s == field.name || aliases.contains (s, field)
  | _ => false

theorem ofName?_eq_some_iff {s : String} {field : Field} :
    ofName? s = some field ↔ s = field.name := by
  constructor
  · intro found
    have named := List.find?_some found
    exact (beq_iff_eq.mp named).symm
  · rintro rfl
    cases field <;> rfl

theorem ofKey?_eq_some_iff {s : String} {field : Field} :
    ofKey? s = some field ↔ s = field.name ∨ (s, field) ∈ aliases := by
  unfold ofKey?
  split
  · rename_i same
    subst same
    cases field <;> decide
  · split
    · rename_i same
      subst same
      cases field <;> decide
    · split
      · rename_i same
        subst same
        cases field <;> decide
      · rename_i notBlocking notLabel notIssue
        rw [ofName?_eq_some_iff]
        simp [aliases, notBlocking, notLabel, notIssue]

end Field

theorem Marker.fieldOf?_eq_some_iff {key : Value} {field : Field} {name : String} :
    fieldOf? key = some (field, name) ↔ key = .text name ∧ field.isNamedBy key = true := by
  cases key with
  | text s =>
      simp only [fieldOf?, Option.map_eq_some_iff, Field.ofKey?_eq_some_iff, Prod.mk.injEq,
        Value.text.injEq, Field.isNamedBy, Bool.or_eq_true, beq_iff_eq, List.contains_iff_mem]
      grind
  | _ => simp [fieldOf?]

/-! ## The kinds of fields -/

namespace Field

/-- What fields hold: a text, a truth value, or a whole number. -/
inductive Kind
  | text
  | flag
  | code

def kind : Field → Kind
  | .blocking => .flag
  | .versionCode => .code
  | _ => .text

/-- A field of the kind takes the first value, and holds the second of it. A truth value is no
number. -/
inductive Kind.Takes : Kind → Value → Value → Prop
  | flag (b : Bool) : Takes .flag (.bool b) (.bool b)
  | code (i : Int) : Takes .code (.int i) (.int i)
  | text (s : String) : Takes .text (.text s) (.text s)
  | date (d : Date) : Takes .text (.date d) (.text d.iso)
  | moment (m : Moment) : Takes .text (.moment m) (.text m.iso)
  | int (i : Int) : Takes .text (.int i) (.text (toString i))
  | float (x : Binary64) : Takes .text (.float x) (.text x.text)

theorem Kind.Takes.unique {kind : Kind} {v w w' : Value} (h : kind.Takes v w)
    (h' : kind.Takes v w') : w = w' := by
  cases h <;> cases h' <;> rfl

/-- What a field holds that nothing was given for. -/
def Kind.usual : Kind → Value
  | .text => .text ""
  | .flag => .bool false
  | .code => .null

/-- The value is of the kind; where a number is to be held, there may be none. -/
inductive Kind.Holds : Kind → Value → Prop
  | text (s : String) : Holds .text (.text s)
  | flag (b : Bool) : Holds .flag (.bool b)
  | code (i : Int) : Holds .code (.int i)
  | noCode : Holds .code .null

theorem Kind.holds_usual (kind : Kind) : kind.Holds kind.usual := by
  cases kind with
  | text => exact .text ""
  | flag => exact .flag false
  | code => exact .noCode

theorem Kind.Takes.holds {kind : Kind} {v w : Value} (h : kind.Takes v w) : kind.Holds w := by
  cases h with
  | flag b => exact .flag b
  | code i => exact .code i
  | _ => exact .text _

end Field

namespace Marker

/-- The version code as a value. -/
def heldCode : Option Threshold → Value
  | none => .null
  | some (.number i) => .int i
  | some (.word s) => .text s

theorem heldCode_injective {c c' : Option Threshold} (same : heldCode c = heldCode c') :
    c = c' := by
  rcases c with - | (i | s) <;> rcases c' with - | (j | t) <;> simp_all [heldCode]

/-- What a marker holds in a field. -/
def held (m : Marker) : Field → Value
  | .label => .text m.label
  | .description => .text m.description
  | .reason => .text m.reason
  | .addedDate => .text m.addedDate
  | .blocking => .bool m.blocking
  | .removalDate => .text m.removalDate
  | .milestone => .text m.milestone
  | .versionCode => heldCode m.versionCode
  | .versionName => .text m.versionName
  | .issueId => .text m.issueId
  | .cost => .text m.cost

theorem held_default (location : Option Location) (field : Field) :
    held { location } field = field.kind.usual := by
  cases field <;> rfl

/-- A marker is what it holds in its fields, and its location. -/
theorem eq_of_held {m m' : Marker} (fields : ∀ field, m.held field = m'.held field)
    (location : m.location = m'.location) : m = m' := by
  have text {s t : String} (h : Value.text s = .text t) : s = t := Value.text.inj h
  cases m
  cases m'
  simp only [mk.injEq]
  exact ⟨text (fields .label), text (fields .description), text (fields .reason),
    text (fields .addedDate), Value.bool.inj (fields .blocking), text (fields .removalDate),
    text (fields .milestone), heldCode_injective (fields .versionCode), text (fields .versionName),
    text (fields .issueId), text (fields .cost), location⟩

end Marker

/-! ## One value in its field -/

namespace Content

/-- Content as a value. -/
def value : Content → Value
  | .text s => .text s
  | .flag b => .bool b
  | .code i => .int i

/-- The content is of the kind. -/
def IsOf : Content → Field.Kind → Prop
  | .text _, .text => True
  | .flag _, .flag => True
  | .code _, .code => True
  | _, _ => False

end Content

theorem Marker.held_put {field : Field} {c : Content} (fits : c.IsOf field.kind) (m : Marker)
    (f : Field) : (m.put field c).held f = if f = field then c.value else m.held f := by
  cases field <;> cases c <;> first | exact fits.elim | (cases f <;> rfl)

/-- The words that refuse a value in a field of the kind. -/
def Field.Kind.refusal (key : String) : Field.Kind → String
  | .text => key ++ " must be a string, got "
  | .flag => key ++ " must be true or false, got "
  | .code => "version_code must be an integer, got "

namespace Content

/-- A field of the kind makes content of a value, or refuses it in words that end in the value. -/
inductive Fares (kind : Field.Kind) (key : String) (v : Value) : Except FieldFault Content → Prop
  | content {c : Content} : c.IsOf kind → kind.Takes v c.value → Fares kind key v (.ok c)
  | fault {f : FieldFault} : (∀ w, ¬ kind.Takes v w) →
      f.message? = v.literal?.map (kind.refusal key ++ ·) → Fares kind key v (.error f)

theorem fares_textOf (key : String) {v : Value} (writable : ¬ v.HoldsUnwritable) :
    Fares .text key v ((textOf key v).map .text) := by
  cases v with
  | int i =>
      have written : Numeral.text? i = some (toString i) :=
        Numeral.text?_of_writable fun beyond => writable (.int beyond)
      unfold textOf
      dsimp only
      generalize Numeral.text? i = text at written ⊢
      subst written
      exact .content trivial (.int i)
  | text s => exact .content trivial (.text s)
  | date d => exact .content trivial (.date d)
  | moment m => exact .content trivial (.moment m)
  | float x => exact .content trivial (.float x)
  | _ =>
      refine .fault ?_ rfl
      intro w takes
      cases takes

theorem fares_ofValue (field : Field) (key : String) {v : Value} (writable : ¬ v.HoldsUnwritable) :
    Fares field.kind key v (ofValue field key v) := by
  cases field with
  | blocking =>
      cases v with
      | bool b => exact .content trivial (.flag b)
      | _ =>
          refine .fault ?_ rfl
          intro w takes
          cases takes
  | versionCode =>
      cases v with
      | int i => exact .content trivial (.code i)
      | _ =>
          refine .fault ?_ rfl
          intro w takes
          cases takes
  | _ => exact fares_textOf key writable

end Content

/-! ## One named value -/

def Value.isNull : Value → Bool
  | .null => true
  | _ => false

theorem Value.isNull_eq_false_iff {v : Value} : v.isNull = false ↔ v ≠ .null := by
  cases v <;> simp [isNull]

/-- What some fields give for a field: the last value other than null under one of its names. -/
def Field.given? (field : Field) (fields : Entries) : Option Value :=
  ((fields.filter fun (key, v) => field.isNamedBy key && !v.isNull).getLast?).map (·.2)

theorem Field.given?_append (field : Field) (before after : Entries) :
    field.given? (before ++ after) = (field.given? after).or (field.given? before) := by
  simp only [given?, List.filter_append, List.getLast?_append]
  cases (List.filter _ after).getLast? <;> simp

theorem Field.given?_singleton (field : Field) (key v : Value) :
    field.given? [(key, v)] = if field.isNamedBy key && !v.isNull then some v else none := by
  cases named : field.isNamedBy key && !v.isNull <;> simp [given?, named]

namespace Marker

/-- The name is one of a field, and the value is null or one that the field takes. -/
def Acceptable (key v : Value) : Prop :=
  ∃ field : Field, field.isNamedBy key = true ∧ (v = .null ∨ ∃ w, field.kind.Takes v w)

/-- The named value is the first of the fields that is not acceptable. -/
def FirstUnacceptable (fields : Entries) (key v : Value) : Prop :=
  ∃ before after, fields = before ++ (key, v) :: after ∧
    (∀ entry ∈ before, Acceptable entry.1 entry.2) ∧ ¬ Acceptable key v

theorem FirstUnacceptable.mem {fields : Entries} {key v : Value}
    (h : FirstUnacceptable fields key v) : (key, v) ∈ fields := by
  obtain ⟨before, after, rfl, -, -⟩ := h
  simp

theorem FirstUnacceptable.refused {fields : Entries} {key v : Value}
    (h : FirstUnacceptable fields key v) : ¬ Acceptable key v := by
  obtain ⟨before, after, -, -, refused⟩ := h
  exact refused

/-- The words that refuse a named value. -/
inductive Refusal (key v : Value) : String → Prop
  | unknown {t : String} : (∀ field : Field, field.isNamedBy key = false) →
      key.literal? = some t → Refusal key v ("unknown debt field " ++ t)
  | kind {field : Field} {name t : String} : key = .text name → field.isNamedBy key = true →
      v ≠ .null → (∀ w, ¬ field.kind.Takes v w) → v.literal? = some t →
        Refusal key v (field.kind.refusal name ++ t)

/-- From one marker to another, a field has come to hold what was given for it, or is unchanged if
nothing was. -/
def Follows (m m' : Marker) (field : Field) : Option Value → Prop
  | some v => field.kind.Takes v (m'.held field)
  | none => m'.held field = m.held field

theorem Follows.trans {m m' m'' : Marker} {field : Field} {first second : Option Value}
    (h : Follows m m' field first) (h' : Follows m' m'' field second) :
    Follows m m'' field (second.or first) := by
  cases second with
  | some v => exact h'
  | none =>
      have same : m''.held field = m'.held field := h'
      cases first with
      | some v =>
          change field.kind.Takes v (m''.held field)
          rw [same]
          exact h
      | none => exact same.trans h

/-- What comes of fields: a marker that follows from the one before, or words that refuse the first
that is not acceptable. -/
inductive Fares (m : Marker) (fields : Entries) : Except FieldFault Marker → Prop
  | marker {m' : Marker} : (∀ entry ∈ fields, Acceptable entry.1 entry.2) →
      m'.location = m.location → (∀ field, Follows m m' field (field.given? fields)) →
        Fares m fields (.ok m')
  | fault {f : FieldFault} {key v : Value} {words : String} : FirstUnacceptable fields key v →
      f.message? = some words → Refusal key v words → Fares m fields (.error f)

theorem isNamedBy_unique {field field' : Field} {key : Value} (h : field.isNamedBy key = true)
    (h' : field'.isNamedBy key = true) : field = field' := by
  obtain ⟨name, rfl⟩ : ∃ name, key = .text name := by
    cases key with
    | text name => exact ⟨name, rfl⟩
    | _ => cases h
  have found := fieldOf?_eq_some_iff.mpr ⟨rfl, h⟩
  have found' := fieldOf?_eq_some_iff.mpr ⟨rfl, h'⟩
  cases found.symm.trans found'
  rfl

theorem literal?_of_writable {v : Value} (writable : ¬ v.HoldsUnwritable) :
    ∃ t, v.literal? = some t :=
  Option.ne_none_iff_exists'.mp (mt v.literal?_eq_none_iff.mp writable)

theorem take_unnamed (m : Marker) {key v : Value} (unknown : fieldOf? key = none)
    (writableKey : ¬ key.HoldsUnwritable) : Fares m [(key, v)] (m.take key v) := by
  have unnamed (field : Field) : field.isNamedBy key = false := by
    cases key with
    | text name =>
        by_contra named
        rw [Bool.not_eq_false] at named
        cases unknown.symm.trans (fieldOf?_eq_some_iff.mpr ⟨rfl, named⟩)
    | _ => rfl
  obtain ⟨t, written⟩ := literal?_of_writable writableKey
  have refused : ¬ Acceptable key v := fun ⟨field, named, _⟩ => by
    rw [unnamed field] at named
    cases named
  simp only [take, unknown]
  exact .fault ⟨[], [], rfl, nofun, refused⟩ (by simp [FieldFault.message?, written])
    (.unknown unnamed written)

/-- A null changes nothing. -/
theorem follows_null (m : Marker) (name : String) (field : Field) :
    Follows m m field (field.given? [(.text name, .null)]) := by
  rw [Field.given?_singleton]
  simp [Value.isNull, Follows]

/-- Setting a field is to hold what was given for it, and to leave the others. -/
theorem follows_put (m : Marker) {field : Field} {name : String} {v : Value} {c : Content}
    (named : field.isNamedBy (.text name) = true) (notNull : v ≠ .null)
    (fits : c.IsOf field.kind) (takes : field.kind.Takes v c.value) (f : Field) :
    Follows m (m.put field c) f (f.given? [(.text name, v)]) := by
  rw [Field.given?_singleton, Value.isNull_eq_false_iff.mpr notNull]
  by_cases same : f = field
  · subst same
    simp [named, Follows, held_put fits, takes]
  · have other : f.isNamedBy (.text name) = false := by
      by_contra also
      exact same (isNamedBy_unique (Bool.not_eq_false _ ▸ also) named)
    simp [other, Follows, held_put fits, same]

theorem take_null (m : Marker) {field : Field} {name : String}
    (named : field.isNamedBy (.text name) = true) :
    Fares m [(.text name, .null)] (m.take (.text name) .null) := by
  simp only [take, fieldOf?_eq_some_iff.mpr ⟨rfl, named⟩]
  exact .marker (by simpa using ⟨field, named, .inl rfl⟩) rfl (follows_null m name)

theorem take_of_ne_null (m : Marker) {field : Field} {name : String} {v : Value}
    (named : field.isNamedBy (.text name) = true) (notNull : v ≠ .null) :
    m.take (.text name) v = (Content.ofValue field name v).map (m.put field) := by
  unfold take
  rw [fieldOf?_eq_some_iff.mpr ⟨rfl, named⟩]
  cases v with
  | null => exact absurd rfl notNull
  | _ => rfl

theorem take_named (m : Marker) {field : Field} {name : String} {v : Value}
    (named : field.isNamedBy (.text name) = true) (notNull : v ≠ .null)
    (writable : ¬ v.HoldsUnwritable) : Fares m [(.text name, v)] (m.take (.text name) v) := by
  have fares := Content.fares_ofValue field name writable
  rw [take_of_ne_null m named notNull]
  generalize Content.ofValue field name v = result at fares
  cases fares with
  | @content c fits takes =>
      exact .marker (by simpa using ⟨field, named, .inr ⟨_, takes⟩⟩) (put_location m field c)
        (follows_put m named notNull fits takes)
  | @fault f refuses words =>
      obtain ⟨t, written⟩ := literal?_of_writable writable
      have refused : ¬ Acceptable (.text name) v := by
        rintro ⟨f, also, null | ⟨w, takes⟩⟩
        · exact notNull null
        · obtain rfl := isNamedBy_unique also named
          exact refuses w takes
      exact .fault ⟨[], [], rfl, nofun, refused⟩ (by simp [words, written])
        (.kind rfl named notNull refuses written)

theorem take_outcome (m : Marker) {key v : Value} (writableKey : ¬ key.HoldsUnwritable)
    (writable : ¬ v.HoldsUnwritable) : Fares m [(key, v)] (m.take key v) := by
  cases known : fieldOf? key with
  | none => exact take_unnamed m known writableKey
  | some found =>
      obtain ⟨field, name⟩ := found
      obtain ⟨rfl, named⟩ := fieldOf?_eq_some_iff.mp known
      by_cases null : v = .null
      · subst null
        exact take_null m named
      · exact take_named m named null writable

/-! ## All fields of a declaration -/

theorem takeAll_cons (m : Marker) (key v : Value) (rest : Entries) :
    m.takeAll ((key, v) :: rest) =
      match m.take key v with
      | .error f => .error f
      | .ok m' => m'.takeAll rest := rfl

theorem takeAll_outcome (m : Marker) {fields : Entries}
    (writable : ∀ entry ∈ fields, ¬ entry.1.HoldsUnwritable ∧ ¬ entry.2.HoldsUnwritable) :
    Fares m fields (m.takeAll fields) := by
  induction fields generalizing m with
  | nil => exact .marker (by simp) rfl fun field => rfl
  | cons entry rest ih =>
      obtain ⟨key, v⟩ := entry
      rw [List.forall_mem_cons] at writable
      have step := take_outcome m writable.1.1 writable.1.2
      rw [takeAll_cons]
      generalize m.take key v = result at step
      cases step with
      | @marker m' accepted location follows =>
          have run := ih m' writable.2
          dsimp only
          generalize m'.takeAll rest = result at run
          cases run with
          | @marker m'' acceptedRest locationRest followsRest =>
              refine .marker ?_ (locationRest.trans location) fun field => ?_
              · rw [← List.singleton_append, List.forall_mem_append]
                exact ⟨accepted, acceptedRest⟩
              · -- What the rest gives for a field stands above what the first entry gives for it.
                rw [← List.singleton_append, Field.given?_append]
                exact (follows field).trans (followsRest field)
          | fault first worded refusal =>
              obtain ⟨before, after, split, front, refused⟩ := first
              refine .fault ⟨(key, v) :: before, after, ?_, ?_, refused⟩ worded refusal
              · rw [split]
                rfl
              · rw [← List.singleton_append, List.forall_mem_append]
                exact ⟨accepted, front⟩
      | fault first worded refusal =>
          obtain ⟨rfl, rfl⟩ : _ = key ∧ _ = v := by simpa using first.mem
          exact .fault ⟨[], rest, rfl, nofun, first.refused⟩ worded refusal

/-- What a field of a declared marker holds: the last value that was given for it, as the field
takes it, or the usual value. -/
inductive Declares (fields : Entries) (field : Field) : Value → Prop
  | given {v w : Value} : field.given? fields = some v → field.kind.Takes v w →
      Declares fields field w
  | usual : field.given? fields = none → Declares fields field field.kind.usual

/-- The marker of a declaration is that of its fields, one by one. -/
structure FieldWise (fields : Entries) (location : Option Location) : Prop where
  /-- A marker comes of fields that are all acceptable, and it holds what they declare. -/
  accepts (m : Marker) : ofFields fields location = .ok m ↔
    (∀ entry ∈ fields, Acceptable entry.1 entry.2) ∧ m.location = location ∧
      ∀ field, Declares fields field (m.held field)
  /-- The fields are refused if one of them is not acceptable. -/
  refuses : (∃ f, ofFields fields location = .error f) ↔
    ∃ entry ∈ fields, ¬ Acceptable entry.1 entry.2
  /-- The first that is not acceptable is refused. -/
  first (f : FieldFault) : ofFields fields location = .error f →
    ∃ key v words, FirstUnacceptable fields key v ∧ f.message? = some words ∧ Refusal key v words
  /-- What a marker holds in a field is of the field's kind. -/
  kinds (m : Marker) : ofFields fields location = .ok m →
    ∀ field : Field, field.kind.Holds (m.held field)

theorem Declares.unique {fields : Entries} {field : Field} {w w' : Value}
    (h : Declares fields field w) (h' : Declares fields field w') : w = w' := by
  cases h with
  | given found takes =>
      cases h' with
      | given found' takes' =>
          cases found.symm.trans found'
          exact takes.unique takes'
      | usual none => cases found.symm.trans none
  | usual none =>
      cases h' with
      | given found takes => cases found.symm.trans none
      | usual => rfl

theorem declares_of_follows {fields : Entries} {location : Option Location} {m : Marker}
    {field : Field} (h : Follows { location } m field (field.given? fields)) :
    Declares fields field (m.held field) := by
  cases found : field.given? fields with
  | none =>
      rw [found] at h
      have same : m.held field = held { location } field := h
      rw [same, held_default]
      exact .usual found
  | some v =>
      rw [found] at h
      exact .given found h

theorem Declares.holds {fields : Entries} {field : Field} {w : Value}
    (h : Declares fields field w) : field.kind.Holds w := by
  cases h with
  | given _ takes => exact takes.holds
  | usual => exact field.kind.holds_usual

/-- **A marker is declared field by field.** Fields whose numbers are within the digit limit give a
marker if all of them are acceptable; each of its fields holds the last value given for it, under
whichever name, other than null. Otherwise the first that is not acceptable is refused. -/
theorem ofFields_fieldWise {fields : Entries}
    (writable : ∀ entry ∈ fields, ¬ entry.1.HoldsUnwritable ∧ ¬ entry.2.HoldsUnwritable)
    (location : Option Location) : FieldWise fields location := by
  have outcome : Fares { location } fields (ofFields fields location) :=
    takeAll_outcome { location } writable
  generalize same : ofFields fields location = result at outcome
  cases outcome with
  | @marker made accepted place follows =>
      have declares (field : Field) : Declares fields field (made.held field) :=
        declares_of_follows (follows field)
      constructor
      · intro m
        rw [same, Except.ok.injEq]
        constructor
        · rintro rfl
          exact ⟨accepted, place, declares⟩
        · rintro ⟨-, there, holds⟩
          exact eq_of_held (fun field => (declares field).unique (holds field))
            (place.trans there.symm)
      · simpa [same] using accepted
      · intro f fails
        cases same.symm.trans fails
      · intro m taken field
        cases same.symm.trans taken
        exact (declares field).holds
  | @fault f key v words first worded refusal =>
      have refused : ¬ Acceptable key v := first.refused
      constructor
      · intro m
        refine iff_of_false (fun taken => ?_) fun ⟨all, _⟩ => refused (all _ first.mem)
        cases same.symm.trans taken
      · exact iff_of_true ⟨f, same⟩ ⟨_, first.mem, refused⟩
      · intro g fails
        cases same.symm.trans fails
        exact ⟨key, v, words, first, worded, refusal⟩
      · intro m taken
        cases same.symm.trans taken

/-- A label given under two names and then as null, a flag under its other name, and a date. -/
def relabelled : Entries :=
  [(.text "label", .text "cache"), (.text "value", .int 7), (.text "label", .null),
    (.text "stop_ship", .bool true), (.text "removal_date", .date ⟨2026, 1, 31, by decide⟩)]

theorem relabelled_fieldWise :
    (∀ entry ∈ relabelled, ¬ entry.1.HoldsUnwritable ∧ ¬ entry.2.HoldsUnwritable) ∧
      FieldWise relabelled none ∧
      ofFields relabelled none =
        .ok { label := "7", blocking := true, removalDate := "2026-01-31" } := by
  have short : ∀ entry ∈ relabelled, entry.1.literal?.isSome ∧ entry.2.literal?.isSome := by
    decide +kernel
  have writable : ∀ entry ∈ relabelled,
      ¬ entry.1.HoldsUnwritable ∧ ¬ entry.2.HoldsUnwritable := by
    intro entry member
    rw [← Value.literal?_eq_none_iff, ← Value.literal?_eq_none_iff, ← ne_eq, ← ne_eq,
      Option.ne_none_iff_isSome, Option.ne_none_iff_isSome]
    exact short entry member
  exact ⟨writable, ofFields_fieldWise writable none, ok_of_toOption_eq_some (by decide +kernel)⟩

end Marker

end Overdue
