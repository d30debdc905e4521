import Overdue.Proofs.Configuration.Overlay
import Overdue.Proofs.Ledger.Failures

/-!
# Which configurations are accepted

The bytes of a configuration give one (`Gives`) or there is a cause for which they do not
(`Unusable`): `given_or_unusable`. Loading follows this exactly, and `load_account` adds to it when
a configuration is treated as one should be: accepted if it is one (`IsConfiguration`), refused as a
configuration if it is not. The exceptions are `IsOrdinary`'s: bytes over which the stack gives out,
bytes that are no text, a scalar that names no value, a document that is empty without being null,
and a refusal that would have to write a number beyond the digit limit.
-/
namespace Overdue

namespace Value

/-- A mapping, or what stands for the mapping that it lies in. -/
def IsMapping (v : Value) : Prop := (∃ entries, v = .map entries) ∨ v = .enclosing true

/-- A list, or what stands for the list that it lies in. -/
def IsList (v : Value) : Prop := (∃ items, v = .list items) ∨ v = .enclosing false

end Value

namespace Configuration

variable {host : Host} {user : Entries} {path : String} {bytes : List UInt8}

/-! ## Sections of the right kind -/

def SectionKind.Is : SectionKind → Value → Prop
  | .mapping, v => v.IsMapping
  | .list, v => v.IsList

theorem SectionKind.admits_iff {kind : SectionKind} {v : Value} :
    kind.admits v = true ↔ v = .null ∨ kind.Is v := by
  cases kind <;> cases v <;> simp [admits, Is, Value.IsMapping, Value.IsList]

/-- The sections whose kind is laid down. -/
def sectionKinds : List (String × SectionKind) :=
  [("build", .mapping), ("sources", .mapping), ("exclude", .list)]

theorem sectionKind?_eq_some_iff {key : Value} {name : String} {kind : SectionKind} :
    sectionKind? key = some (name, kind) ↔ key = .text name ∧ (name, kind) ∈ sectionKinds := by
  constructor
  · intro found
    unfold sectionKind? at found
    split at found <;> cases found <;> exact ⟨rfl, by decide⟩
  · rintro ⟨rfl, member⟩
    simp only [sectionKinds, List.mem_cons, Prod.mk.injEq, List.not_mem_nil, or_false] at member
    rcases member with ⟨rfl, rfl⟩ | ⟨rfl, rfl⟩ | ⟨rfl, rfl⟩ <;> rfl

/-- The entry is null or of its section's kind, if that is laid down. -/
def Fits (entry : Value × Value) : Prop :=
  ∀ name kind, entry.1 = .text name → (name, kind) ∈ sectionKinds →
    entry.2 = .null ∨ kind.Is entry.2

theorem checkEntry_of_fits {key v : Value} (fits : Fits (key, v)) (path : String) :
    checkEntry path key v = .ok () := by
  unfold checkEntry
  cases known : sectionKind? key with
  | none => rfl
  | some found =>
      obtain ⟨name, kind⟩ := found
      obtain ⟨named, member⟩ := sectionKind?_eq_some_iff.mp known
      exact if_pos (SectionKind.admits_iff.mpr (fits name kind named member))

theorem checkEntries_of_fits {before : Entries} (fits : ∀ entry ∈ before, Fits entry)
    (path : String) (after : Entries) :
    checkEntries path (before ++ after) = checkEntries path after := by
  induction before with
  | nil => rfl
  | cons entry before ih =>
      rw [List.forall_mem_cons] at fits
      rw [List.cons_append, checkEntries, checkEntry_of_fits fits.1]
      exact ih fits.2

/-! ## Entries of a configuration -/

/-- The entries are those of a configuration: each section is null or of its kind, and the condition
of failure is a known one, where they are given. -/
structure Usable (user : Entries) : Prop where
  build (v : Value) : user.field? "build" = some v → v = .null ∨ v.IsMapping
  sources (v : Value) : user.field? "sources" = some v → v = .null ∨ v.IsMapping
  exclude (v : Value) : user.field? "exclude" = some v → v = .null ∨ v.IsList
  failOn (v : Value) : user.field? "fail_on" = some v → ∃ choice ∈ failChoices, v = .text choice

theorem usable_nil : Usable [] := by
  constructor <;> intro v found <;> cases found

/-- What makes entries unusable, with the words in which it is refused and the value that ends them:
the first section of another kind, and an unknown condition of failure if there is no such
section. -/
inductive Misfit (path : String) (user : Entries) : String → Value → Prop
  | otherKind {before after : Entries} {name : String} {kind : SectionKind} {v : Value} :
      user = before ++ (.text name, v) :: after → (∀ entry ∈ before, Fits entry) →
      (name, kind) ∈ sectionKinds → ¬ (v = .null ∨ kind.Is v) →
        Misfit path user (path ++ ": '" ++ name ++ "' must be " ++ kind.name ++ ", got ")
          (v.inside (.map user))
  | condition {v : Value} : (∀ entry ∈ user, Fits entry) → user.field? "fail_on" = some v →
      (∀ choice ∈ failChoices, v ≠ .text choice) →
        Misfit path user "fail_on must be one of error, warning, never, got " (v.inside (.map user))

theorem Usable.fits (usable : Usable user) (distinct : user.Distinct) :
    ∀ entry ∈ user, Fits entry := by
  rintro ⟨key, v⟩ member name kind rfl known
  have found : user.field? name = some v := (Entries.field?_eq_some_iff distinct).mpr member
  simp only [sectionKinds, List.mem_cons, Prod.mk.injEq, List.not_mem_nil, or_false] at known
  rcases known with ⟨rfl, rfl⟩ | ⟨rfl, rfl⟩ | ⟨rfl, rfl⟩
  · exact usable.build v found
  · exact usable.sources v found
  · exact usable.exclude v found

/-- All entries fit, or there is a first one that does not. -/
theorem fits_or_first_misfit (user : Entries) :
    (∀ entry ∈ user, Fits entry) ∨ ∃ before entry after, user = before ++ entry :: after ∧
      (∀ entry ∈ before, Fits entry) ∧ ¬ Fits entry := by
  induction user with
  | nil =>
      left
      simp
  | cons entry rest ih =>
      by_cases first : Fits entry
      · rcases ih with fits | ⟨before, other, after, rfl, fits, misfit⟩
        · left
          exact List.forall_mem_cons.mpr ⟨first, fits⟩
        · right
          have front : ∀ e ∈ entry :: before, Fits e := List.forall_mem_cons.mpr ⟨first, fits⟩
          exact ⟨entry :: before, other, after, rfl, front, misfit⟩
      · right
        exact ⟨[], entry, rest, rfl, by simp, first⟩

theorem usable_or_misfit (path : String) (user : Entries) :
    Usable user ∨ ∃ words v, Misfit path user words v := by
  rcases fits_or_first_misfit user with fits | ⟨before, ⟨key, v⟩, after, parts, fits, misfit⟩
  · have sections (name : String) (kind : SectionKind) (known : (name, kind) ∈ sectionKinds)
        (v : Value) (found : user.field? name = some v) : v = .null ∨ kind.Is v :=
      fits _ (Entries.mem_of_field? found) name kind rfl known
    by_cases choice : ∀ v, user.field? "fail_on" = some v → ∃ choice ∈ failChoices, v = .text choice
    · exact .inl {
        build := sections "build" .mapping (by decide)
        sources := sections "sources" .mapping (by decide)
        exclude := sections "exclude" .list (by decide)
        failOn := choice }
    · push Not at choice
      obtain ⟨v, found, unknown⟩ := choice
      exact .inr ⟨_, _, .condition fits found unknown⟩
  · unfold Fits at misfit
    push Not at misfit
    obtain ⟨name, kind, rfl, known, null, other⟩ := misfit
    exact .inr ⟨_, _, .otherKind parts fits known (not_or.mpr ⟨null, other⟩)⟩

/-! ## Checking entries -/

/-- A value of a mapping is seen as it is, or it stands for the mapping. -/
theorem inside_map (v : Value) (user : Entries) :
    v.inside (.map user) = v ∨ v = .enclosing true ∧ v.inside (.map user) = .map user := by
  cases v with
  | enclosing isMap =>
      cases isMap with
      | false => exact .inl rfl
      | true => exact .inr ⟨rfl, rfl⟩
  | _ => exact .inl rfl

theorem of_kind_inside_iff {kind : SectionKind} {v : Value} :
    (v.inside (.map user) = .null ∨ kind.Is (v.inside (.map user))) ↔ (v = .null ∨ kind.Is v) := by
  rcases inside_map v user with same | ⟨rfl, whole⟩
  · rw [same]
  · rw [whole]
    cases kind <;> simp [SectionKind.Is, Value.IsMapping, Value.IsList]

theorem fits_inside {entries : Entries} (user : Entries) (fits : ∀ entry ∈ entries, Fits entry) :
    ∀ entry ∈ entries.map fun (k, v) => (k, v.inside (.map user)), Fits entry := by
  intro entry member
  obtain ⟨⟨key, v⟩, among, rfl⟩ := List.mem_map.mp member
  intro name kind named known
  exact of_kind_inside_iff.mpr (fits (key, v) among name kind named known)

theorem checkEntries_of_otherKind {before after : Entries} {name : String} {kind : SectionKind}
    {v : Value} (parts : user = before ++ (.text name, v) :: after)
    (fits : ∀ entry ∈ before, Fits entry) (known : (name, kind) ∈ sectionKinds)
    (other : ¬ (v = .null ∨ kind.Is v)) (path : String) :
    checkEntries path (unrolled user) =
      .error (refuse (path ++ ": '" ++ name ++ "' must be " ++ kind.name ++ ", got ")
        (v.inside (.map user))) := by
  -- The values are seen inside of the whole mapping, which is not split along with its entries.
  have unrolls (whole : Value) : (user.map fun (k, v) => (k, v.inside whole)) =
      (before.map fun (k, v) => (k, v.inside whole)) ++
        (.text name, v.inside whole) :: after.map fun (k, v) => (k, v.inside whole) := by
    rw [parts, List.map_append, List.map_cons]
  have refused : kind.admits (v.inside (.map user)) = false := by
    rw [Bool.eq_false_iff, ne_eq, SectionKind.admits_iff, of_kind_inside_iff]
    exact other
  have found : sectionKind? (.text name) = some (name, kind) :=
    sectionKind?_eq_some_iff.mpr ⟨rfl, known⟩
  rw [unrolled, unrolls, checkEntries_of_fits (fits_inside user fits), checkEntries, checkEntry,
    found]
  simp only [refused]
  rfl

/-- The condition of failure that the user's entries come to. -/
theorem field?_failOn (distinct : user.Distinct) :
    (overlay (unrolled user)).field? "fail_on" =
      some (((user.field? "fail_on").map (·.inside (.map user))).getD (.text "error")) := by
  rw [field?_overlay (distinct_unrolled distinct), field?_unrolled]
  cases user.field? "fail_on" <;> rfl

theorem checkFailOn_of_choice {data : Entries} {choice : String}
    (found : data.field? "fail_on" = some (.text choice)) (known : choice ∈ failChoices) :
    checkFailOn data = .ok ⟨data⟩ := by
  unfold checkFailOn
  rw [found]
  exact if_pos (List.contains_iff_mem.mpr known)

theorem checkFailOn_of_other {data : Entries} {v : Value} (found : data.field? "fail_on" = some v)
    (other : ∀ choice ∈ failChoices, v ≠ .text choice) :
    checkFailOn data = .error (refuse "fail_on must be one of error, warning, never, got " v) := by
  unfold checkFailOn
  rw [found]
  cases v with
  | text s =>
      have unknown : ¬ failChoices.contains s = true := fun known =>
        other s (List.contains_iff_mem.mp known) rfl
      exact if_neg unknown
  | _ => rfl

theorem checkEntries_unrolled (fits : ∀ entry ∈ user, Fits entry) (path : String) :
    checkEntries path (unrolled user) = .ok () := by
  have all := checkEntries_of_fits (fits_inside user fits) path []
  rwa [List.append_nil] at all

theorem ofEntries_eq (path : String) (user : Entries) :
    ofEntries path user =
      (checkEntries path (unrolled user)).bind fun _ => checkFailOn (overlay (unrolled user)) := by
  have unrolls : (user.map fun (k, v) => (k, v.inside (.map user))) = unrolled user := rfl
  unfold ofEntries
  simp only [unrolls]
  cases checkEntries path (unrolled user) <;> rfl

theorem ofEntries_of_usable (distinct : user.Distinct) (usable : Usable user) (path : String) :
    ofEntries path user = .ok ⟨overlay (unrolled user)⟩ := by
  have choice : ∃ choice ∈ failChoices,
      (overlay (unrolled user)).field? "fail_on" = some (.text choice) := by
    rw [field?_failOn distinct]
    cases found : user.field? "fail_on" with
    | none => exact ⟨"error", by decide, rfl⟩
    | some v =>
        obtain ⟨choice, known, rfl⟩ := usable.failOn v found
        exact ⟨choice, known, rfl⟩
  obtain ⟨choice, known, found⟩ := choice
  rw [ofEntries_eq, checkEntries_unrolled (usable.fits distinct)]
  exact checkFailOn_of_choice found known

theorem ofEntries_of_misfit (distinct : user.Distinct) {words : String} {v : Value}
    (misfit : Misfit path user words v) : ofEntries path user = .error (refuse words v) := by
  rw [ofEntries_eq]
  cases misfit with
  | otherKind parts fits known other =>
      rw [checkEntries_of_otherKind parts fits known other]
      rfl
  | @condition v fits found unknown =>
      have failOn := field?_failOn distinct
      rw [found] at failOn
      rw [checkEntries_unrolled fits]
      apply checkFailOn_of_other failOn
      intro choice known also
      rcases inside_map v user with same | ⟨-, whole⟩
      · exact unknown choice known (same.symm.trans also)
      · cases whole.symm.trans also

/-! ## What the bytes come to -/

/-- The configuration that bytes give: the defaults if their value is not given, and the entries of
a mapping over the defaults. -/
inductive Gives (host : Host) (path : String) (bytes : List UInt8) : Configuration → Prop
  | nothing {v : Value} : Document.Reads host path bytes (.ok v) → v.truthy = false →
      Gives host path bytes ⟨defaults⟩
  | entries {user : Entries} : Document.Reads host path bytes (.ok (.map user)) → Usable user →
      Gives host path bytes ⟨overlay (unrolled user)⟩

/-- Why the bytes of a file at a path give no configuration. They are refused in words if they are
malformed, or something else than a mapping, or an entry of it is unusable; the other four causes
are passed on as they are. -/
inductive Unusable (host : Host) (path : String) (bytes : List UInt8) : Failure → Prop
  | exhausted : host.exhaustsDocument path bytes = true → Unusable host path bytes .exhausted
  | undecodable {fault : Utf8.Fault} : Document.IsUndecodable host path bytes fault →
      Unusable host path bytes (.encoding fault)
  | malformed : Document.Reads host path bytes (.error .malformed) →
      Unusable host path bytes
        (.configuration ("cannot read " ++ path ++ ": " ++ Document.Fault.malformed.message))
  | valueless {fault : Document.Fault} : Document.Reads host path bytes (.error fault) →
      fault ≠ .malformed → Unusable host path bytes (.document fault)
  | misshapen {v : Value} : Document.Reads host path bytes (.ok v) → v.truthy = true →
      (∀ user, v ≠ .map user) →
        Unusable host path bytes (.configuration (path ++ " must contain a mapping"))
  | misfit {user : Entries} {words t : String} {v : Value} :
      Document.Reads host path bytes (.ok (.map user)) → Misfit path user words v →
      v.literal? = some t → Unusable host path bytes (.configuration (words ++ t))
  | unwritable {user : Entries} {words : String} {v : Value} :
      Document.Reads host path bytes (.ok (.map user)) → Misfit path user words v →
      v.HoldsUnwritable → Unusable host path bytes .unwritable

theorem given_or_unusable_of_map (reads : Document.Reads host path bytes (.ok (.map user))) :
    (∃ c, Gives host path bytes c) ∨ ∃ f, Unusable host path bytes f := by
  rcases usable_or_misfit path user with usable | ⟨words, v, misfit⟩
  · left
    exact ⟨_, .entries reads usable⟩
  · right
    cases written : v.literal? with
    | some t => exact ⟨_, .misfit reads misfit written⟩
    | none =>
        have holds : v.HoldsUnwritable := (Value.literal?_eq_none_iff v).mp written
        exact ⟨_, .unwritable reads misfit holds⟩

theorem given_or_unusable (host : Host) (path : String) (bytes : List UInt8) :
    (∃ c, Gives host path bytes c) ∨ ∃ f, Unusable host path bytes f := by
  have comes := Document.comes_ofFile host path bytes
  generalize Document.ofFile host path bytes = r at comes
  cases comes with
  | exhausted gone => exact .inr ⟨_, .exhausted gone⟩
  | undecodable bad => exact .inr ⟨_, .undecodable bad⟩
  | @faulty fault reads =>
      by_cases malformed : fault = .malformed
      · subst malformed
        exact .inr ⟨_, .malformed reads⟩
      · exact .inr ⟨_, .valueless reads malformed⟩
  | @value v reads =>
      by_cases map : ∃ user, v = .map user
      · obtain ⟨user, rfl⟩ := map
        exact given_or_unusable_of_map reads
      · cases given : v.truthy with
        | false =>
            left
            exact ⟨_, .nothing reads given⟩
        | true =>
            right
            exact ⟨_, .misshapen reads given fun user same => map ⟨user, same⟩⟩

theorem ofBytes_of_map (reads : Document.Reads host path bytes (.ok (.map user))) :
    ofBytes host path bytes = ofEntries path user := by
  rw [ofBytes, Document.ofFile_of_comes (.value reads)]
  -- An empty mapping counts as not given, for which no entries are taken either.
  cases user <;> rfl

theorem ofBytes_of_gives {c : Configuration} (gives : Gives host path bytes c) :
    ofBytes host path bytes = .ok c := by
  cases gives with
  | nothing reads empty =>
      rw [ofBytes, Document.ofFile_of_comes (.value reads)]
      simp only [empty]
      exact ofEntries_of_usable List.Pairwise.nil usable_nil path
  | entries reads usable =>
      rw [ofBytes_of_map reads]
      exact ofEntries_of_usable reads.distinct usable path

theorem ofBytes_of_unusable {f : Failure} (unusable : Unusable host path bytes f) :
    ofBytes host path bytes = .error f := by
  cases unusable with
  | exhausted gone => rw [ofBytes, Document.ofFile_of_comes (.exhausted gone)]
  | undecodable bad => rw [ofBytes, Document.ofFile_of_comes (.undecodable bad)]
  | malformed reads => rw [ofBytes, Document.ofFile_of_comes (.faulty reads)]
  | @valueless fault reads other =>
      rw [ofBytes, Document.ofFile_of_comes (.faulty reads)]
      cases fault <;> first | rfl | contradiction
  | @misshapen v reads given shape =>
      rw [ofBytes, Document.ofFile_of_comes (.value reads)]
      simp only [given]
      cases v with
      | map user => exact absurd rfl (shape user)
      | _ => rfl
  | misfit reads misfit written =>
      rw [ofBytes_of_map reads, ofEntries_of_misfit reads.distinct misfit, refuse, written]
  | unwritable reads misfit holds =>
      rw [ofBytes_of_map reads, ofEntries_of_misfit reads.distinct misfit, refuse,
        (Value.literal?_eq_none_iff _).mpr holds]

/-! ## Loading -/

/-- The bytes are those of a configuration: a document that is empty or null, or a mapping of usable
entries. -/
def IsConfiguration (host : Host) (path : String) (bytes : List UInt8) : Prop :=
  ∃ v, Document.Reads host path bytes (.ok v) ∧ (v = .null ∨ ∃ user, v = .map user ∧ Usable user)

/-- The bytes break no rule but that of a configuration's form: the stack lasts over them, they are
a text or malformed before they fail to be one, every scalar of it names a value, a value that is
not given is null or an empty mapping, and no refusal has to write a number beyond the digit
limit. -/
structure IsOrdinary (host : Host) (path : String) (bytes : List UInt8) : Prop where
  lasts : host.exhaustsDocument path bytes = false
  text (fault : Utf8.Fault) : ¬ Document.IsUndecodable host path bytes fault
  values (fault : Document.Fault) : Document.Reads host path bytes (.error fault) →
    fault = .malformed
  given (v : Value) : Document.Reads host path bytes (.ok v) → v.truthy = false →
    v = .null ∨ v = .map []
  writable (user : Entries) (words : String) (v : Value) :
    Document.Reads host path bytes (.ok (.map user)) → Misfit path user words v →
      ¬ v.HoldsUnwritable

theorem IsConfiguration.gives (h : IsConfiguration host path bytes) :
    ∃ c, Gives host path bytes c := by
  obtain ⟨v, reads, rfl | ⟨user, rfl, usable⟩⟩ := h
  · exact ⟨_, .nothing reads rfl⟩
  · exact ⟨_, .entries reads usable⟩

theorem IsOrdinary.refused (ordinary : IsOrdinary host path bytes) {f : Failure}
    (unusable : Unusable host path bytes f) : ∃ words, f = .configuration words := by
  cases unusable with
  | exhausted gone => cases ordinary.lasts.symm.trans gone
  | undecodable bad => exact absurd bad (ordinary.text _)
  | valueless reads other => exact absurd (ordinary.values _ reads) other
  | unwritable reads misfit holds => exact absurd holds (ordinary.writable _ _ _ reads misfit)
  | malformed => exact ⟨_, rfl⟩
  | misshapen => exact ⟨_, rfl⟩
  | misfit => exact ⟨_, rfl⟩

theorem ofBytes_account (host : Host) (path : String) (bytes : List UInt8) :
    (∀ c, ofBytes host path bytes = .ok c ↔ Gives host path bytes c) ∧
      ∀ f, ofBytes host path bytes = .error f ↔ Unusable host path bytes f :=
  account_of_total (fun _ => ofBytes_of_gives) (fun _ => ofBytes_of_unusable)
    (given_or_unusable host path bytes)

section Loading

variable {files : Files} {root : String}

theorem load_of_there (there : files.read (Path.join root fileName) = .ok bytes) :
    load files root = ofBytes files.host (Path.join root fileName) bytes := by
  simp only [load, there]

/-- A load that goes through has read a file that gives what is loaded. -/
theorem gives_of_load (there : files.read (Path.join root fileName) = .ok bytes)
    {c : Configuration} (loaded : load files root = .ok c) :
    Gives files.host (Path.join root fileName) bytes c := by
  rw [load_of_there there] at loaded
  exact ((ofBytes_account _ _ _).1 c).mp loaded

end Loading

/-! ## A configuration by itself -/

/-- A tree that holds a configuration and nothing else. -/
def alone (bytes : List UInt8) : Files := { base := "/r", top := [(fileName, .file bytes)] }

/-- A list of excluded files and a condition of failure. -/
def plain : List UInt8 := Utf8.encode "exclude: [a]\nfail_on: warning".toList

end Configuration

end Overdue
