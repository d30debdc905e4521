import Overdue.Proofs.Configuration.Acceptance
import Overdue.Proofs.Document.Layers

/-!
# The overlay as a merge

The overlay lays the user's entries over the defaults, each of them joined with the default of its
key first: `overlay_eq_atop`. So what stands in a configuration is what the user says (`Says`)
merged with the defaults (`IsMerge`), and merging it with the defaults once more leaves it as it is:
`overlay_overlay`. A configuration that is loaded can be asked for everything (`Answers`), and it is
loaded again from any file that says what stands in it. `load_merges` puts this together.
-/
namespace Overdue

/-- Every key once, in a mapping and in the mappings that stand in it. -/
structure Entries.WellKeyed (entries : Entries) : Prop where
  distinct : entries.Distinct
  inner (key : Value) (es : Entries) : (key, .map es) ∈ entries → es.Distinct

/-- What stands in a mapping whose values are changed, each as its key tells. -/
theorem Entries.mem_map_value_iff (f : Value → Value → Value) {entries : Entries} {key v : Value} :
    (key, v) ∈ entries.map (fun (k, w) => (k, f k w)) ↔ ∃ w, (key, w) ∈ entries ∧ v = f key w := by
  constructor
  · intro member
    obtain ⟨⟨k, w⟩, among, same⟩ := List.mem_map.mp member
    obtain ⟨rfl, rfl⟩ := Prod.mk.inj same
    exact ⟨w, among, rfl⟩
  · rintro ⟨w, among, rfl⟩
    exact List.mem_map.mpr ⟨(key, w), among, rfl⟩

theorem Document.Reads.wellKeyed {host : Host} {path : String} {bytes : List UInt8}
    {entries : Entries} (h : Reads host path bytes (.ok (.map entries))) : entries.WellKeyed where
  distinct := h.distinct
  inner _ _ := h.distinct_inside

namespace Configuration

open Entries

variable {user : Entries} {key v : Value}

theorem wellKeyed_nil : WellKeyed [] where
  distinct := List.Pairwise.nil
  inner _ _ member := absurd member List.not_mem_nil

theorem mem_unrolled_iff :
    (key, v) ∈ unrolled user ↔ ∃ w, (key, w) ∈ user ∧ v = w.inside (.map user) :=
  mem_map_value_iff fun _ w => w.inside (.map user)

theorem wellKeyed_unrolled (keyed : user.WellKeyed) : (unrolled user).WellKeyed := by
  refine ⟨distinct_unrolled keyed.distinct, fun key es member => ?_⟩
  obtain ⟨w, among, same⟩ := mem_unrolled_iff.mp member
  rcases inside_map w user with itself | ⟨-, whole⟩
  · obtain rfl : w = .map es := itself.symm.trans same.symm
    exact keyed.inner key es among
  · obtain rfl : user = es := Value.map.inj (whole.symm.trans same.symm)
    exact keyed.distinct

/-! ## The defaults -/

theorem textual_defaults : defaults.Textual := by
  intro entry member
  simp only [defaults, List.mem_cons, List.not_mem_nil, or_false] at member
  rcases member with rfl | rfl | rfl | rfl <;> exact ⟨_, rfl⟩

theorem distinct_defaults : defaults.Distinct := by
  simp [defaults, Distinct, Value.same, Value.sameLeaf]

/-- The sections that are mappings. -/
theorem section_of_mem {below : Entries} (member : (key, .map below) ∈ defaults) :
    below.Textual ∧ below.Distinct := by
  simp only [defaults, List.mem_cons, Prod.mk.injEq, Value.map.injEq, reduceCtorEq, and_false,
    List.not_mem_nil, or_false] at member
  rcases member with ⟨-, rfl⟩ | ⟨-, rfl⟩
  · exact ⟨by simp [Textual], by simp [Distinct, Value.same, Value.sameLeaf]⟩
  · exact ⟨by simp [Textual], by simp [Distinct, Value.same, Value.sameLeaf]⟩

theorem get?_defaults_eq_some_iff {w : Value} :
    defaults.get? key = some w ↔ (key, w) ∈ defaults := by
  constructor
  · intro found
    obtain ⟨⟨k, w'⟩, first, rfl⟩ := Option.map_eq_some_iff.mp found
    have member := List.mem_of_find?_eq_some first
    have same : k.same key = true := by simpa using List.find?_some first
    obtain ⟨s, rfl⟩ := textual_defaults _ member
    rwa [Value.text_same_iff.mp same]
  · intro member
    obtain ⟨s, rfl⟩ := textual_defaults _ member
    exact (field?_eq_some_iff distinct_defaults).mpr member

/-! ## The overlay by membership -/

/-- The user's entries, each joined with the default of its key. -/
def joinedEntries (user : Entries) : Entries :=
  user.map fun (k, v) => (k, joined (defaults.get? k) v)

theorem distinct_joinedEntries (distinct : user.Distinct) : (joinedEntries user).Distinct :=
  List.pairwise_map.mpr distinct

theorem foldl_lay_eq_atop (distinct : user.Distinct) {data : Entries}
    (aligned : Aligned data user) (usual : ∀ e ∈ user, data.get? e.1 = defaults.get? e.1) :
    user.foldl (fun data (k, v) => lay data k v) data = atop (joinedEntries user) data := by
  induction user generalizing data with
  | nil => rfl
  | cons entry user ih =>
      obtain ⟨key, v⟩ := entry
      obtain ⟨apart, rest⟩ := List.pairwise_cons.mp distinct
      obtain ⟨here, usual⟩ := List.forall_mem_cons.mp usual
      have alike (b : Value × Value) (member : b ∈ data) (same : b.1.same key = true) :
          b.1 = key := aligned b member (key, v) List.mem_cons_self same
      have step : lay data key v = put key (joined (defaults.get? key) v) data := by
        rw [lay_eq, here]
      -- No later key is equal to this one, so under each of them its default still stands.
      have later (e : Value × Value) (among : e ∈ user) :
          (lay data key v).get? e.1 = defaults.get? e.1 := by
        rw [step, get?_put_of_other alike (apart e among)]
        exact usual e among
      have aligned' : Aligned (lay data key v) user := by
        rw [step]
        exact aligned.put distinct _
      rw [List.foldl_cons, ih rest aligned' later, step]
      rfl

/-- **The overlay lays the user's entries over the defaults**, joined with the defaults of their
keys. -/
theorem overlay_eq_atop (distinct : user.Distinct) :
    overlay user = atop (joinedEntries user) defaults :=
  foldl_lay_eq_atop distinct (textual_defaults.aligned user) fun _ _ => rfl

theorem mem_joinedEntries :
    (key, v) ∈ joinedEntries user ↔ ∃ w, (key, w) ∈ user ∧ v = joined (defaults.get? key) w :=
  mem_map_value_iff fun k w => joined (defaults.get? k) w

/-- Texts that are not the same key are not the same. -/
theorem forall_same_iff_not_mem {above : Entries} (text : ∃ s, key = .text s) :
    (∀ a ∈ above, key.same a.1 = false) ↔ key ∉ above.map Prod.fst := by
  obtain ⟨s, rfl⟩ := text
  simp only [List.mem_map, not_exists, not_and, ← Bool.not_eq_true, Value.text_same_iff]

theorem mem_overlay_iff (distinct : user.Distinct) :
    (key, v) ∈ overlay user ↔
      (∃ w, (key, w) ∈ user ∧ v = joined (defaults.get? key) w) ∨
        (key, v) ∈ defaults ∧ key ∉ user.map Prod.fst := by
  have keys : (joinedEntries user).map Prod.fst = user.map Prod.fst := by
    rw [joinedEntries, List.map_map]
    rfl
  rw [overlay_eq_atop distinct, mem_atop_iff (textual_defaults.aligned _) distinct_defaults
    (distinct_joinedEntries distinct), mem_joinedEntries]
  refine or_congr_right (and_congr_right fun member => ?_)
  rw [forall_same_iff_not_mem (textual_defaults _ member), keys]

theorem distinct_overlay (distinct : user.Distinct) : (overlay user).Distinct := by
  rw [overlay_eq_atop distinct]
  exact distinct_defaults.atop _

/-! ## The merge -/

/-- What a value joined with a default is: the value, unless both are mappings. -/
theorem joined_of_not_map {below : Option Value}
    (other : ∀ es es', below = some (.map es) → v ≠ .map es') : joined below v = v := by
  unfold joined
  split
  · exact absurd rfl (other _ _ rfl)
  · rfl

/-- The entries of `data` are the user's, merged with the defaults. -/
structure IsMerge (user data : Entries) : Prop where
  distinct : data.Distinct
  /-- What the user leaves unsaid keeps its default. -/
  kept (key v : Value) : (key, v) ∈ defaults → key ∉ user.map Prod.fst → (key, v) ∈ data
  /-- A mapping in the place of a mapping sets what it says and leaves the rest. -/
  joined (key : Value) (below above : Entries) : (key, .map below) ∈ defaults →
    (key, .map above) ∈ user → ∃ both : Entries, (key, .map both) ∈ data ∧ both.Distinct ∧
      ∀ k v, (k, v) ∈ both ↔ (k, v) ∈ above ∨ (k, v) ∈ below ∧ k ∉ above.map Prod.fst
  /-- All else that the user says stands as it is said. -/
  given (key v : Value) : (key, v) ∈ user →
    (∀ below above, (key, .map below) ∈ defaults → v ≠ .map above) → (key, v) ∈ data
  /-- There is nothing besides. -/
  only (key v : Value) : (key, v) ∈ data →
    key ∈ user.map Prod.fst ∨ key ∈ defaults.map Prod.fst

theorem isMerge_overlay (keyed : user.WellKeyed) : IsMerge user (overlay user) := by
  refine ⟨distinct_overlay keyed.distinct, ?kept, ?joined, ?given, ?only⟩
  case kept =>
    intro key v usual unsaid
    exact (mem_overlay_iff keyed.distinct).mpr (.inr ⟨usual, unsaid⟩)
  case joined =>
    intro key below above usual said
    obtain ⟨textual, lower⟩ := section_of_mem usual
    refine ⟨atop above below, ?_, lower.atop above, fun k v => ?_⟩
    · refine (mem_overlay_iff keyed.distinct).mpr (.inl ⟨.map above, said, ?_⟩)
      rw [get?_defaults_eq_some_iff.mpr usual]
      rfl
    · rw [mem_atop_iff (textual.aligned above) lower (keyed.inner key above said)]
      refine or_congr_right (and_congr_right fun member => ?_)
      exact forall_same_iff_not_mem (textual _ member)
  case given =>
    intro key v said other
    refine (mem_overlay_iff keyed.distinct).mpr (.inl ⟨v, said, (joined_of_not_map ?_).symm⟩)
    intro below above usual
    exact other below above (get?_defaults_eq_some_iff.mp usual)
  case only =>
    intro key v member
    rcases (mem_overlay_iff keyed.distinct).mp member with ⟨w, said, -⟩ | ⟨usual, -⟩
    · exact .inl (List.mem_map_of_mem (f := Prod.fst) said)
    · exact .inr (List.mem_map_of_mem (f := Prod.fst) usual)

example :
    overlay [(.text "sources", .map [(.text "ledger", .null)]), (.text "exclude", .null),
        (.text "owner", .map [])] =
      [(.text "build", .map [(.text "version_code", .null), (.text "version_name", .null)]),
        (.text "sources", .map [(.text "python", .bool true), (.text "ledger", .null)]),
        (.text "exclude", .null), (.text "fail_on", .text "error"), (.text "owner", .map [])] := by
  rfl

/-! ## Merging again -/

/-- What has been joined with a default is not changed by it. -/
theorem joined_joined (key v : Value) :
    joined (defaults.get? key) (joined (defaults.get? key) v) = joined (defaults.get? key) v := by
  by_cases maps : ∃ below above, defaults.get? key = some (.map below) ∧ v = .map above
  · obtain ⟨below, above, found, rfl⟩ := maps
    obtain ⟨textual, lower⟩ := section_of_mem (get?_defaults_eq_some_iff.mp found)
    rw [found]
    exact congrArg Value.map (atop_atop textual lower above)
  · push Not at maps
    have same : joined (defaults.get? key) v = v := joined_of_not_map maps
    rw [same, same]

/-- What stands in an overlay is not changed by the default of its key. -/
theorem joined_of_mem_overlay (distinct : user.Distinct) (member : (key, v) ∈ overlay user) :
    joined (defaults.get? key) v = v := by
  rcases (mem_overlay_iff distinct).mp member with ⟨w, -, rfl⟩ | ⟨usual, -⟩
  · exact joined_joined key w
  · rw [get?_defaults_eq_some_iff.mpr usual]
    cases v with
    | map below =>
        obtain ⟨textual, lower⟩ := section_of_mem usual
        exact congrArg Value.map (atop_self textual lower)
    | _ => rfl

/-- **An overlay laid over the defaults is itself.** -/
theorem overlay_overlay (distinct : user.Distinct) : overlay (overlay user) = overlay user := by
  -- Its entries are joined with their defaults already, and lie over them in the same places.
  have same : joinedEntries (overlay user) = overlay user := by
    refine (List.map_congr_left ?_).trans (List.map_id _)
    rintro ⟨key, v⟩ member
    exact congrArg (Prod.mk key) (joined_of_mem_overlay distinct member)
  rw [overlay_eq_atop (distinct_overlay distinct), same, overlay_eq_atop distinct]
  exact atop_atop textual_defaults distinct_defaults _

theorem ne_enclosing_of_mem_unrolled (member : (key, v) ∈ unrolled user) : v ≠ .enclosing true := by
  obtain ⟨w, -, rfl⟩ := mem_unrolled_iff.mp member
  rcases inside_map w user with itself | ⟨-, whole⟩
  · rw [itself]
    rintro rfl
    cases itself
  · rw [whole]
    nofun

theorem ne_enclosing_of_mem_overlay (distinct : user.Distinct)
    (member : (key, v) ∈ overlay (unrolled user)) : v ≠ .enclosing true := by
  rcases (mem_overlay_iff (distinct_unrolled distinct)).mp member with ⟨w, said, rfl⟩ | ⟨usual, -⟩
  · have other := ne_enclosing_of_mem_unrolled said
    unfold joined
    split
    · nofun
    · exact other
  · rintro rfl
    simp [defaults] at usual

/-- No entry of an overlay stands for the whole. -/
theorem unrolled_overlay (distinct : user.Distinct) :
    unrolled (overlay (unrolled user)) = overlay (unrolled user) := by
  refine (List.map_congr_left ?_).trans (List.map_id _)
  rintro ⟨key, v⟩ member
  have other := ne_enclosing_of_mem_overlay distinct member
  rcases inside_map v (overlay (unrolled user)) with itself | ⟨rfl, -⟩
  · exact congrArg (Prod.mk key) itself
  · exact absurd rfl other

/-! ## Asking -/

/-- A configuration can be asked for everything, and its condition of failure is a known one. -/
structure Answers (c : Configuration) : Prop where
  excludes : ∃ patterns, c.excludes = .ok patterns
  readsSources : ∃ read, c.readsSources = .ok read
  ledger : ∃ path, c.ledger = .ok path
  failOn : ∃ choice ∈ failChoices, c.failOn = .text choice

/-- A default joined with what fits is of the kind that the section has. -/
theorem joined_of_kind {kind : SectionKind} {below v : Value} (lower : kind.Is below)
    (fits : v = .null ∨ kind.Is v) :
    joined (some below) v = .null ∨ kind.Is (joined (some below) v) := by
  by_cases maps : ∃ es es', below = .map es ∧ v = .map es'
  · obtain ⟨es, es', rfl, rfl⟩ := maps
    cases kind with
    | mapping => exact .inr (.inl ⟨_, rfl⟩)
    | list => simp [SectionKind.Is, Value.IsList] at lower
  · push Not at maps
    have same : joined (some below) v = v :=
      joined_of_not_map fun es es' found => maps es es' (Option.some.inj found)
    rwa [same]

/-- What stands in a section of an overlay is null or of the section's kind. -/
theorem kind_of_overlay (kind : SectionKind) {name : String} {below v : Value}
    (distinct : user.Distinct) (usual : defaults.field? name = some below) (lower : kind.Is below)
    (fits : ∀ w, user.field? name = some w → w = .null ∨ kind.Is w)
    (found : (overlay (unrolled user)).field? name = some v) : v = .null ∨ kind.Is v := by
  rw [field?_overlay (distinct_unrolled distinct), field?_unrolled, usual] at found
  cases said : user.field? name with
  | none =>
      rw [said] at found
      obtain rfl := Option.some.inj found
      exact .inr lower
  | some w =>
      rw [said] at found
      obtain rfl := Option.some.inj found
      exact joined_of_kind lower (of_kind_inside_iff.mpr (fits w said))

theorem usable_overlay (distinct : user.Distinct) (usable : Usable user) :
    Usable (overlay (unrolled user)) := by
  refine ⟨fun v found => ?build, fun v found => ?sources, fun v found => ?exclude,
    fun v found => ?failOn⟩
  case build =>
    exact kind_of_overlay .mapping distinct rfl (.inl ⟨_, rfl⟩) usable.build found
  case sources =>
    exact kind_of_overlay .mapping distinct rfl (.inl ⟨_, rfl⟩) usable.sources found
  case exclude =>
    exact kind_of_overlay .list distinct rfl (.inl ⟨_, rfl⟩) usable.exclude found
  case failOn =>
    rw [field?_failOn distinct] at found
    cases said : user.field? "fail_on" with
    | none =>
        rw [said] at found
        exact ⟨"error", by decide, (Option.some.inj found).symm⟩
    | some w =>
        rw [said] at found
        obtain ⟨choice, known, rfl⟩ := usable.failOn w said
        exact ⟨choice, known, (Option.some.inj found).symm⟩

theorem sectionEntries_of_usable {c : Configuration} (name : String)
    (fits : ∀ v, c.data.field? name = some v → v = .null ∨ ∃ es, v = .map es) :
    ∃ es, c.sectionEntries name = .ok es := by
  unfold sectionEntries
  cases found : c.data.field? name with
  | none => exact ⟨[], rfl⟩
  | some v =>
      rcases fits v found with rfl | ⟨es, rfl⟩
      · exact ⟨[], rfl⟩
      · cases es with
        | nil => exact ⟨[], rfl⟩
        | cons entry rest => exact ⟨entry :: rest, rfl⟩

theorem excludes_of_usable {c : Configuration} (usable : Usable c.data) :
    ∃ patterns, c.excludes = .ok patterns := by
  unfold excludes
  cases found : c.data.field? "exclude" with
  | none => exact ⟨[], rfl⟩
  | some v =>
      rcases usable.exclude v found with rfl | ⟨items, rfl⟩ | rfl
      · exact ⟨[], rfl⟩
      · cases items with
        | nil => exact ⟨[], rfl⟩
        | cons item rest => exact ⟨_, rfl⟩
      · exact ⟨_, rfl⟩

theorem answers_of_usable {c : Configuration} (usable : Usable c.data)
    (whole : ∀ name, c.data.field? name ≠ some (.enclosing true)) : Answers c := by
  have fits (v : Value) (found : c.data.field? "sources" = some v) :
      v = .null ∨ ∃ es, v = .map es := by
    rcases usable.sources v found with null | map | rfl
    · exact .inl null
    · exact .inr map
    · exact absurd found (whole "sources")
  obtain ⟨es, sources⟩ := sectionEntries_of_usable "sources" fits
  refine ⟨excludes_of_usable usable, ?_, ?_, ?_⟩
  · rw [readsSources, sources]
    exact ⟨_, rfl⟩
  · rw [ledger, sources]
    exact ⟨_, rfl⟩
  · unfold failOn
    cases found : c.data.field? "fail_on" with
    | none => exact ⟨"error", by decide, rfl⟩
    | some v => exact usable.failOn v found

/-! ## Entries of texts alone -/

/-- An entry whose value is a text, or null. -/
def leaf? : Value × Value → Option (String × Option String)
  | (.text key, .text s) => some (key, some s)
  | (.text key, .null) => some (key, none)
  | _ => none

def ofLeaf : String × Option String → Value × Value
  | (key, some s) => (.text key, .text s)
  | (key, none) => (.text key, .null)

/-- The leaves of a mapping that has nothing else. -/
def leaves? : Value → Option (List (String × Option String))
  | .map entries => entries.mapM leaf?
  | _ => none

theorem eq_of_leaf? {entry : Value × Value} {leaf : String × Option String}
    (found : leaf? entry = some leaf) : entry = ofLeaf leaf := by
  unfold leaf? at found
  split at found <;> cases found <;> rfl

theorem eq_of_mapM_leaf? {entries : Entries} {leaves : List (String × Option String)}
    (found : entries.mapM leaf? = some leaves) : entries = leaves.map ofLeaf := by
  induction entries generalizing leaves with
  | nil =>
      cases found
      rfl
  | cons entry entries ih =>
      rw [List.mapM_cons] at found
      obtain ⟨leaf, first, found⟩ := Option.bind_eq_some_iff.mp found
      obtain ⟨more, others, found⟩ := Option.bind_eq_some_iff.mp found
      cases found
      rw [List.map_cons, ← eq_of_leaf? first, ← ih others]

theorem eq_of_leaves? {v : Value} {leaves : List (String × Option String)}
    (found : leaves? v = some leaves) : v = .map (leaves.map ofLeaf) := by
  unfold leaves? at found
  split at found
  · rw [eq_of_mapM_leaf? found]
  · cases found

/-! ## Loading what has been loaded -/

/-- What the file of a repository says: nothing if it is not there or what it holds does not count
as given, and the entries of its mapping otherwise. -/
inductive Says (files : Files) (root : String) : Entries → Prop
  | noFile {absence : Absence} : files.read (Path.join root fileName) = .error absence →
      absence.reason? (Path.join root fileName) = none → Says files root []
  | nothing {bytes : List UInt8} {v : Value} :
      files.read (Path.join root fileName) = .ok bytes →
      Document.Reads files.host (Path.join root fileName) bytes (.ok v) →
      v.truthy = false → Says files root []
  | entries {bytes : List UInt8} {user : Entries} :
      files.read (Path.join root fileName) = .ok bytes →
      Document.Reads files.host (Path.join root fileName) bytes (.ok (.map user)) →
      Says files root (unrolled user)

variable {files : Files} {root : String}

theorem Says.of_read {bytes : List UInt8} {v : Value} {said : Entries}
    (told : Says files root said) (there : files.read (Path.join root fileName) = .ok bytes)
    (reads : Document.Reads files.host (Path.join root fileName) bytes (.ok v)) :
    (v.truthy = false ∧ said = []) ∨ ∃ user, v = .map user ∧ said = unrolled user := by
  cases told with
  | noFile absent => cases there.symm.trans absent
  | nothing there' reads' empty =>
      cases there.symm.trans there'
      cases reads.unique reads'
      exact .inl ⟨empty, rfl⟩
  | @entries bytes user there' reads' =>
      cases there.symm.trans there'
      cases reads.unique reads'
      exact .inr ⟨user, rfl, rfl⟩

/-- A file says one thing. -/
theorem Says.unique {said said' : Entries} (told : Says files root said)
    (told' : Says files root said') : said' = said := by
  cases told with
  | noFile absent =>
      cases told' with
      | noFile _ => rfl
      | nothing there _ _ => cases there.symm.trans absent
      | entries there _ => cases there.symm.trans absent
  | nothing there reads empty =>
      rcases told'.of_read there reads with ⟨-, same⟩ | ⟨user, rfl, same⟩
      · exact same
      · cases user with
        | nil => exact same
        | cons _ _ => cases empty
  | @entries bytes user there reads =>
      rcases told'.of_read there reads with ⟨empty, same⟩ | ⟨user', same', same⟩
      · cases user with
        | nil => exact same
        | cons _ _ => cases empty
      · obtain rfl := Value.map.inj same'
        exact same

/-- A configuration that is loaded is the overlay of what the file says. -/
theorem exists_of_load {c : Configuration} (loaded : load files root = .ok c) :
    ∃ user : Entries, user.WellKeyed ∧ Usable user ∧ Says files root (unrolled user) ∧
      c = ⟨overlay (unrolled user)⟩ := by
  cases read : files.read (Path.join root fileName) with
  | error absence =>
      cases reason : absence.reason? (Path.join root fileName) with
      | some words =>
          simp only [load, read, reason] at loaded
          cases loaded
      | none =>
          refine ⟨[], wellKeyed_nil, usable_nil, .noFile read reason, ?_⟩
          simp only [load, read, reason,
            ofEntries_of_usable List.Pairwise.nil usable_nil] at loaded
          exact (Except.ok.inj loaded).symm
  | ok bytes =>
      cases gives_of_load read loaded with
      | nothing reads empty =>
          exact ⟨[], wellKeyed_nil, usable_nil, .nothing read reads empty, rfl⟩
      | @entries user reads usable =>
          exact ⟨user, reads.wellKeyed, usable, .entries read reads, rfl⟩

/-- **A configuration that is loaded is the merge of what its file says with the defaults.** It can
be asked for everything; and a file that says just what stands in it gives it again. -/
theorem load_merges {c : Configuration} (loaded : load files root = .ok c) :
    ((∃ user, Says files root user) ∧ ∀ user, Says files root user → IsMerge user c.data) ∧
    Answers c ∧
    (∀ path, ofEntries path c.data = .ok c) ∧
    ∀ files' root' bytes, files'.read (Path.join root' fileName) = .ok bytes →
      Document.Reads files'.host (Path.join root' fileName) bytes (.ok (.map c.data)) →
        load files' root' = .ok c := by
  obtain ⟨user, keyed, usable, told, rfl⟩ := exists_of_load loaded
  have unrolledKeys : (unrolled user).Distinct := distinct_unrolled keyed.distinct
  have again : Usable (overlay (unrolled user)) := usable_overlay keyed.distinct usable
  have same (path : String) : ofEntries path (overlay (unrolled user)) =
      .ok ⟨overlay (unrolled user)⟩ := by
    rw [ofEntries_of_usable (distinct_overlay unrolledKeys) again, unrolled_overlay keyed.distinct,
      overlay_overlay unrolledKeys]
  refine ⟨⟨⟨_, told⟩, fun said told' => ?_⟩, ?_, same, fun files' root' bytes there reads => ?_⟩
  · rw [told.unique told']
    exact isMerge_overlay (wellKeyed_unrolled keyed)
  · refine answers_of_usable again fun name found => ?_
    exact ne_enclosing_of_mem_overlay keyed.distinct (mem_of_field? found) rfl
  · rw [load_of_there there, ofBytes_of_map reads]
    exact same _

/-- Every section but the last is set to null. -/
def unset : List UInt8 :=
  Utf8.encode "fail_on: never\nexclude: null\nsources: null\nbuild: null".toList

/-- The same in the order of the defaults. -/
def unsetInOrder : List UInt8 :=
  Utf8.encode "build: null\nsources: null\nexclude: null\nfail_on: never".toList

def unsetLeaves : List (String × Option String) :=
  [("build", none), ("sources", none), ("exclude", none), ("fail_on", some "never")]

theorem unset_merges :
    load (alone unset) "/r" = .ok ⟨unsetLeaves.map ofLeaf⟩ ∧ Answers ⟨unsetLeaves.map ofLeaf⟩ ∧
      load (alone unsetInOrder) "/r" = .ok ⟨unsetLeaves.map ofLeaf⟩ := by
  have loaded : load (alone unset) "/r" = .ok ⟨unsetLeaves.map ofLeaf⟩ := by
    have flat : ((load (alone unset) "/r").toOption.bind fun c => leaves? (.map c.data)) =
        some unsetLeaves := by decide +kernel
    obtain ⟨c, loads, found⟩ := Option.bind_eq_some_iff.mp flat
    rw [ok_of_toOption_eq_some loads, ← Value.map.inj (eq_of_leaves? found)]
  have there : (alone unsetInOrder).read (Path.join "/r" fileName) = .ok unsetInOrder :=
    ok_of_toOption_eq_some (by decide +kernel)
  have reads : Document.Reads .ideal (Path.join "/r" fileName) unsetInOrder
      (.ok (.map (unsetLeaves.map ofLeaf))) := by
    have flat : ((Document.outcome .ideal unsetInOrder).toOption.bind fun r =>
        r.toOption.bind leaves?) = some unsetLeaves := by
      decide +kernel
    obtain ⟨r, outcome, flat⟩ := Option.bind_eq_some_iff.mp flat
    obtain ⟨v, read, found⟩ := Option.bind_eq_some_iff.mp flat
    rw [← eq_of_leaves? found]
    refine ⟨rfl, ?_⟩
    rw [ok_of_toOption_eq_some outcome, ok_of_toOption_eq_some read]
  obtain ⟨-, answers, -, again⟩ := load_merges loaded
  exact ⟨loaded, answers, again _ "/r" _ there reads⟩

end Configuration

end Overdue
