import Overdue.Files
import Overdue.Proofs.Files.Path

/-!
# What stands at a path, and trees that agree

`Entry.below?` is the entry that names lead to. Two folders agree outside of some paths
(`Folder.AgreeOutside`) if everything else is the same in both, and no folder stands at one of
these. Whatever a path leads to in one of them, with single and double dots followed, it leads to in
the other one as well, unless it comes to one of these paths: `follow_alike`.
-/
namespace Overdue

namespace Entry

def IsFolder : Option Entry → Prop
  | some (.folder _) => True
  | _ => False

/-- The entry that names lead to. -/
def below? : Entry → List String → Option Entry
  | e, [] => some e
  | .file _, _ :: _ => none
  | .folder entries, name :: rest =>
    match Folder.find? entries name with
    | none => none
    | some e => below? e rest

/-- What may stand in one place of two trees: the same, up to what lies in folders. In a free place
may be any file, or nothing. -/
inductive Alike (free : Prop) : Option Entry → Option Entry → Prop
  | nothing : Alike free none none
  | file {bytes : List UInt8} : Alike free (some (.file bytes)) (some (.file bytes))
  | folder {entries entries' : Folder} :
      Alike free (some (.folder entries)) (some (.folder entries'))
  | free {e e' : Option Entry} : free → ¬ IsFolder e → ¬ IsFolder e' → Alike free e e'

theorem Alike.refl {free : Prop} : (e : Option Entry) → Alike free e e
  | none => .nothing
  | some (.file _) => .file
  | some (.folder _) => .folder

theorem Alike.symm {free : Prop} {e e' : Option Entry} (h : Alike free e e') : Alike free e' e := by
  cases h with
  | nothing => exact .nothing
  | file => exact .file
  | folder => exact .folder
  | free allowed first second => exact .free allowed second first

theorem Alike.trans {e e' e'' : Option Entry} (first : Alike False e e')
    (second : Alike False e' e'') : Alike False e e'' := by
  cases first with
  | nothing => exact second
  | file => exact second
  | folder =>
      cases second with
      | folder => exact .folder
      | free none => exact none.elim
  | free none => exact none.elim

theorem below?_cons (entries : Folder) (name : String) (path : List String) :
    (Entry.folder entries).below? (name :: path) =
      (Folder.find? entries name).bind (·.below? path) := by
  rw [below?]
  cases Folder.find? entries name <;> rfl

theorem below?_append (e : Entry) (path rest : List String) :
    e.below? (path ++ rest) = (e.below? path).bind (·.below? rest) := by
  induction path generalizing e with
  | nil => cases e <;> rfl
  | cons name path ih =>
      cases e with
      | file bytes => rfl
      | folder entries =>
          rw [List.cons_append, below?_cons, below?_cons]
          cases Folder.find? entries name with
          | none => rfl
          | some e => exact ih e

theorem below?_singleton (entries : Folder) (name : String) :
    (Entry.folder entries).below? [name] = Folder.find? entries name := by
  rw [below?_cons]
  cases Folder.find? entries name with
  | none => rfl
  | some e => cases e <;> rfl

end Entry

namespace Folder

theorem find?_cons (n : String) (e : Entry) (rest : Folder) (name : String) :
    Folder.find? ((n, e) :: rest) name = if n = name then some e else Folder.find? rest name := by
  unfold Folder.find?
  by_cases same : n = name
  · simp [same]
  · rw [List.find?_cons_of_neg (by simpa using same), if_neg same]

/-- Outside of the free paths the same stands in both folders. -/
def AgreeOutside (free : List String → Prop) (f f' : Folder) : Prop :=
  ∀ path, (∀ name ∈ path, Path.IsName name) →
    Entry.Alike (free path) ((Entry.folder f).below? path) ((Entry.folder f').below? path)

variable {free : List String → Prop} {f f' g g' : Folder}

theorem AgreeOutside.symm (h : AgreeOutside free f f') : AgreeOutside free f' f :=
  fun path names => (h path names).symm

/-- Under one name. -/
theorem AgreeOutside.find? (h : AgreeOutside free f f') {name : String}
    (proper : Path.IsName name) :
    Entry.Alike (free [name]) (f.find? name) (f'.find? name) := by
  have there := h [name] (by simpa using proper)
  rwa [Entry.below?_singleton, Entry.below?_singleton] at there

/-- In two folders of one name. -/
theorem AgreeOutside.below (h : AgreeOutside free f f') {name : String} (proper : Path.IsName name)
    (first : f.find? name = some (.folder g)) (second : f'.find? name = some (.folder g')) :
    AgreeOutside (fun path => free (name :: path)) g g' := by
  intro path names
  have there := h (name :: path) (List.forall_mem_cons.mpr ⟨proper, names⟩)
  rwa [Entry.below?_cons, Entry.below?_cons, first, second] at there

/-! ## Following a path -/

/-- The same names lead down two trees; the folders that are left behind agree as well. -/
inductive Descent (free : List String → Prop) :
    (place : List String) → (outer outer' : List Folder) → Folder → Folder → Prop
  | top {f f' : Folder} : AgreeOutside free f f' → Descent free [] [] [] f f'
  | into {place : List String} {outer outer' : List Folder} {f f' g g' : Folder} {name : String} :
      Descent free place outer outer' f f' →
      AgreeOutside (fun path => free ((name :: place).reverse ++ path)) g g' →
      Descent free (name :: place) (f :: outer) (f' :: outer') g g'

theorem Descent.agree {place : List String} {outer outer' : List Folder}
    (h : Descent free place outer outer' f f') :
    AgreeOutside (fun path => free (place.reverse ++ path)) f f' := by
  cases h with
  | top agree => exact agree
  | into _ agree => exact agree

theorem follow_cons (outer : List Folder) (entries : Folder) (segment : String)
    (rest : List String) :
    follow outer (.folder entries) (segment :: rest) =
      if segment = "" || segment = "." then follow outer (.folder entries) rest
      else if segment = ".." then
        match outer with
        | [] => follow [] (.folder []) rest
        | parent :: outer => follow outer (.folder parent) rest
      else
        match entries.find? segment with
        | none => .error .missing
        | some e => follow (entries :: outer) e rest := rfl

/-- Nothing lies below what is no folder. -/
theorem follow_of_not_isFolder (outer : List Folder) (segment : String) (rest : List String) :
    ∀ {e : Option Entry}, ¬ Entry.IsFolder e →
      (match e with
        | none => .error .missing
        | some e => follow outer e (segment :: rest) : Except Absence Entry).toOption = none
  | none, _ => rfl
  | some (.file _), _ => rfl
  | some (.folder _), shut => absurd trivial shut

/-- A path comes to the same in two trees, unless it comes to a free place. -/
theorem follow_alike {place : List String} {outer outer' : List Folder}
    (descent : Descent free place outer outer' f f') {segments : List String}
    (other : ∀ last, Path.position? place segments = some last → ¬ free last.reverse) :
    Entry.Alike False (follow outer (.folder f) segments).toOption
      (follow outer' (.folder f') segments).toOption := by
  induction segments generalizing place outer outer' f f' with
  | nil => exact .folder
  | cons segment rest ih =>
      rw [Path.position?] at other
      rw [follow_cons, follow_cons]
      by_cases passed : (segment = "" || segment = ".") = true
      · rw [if_pos passed] at other
        rw [if_pos passed, if_pos passed]
        exact ih descent other
      rw [if_neg passed] at other
      rw [if_neg passed, if_neg passed]
      by_cases back : segment = ".."
      · rw [if_pos back] at other
        rw [if_pos back, if_pos back]
        -- Above the top both paths go on in the same empty folder.
        cases descent with
        | top _ => exact .refl _
        | into before _ => exact ih before other
      rw [if_neg back] at other
      rw [if_neg back, if_neg back]
      have proper : Path.IsName segment := Path.isName_iff.mpr ⟨passed, back⟩
      have there := descent.agree.find? proper
      generalize first : f.find? segment = e at there ⊢
      generalize second : f'.find? segment = e' at there ⊢
      cases there with
      | nothing => exact .nothing
      | file =>
          cases rest with
          | nil => exact .file
          | cons _ _ => exact .nothing
      | folder =>
          refine ih (.into descent ?_) other
          have inside := descent.agree.below proper first second
          simpa using inside
      | free allowed shut shut' =>
          cases rest with
          | nil =>
              refine absurd ?_ (other (segment :: place) rfl)
              rwa [List.reverse_cons]
          | cons next rest =>
              rw [follow_of_not_isFolder _ _ _ shut, follow_of_not_isFolder _ _ _ shut']
              exact .nothing

/-- Names lead to the entry below. -/
theorem follow_of_names (outer : List Folder) (here : Entry) {names : List String}
    (proper : ∀ name ∈ names, Path.IsName name) :
    (follow outer here names).toOption = here.below? names := by
  induction names generalizing outer here with
  | nil => cases here <;> rfl
  | cons name rest ih =>
      rw [List.forall_mem_cons] at proper
      cases here with
      | file bytes => rfl
      | folder entries =>
          obtain ⟨goesOn, notBack⟩ := Path.isName_iff.mp proper.1
          rw [follow_cons, if_neg goesOn, if_neg notBack, Entry.below?_cons]
          cases Folder.find? entries name with
          | none => rfl
          | some e => exact ih _ e proper.2

/-- A path leads nowhere for want of an entry or of a folder. -/
theorem missing_or_notFolder_of_follow {outer : List Folder} {here : Entry}
    {segments : List String} {a : Absence} (leads : follow outer here segments = .error a) :
    a = .missing ∨ a = .notFolder := by
  induction segments generalizing outer here with
  | nil => cases here <;> cases leads
  | cons segment rest ih =>
      cases here with
      | file bytes =>
          cases leads
          exact .inr rfl
      | folder entries =>
          rw [follow_cons] at leads
          repeat' split at leads
          all_goals first | exact ih leads | (cases leads; exact .inl rfl)

end Folder

namespace Files

/-- The same stands at a path of two trees on one host, up to what lies in folders. -/
structure SameAt (files files' : Files) (path : String) : Prop where
  host : files.host = files'.host
  stands : Entry.Alike False (files.lookup path).toOption (files'.lookup path).toOption

variable {files files' : Files} {path : String}

theorem SameAt.refl (files : Files) (path : String) : SameAt files files path := ⟨rfl, .refl _⟩

theorem SameAt.trans {files'' : Files} (first : SameAt files files' path)
    (second : SameAt files' files'' path) : SameAt files files'' path :=
  ⟨first.host.trans second.host, first.stands.trans second.stands⟩

theorem sameAt_of_absent (host : files.host = files'.host) (first : files.has path = false)
    (second : files'.has path = false) : SameAt files files' path := by
  refine ⟨host, ?_⟩
  unfold Files.has at first second
  generalize files.lookup path = e at first ⊢
  generalize files'.lookup path = e' at second ⊢
  match e, e' with
  | .error _, .error _ => exact .nothing
  | .ok _, _ => cases first
  | _, .ok _ => cases second

/-- There is nothing to say why what stands at a path cannot be read, where nothing stands. -/
theorem reason?_of_lookup {a : Absence} (leads : files.lookup path = .error a) :
    a.reason? path = none := by
  have nowhere : a = .missing ∨ a = .notFolder := by
    unfold lookup at leads
    split at leads
    · split at leads
      · cases leads
      · cases leads
        exact .inl rfl
    · exact Folder.missing_or_notFolder_of_follow leads
  rcases nowhere with rfl | rfl <;> rfl

/-- Both paths lead nowhere, or to the same file, or each to a folder. -/
theorem SameAt.outcomes (same : SameAt files files' path) :
    (∃ a a', files.lookup path = .error a ∧ files'.lookup path = .error a') ∨
      (∃ bytes, files.lookup path = .ok (.file bytes) ∧ files'.lookup path = .ok (.file bytes)) ∨
      ∃ entries entries', files.lookup path = .ok (.folder entries) ∧
        files'.lookup path = .ok (.folder entries') := by
  have stands := same.stands
  generalize files.lookup path = e at stands ⊢
  generalize files'.lookup path = e' at stands ⊢
  match e, e', stands with
  | .error a, .error a', _ => exact .inl ⟨a, a', rfl, rfl⟩
  | .ok (.file _), .ok _, .file => exact .inr (.inl ⟨_, rfl, rfl⟩)
  | .ok (.folder es), .ok (.folder es'), _ => exact .inr (.inr ⟨es, es', rfl, rfl⟩)

theorem SameAt.has (same : SameAt files files' path) : files.has path = files'.has path := by
  unfold Files.has
  rcases same.outcomes with
    ⟨a, a', first, second⟩ | ⟨bytes, first, second⟩ | ⟨es, es', first, second⟩
  all_goals rw [first, second]

/-- A folder stands at the path. -/
def HasFolder (files : Files) (path : String) : Prop :=
  ∃ entries, files.lookup path = .ok (.folder entries)

theorem SameAt.hasFolder (same : SameAt files files' path) :
    files.HasFolder path ↔ files'.HasFolder path := by
  unfold HasFolder
  rcases same.outcomes with
    ⟨a, a', first, second⟩ | ⟨bytes, first, second⟩ | ⟨es, es', first, second⟩
  all_goals simp [first, second]

/-- Where the same stands, the same comes of reading it, unless nothing stands there; then the paths
may lead nowhere for different reasons. -/
theorem SameAt.read (same : SameAt files files' path) :
    files.read path = files'.read path ∨
      ∃ a a', files.read path = .error a ∧ files'.read path = .error a' ∧
        a.reason? path = none ∧ a'.reason? path = none := by
  unfold Files.read
  rcases same.outcomes with
    ⟨a, a', first, second⟩ | ⟨bytes, first, second⟩ | ⟨es, es', first, second⟩
  · rw [first, second]
    exact .inr ⟨a, a', rfl, rfl, reason?_of_lookup first, reason?_of_lookup second⟩
  · rw [first, second, same.host]
    exact .inl rfl
  · rw [first, second]
    exact .inl rfl

end Files

end Overdue
