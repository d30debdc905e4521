import Overdue.Document.File
import Overdue.Value.Text

/-!
# Configuration

A repository may say what is scanned, which build is checked and when the gate fails. What it leaves
unsaid stands at its default: `Configuration.overlay` lays the user's entries over the defaults, the
two mapping sections entry by entry and everything else whole. A configuration that is loaded has
sections of the right kind and a known condition of failure.
-/
namespace Overdue

structure Configuration where
  data : Entries
deriving Repr

namespace Configuration

def fileName : String := ".techdebt-gate.yml"

def ledgerName : String := ".techdebt-ledger.yml"

def codeVariable : String := "TECHDEBT_VERSION_CODE"

def nameVariable : String := "TECHDEBT_VERSION_NAME"

def failChoices : List String := ["error", "warning", "never"]

def defaults : Entries :=
  [(.text "build", .map [(.text "version_code", .null), (.text "version_name", .null)]),
    (.text "sources", .map [(.text "python", .bool true), (.text "ledger", .text ledgerName)]),
    (.text "exclude",
      .list [.text ".venv/**", .text "venv/**", .text "build/**", .text "dist/**"]),
    (.text "fail_on", .text "error")]

/-! ## Loading -/

/-- What a section must be. -/
inductive SectionKind
  | mapping
  | list
deriving DecidableEq, Repr

def SectionKind.name : SectionKind → String
  | .mapping => "a mapping"
  | .list => "a list"

def SectionKind.admits : SectionKind → Value → Bool
  | _, .null => true
  | .mapping, .map _ => true
  | .list, .list _ => true
  | .mapping, .enclosing isMap => isMap
  | .list, .enclosing isMap => !isMap
  | _, _ => false

/-- The sections whose kind is laid down. -/
def sectionKind? : Value → Option (String × SectionKind)
  | .text "build" => some ("build", .mapping)
  | .text "sources" => some ("sources", .mapping)
  | .text "exclude" => some ("exclude", .list)
  | _ => none

/-- Refuses in words that end in a value. -/
def refuse (words : String) (v : Value) : Failure :=
  match v.literal? with
  | some t => .configuration (words ++ t)
  | none => .unwritable

/-- Whether an entry's section is of its kind. -/
def checkEntry (path : String) (key v : Value) : Except Failure Unit :=
  match sectionKind? key with
  | none => .ok ()
  | some (name, kind) =>
    if kind.admits v then .ok ()
    else .error (refuse (path ++ ": '" ++ name ++ "' must be " ++ kind.name ++ ", got ") v)

def checkEntries (path : String) : Entries → Except Failure Unit
  | [] => .ok ()
  | (k, v) :: rest =>
    match checkEntry path k v with
    | .error f => .error f
    | .ok () => checkEntries path rest

/-- Lays one entry over others: mappings are joined, anything else takes the place of what was
there. -/
def lay (data : Entries) (key v : Value) : Entries :=
  match data.get? key, v with
  | some (.map below), .map above =>
    data.put key (.map (above.foldl (fun es (k, v) => Entries.put k v es) below))
  | _, _ => data.put key v

/-- The user's entries over the defaults. -/
def overlay (user : Entries) : Entries :=
  user.foldl (fun data (k, v) => lay data k v) defaults

/-- Checks the condition of failure. -/
def checkFailOn (data : Entries) : Except Failure Configuration :=
  let v := (data.field? "fail_on").getD .null
  match v with
  | .text s =>
    if failChoices.contains s then .ok ⟨data⟩
    else .error (refuse "fail_on must be one of error, warning, never, got " v)
  | v => .error (refuse "fail_on must be one of error, warning, never, got " v)

/-- The configuration with a user's entries, which stand in a file at a path. -/
def ofEntries (path : String) (user : Entries) : Except Failure Configuration :=
  let user := user.map fun (k, v) => (k, v.inside (.map user))
  match checkEntries path user with
  | .error f => .error f
  | .ok () => checkFailOn (overlay user)

/-- The configuration of a file's bytes. -/
def ofBytes (host : Host) (path : String) (bytes : List UInt8) : Except Failure Configuration :=
  match Document.ofFile host path bytes with
  | .error (.document .malformed) =>
    .error (.configuration ("cannot read " ++ path ++ ": " ++ Document.Fault.malformed.message))
  | .error f => .error f
  | .ok v =>
    if !v.truthy then ofEntries path []
    else match v with
      | .map user => ofEntries path user
      | _ => .error (.configuration (path ++ " must contain a mapping"))

/-- The configuration of a repository; the defaults if it has no file for it. -/
def load (files : Files) (root : String) : Except Failure Configuration :=
  let path := Path.join root fileName
  match files.read path with
  | .error a =>
    match a.reason? path with
    | some reason => .error (.configuration ("cannot read " ++ path ++ ": " ++ reason))
    | none => ofEntries path []
  | .ok bytes => ofBytes files.host path bytes

/-! ## Asking -/

/-- A section that is a mapping; one that does not count as given is empty. -/
def sectionEntries (c : Configuration) (name : String) : Except Failure Entries :=
  let v := (c.data.field? name).getD .null
  if !v.truthy then .ok []
  else match v with
    | .map entries => .ok entries
    | _ => .error .notMapping

/-- The patterns of excluded files. -/
def excludes (c : Configuration) : Except Failure (List Value) :=
  let v := (c.data.field? "exclude").getD .null
  if !v.truthy then .ok []
  else match v with
    -- A list around the mapping that the value stands in; it has that mapping for a member.
    | .enclosing false => .ok [.enclosing true]
    | v =>
      match v.elements? with
      | some items => .ok (items.map (·.inside v))
      | none => .error .wrongKind

/-- When the gate fails. -/
def failOn (c : Configuration) : Value := (c.data.field? "fail_on").getD (.text "error")

/-- Whether source files are read. -/
def readsSources (c : Configuration) : Except Failure Bool :=
  (c.sectionEntries "sources").map fun es => ((es.field? "python").getD (.bool true)).truthy

/-- The path of the ledger, if one is to be read. -/
def ledger (c : Configuration) : Except Failure (Option Value) :=
  (c.sectionEntries "sources").map fun es => (es.field? "ledger").filter (·.truthy)

/-- The characters of bytes as far as a numeral may hold them. -/
def numeralChars (bs : List UInt8) : List Char :=
  bs.map fun b => if b < 0x80 ∧ ¬ (0x1C ≤ b ∧ b ≤ 0x1F) then Char.ofNat b.toNat else '?'

/-- A version code that a value gives; none for null and the empty text. A double loses its
fraction. -/
def versionCode (place : String) (v : Value) : Except Failure (Option Int) :=
  let refused : Except Failure (Option Int) :=
    .error (refuse (place ++ ": version code must be an integer, got ") v)
  let numeral (s : List Char) : Except Failure (Option Int) :=
    match Numeral.readInt s with
    | .ok i => .ok (some i)
    | .error _ => refused
  match v with
  | .null => .ok none
  | .int i => .ok (some i)
  | .float (.infinite _) => .error .infinite
  | .float x =>
    match x.truncate? with
    | some i => .ok (some i)
    | none => refused
  | .text s => if s = "" then .ok none else numeral s.toList
  | .bytes bs => numeral (numeralChars bs)
  | _ => refused

/-- A variable of the environment, unless it is empty. -/
def given? (environment : List (String × String)) (name : String) : Option String :=
  ((environment.find? fun (n, _) => n == name).map (·.2)).filter (· != "")

/-- The build that is checked. A flag stands above the environment, which stands above the
configuration; each version code is read even if another one stands above it. -/
def build (c : Configuration) (environment : List (String × String)) (flagCode : Option Int)
    (flagName : Option String) : Except Failure Build := do
  let entries ← c.sectionEntries "build"
  let code ← versionCode fileName ((entries.field? "version_code").getD .null)
  let code ← match given? environment codeVariable with
    | some s => versionCode codeVariable (.text s)
    | none => pure code
  let code := flagCode.orElse fun _ => code
  match (flagName.filter (· != "")).orElse fun _ => given? environment nameVariable with
  | some name => return ⟨code, some name⟩
  | none =>
    match (entries.field? "version_name").getD .null with
    | .null => return ⟨code, none⟩
    | v =>
      match v.display? with
      | some name => return ⟨code, some name⟩
      | none => throw .unwritable

end Configuration

end Overdue
