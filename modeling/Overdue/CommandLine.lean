import Overdue.Calendar.Reader
import Overdue.Number.Numeral
import Overdue.Text.Quoted

/-!
# The command line

The one command is `scan`, with a path and switches. A switch may be shortened as long as it stays
unambiguous, and a value may follow it or be attached by an equals sign. Two hyphens end the
switches. Words that nothing takes are refused at the end, after everything else has been read.
-/
namespace Overdue.CommandLine

inductive Switch
  | help
  | versionCode
  | versionName
  | today
  | markdown
  | json
  | verbose
deriving DecidableEq, Repr

namespace Switch

/-- The names of a switch, shortest first. -/
def names : Switch → List String
  | .help => ["-h", "--help"]
  | .versionCode => ["--version-code"]
  | .versionName => ["--version-name"]
  | .today => ["--today"]
  | .markdown => ["--markdown"]
  | .json => ["--json"]
  | .verbose => ["-v", "--verbose"]

def title (s : Switch) : String := "/".intercalate s.names

def takesValue : Switch → Bool
  | .versionCode => true
  | .versionName => true
  | .today => true
  | _ => false

end Switch

/-- The names that switches go by. -/
abbrev Names := List (String × Switch)

def namesOf (switches : List Switch) : Names :=
  switches.flatMap fun s => s.names.map fun n => (n, s)

/-- The switches before the command. -/
def outerNames : Names := namesOf [.help]

/-- The switches of the command. -/
def scanNames : Names :=
  namesOf [.help, .versionCode, .versionName, .today, .markdown, .json, .verbose]

/-- What a scan is asked for. -/
structure Request where
  path : String
  versionCode : Option Int := none
  versionName : Option String := none
  today : Option Date := none
  markdown : Bool := false
  json : Bool := false
  verbose : Bool := false
deriving DecidableEq, Repr

/-- Why a command line is refused. -/
inductive Fault
  | ambiguous (word : String) (candidates : List String)
  | expectsValue (s : Switch)
  | takesNoValue (s : Switch) (value : String)
  | notInteger (s : Switch) (value : String)
  | notDate (s : Switch) (fault : DateTextFault)
  | missing (name : String)
  | unknownCommand (word : String)
  | unrecognized (words : List String)
deriving Repr

def Fault.message : Fault → String
  | .ambiguous word candidates =>
    "ambiguous option: " ++ word ++ " could match " ++ ", ".intercalate candidates
  | .expectsValue s => "argument " ++ s.title ++ ": expected one argument"
  | .takesNoValue s v =>
    "argument " ++ s.title ++ ": ignored explicit argument " ++ Quoted.text v
  | .notInteger s v => "argument " ++ s.title ++ ": invalid int value: " ++ Quoted.text v
  | .notDate s f => "argument " ++ s.title ++ ": " ++ f.message
  | .missing name => "the following arguments are required: " ++ name
  | .unknownCommand word =>
    "argument cmd: invalid choice: " ++ Quoted.text word ++ " (choose from 'scan')"
  | .unrecognized words => "unrecognized arguments: " ++ " ".intercalate words

/-- Why there is no request. -/
inductive Stop
  /-- Help was asked for. -/
  | help
  | refused (program : String) (f : Fault)
  /-- Two hyphens were attached to a switch as its value; they vanish. -/
  | lostValue
deriving Repr

def program : String := "techdebt-gate"

def scanProgram : String := "techdebt-gate scan"

/-- What is shown when help is asked for. -/
def usage : String :=
  "usage: techdebt-gate scan [-h] [--version-code N] [--version-name NAME] [--today YYYY-MM-DD] " ++
    "[--markdown] [--json] [-v] path"

/-! ## Words -/

/-- What a word is. -/
inductive Word
  | plain (text : String)
  /-- Two hyphens, behind which every word is plain. -/
  | endMark
  | switch (s : Switch) (name : String) (attached : Option String)
  /-- It looks like a switch and is none. -/
  | unknown (text : String)
deriving Repr

/-- A name and what an equals sign attaches to it. -/
def cutAtEquals : List Char → List Char × Option String
  | [] => ([], none)
  | '=' :: rest => ([], some (String.ofList rest))
  | c :: rest =>
    let (name, attached) := cutAtEquals rest
    (c :: name, attached)

/-- The switches that a word may be short for, with what is attached to them. -/
def candidates (names : Names) (word : List Char) : List (String × Switch × Option String) :=
  let starting (stem : List Char) (attached : Option String) :=
    (names.filter fun (n, _) => stem.isPrefixOf n.toList).map fun (n, s) => (n, s, attached)
  match word with
  | '-' :: '-' :: _ =>
    let (stem, attached) := cutAtEquals word
    starting stem attached
  | '-' :: c :: tail =>
    names.filterMap fun (n, s) =>
      if n.toList = ['-', c] then some (n, s, some (String.ofList tail))
      else if word.isPrefixOf n.toList then some (n, s, none)
      else none
  | _ => []

/-- Whether a word is a hyphen and a number, whose whole part may be missing. -/
def isNegativeNumber (word : List Char) : Bool :=
  match word with
  | '-' :: rest =>
    let isDigit (c : Char) : Bool := (Unicode.decimalValue? c).isSome
    let rest := if rest.getLast? = some '\n' then rest.dropLast else rest
    let (_, tail) := rest.span isDigit
    match tail with
    | [] => !rest.isEmpty
    | '.' :: fraction => !fraction.isEmpty && fraction.all isDigit
    | _ => false
  | _ => false

/-- What a word is that stands before any end mark. -/
def classify (names : Names) (text : String) : Except Fault Word :=
  let word := text.toList
  match word with
  | '-' :: _ :: _ =>
    match names.find? fun (n, _) => n == text with
    | some (n, s) => .ok (.switch s n none)
    | none =>
      let (stem, attached) := cutAtEquals word
      match attached.bind fun _ => names.find? fun (n, _) => n.toList == stem with
      | some (n, s) => .ok (.switch s n attached)
      | none =>
        match candidates names word with
        | [(n, s, attached)] => .ok (.switch s n attached)
        | [] =>
          if isNegativeNumber word || word.contains ' ' then .ok (.plain text)
          else .ok (.unknown text)
        | several => .error (.ambiguous text (several.map (·.1)))
  | _ => .ok (.plain text)

def classifyAll (names : Names) : List String → Except Fault (List Word)
  | [] => .ok []
  | "--" :: rest => .ok (.endMark :: rest.map .plain)
  | text :: rest => do
    let word ← classify names text
    let words ← classifyAll names rest
    return word :: words

/-- The word as it was written. -/
def Word.text : Word → String
  | .plain s => s
  | .endMark => "--"
  | .switch _ name attached => name ++ (attached.map ("=" ++ ·)).getD ""
  | .unknown s => s

/-! ## Reading -/

/-- Switches without a value that share one hyphen: the first, and the letters attached to it. -/
def cluster (names : Names) (s : Switch) : List Char → Except Fault (List (Switch × Option String))
  | [] => .ok [(s, none)]
  | c :: rest =>
    match names.find? fun (n, _) => n.toList == ['-', c] with
    | none => .error (.takesNoValue s (String.ofList (c :: rest)))
    | some (_, t) => (cluster names t rest).map ((s, none) :: ·)

/-- The switches that a word gives with an attached text. -/
def attach (names : Names) (s : Switch) (name attached : String) :
    Except Fault (List (Switch × Option String)) :=
  if s.takesValue then .ok [(s, some attached)]
  else if name.startsWith "--" || attached = "" then .error (.takesNoValue s attached)
  else cluster names s attached.toList

/-- Takes a switch into a request. -/
def Request.take (r : Request) : Switch × Option String → Except Stop Request
  | (.help, _) => .error .help
  | (.markdown, _) => .ok { r with markdown := true }
  | (.json, _) => .ok { r with json := true }
  | (.verbose, _) => .ok { r with verbose := true }
  | (.versionName, v) => .ok { r with versionName := v }
  | (.versionCode, v) =>
    let v := v.getD ""
    match Numeral.readInt v.toList with
    | .ok i => .ok { r with versionCode := some i }
    | .error _ => .error (.refused scanProgram (.notInteger .versionCode v))
  | (.today, v) =>
    match Date.read (v.getD "") with
    | .ok d => .ok { r with today := some d }
    | .error f => .error (.refused scanProgram (.notDate .today f))

/-- A command line as far as it has been read. -/
structure Progress where
  request : Request := { path := "" }
  path : Option String := none
  extras : List String := []
deriving Repr

def Progress.take (p : Progress) (given : List (Switch × Option String)) :
    Except Stop Progress := do
  let request ← given.foldlM Request.take p.request
  return { p with request }

/-- Reads the words behind the command. -/
def scanWords (p : Progress) : List Word → Except Stop Progress
  | [] => .ok p
  | .switch s name (some attached) :: rest =>
    match attach scanNames s name attached with
    | .error f => .error (.refused scanProgram f)
    | .ok given =>
      if s.takesValue && attached = "--" then .error .lostValue
      else p.take given >>= (scanWords · rest)
  | [.switch s _ none] =>
    if s.takesValue then .error (.refused scanProgram (.expectsValue s))
    else p.take [(s, none)]
  | .switch s _ none :: next :: rest =>
    if s.takesValue then
      match next with
      | .plain v => p.take [(s, some v)] >>= (scanWords · rest)
      | _ => .error (.refused scanProgram (.expectsValue s))
    else p.take [(s, none)] >>= (scanWords · (next :: rest))
  | .unknown text :: rest => scanWords { p with extras := p.extras ++ [text] } rest
  | .plain text :: rest =>
    match p.path, rest with
    | none, .endMark :: rest => scanWords { p with path := some text } rest
    | none, rest => scanWords { p with path := some text } rest
    | some _, rest => scanWords { p with extras := p.extras ++ [text] } rest
  | .endMark :: rest =>
    match p.path, rest with
    | none, .plain text :: rest => scanWords { p with path := some text } rest
    | _, rest => scanWords { p with extras := p.extras ++ ["--"] } rest

/-- Reads a scan's words; `extras` are the words before the command that nothing took. -/
def scanRequest (extras words : List String) : Except Stop Request :=
  match classifyAll scanNames words with
  | .error f => .error (.refused scanProgram f)
  | .ok words =>
    match scanWords {} words with
    | .error s => .error s
    | .ok p =>
      match p.path with
      | none => .error (.refused scanProgram (.missing "path"))
      | some path =>
        let extras := extras ++ p.extras
        if extras.isEmpty then .ok { p.request with path }
        else .error (.refused program (.unrecognized extras))

/-- Reads up to the command and then the command. -/
def outerWords (extras : List String) : List (Word × String) → Except Stop Request
  | [] => .error (.refused program (.missing "cmd"))
  | (.plain command, _) :: rest =>
    if command = "scan" then scanRequest extras (rest.map (·.2))
    else .error (.refused program (.unknownCommand command))
  | (.endMark, _) :: rest =>
    .error (.refused program (if rest.isEmpty then .missing "cmd" else .unknownCommand "--"))
  | (.unknown text, _) :: rest => outerWords (extras ++ [text]) rest
  | (.switch s name attached, _) :: _ =>
    match attached with
    | none => .error .help
    | some attached =>
      match attach outerNames s name attached with
      | .error f => .error (.refused program f)
      | .ok _ => .error .help

/-- The request of a command line. -/
def parse (args : List String) : Except Stop Request :=
  match classifyAll outerNames args with
  | .error f => .error (.refused program f)
  | .ok words => outerWords [] (words.zip args)

end Overdue.CommandLine
