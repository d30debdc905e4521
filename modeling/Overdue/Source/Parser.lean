import Std.Data.HashMap
import Overdue.Source.Grammar
import Overdue.Source.Lexer
import Overdue.Source.TextLiteral

/-!
# Reading a source file

`parse` reads a text by a rule of the grammar, or names the line to blame. A text that cannot be
read is read a second time with the rules for mistakes; without a mistake that they describe, the
line of the furthest token of the first reading is blamed. A fault of the lexer behind that point
outranks the grammar's complaint, and so does a bracket that stayed open in front of it.
-/
namespace Overdue.Source

namespace Parser

/-- The outcome of a parsing expression. -/
inductive Outcome
  | read (nodes : List Node) (next : Nat)
  | failed
  /-- Failed in a way that rules out later alternatives. -/
  | committed
  | blamed (line : Nat)
deriving Inhabited

/-- What is kept between steps. -/
structure State where
  /-- How many tokens were looked at. -/
  looked : Nat := 0
  kept : Std.HashMap (Rule × Nat) Outcome := ∅
  /-- Whether rules for mistakes take part. -/
  diagnosing : Bool := false

def State.look (s : State) (pos : Nat) : State :=
  if s.looked ≤ pos then { s with looked := pos + 1 } else s

/-- The line of the last token that was looked at. -/
def State.lastLine (s : State) (ts : TokenList) : Nat :=
  ((ts.tokens[s.looked - 1]?).map (·.line)).getD 0

/-- The line that a lexer's fault is blamed on where the grammar meets it. -/
def faultLine : LexicalFault → Nat
  | .malformed line => line
  | .unclosed opened => opened
  | .layout line _ => line

/-- Looks at a token; past the last one the lexer's fault is met. -/
def withToken (ts : TokenList) (s : State) (pos : Nat) (k : Token → Outcome) : Outcome × State :=
  let s := s.look pos
  match ts.tokens[pos]? with
  | some t => (k t, s)
  | none =>
    match ts.fault with
    | some f => (.blamed (faultLine f), s)
    | none => (.failed, s)

def isLit (t : Token) (word : String) : Bool :=
  (t.kind == .keyword || t.kind == .punctuation) && t.lexeme == word

def takeIf (pos : Nat) (keep ok : Bool) (t : Token) : Outcome :=
  if ok then .read (if keep then [.token t] else []) (pos + 1) else .failed

def numberValue : NumberLiteral → Value
  | .whole n => .int n
  | .double x => .float x
  | .imaginary x => .complex Binary64.zero x

def takeNumber (pos : Nat) (t : Token) : Outcome :=
  if t.kind = .number then
    match readNumber? t.lexeme.toList with
    | some n => .read [.literal t.line (numberValue n)] (pos + 1)
    | none => .blamed t.line
  else .failed

/-- The text tokens from a position on, and where they end. -/
def textTokens (ts : TokenList) : (fuel : Nat) → State → (pos : Nat) → List Token × State × Nat
  | 0, s, pos => ([], s, pos)
  | fuel + 1, s, pos =>
    let s := s.look pos
    match ts.tokens[pos]? with
    | some t =>
      if t.kind = .text then
        let (rest, s, next) := textTokens ts fuel s (pos + 1)
        (t :: rest, s, next)
      else ([], s, pos)
    | none => ([], s, pos)

/-- Text tokens joined as far as they were read. -/
structure Joined where
  chars : List Char := []
  bytes : Option (List UInt8) := none
  /-- The expressions of the holes, if one of the tokens is a template. -/
  holes : Option (List Node) := none

/-- Whether a token that joins others is bytes where they are not, or the other way round. -/
def Joined.clashes (j : Joined) (first : Bool) (isBytes : Bool) : Bool :=
  !first && j.bytes.isSome != isBytes

def Joined.node (j : Joined) (line : Nat) : Node :=
  match j.holes, j.bytes with
  | some nodes, _ => .branch .template line nodes
  | none, some bs => .literal line (.bytes bs)
  | none, none => .literal line (.text (String.ofList j.chars))

/-- Joins text tokens; `hole` reads the expression of a hole. The answer is a line to blame or the
joined text. -/
def join (lastLine : Nat) (hole : (line : Nat) → List Char → Except Nat (List Node)) :
    (first : Bool) → Joined → List Token → Except Nat Joined
  | _, j, [] => .ok j
  | first, j, t :: rest =>
    let clash (isBytes : Bool) : Except Nat Unit :=
      if j.clashes first isBytes then .error lastLine else .ok ()
    match readText t.lexeme.toList with
    | .foreignBytes => .error t.line
    | .badEscape => .error lastLine
    | .chars s => do
      clash false
      join lastLine hole false { j with chars := j.chars ++ s } rest
    | .bytes bs => do
      clash true
      join lastLine hole false { j with bytes := some (j.bytes.getD [] ++ bs) } rest
    | .template template => do
      clash false
      let nodes ← template.holes.mapM fun h => hole (t.line + h.lines) ('(' :: h.code ++ [')'])
      let j := { j with holes := some (j.holes.getD [] ++ nodes.flatten) }
      if template.broken then .error lastLine else join lastLine hole false j rest

/-- The line to blame for a text whose grammar blames `line`. -/
def settle (ts : TokenList) (s : State) (line : Nat) : Nat :=
  if s.looked > ts.tokens.size then line
  else
    let unlessOpened (opened : Nat) : Nat := if s.lastLine ts > opened then opened else line
    match ts.fault with
    | some (.malformed l) => l
    | some (.unclosed opened) => unlessOpened opened
    | some (.layout _ (some opened)) => unlessOpened opened
    | _ => line

/-- The line to blame for a text in which no mistake was recognised: that of the furthest token of
the first reading. -/
def settleUnknown (ts : TokenList) (first last : State) : Nat :=
  match ts.tokens[first.looked - 1]? with
  | some t =>
    if t.kind = .indent ∨ t.kind = .dedent then last.lastLine ts else settle ts last t.line
  | none => settle ts last 0

mutual

/-- Runs a parsing expression at a position. -/
def run : (fuel : Nat) → TokenList → Peg Rule → State → (pos : Nat) → Outcome × State
  | 0, _, _, s, _ => (.failed, s)
  | fuel + 1, ts, e, s, pos =>
    match e with
    | .empty => (.read [] pos, s)
    | .lit word => withToken ts s pos fun t => takeIf pos false (isLit t word) t
    | .keep word => withToken ts s pos fun t => takeIf pos true (isLit t word) t
    | .soft word =>
      withToken ts s pos fun t => takeIf pos false (t.kind == .name && t.lexeme == word) t
    | .name => withToken ts s pos fun t => takeIf pos true (t.kind == .name) t
    | .mark kind => withToken ts s pos fun t => takeIf pos false (t.kind == kind) t
    | .number => withToken ts s pos (takeNumber pos)
    | .need word =>
      withToken ts s pos fun t =>
        if isLit t word then .read [] (pos + 1) else .blamed t.line
    | .texts =>
      let (tokens, s, next) := textTokens ts (ts.tokens.size + 1) s pos
      match tokens.head?, ts.tokens[next]?, ts.fault with
      | _, none, some f => (.blamed (faultLine f), s)
      | none, _, _ => (.failed, s)
      | some t, _, _ =>
        match join (s.lastLine ts) (fun line code => parseWith fuel .hole line code) true {}
            tokens with
        | .ok joined => (.read [joined.node t.line] next, s)
        | .error line => (.blamed line, s)
    | .rule r =>
      match (if r.isKept then s.kept[(r, pos)]? else none) with
      | some outcome => (outcome, s)
      | none =>
        let (outcome, s) := run fuel ts r.body s pos
        let outcome := match outcome with
          | .committed => .failed
          | o => o
        (outcome, if r.isKept then { s with kept := s.kept.insert (r, pos) outcome } else s)
    | .seq a b =>
      match run fuel ts a s pos with
      | (.read ns next, s) =>
        match run fuel ts b s next with
        | (.read ms last, s) => (.read (ns ++ ms) last, s)
        | other => other
      | other => other
    | .commit a b =>
      match run fuel ts a s pos with
      | (.read ns next, s) =>
        match run fuel ts b s next with
        | (.read ms last, s) => (.read (ns ++ ms) last, s)
        | (.failed, s) => (.committed, s)
        | other => other
      | other => other
    | .alt a b =>
      match run fuel ts a s pos with
      | (.failed, s) => run fuel ts b s pos
      | other => other
    | .option a =>
      match run fuel ts a s pos with
      | (.failed, s) => (.read [] pos, s)
      | other => other
    | .many a =>
      match run fuel ts a s pos with
      | (.read ns next, s) =>
        if next ≤ pos then (.read [] pos, s)
        else match run fuel ts (.many a) s next with
          | (.read ms last, s) => (.read (ns ++ ms) last, s)
          | other => other
      | (.failed, s) => (.read [] pos, s)
      | other => other
    | .ahead a =>
      match run fuel ts a s pos with
      | (.read _ _, s) => (.read [] pos, s)
      | other => other
    | .absent a =>
      match run fuel ts a s pos with
      | (.read _ _, s) => (.failed, s)
      | (.blamed line, s) => (.blamed line, s)
      | (_, s) => (.read [] pos, s)
    | .chain first step =>
      match run fuel ts first s pos with
      | (.read [n] next, s) =>
        let line := ((ts.tokens[pos]?).map (·.line)).getD 0
        runChain fuel ts step line n s next
      | other => other
    | .node c a =>
      match run fuel ts a s pos with
      | (.read ns next, s) =>
        (.read [.branch c (((ts.tokens[pos]?).map (·.line)).getD 0) ns] next, s)
      | other => other
    | .strict a =>
      let before := s.diagnosing
      let (outcome, s) := run fuel ts a { s with diagnosing := false } pos
      (outcome, { s with diagnosing := before })
    | .insist a blame =>
      match run fuel ts a s pos with
      | (.read ns next, s) =>
        match blame ⟨ns, s.lastLine ts, ((ts.tokens[next - 1]?).map (·.depth)).getD 0⟩ with
        | some line => (.blamed line, s)
        | none => (.read ns next, s)
      | other => other
    | .mistake a blame =>
      if s.diagnosing then
        match run fuel ts a s pos with
        | (.read ns next, s) =>
          match blame ⟨ns, s.lastLine ts, ((ts.tokens[next - 1]?).map (·.depth)).getD 0⟩ with
          | some line => (.blamed line, s)
          | none => (.failed, s)
        | other => other
      else (.failed, s)

/-- Takes steps as long as they go; each puts a branch around what was read before. -/
def runChain : (fuel : Nat) → TokenList → Peg Rule → (line : Nat) → Node → State → (pos : Nat) →
    Outcome × State
  | 0, _, _, _, n, s, pos => (.read [n] pos, s)
  | fuel + 1, ts, step, line, n, s, pos =>
    match run fuel ts step s pos with
    | (.read [.branch c _ ns] next, s) =>
      runChain fuel ts step line (.branch c line (n :: ns)) s next
    | (.blamed l, s) => (.blamed l, s)
    | (_, s) => (.read [n] pos, s)

/-- Reads a text by a rule, or names the line to blame. -/
def parseWith : (fuel : Nat) → Rule → (line : Nat) → List Char → Except Nat (List Node)
  | 0, _, line, _ => .error line
  | fuel + 1, r, line, code =>
    let ts := tokenize line code
    match run fuel ts (.rule r) {} 0 with
    | (.read ns _, _) => .ok ns
    | (.blamed l, s) => .error (settle ts s l)
    | (_, s) =>
      match run fuel ts (.rule r) { looked := s.looked, diagnosing := true } 0 with
      | (.blamed l, s) => .error (settle ts s l)
      | (_, s') => .error (settleUnknown ts s s')

end

end Parser

/-- Reads a source file, or names the line to blame. No chain of rules between two tokens is longer
than the factor. -/
def parse (code : List Char) : Except Nat (List Node) :=
  Parser.parseWith (500 * (code.length + 4)) .file 1 code

end Overdue.Source
