import Overdue.Source.Grammar.Statement

/-!
# Mistakes

Rules that describe frequent mistakes, so that a wrong file is blamed on the line where the mistake
was made and not on the line where reading stopped.
-/
namespace Overdue.Source.Grammar

open Peg

/-- A mistake that is blamed on the last token that was looked at. -/
def stopped (a : Peg Rule) : Peg Rule := mistake a blameLast

/-- A mistake that is blamed on the first node. -/
def atFirst (a : Peg Rule) : Peg Rule := mistake a (blameAt 0)

/-- A mistake that is blamed on the last node. -/
def atEnd (a : Peg Rule) : Peg Rule := mistake a fun e => e.nodes.getLast?.map Node.line

/-- A mistake that is blamed on a token that was kept. -/
def atToken (s : String) (a : Peg Rule) : Peg Rule :=
  mistake a fun e => (e.nodes.find? (Node.isToken s)).map Node.line

/-- A mistake that is blamed on the first part that cannot be a target. -/
def badTarget (use : Node.TargetUse) (a : Peg Rule) : Peg Rule :=
  mistake a fun e => e.nodes.getLast?.bind (Node.badTarget use)

/-- A block is missing behind a colon. -/
def noBlock : Peg Rule := all [lit ":", newline, absent (mark .indent)]

/-- Reads and drops: only the nodes of other parts are evidence. -/
def hidden (a : Peg Rule) : Peg Rule := node .group a

/-! ## Arguments and expressions -/

def isPositional : Node → Bool
  | .branch .namedArgument _ _ => false
  | .branch .unpackedMapping _ _ => false
  | _ => true

/-- The last positional argument, if there are at least two. -/
def lastOfSeveral (e : Evidence) : Option Nat :=
  match e.nodes with
  | .branch _ _ args :: _ =>
    let positional := args.filter isPositional
    if positional.length ≤ 1 then none else positional.getLast?.map Node.line
  | _ => none

def wrongArguments : Peg Rule :=
  let args := node .arguments (rule .argumentList)
  let clauses := rule .forClauses
  any [atFirst (all [args, lit ",", lit "*"]),
    atFirst (all [rule .expression, clauses, lit ",",
      option (any [args, seq (rule .expression) clauses])]),
    atFirst (all [name, lit "=", rule .expression, clauses]),
    mistake (seq args clauses) lastOfSeveral,
    mistake (all [args, lit ",", rule .expression, clauses]) (blameAt 1),
    stopped (all [args, lit ",", args])]

def wrongNamedArgument : Peg Rule :=
  any [atFirst (seq (keepOneOf ["True", "False", "None"]) (lit "=")),
    atFirst (all [name, lit "=", rule .expression, rule .forClauses]),
    atFirst (all [absent (seq name (lit "=")), rule .expression, lit "="])]

def strictExpression : Peg Rule :=
  strict (any [conditional, rule .disjunction, rule .lambda])

/-- Whether a node is one of the names that were once statements. -/
def isLegacyName : Node → Bool
  | .token t => t.kind == .name && (t.lexeme == "print" || t.lexeme == "exec")
  | _ => false

def wrongLegacy : Peg Rule :=
  mistake (all [name, absent (lit "("), rule .starExpressions]) fun e =>
    match e.nodes with
    | n :: _ => if isLegacyName n then some n.line else none
    | [] => none

def wrongExpression : Peg Rule :=
  let softName := any [soft "_", soft "case", soft "match"]
  any [
    mistake (all [absent (any [seq name (mark .text), softName]), rule .disjunction,
        rule .strictExpression]) (fun e =>
      match e.nodes with
      | n :: _ => if isLegacyName n || e.depth == 0 then none else some n.line
      | [] => none),
    atFirst (all [rule .disjunction, lit "if", rule .disjunction,
      absent (oneOf ["else", ":"])])]

def wrongNamedExpression : Peg Rule :=
  let closed := any [rule .listDisplay, rule .tupleDisplay, rule .generator,
    oneOf ["True", "None", "False"]]
  let alone := absent (oneOf ["=", ":="])
  any [atFirst (all [rule .expression, lit ":=", rule .expression]),
    atFirst (all [name, lit "=", rule .bitwiseOr, alone]),
    atFirst (all [absent closed, rule .bitwiseOr, lit "=", rule .bitwiseOr, alone])]

/-! ## Assignments -/

def wrongAnnotated : Peg Rule :=
  any [rule .listDisplay, rule .tupleDisplay, all [lit "(", rule .wrongAnnotated, lit ")"]]

def wrongAssignment : Peg Rule :=
  let targets := hidden (many (seq (rule .starTargets) (lit "=")))
  any [atFirst (all [rule .wrongAnnotated, lit ":", rule .expression]),
    atFirst (all [rule .starNamedExpression, lit ",",
      many (seq (rule .starNamedExpression) (option (lit ","))), lit ":", rule .expression]),
    atFirst (all [rule .expression, lit ":", rule .expression]),
    badTarget .assignment (all [targets, rule .starExpressions, lit "="]),
    atEnd (all [targets, rule .yieldExpression, lit "="]),
    atFirst (all [rule .starExpressions, oneOf augmentedSigns, rule .assignedValue])]

def wrongDelete : Peg Rule :=
  badTarget .deletion (seq (lit "del") (rule .starExpressions))

def wrongBlock : Peg Rule := stopped (seq newline (absent (mark .indent)))

def wrongWithItem : Peg Rule :=
  badTarget .assignment (all [rule .expression, lit "as", rule .expression,
    ahead (oneOf [",", ")", ":"])])

def wrongForTarget : Peg Rule :=
  badTarget .loop (all [option (lit "async"), lit "for", rule .starExpressions])

/-! ## Displays -/

def wrongComprehension : Peg Rule :=
  let clauses := rule .forClauses
  any [atFirst (all [oneOf ["[", "(", "\x7b"], rule .starredExpression, clauses]),
    atFirst (all [oneOf ["[", "\x7b"], rule .starNamedExpression, lit ",",
      rule .starNamedExpressions, clauses]),
    atFirst (all [oneOf ["[", "\x7b"], rule .starNamedExpression, lit ",", clauses])]

def wrongDictComprehension : Peg Rule :=
  atFirst (all [lit "\x7b", keep "**", rule .bitwiseOr, rule .forClauses, lit "\x7d"])

def wrongGroup : Peg Rule :=
  any [atFirst (all [lit "(", rule .starredExpression, lit ")"]),
    atFirst (all [lit "(", keep "**", rule .expression, lit ")"])]

def wrongDictItems : Peg Rule :=
  any [all [sepBy1 (rule .dictItem) ",", lit ",", rule .wrongPair],
    mistake (all [rule .expression, lit ":", keep "*", rule .bitwiseOr]) (blameAt 1),
    mistake (all [rule .expression, keep ":", ahead (oneOf ["\x7d", ","])]) (blameAt 1)]

def wrongPair : Peg Rule :=
  any [atFirst (seq (rule .expression) (absent (lit ":"))),
    mistake (all [rule .expression, lit ":", keep "*", rule .bitwiseOr]) (blameAt 1),
    mistake (all [rule .expression, keep ":", ahead (oneOf ["\x7d", ","])]) (blameAt 1)]

/-! ## Parameters -/

/-- Mistakes in the order of parameters. -/
def wrongOrder (bare barred plain defaulted any' : Rule) : Peg Rule :=
  let either := any [rule bare, rule barred]
  let some' := any [lit ",", rule plain]
  any [
    atEnd (all [many (rule plain), any [rule barred, many1 (rule defaulted)], rule plain]),
    atToken "(" (all [many (rule plain), keep "(", many1 (rule plain), option (lit ","),
      lit ")"]),
    atFirst (seq (keep "/") (lit ",")),
    atEnd (all [either, many (rule any'), keep "/"]),
    atEnd (all [option either, many (rule any'), lit "*", some', many (rule any'), keep "/"]),
    atEnd (all [many1 (rule any'), lit "/", keep "*"])]

def wrongParameters : Peg Rule :=
  wrongOrder .slashPlain .slashDefaulted .plainParameter .defaultedParameter .anyParameter

def wrongLambdaParameters : Peg Rule :=
  wrongOrder .lambdaSlashPlain .lambdaSlashDefaulted .lambdaPlainParameter
    .lambdaDefaultedParameter .lambdaAnyParameter

def wrongDefault (close : String) : Peg Rule :=
  atFirst (seq (keep "=") (ahead (oneOf [close, ","])))

/-- Mistakes behind the star. -/
def wrongStar (close : String) (parameter : Peg Rule) (plain any' : Rule) : Peg Rule :=
  let some' := any [rule plain, lit ","]
  any [
    atFirst (seq (keep "*") (any [lit close, seq (lit ",") (oneOf [close, "**"])])),
    atEnd (all [lit "*", parameter, keep "="]),
    atToken "*" (all [lit "*", some', many (rule any'), keep "*", some'])]

def wrongStarParameters : Peg Rule :=
  wrongStar ")" (hidden (rule .parameter)) .plainParameter .anyParameter

def wrongLambdaStar : Peg Rule :=
  wrongStar ":" (hidden name) .lambdaPlainParameter .lambdaAnyParameter

/-- Mistakes behind the double star. -/
def wrongKeywords (parameter : Peg Rule) : Peg Rule :=
  any [atEnd (all [lit "**", parameter, keep "="]),
    atEnd (all [lit "**", parameter, lit ",", parameter]),
    atEnd (all [lit "**", parameter, lit ",", keepOneOf ["*", "**", "/"]])]

def wrongDoubleStar : Peg Rule := wrongKeywords (hidden (rule .parameter))

def wrongLambdaDoubleStar : Peg Rule := wrongKeywords (hidden name)

/-! ## Statements -/

def wrongImportTargets : Peg Rule :=
  stopped (all [sepBy1 (rule .importedName) ",", lit ",", newline])

/-- A head of a compound statement without its colon, or without its block. -/
def wrongHead (head : Peg Rule) : Peg Rule :=
  any [stopped (seq head newline), stopped (seq head noBlock)]

def wrongWith : Peg Rule :=
  let asTarget := option (seq (lit "as") (rule .starTarget))
  let head := seq (option (lit "async")) (lit "with")
  any [stopped (all [head, sepBy1 (seq (rule .expression) asTarget) ",", newline]),
    stopped (all [head, lit "(", listOf (seq (rule .expressions) asTarget), lit ")", newline])]

def wrongWithIndent : Peg Rule :=
  let asTarget := option (seq (lit "as") (rule .starTarget))
  let head := seq (option (lit "async")) (lit "with")
  any [stopped (all [head, sepBy1 (seq (rule .expression) asTarget) ",", noBlock]),
    stopped (all [head, lit "(", listOf (seq (rule .expressions) asTarget), lit ")", noBlock])]

def wrongTry : Peg Rule :=
  let head := seq (lit "try") (lit ":")
  any [stopped (seq (lit "try") noBlock),
    stopped (all [head, rule .block, absent (oneOf ["except", "finally"])]),
    stopped (all [head, many (rule .block),
      any [seq (many1 (rule .exceptBlock)) (rule .exceptStarBlock),
        seq (many1 (rule .exceptStarBlock)) (rule .exceptBlock)],
      many (rule .block)])]

def wrongExcept : Peg Rule :=
  let named := option (seq (lit "as") name)
  let head := seq (lit "except") (option (lit "*"))
  any [atFirst (all [head, rule .expression, lit ",", rule .expressions, named, lit ":"]),
    stopped (all [head, rule .expression, named, newline]),
    stopped (seq (lit "except") newline),
    stopped (all [lit "except", lit "*", any [newline, lit ":"]])]

def wrongFinally : Peg Rule := stopped (seq (lit "finally") noBlock)

def wrongExceptIndent : Peg Rule :=
  any [stopped (all [lit "except", rule .expression, option (seq (lit "as") name), noBlock]),
    stopped (seq (lit "except") noBlock)]

def wrongExceptStarIndent : Peg Rule :=
  stopped (all [lit "except", lit "*", rule .expression, option (seq (lit "as") name), noBlock])

def wrongMatch : Peg Rule := wrongHead (seq (soft "match") (rule .subject))

def wrongCase : Peg Rule :=
  wrongHead (all [soft "case", rule .patterns, option (rule .guard)])

def wrongAsPattern : Peg Rule :=
  any [atToken "_" (all [rule .orPattern, lit "as", ahead (soft "_"), name]),
    atEnd (all [rule .orPattern, lit "as", absent name, rule .expression])]

def wrongClassPattern : Peg Rule :=
  atEnd (all [rule .nameOrDotted, lit "(",
    option (seq (rule .positionalPatterns) (lit ",")), rule .keywordPatterns, lit ",",
    hidden (rule .positionalPatterns)])

def wrongIf : Peg Rule := wrongHead (seq (lit "if") (rule .namedExpression))

def wrongElif : Peg Rule := wrongHead (seq (lit "elif") (rule .namedExpression))

def wrongElse : Peg Rule := stopped (seq (lit "else") noBlock)

def wrongWhile : Peg Rule := wrongHead (seq (lit "while") (rule .namedExpression))

def wrongFor : Peg Rule :=
  stopped (all [option (lit "async"), lit "for", rule .starTargets, lit "in",
    rule .starExpressions, noBlock])

def wrongFunction : Peg Rule :=
  stopped (all [option (lit "async"), lit "def", name, lit "(", option (rule .parameters),
    lit ")", option (seq (lit "->") (rule .expression)), noBlock])

def wrongClass : Peg Rule :=
  wrongHead (all [lit "class", name, bases])

end Overdue.Source.Grammar
