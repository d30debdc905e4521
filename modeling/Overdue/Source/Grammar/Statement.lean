import Overdue.Source.Grammar.Expression

/-!
# Statements and patterns

The rules for files, statements, definitions and the patterns of case blocks.
-/
namespace Overdue.Source.Grammar

open Peg

def newline : Peg Rule := mark .newline

def file : Peg Rule := seq (option (rule .statements)) (mark .finish)

def simpleStatements : Peg Rule :=
  any [all [rule .simpleStatement, absent (lit ";"), newline],
    all [sepBy1 (rule .simpleStatement) ";", option (lit ";"), newline]]

def simpleStatement : Peg Rule :=
  any [rule .assignment,
    rule .starExpressions,
    seq (ahead (lit "return")) (rule .returnStatement),
    rule .importName,
    rule .importFrom,
    seq (ahead (lit "raise")) (rule .raiseStatement),
    lit "pass",
    seq (ahead (lit "del")) (rule .deleteStatement),
    seq (ahead (lit "yield")) (rule .yieldExpression),
    seq (ahead (lit "assert")) (rule .assertStatement),
    lit "break",
    lit "continue",
    seq (ahead (lit "global")) (rule .globalStatement),
    seq (ahead (lit "nonlocal")) (rule .nonlocalStatement)]

def compoundStatement : Peg Rule :=
  any [seq (ahead (oneOf ["def", "@", "async"])) (rule .functionDefinition),
    seq (ahead (lit "if")) (rule .ifStatement),
    seq (ahead (oneOf ["class", "@"])) (rule .classDefinition),
    seq (ahead (oneOf ["with", "async"])) (rule .withStatement),
    seq (ahead (oneOf ["for", "async"])) (rule .forStatement),
    seq (ahead (lit "try")) (rule .tryStatement),
    seq (ahead (lit "while")) (rule .whileStatement),
    rule .matchStatement]

def augmentedSigns : List String :=
  ["+=", "-=", "*=", "@=", "/=", "%=", "&=", "|=", "^=", "<<=", ">>=", "**=", "//="]

def assignedValue : Peg Rule := any [rule .yieldExpression, rule .starExpressions]

def assignment : Peg Rule :=
  let typed := option (seq (lit "=") (rule .assignedValue))
  any [node .other (all [name, lit ":", rule .expression, typed]),
    node .other (all [
      any [all [lit "(", rule .singleTarget, lit ")"], rule .singleSubscriptAttribute],
      lit ":", rule .expression, typed]),
    node .other (all [many1 (seq (rule .starTargets) (lit "=")), rule .assignedValue,
      absent (lit "=")]),
    node .other (commit (seq (rule .singleTarget) (oneOf augmentedSigns)) (rule .assignedValue)),
    rule .wrongAssignment]

def returnStatement : Peg Rule :=
  node .other (seq (lit "return") (option (rule .starExpressions)))

def raiseStatement : Peg Rule :=
  any [node .other (all [lit "raise", rule .expression,
      option (seq (lit "from") (rule .expression))]),
    lit "raise"]

def deleteStatement : Peg Rule :=
  any [node .other (all [lit "del", rule .deleteTargets,
      ahead (any [lit ";", newline])]),
    rule .wrongDelete]

def assertStatement : Peg Rule :=
  node .other (all [lit "assert", rule .expression, option (comma (rule .expression))])

def importName : Peg Rule :=
  node .other (seq (lit "import") (sepBy1 (rule .dottedAsName) ","))

def importFrom : Peg Rule :=
  let dots := oneOf [".", "..."]
  any [node .other (all [lit "from", many dots, rule .dottedName, lit "import",
      rule .importTargets]),
    node .other (all [lit "from", many1 dots, lit "import", rule .importTargets])]

def importTargets : Peg Rule :=
  any [all [lit "(", listOf (rule .importedName), lit ")"],
    seq (sepBy1 (rule .importedName) ",") (absent (lit ",")),
    lit "*",
    rule .wrongImportTargets]

def importedName : Peg Rule := seq name (option (seq (lit "as") name))

def dottedAsName : Peg Rule := seq (rule .dottedName) (option (seq (lit "as") name))

def block : Peg Rule :=
  any [node .block (all [newline, mark .indent, rule .statements, mark .dedent]),
    node .block (rule .simpleStatements),
    rule .wrongBlock]

/-! ## Definitions -/

def decorators : Peg Rule :=
  node .decorators (many1 (all [lit "@", rule .namedExpression, newline]))

def classDefinition : Peg Rule :=
  any [node .decorated (seq (rule .decorators) (rule .classBody)), rule .classBody]

def bases : Peg Rule :=
  option (node .arguments (all [lit "(", option (rule .arguments), lit ")"]))

def classBody : Peg Rule :=
  any [rule .wrongClass,
    node .classDefinition (all [lit "class", name, bases, lit ":", rule .block])]

def functionDefinition : Peg Rule :=
  any [node .decorated (seq (rule .decorators) (rule .functionBody)), rule .functionBody]

def returnsClause : Peg Rule :=
  option (node .returns (seq (lit "->") (rule .expression)))

def functionBody : Peg Rule :=
  let body := all [lit "def", name, need "(", option (rule .parameters), lit ")", returnsClause,
    need ":", rule .block]
  any [rule .wrongFunction, node .function body, node .function (seq (lit "async") body)]

def parameters : Peg Rule :=
  any [rule .wrongParameters, node .parameters (rule .parameterList)]

def parameterList : Peg Rule :=
  parameterOrders .slashPlain .slashDefaulted .plainParameter .defaultedParameter .starParameters

def starParameters : Peg Rule :=
  let tail := seq (many (rule .anyParameter)) (option (rule .doubleStarParameter))
  any [rule .wrongStarParameters,
    node .starParameters (all [lit "*", node .starParameter (rule .plainParameter), tail]),
    node .starParameters (all [lit "*", node .starParameter (rule .starAnnotated), tail]),
    node .starParameters (all [lit "*", lit ",", many1 (rule .anyParameter),
      option (rule .doubleStarParameter)]),
    node .starParameters (rule .doubleStarParameter)]

def doubleStarParameter : Peg Rule :=
  any [rule .wrongDoubleStar,
    node .doubleStarParameter (seq (lit "**") (rule .plainParameter))]

def plainParameter : Peg Rule := seq (node .parameter (rule .parameter)) (parameterEnd ")")

def starAnnotated : Peg Rule :=
  seq (node .parameter (seq name (node .typeHint (seq (lit ":") (rule .starExpression)))))
    (parameterEnd ")")

def defaultedParameter : Peg Rule :=
  seq (node .parameter (seq (rule .parameter) (rule .defaultValue))) (parameterEnd ")")

def anyParameter : Peg Rule :=
  seq (node .parameter (seq (rule .parameter) (option (rule .defaultValue)))) (parameterEnd ")")

def parameter : Peg Rule :=
  seq name (option (node .typeHint (seq (lit ":") (rule .expression))))

def defaultValue : Peg Rule :=
  any [node .defaultValue (seq (lit "=") (rule .expression)), rule .wrongDefault]

/-! ## Compound statements -/

def ifStatement : Peg Rule :=
  let head := all [lit "if", rule .namedExpression, lit ":", rule .block]
  any [rule .wrongIf, node .other (seq head (rule .elifStatement)),
    node .other (seq head (option (rule .elseBlock)))]

def elifStatement : Peg Rule :=
  let head := all [lit "elif", rule .namedExpression, lit ":", rule .block]
  any [rule .wrongElif, node .other (seq head (rule .elifStatement)),
    node .other (seq head (option (rule .elseBlock)))]

def elseBlock : Peg Rule := any [rule .wrongElse, all [lit "else", need ":", rule .block]]

def whileStatement : Peg Rule :=
  any [rule .wrongWhile,
    node .other (all [lit "while", rule .namedExpression, lit ":", rule .block,
      option (rule .elseBlock)])]

def forStatement : Peg Rule :=
  let tail := all [rule .starExpressions, need ":", rule .block, option (rule .elseBlock)]
  let head := all [lit "for", rule .starTargets, lit "in"]
  any [rule .wrongFor, node .other (commit head tail),
    node .other (commit (seq (lit "async") head) tail), rule .wrongForTarget]

def withStatement : Peg Rule :=
  let bracketed := all [lit "with", lit "(", listOf (rule .withItem), lit ")", lit ":",
    rule .block]
  let plain := all [lit "with", sepBy1 (rule .withItem) ",", lit ":", rule .block]
  any [rule .wrongWithIndent, node .other bracketed, node .other plain,
    node .other (seq (lit "async") bracketed), node .other (seq (lit "async") plain),
    rule .wrongWith]

def withItem : Peg Rule :=
  any [all [rule .expression, lit "as", rule .starTarget, ahead (oneOf [",", ")", ":"])],
    rule .wrongWithItem, rule .expression]

def tryStatement : Peg Rule :=
  let head := all [lit "try", need ":", rule .block]
  let tail := seq (option (rule .elseBlock)) (option (rule .finallyBlock))
  any [rule .wrongTry, node .other (seq head (rule .finallyBlock)),
    node .other (all [head, many1 (rule .exceptBlock), tail]),
    node .other (all [head, many1 (rule .exceptStarBlock), tail])]

def exceptBlock : Peg Rule :=
  any [rule .wrongExceptIndent,
    node .other (all [lit "except", rule .expression, option (seq (lit "as") name), lit ":",
      rule .block]),
    node .other (all [lit "except", lit ":", rule .block]),
    rule .wrongExcept]

def exceptStarBlock : Peg Rule :=
  any [rule .wrongExceptStarIndent,
    node .other (all [lit "except", lit "*", rule .expression, option (seq (lit "as") name),
      lit ":", rule .block]),
    rule .wrongExcept]

def finallyBlock : Peg Rule :=
  any [rule .wrongFinally, all [lit "finally", need ":", rule .block]]

def matchStatement : Peg Rule :=
  any [node .other (all [soft "match", rule .subject, lit ":", newline, mark .indent,
      many1 (rule .caseBlock), mark .dedent]),
    rule .wrongMatch]

def subject : Peg Rule :=
  any [node .tuple (all [rule .starNamedExpression, lit ",",
      option (rule .starNamedExpressions)]),
    rule .namedExpression]

def caseBlock : Peg Rule :=
  any [rule .wrongCase,
    node .other (all [soft "case", rule .patterns, option (rule .guard), lit ":",
      rule .block])]

def guard : Peg Rule := seq (lit "if") (rule .namedExpression)

/-! ## Patterns -/

def patterns : Peg Rule := any [node .other (rule .openSequencePattern), rule .pattern]

def pattern : Peg Rule := any [rule .asPattern, rule .orPattern]

def asPattern : Peg Rule :=
  any [node .other (all [rule .orPattern, lit "as", rule .captureTarget]), rule .wrongAsPattern]

def orPattern : Peg Rule := node .other (sepBy1 (rule .closedPattern) "|")

def closedPattern : Peg Rule :=
  any [rule .literalPattern,
    rule .captureTarget,
    soft "_",
    seq (rule .dottedPattern) (absent (oneOf [".", "(", "="])),
    all [lit "(", rule .pattern, lit ")"],
    rule .sequencePattern,
    rule .mappingPattern,
    rule .classPattern]

/-- A number, a text or a constant; `number` says what may stand for a plain number. -/
def literalWith (signed : Peg Rule) : Peg Rule :=
  any [seq signed (absent (oneOf ["+", "-"])), rule .complexNumber, texts,
    keepOneOf ["None", "True", "False"]]

def literalPattern : Peg Rule := literalWith (rule .signedNumber)

def signedNumber : Peg Rule := any [number, node .other (seq (lit "-") number)]

/-- Whether a node is an imaginary number. -/
def isImaginary : Node → Bool
  | .literal _ (.complex ..) => true
  | _ => false

/-- The parts of a complex number, which have to be one real and one imaginary number. -/
def complexNumber : Peg Rule :=
  let part (ok : Node → Bool) := insist number fun e =>
    (e.nodes.find? fun n => !ok n).map Node.line
  node .other (all [option (lit "-"), part fun n => !isImaginary n, oneOf ["+", "-"],
    part isImaginary])

def captureTarget : Peg Rule :=
  all [absent (soft "_"), name, absent (oneOf [".", "(", "="])]

def dottedPattern : Peg Rule :=
  node .other (seq name (many1 (seq (lit ".") name)))

def nameOrDotted : Peg Rule := any [rule .dottedPattern, name]

def sequencePattern : Peg Rule :=
  any [node .other (all [lit "[", option (rule .itemPatterns), lit "]"]),
    node .other (all [lit "(", option (rule .openSequencePattern), lit ")"])]

def openSequencePattern : Peg Rule :=
  all [rule .itemPattern, lit ",", option (rule .itemPatterns)]

def itemPatterns : Peg Rule := listOf (rule .itemPattern)

def itemPattern : Peg Rule := any [rule .starPattern, rule .pattern]

def starPattern : Peg Rule :=
  any [seq (lit "*") (rule .captureTarget), seq (lit "*") (soft "_")]

def mappingPattern : Peg Rule :=
  let close := seq (option (lit ",")) (lit "\x7d")
  any [seq (lit "\x7b") (lit "\x7d"),
    node .mappingPattern (all [lit "\x7b", rule .restPattern, close]),
    node .mappingPattern (all [lit "\x7b", rule .keyPatterns, lit ",", rule .restPattern, close]),
    node .mappingPattern (all [lit "\x7b", rule .keyPatterns, close])]

def keyPatterns : Peg Rule := sepBy1 (rule .keyPattern) ","

def keyPattern : Peg Rule :=
  node .pair (all [any [rule .literalKey, rule .dottedPattern], lit ":", rule .pattern])

def restPattern : Peg Rule := seq (lit "**") (rule .captureTarget)

def classPattern : Peg Rule :=
  let close := seq (option (lit ",")) (lit ")")
  let head := seq (rule .nameOrDotted) (lit "(")
  any [node .other (seq head (lit ")")),
    node .other (all [head, rule .positionalPatterns, close]),
    node .other (all [head, rule .keywordPatterns, close]),
    node .other (all [head, rule .positionalPatterns, lit ",", rule .keywordPatterns, close]),
    rule .wrongClassPattern]

def positionalPatterns : Peg Rule := sepBy1 (rule .pattern) ","

def keywordPatterns : Peg Rule :=
  sepBy1 (node .other (all [name, lit "=", rule .pattern])) ","

end Overdue.Source.Grammar
