import Overdue.Source.Rule

/-!
# Expressions and targets

The rules for expressions, for what may stand on the left of an assignment, and for what may be
deleted.
-/
namespace Overdue.Source.Grammar

open Peg

/-- One operator level that groups to the left. -/
def leftOperators (operand : Rule) (ops : List String) : Peg Rule :=
  chain (rule operand) (node .other (seq (oneOf ops) (rule operand)))

def comma (a : Peg Rule) : Peg Rule := seq (lit ",") a

/-- A tuple without brackets: two or more items, or one and a comma; else the item itself. -/
def openTuple (item : Peg Rule) : Peg Rule :=
  any [node .tuple (all [item, many1 (comma item), option (lit ",")]),
    node .tuple (seq item (lit ",")),
    item]

def expressions : Peg Rule := openTuple (rule .expression)

def conditional : Peg Rule :=
  node .conditional (all [rule .disjunction, lit "if", rule .disjunction, lit "else",
    rule .expression])

def expression : Peg Rule :=
  any [rule .wrongExpression, rule .wrongLegacy, conditional, rule .disjunction, rule .lambda]

def yieldExpression : Peg Rule :=
  any [node .other (all [lit "yield", lit "from", rule .expression]),
    node .other (seq (lit "yield") (option (rule .starExpressions)))]

def starExpressions : Peg Rule := openTuple (rule .starExpression)

def starExpression : Peg Rule :=
  any [node .starred (seq (lit "*") (rule .bitwiseOr)), rule .expression]

def starNamedExpressions : Peg Rule := listOf (rule .starNamedExpression)

def starNamedExpression : Peg Rule :=
  any [node .starred (seq (lit "*") (rule .bitwiseOr)), rule .namedExpression]

def assignmentExpression : Peg Rule :=
  node .other (commit (seq name (lit ":=")) (rule .expression))

def namedExpression : Peg Rule :=
  any [rule .assignmentExpression, rule .wrongNamedExpression,
    seq (rule .expression) (absent (lit ":="))]

/-- One operator whose operands are all parts of one expression. -/
def flatOperator (operand : Rule) (op : String) : Peg Rule :=
  any [node .other (seq (rule operand) (many1 (seq (lit op) (rule operand)))), rule operand]

def disjunction : Peg Rule := flatOperator .conjunction "or"

def conjunction : Peg Rule := flatOperator .inversion "and"

def inversion : Peg Rule :=
  any [node .other (seq (lit "not") (rule .inversion)), rule .comparison]

def comparisonOperator : Peg Rule :=
  any [keepOneOf ["==", "!=", "<=", "<", ">=", ">"], seq (keep "not") (lit "in"), keep "in",
    seq (keep "is") (lit "not"), keep "is"]

def comparison : Peg Rule :=
  any [node .comparison
      (seq (rule .bitwiseOr) (many1 (seq comparisonOperator (rule .bitwiseOr)))),
    rule .bitwiseOr]

def sum : Peg Rule :=
  chain (rule .term) (node .binary (seq (keepOneOf ["+", "-"]) (rule .term)))

def factor : Peg Rule :=
  any [node .unary (seq (keepOneOf ["+", "-", "~"]) (rule .factor)), rule .power]

def power : Peg Rule :=
  any [node .other (all [rule .awaitPrimary, lit "**", rule .factor]), rule .awaitPrimary]

def awaitPrimary : Peg Rule :=
  any [node .other (seq (lit "await") (rule .primary)), rule .primary]

def attributeStep : Peg Rule := node .attribute (seq (lit ".") name)

def subscriptStep : Peg Rule := node .subscript (all [lit "[", rule .slices, lit "]"])

def callStep : Peg Rule :=
  node .call (all [lit "(", option (rule .arguments), lit ")"])

def generatorStep : Peg Rule := node .call (rule .generator)

def primary : Peg Rule :=
  chain (rule .atom) (any [attributeStep, generatorStep, callStep, subscriptStep])

def slices : Peg Rule :=
  any [seq (rule .slice) (absent (lit ",")),
    node .tuple (listOf (any [rule .slice, rule .starredExpression]))]

def slice : Peg Rule :=
  let part := option (rule .expression)
  any [node .other (all [part, lit ":", part, option (seq (lit ":") part)]),
    rule .namedExpression]

def atom : Peg Rule :=
  any [name, keepOneOf ["True", "False", "None"], texts, number,
    seq (ahead (lit "(")) (any [rule .tupleDisplay, rule .group, rule .generator]),
    seq (ahead (lit "[")) (any [rule .listDisplay, rule .listComprehension]),
    seq (ahead (lit "\x7b")) (any [rule .dictDisplay, rule .setDisplay, rule .dictComprehension,
      rule .setComprehension]),
    keep "..."]

def group : Peg Rule :=
  any [all [lit "(", any [rule .yieldExpression, rule .namedExpression], lit ")"],
    rule .wrongGroup]

/-! ## Parameters of lambdas -/

def lambda : Peg Rule :=
  node .lambda (all [lit "lambda", option (rule .lambdaParameters), need ":",
    rule .expression])

def lambdaParameters : Peg Rule :=
  any [rule .wrongLambdaParameters, node .parameters (rule .lambdaParameterList)]

/-- The orders that parameters may come in: plain ones, those with a default, and those behind a
star. -/
def parameterOrders (bare barred plain defaulted star : Rule) : Peg Rule :=
  let tail := option (rule star)
  any [all [rule bare, many (rule plain), many (rule defaulted), tail],
    all [rule barred, many (rule defaulted), tail],
    all [many1 (rule plain), many (rule defaulted), tail],
    all [many1 (rule defaulted), tail],
    rule star]

def lambdaParameterList : Peg Rule :=
  parameterOrders .lambdaSlashPlain .lambdaSlashDefaulted .lambdaPlainParameter
    .lambdaDefaultedParameter .lambdaStarParameters

/-- A comma, or the end of the parameters without one. -/
def parameterEnd (close : String) : Peg Rule := any [lit ",", ahead (lit close)]

def slashPlain (plain : Rule) (close : String) : Peg Rule :=
  all [many1 (rule plain), lit "/", parameterEnd close]

def slashDefaulted (plain defaulted : Rule) (close : String) : Peg Rule :=
  all [many (rule plain), many1 (rule defaulted), lit "/", parameterEnd close]

def lambdaStarParameters : Peg Rule :=
  let kwds := option (rule .lambdaDoubleStarParameter)
  any [rule .wrongLambdaStar,
    node .starParameters (all [lit "*", node .starParameter (rule .lambdaPlainParameter),
      many (rule .lambdaAnyParameter), kwds]),
    node .starParameters (all [lit "*", lit ",", many1 (rule .lambdaAnyParameter), kwds]),
    node .starParameters (rule .lambdaDoubleStarParameter)]

def lambdaDoubleStarParameter : Peg Rule :=
  any [rule .wrongLambdaDoubleStar,
    node .doubleStarParameter (seq (lit "**") (rule .lambdaPlainParameter))]

def lambdaPlainParameter : Peg Rule := seq (node .parameter name) (parameterEnd ":")

def lambdaDefaultedParameter : Peg Rule :=
  seq (node .parameter (seq name (rule .defaultValue))) (parameterEnd ":")

def lambdaAnyParameter : Peg Rule :=
  seq (node .parameter (seq name (option (rule .defaultValue)))) (parameterEnd ":")

/-! ## Displays and comprehensions -/

def listDisplay : Peg Rule :=
  node .list (all [lit "[", option (rule .starNamedExpressions), lit "]"])

def tupleDisplay : Peg Rule :=
  node .tuple (all [lit "(",
    option (all [rule .starNamedExpression, lit ",", option (rule .starNamedExpressions)]),
    lit ")"])

def setDisplay : Peg Rule :=
  node .set (all [lit "\x7b", rule .starNamedExpressions, lit "\x7d"])

def dictDisplay : Peg Rule :=
  any [node .dict (all [lit "\x7b", option (listOf (rule .dictItem)), lit "\x7d"]),
    all [lit "\x7b", rule .wrongDictItems, lit "\x7d"]]

def dictItem : Peg Rule :=
  any [node .unpackedMapping (seq (lit "**") (rule .bitwiseOr)), rule .pair]

def pair : Peg Rule := node .pair (all [rule .expression, lit ":", rule .expression])

def forClause : Peg Rule :=
  let tail := seq (rule .disjunction) (many (seq (lit "if") (rule .disjunction)))
  any [node .comprehension
      (commit (all [lit "async", lit "for", rule .starTargets, lit "in"]) tail),
    node .comprehension (commit (all [lit "for", rule .starTargets, lit "in"]) tail),
    rule .wrongForTarget]

def listComprehension : Peg Rule :=
  any [node .other (all [lit "[", rule .namedExpression, rule .forClauses, lit "]"]),
    rule .wrongComprehension]

def setComprehension : Peg Rule :=
  any [node .other (all [lit "\x7b", rule .namedExpression, rule .forClauses, lit "\x7d"]),
    rule .wrongComprehension]

def plainExpression : Peg Rule :=
  any [rule .assignmentExpression, seq (rule .expression) (absent (lit ":="))]

def generator : Peg Rule :=
  any [node .generator (all [lit "(", plainExpression, rule .forClauses, lit ")"]),
    rule .wrongComprehension]

def dictComprehension : Peg Rule :=
  any [node .other (all [lit "\x7b", all [rule .expression, lit ":", rule .expression],
      rule .forClauses, lit "\x7d"]),
    rule .wrongDictComprehension]

/-! ## Arguments -/

def arguments : Peg Rule :=
  any [all [rule .argumentList, option (lit ","), ahead (lit ")")], rule .wrongArguments]

def argumentList : Peg Rule :=
  let positional := any [rule .starredExpression, seq plainExpression (absent (lit "="))]
  any [seq (sepBy1 positional ",") (option (comma (rule .namedArguments))),
    rule .namedArguments]

def namedArguments : Peg Rule :=
  any [all [sepBy1 (rule .starredOrNamed) ",", lit ",", sepBy1 (rule .unpackedOrNamed) ","],
    sepBy1 (rule .starredOrNamed) ",",
    sepBy1 (rule .unpackedOrNamed) ","]

def starredExpression : Peg Rule := node .starred (seq (lit "*") (rule .expression))

def namedArgument : Peg Rule := node .namedArgument (all [name, lit "=", rule .expression])

def starredOrNamed : Peg Rule :=
  any [rule .wrongNamedArgument, namedArgument, rule .starredExpression]

def unpackedOrNamed : Peg Rule :=
  any [rule .wrongNamedArgument, namedArgument,
    node .unpackedMapping (seq (lit "**") (rule .expression))]

/-! ## Targets -/

/-- What may follow a part of a target for the target to go on. -/
def targetGoesOn : Peg Rule := oneOf ["(", "[", "."]

def targetPrimary : Peg Rule :=
  let goesOn := ahead targetGoesOn
  chain (seq (rule .atom) goesOn)
    (any [seq attributeStep goesOn, seq subscriptStep goesOn, seq generatorStep goesOn,
      seq callStep goesOn])

/-- An attribute or an item as target. -/
def partTarget : Peg Rule :=
  let ends := absent targetGoesOn
  any [node .attribute (all [rule .targetPrimary, lit ".", name, ends]),
    node .subscript (all [rule .targetPrimary, lit "[", rule .slices, lit "]", ends])]

def starTargets : Peg Rule :=
  any [seq (rule .starTarget) (absent (lit ",")),
    node .tuple (all [rule .starTarget, many (comma (rule .starTarget)), option (lit ",")])]

def starTargetsTuple : Peg Rule :=
  any [all [rule .starTarget, many1 (comma (rule .starTarget)), option (lit ",")],
    seq (rule .starTarget) (lit ",")]

def starTarget : Peg Rule :=
  any [node .starred (all [lit "*", absent (lit "*"), rule .starTarget]),
    rule .targetWithStarAtom]

def targetWithStarAtom : Peg Rule := any [partTarget, rule .starAtom]

def starAtom : Peg Rule :=
  any [name, all [lit "(", rule .targetWithStarAtom, lit ")"],
    node .tuple (all [lit "(", option (rule .starTargetsTuple), lit ")"]),
    node .list (all [lit "[", option (listOf (rule .starTarget)), lit "]"])]

def singleTarget : Peg Rule :=
  any [rule .singleSubscriptAttribute, name, all [lit "(", rule .singleTarget, lit ")"]]

def deleteTarget : Peg Rule := any [partTarget, rule .deleteAtom]

def deleteAtom : Peg Rule :=
  any [name, all [lit "(", rule .deleteTarget, lit ")"],
    node .tuple (all [lit "(", option (rule .deleteTargets), lit ")"]),
    node .list (all [lit "[", option (rule .deleteTargets), lit "]"])]

end Overdue.Source.Grammar
