import Overdue.Source.Grammar.Mistake

/-!
# The grammar of source files

`Rule.body` gives each rule its parsing expression.
-/
namespace Overdue.Source

open Grammar in
/-- The parsing expression of a rule. -/
def Rule.body : Rule → Peg Rule
  | .file => Grammar.file
  | .hole => .rule .starExpressions
  | .statements => Peg.many1 (.rule .statement)
  | .statement => Peg.any [.rule .compoundStatement, .rule .simpleStatements]
  | .simpleStatements => Grammar.simpleStatements
  | .simpleStatement => Grammar.simpleStatement
  | .compoundStatement => Grammar.compoundStatement
  | .assignment => Grammar.assignment
  | .assignedValue => Grammar.assignedValue
  | .returnStatement => Grammar.returnStatement
  | .raiseStatement => Grammar.raiseStatement
  | .globalStatement => .seq (.lit "global") (Peg.sepBy1 .name ",")
  | .nonlocalStatement => .seq (.lit "nonlocal") (Peg.sepBy1 .name ",")
  | .deleteStatement => Grammar.deleteStatement
  | .assertStatement => Grammar.assertStatement
  | .importName => Grammar.importName
  | .importFrom => Grammar.importFrom
  | .importTargets => Grammar.importTargets
  | .importedName => Grammar.importedName
  | .dottedAsName => Grammar.dottedAsName
  | .dottedName => Peg.sepBy1 .name "."
  | .block => Grammar.block
  | .decorators => Grammar.decorators
  | .classDefinition => Grammar.classDefinition
  | .classBody => Grammar.classBody
  | .functionDefinition => Grammar.functionDefinition
  | .functionBody => Grammar.functionBody
  | .parameters => Grammar.parameters
  | .parameterList => Grammar.parameterList
  | .slashPlain => Grammar.slashPlain .plainParameter ")"
  | .slashDefaulted => Grammar.slashDefaulted .plainParameter .defaultedParameter ")"
  | .starParameters => Grammar.starParameters
  | .doubleStarParameter => Grammar.doubleStarParameter
  | .plainParameter => Grammar.plainParameter
  | .starAnnotated => Grammar.starAnnotated
  | .defaultedParameter => Grammar.defaultedParameter
  | .anyParameter => Grammar.anyParameter
  | .parameter => Grammar.parameter
  | .defaultValue => Grammar.defaultValue
  | .ifStatement => Grammar.ifStatement
  | .elifStatement => Grammar.elifStatement
  | .elseBlock => Grammar.elseBlock
  | .whileStatement => Grammar.whileStatement
  | .forStatement => Grammar.forStatement
  | .withStatement => Grammar.withStatement
  | .withItem => Grammar.withItem
  | .tryStatement => Grammar.tryStatement
  | .exceptBlock => Grammar.exceptBlock
  | .exceptStarBlock => Grammar.exceptStarBlock
  | .finallyBlock => Grammar.finallyBlock
  | .matchStatement => Grammar.matchStatement
  | .subject => Grammar.subject
  | .caseBlock => Grammar.caseBlock
  | .guard => Grammar.guard
  | .patterns => Grammar.patterns
  | .pattern => Grammar.pattern
  | .asPattern => Grammar.asPattern
  | .orPattern => Grammar.orPattern
  | .closedPattern => Grammar.closedPattern
  | .literalPattern => Grammar.literalPattern
  | .literalKey => Grammar.literalPattern
  | .complexNumber => Grammar.complexNumber
  | .signedNumber => Grammar.signedNumber
  | .captureTarget => Grammar.captureTarget
  | .dottedPattern => Grammar.dottedPattern
  | .nameOrDotted => Grammar.nameOrDotted
  | .sequencePattern => Grammar.sequencePattern
  | .openSequencePattern => Grammar.openSequencePattern
  | .itemPatterns => Grammar.itemPatterns
  | .itemPattern => Grammar.itemPattern
  | .starPattern => Grammar.starPattern
  | .mappingPattern => Grammar.mappingPattern
  | .keyPatterns => Grammar.keyPatterns
  | .keyPattern => Grammar.keyPattern
  | .restPattern => Grammar.restPattern
  | .classPattern => Grammar.classPattern
  | .positionalPatterns => Grammar.positionalPatterns
  | .keywordPatterns => Grammar.keywordPatterns
  | .expressions => Grammar.expressions
  | .expression => Grammar.expression
  | .yieldExpression => Grammar.yieldExpression
  | .starExpressions => Grammar.starExpressions
  | .starExpression => Grammar.starExpression
  | .starNamedExpressions => Grammar.starNamedExpressions
  | .starNamedExpression => Grammar.starNamedExpression
  | .assignmentExpression => Grammar.assignmentExpression
  | .namedExpression => Grammar.namedExpression
  | .disjunction => Grammar.disjunction
  | .conjunction => Grammar.conjunction
  | .inversion => Grammar.inversion
  | .comparison => Grammar.comparison
  | .bitwiseOr => leftOperators .bitwiseXor ["|"]
  | .bitwiseXor => leftOperators .bitwiseAnd ["^"]
  | .bitwiseAnd => leftOperators .shift ["&"]
  | .shift => leftOperators .sum ["<<", ">>"]
  | .sum => Grammar.sum
  | .term => leftOperators .factor ["*", "/", "//", "%", "@"]
  | .factor => Grammar.factor
  | .power => Grammar.power
  | .awaitPrimary => Grammar.awaitPrimary
  | .primary => Grammar.primary
  | .slices => Grammar.slices
  | .slice => Grammar.slice
  | .atom => Grammar.atom
  | .group => Grammar.group
  | .lambda => Grammar.lambda
  | .lambdaParameters => Grammar.lambdaParameters
  | .lambdaParameterList => Grammar.lambdaParameterList
  | .lambdaSlashPlain => Grammar.slashPlain .lambdaPlainParameter ":"
  | .lambdaSlashDefaulted =>
    Grammar.slashDefaulted .lambdaPlainParameter .lambdaDefaultedParameter ":"
  | .lambdaStarParameters => Grammar.lambdaStarParameters
  | .lambdaDoubleStarParameter => Grammar.lambdaDoubleStarParameter
  | .lambdaPlainParameter => Grammar.lambdaPlainParameter
  | .lambdaDefaultedParameter => Grammar.lambdaDefaultedParameter
  | .lambdaAnyParameter => Grammar.lambdaAnyParameter
  | .listDisplay => Grammar.listDisplay
  | .tupleDisplay => Grammar.tupleDisplay
  | .setDisplay => Grammar.setDisplay
  | .dictDisplay => Grammar.dictDisplay
  | .dictItem => Grammar.dictItem
  | .pair => Grammar.pair
  | .forClauses => Peg.many1 (.rule .forClause)
  | .forClause => Grammar.forClause
  | .listComprehension => Grammar.listComprehension
  | .setComprehension => Grammar.setComprehension
  | .dictComprehension => Grammar.dictComprehension
  | .generator => Grammar.generator
  | .arguments => Grammar.arguments
  | .argumentList => Grammar.argumentList
  | .namedArguments => Grammar.namedArguments
  | .starredExpression => Grammar.starredExpression
  | .starredOrNamed => Grammar.starredOrNamed
  | .unpackedOrNamed => Grammar.unpackedOrNamed
  | .starTargets => Grammar.starTargets
  | .starTarget => Grammar.starTarget
  | .starTargetsList => Peg.listOf (.rule .starTarget)
  | .starTargetsTuple => Grammar.starTargetsTuple
  | .targetWithStarAtom => Grammar.targetWithStarAtom
  | .starAtom => Grammar.starAtom
  | .singleTarget => Grammar.singleTarget
  | .singleSubscriptAttribute => Grammar.partTarget
  | .targetPrimary => Grammar.targetPrimary
  | .deleteTargets => Peg.listOf (.rule .deleteTarget)
  | .deleteTarget => Grammar.deleteTarget
  | .deleteAtom => Grammar.deleteAtom
  | .wrongArguments => Grammar.wrongArguments
  | .wrongNamedArgument => Grammar.wrongNamedArgument
  | .strictExpression => Grammar.strictExpression
  | .wrongLegacy => Grammar.wrongLegacy
  | .wrongExpression => Grammar.wrongExpression
  | .wrongNamedExpression => Grammar.wrongNamedExpression
  | .wrongAssignment => Grammar.wrongAssignment
  | .wrongAnnotated => Grammar.wrongAnnotated
  | .wrongDelete => Grammar.wrongDelete
  | .wrongBlock => Grammar.wrongBlock
  | .wrongComprehension => Grammar.wrongComprehension
  | .wrongDictComprehension => Grammar.wrongDictComprehension
  | .wrongParameters => Grammar.wrongParameters
  | .wrongDefault => Grammar.wrongDefault ")"
  | .wrongStarParameters => Grammar.wrongStarParameters
  | .wrongDoubleStar => Grammar.wrongDoubleStar
  | .wrongLambdaParameters => Grammar.wrongLambdaParameters
  | .wrongLambdaStar => Grammar.wrongLambdaStar
  | .wrongLambdaDoubleStar => Grammar.wrongLambdaDoubleStar
  | .wrongWithItem => Grammar.wrongWithItem
  | .wrongForTarget => Grammar.wrongForTarget
  | .wrongGroup => Grammar.wrongGroup
  | .wrongImportTargets => Grammar.wrongImportTargets
  | .wrongWith => Grammar.wrongWith
  | .wrongWithIndent => Grammar.wrongWithIndent
  | .wrongTry => Grammar.wrongTry
  | .wrongExcept => Grammar.wrongExcept
  | .wrongFinally => Grammar.wrongFinally
  | .wrongExceptIndent => Grammar.wrongExceptIndent
  | .wrongExceptStarIndent => Grammar.wrongExceptStarIndent
  | .wrongMatch => Grammar.wrongMatch
  | .wrongCase => Grammar.wrongCase
  | .wrongAsPattern => Grammar.wrongAsPattern
  | .wrongClassPattern => Grammar.wrongClassPattern
  | .wrongIf => Grammar.wrongIf
  | .wrongElif => Grammar.wrongElif
  | .wrongElse => Grammar.wrongElse
  | .wrongWhile => Grammar.wrongWhile
  | .wrongFor => Grammar.wrongFor
  | .wrongFunction => Grammar.wrongFunction
  | .wrongClass => Grammar.wrongClass
  | .wrongDictItems => Grammar.wrongDictItems
  | .wrongPair => Grammar.wrongPair

end Overdue.Source
