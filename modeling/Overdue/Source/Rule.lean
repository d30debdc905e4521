import Overdue.Source.Peg

/-!
# The rules of the grammar

One constructor for each rule of the grammar of source files. Rules whose names begin with `wrong`
describe mistakes.
-/
namespace Overdue.Source

inductive Rule
  -- files and statements
  | file
  | hole
  | statements
  | statement
  | simpleStatements
  | simpleStatement
  | compoundStatement
  | assignment
  | assignedValue
  | returnStatement
  | raiseStatement
  | globalStatement
  | nonlocalStatement
  | deleteStatement
  | assertStatement
  | importName
  | importFrom
  | importTargets
  | importedName
  | dottedAsName
  | dottedName
  | block
  | decorators
  | classDefinition
  | classBody
  | functionDefinition
  | functionBody
  | parameters
  | parameterList
  | slashPlain
  | slashDefaulted
  | starParameters
  | doubleStarParameter
  | plainParameter
  | starAnnotated
  | defaultedParameter
  | anyParameter
  | parameter
  | defaultValue
  | ifStatement
  | elifStatement
  | elseBlock
  | whileStatement
  | forStatement
  | withStatement
  | withItem
  | tryStatement
  | exceptBlock
  | exceptStarBlock
  | finallyBlock
  | matchStatement
  | subject
  | caseBlock
  | guard
  -- patterns
  | patterns
  | pattern
  | asPattern
  | orPattern
  | closedPattern
  | literalPattern
  | literalKey
  | complexNumber
  | signedNumber
  | captureTarget
  | dottedPattern
  | nameOrDotted
  | sequencePattern
  | openSequencePattern
  | itemPatterns
  | itemPattern
  | starPattern
  | mappingPattern
  | keyPatterns
  | keyPattern
  | restPattern
  | classPattern
  | positionalPatterns
  | keywordPatterns
  -- expressions
  | expressions
  | expression
  | yieldExpression
  | starExpressions
  | starExpression
  | starNamedExpressions
  | starNamedExpression
  | assignmentExpression
  | namedExpression
  | disjunction
  | conjunction
  | inversion
  | comparison
  | bitwiseOr
  | bitwiseXor
  | bitwiseAnd
  | shift
  | sum
  | term
  | factor
  | power
  | awaitPrimary
  | primary
  | slices
  | slice
  | atom
  | group
  | lambda
  | lambdaParameters
  | lambdaParameterList
  | lambdaSlashPlain
  | lambdaSlashDefaulted
  | lambdaStarParameters
  | lambdaDoubleStarParameter
  | lambdaPlainParameter
  | lambdaDefaultedParameter
  | lambdaAnyParameter
  | listDisplay
  | tupleDisplay
  | setDisplay
  | dictDisplay
  | dictItem
  | pair
  | forClauses
  | forClause
  | listComprehension
  | setComprehension
  | dictComprehension
  | generator
  | arguments
  | argumentList
  | namedArguments
  | starredExpression
  | starredOrNamed
  | unpackedOrNamed
  -- targets
  | starTargets
  | starTarget
  | starTargetsList
  | starTargetsTuple
  | targetWithStarAtom
  | starAtom
  | singleTarget
  | singleSubscriptAttribute
  | targetPrimary
  | deleteTargets
  | deleteTarget
  | deleteAtom
  -- mistakes
  | wrongArguments
  | wrongNamedArgument
  | strictExpression
  | wrongLegacy
  | wrongExpression
  | wrongNamedExpression
  | wrongAssignment
  | wrongAnnotated
  | wrongDelete
  | wrongBlock
  | wrongComprehension
  | wrongDictComprehension
  | wrongParameters
  | wrongDefault
  | wrongStarParameters
  | wrongDoubleStar
  | wrongLambdaParameters
  | wrongLambdaStar
  | wrongLambdaDoubleStar
  | wrongWithItem
  | wrongForTarget
  | wrongGroup
  | wrongImportTargets
  | wrongWith
  | wrongWithIndent
  | wrongTry
  | wrongExcept
  | wrongFinally
  | wrongExceptIndent
  | wrongExceptStarIndent
  | wrongMatch
  | wrongCase
  | wrongAsPattern
  | wrongClassPattern
  | wrongIf
  | wrongElif
  | wrongElse
  | wrongWhile
  | wrongFor
  | wrongFunction
  | wrongClass
  | wrongDictItems
  | wrongPair
deriving DecidableEq, Hashable, Repr

/-- Rules whose results are kept, since several alternatives start with them. -/
def Rule.isKept : Rule → Bool
  | .simpleStatement | .block | .expression | .starExpression | .disjunction | .conjunction
  | .inversion | .factor | .awaitPrimary | .starTarget | .targetWithStarAtom | .arguments
  | .deleteTarget | .closedPattern | .starPattern | .wrongNamedExpression | .bitwiseOr
  | .bitwiseXor | .bitwiseAnd | .shift | .sum | .term | .primary | .targetPrimary
  | .dottedName | .dottedPattern | .nameOrDotted => true
  | _ => false

end Overdue.Source
