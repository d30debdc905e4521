/-!
# Tokens of a source file

Lexemes with the line they start on and the number of brackets that are open behind them. A file
whose text cannot be cut into tokens ends in a fault instead of the end mark.
-/
namespace Overdue.Source

inductive TokenKind
  | name
  | keyword
  | number
  | text
  | punctuation
  | newline
  | indent
  | dedent
  | finish
deriving DecidableEq, Repr, Inhabited

structure Token where
  kind : TokenKind
  lexeme : String
  line : Nat
  /-- How many brackets are open behind the token. -/
  depth : Nat
deriving Repr, Inhabited

/-- Why no further token can be read. -/
inductive LexicalFault
  /-- The text at this line belongs to no token. It outranks every other complaint about the
  file. -/
  | malformed (line : Nat)
  /-- The text ends inside a bracket that was opened at this line. -/
  | unclosed (opened : Nat)
  /-- Indentation or a line joint at this line is wrong; if a bracket is open, it was opened at the
  second line. -/
  | layout (line : Nat) (opened : Option Nat)
deriving DecidableEq, Repr

/-- The tokens of a file up to the fault, or up to the end mark. -/
structure TokenList where
  tokens : Array Token
  fault : Option LexicalFault
deriving Repr

/-- The names that the language keeps for itself. -/
def keywords : List String :=
  ["False", "None", "True", "and", "as", "assert", "async", "await", "break", "class", "continue",
    "def", "del", "elif", "else", "except", "finally", "for", "from", "global", "if", "import",
    "in", "is", "lambda", "nonlocal", "not", "or", "pass", "raise", "return", "try", "while",
    "with", "yield"]

def isKeyword (s : String) : Bool := keywords.contains s

end Overdue.Source
