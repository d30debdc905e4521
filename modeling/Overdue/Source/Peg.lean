import Overdue.Source.Node

/-!
# Parsing expressions

A grammar is a value: a parsing expression for each rule. An alternative is tried only where the
ones in front of it fail. A grammar may hold rules that describe mistakes; they take part only when
a text is known to be wrong, and name the line to blame.
-/
namespace Overdue.Source

/-- What a mistake is described by: the nodes that were read, the line of the last token that was
looked at, and how many brackets were open at the last token that was read. -/
structure Evidence where
  nodes : List Node
  lastLine : Nat
  depth : Nat

/-- A parsing expression over the rules `ρ`. -/
inductive Peg (ρ : Type)
  | empty
  /-- A keyword or punctuation. -/
  | lit (s : String)
  /-- The same, kept as a node. -/
  | keep (s : String)
  /-- A name that is a keyword only here. -/
  | soft (s : String)
  /-- A token of a kind, kept as a node. -/
  | name
  | number
  /-- One or more text tokens, joined. -/
  | texts
  /-- A token of a kind, not kept. -/
  | mark (kind : TokenKind)
  | rule (r : ρ)
  | seq (a b : Peg ρ)
  /-- A sequence whose first part, once read, rules out later alternatives. -/
  | commit (a b : Peg ρ)
  | alt (a b : Peg ρ)
  | option (a : Peg ρ)
  | many (a : Peg ρ)
  | ahead (a : Peg ρ)
  | absent (a : Peg ρ)
  /-- A first part and then steps, each of which becomes a branch around all in front of it. -/
  | chain (first step : Peg ρ)
  | node (c : Construct) (a : Peg ρ)
  /-- A keyword or punctuation whose absence is a mistake at once. -/
  | need (s : String)
  /-- An expression in which no mistakes are described. -/
  | strict (a : Peg ρ)
  /-- An expression that is a mistake at once if the evidence gives a line to blame. -/
  | insist (a : Peg ρ) (blame : Evidence → Option Nat)
  /-- A mistake. It blames a line, or fails if the evidence gives none. -/
  | mistake (a : Peg ρ) (blame : Evidence → Option Nat)

namespace Peg

variable {ρ : Type}

/-- One after the other. -/
def all : List (Peg ρ) → Peg ρ
  | [] => .empty
  | [a] => a
  | a :: rest => .seq a (all rest)

/-- The first that can be read. -/
def any : List (Peg ρ) → Peg ρ
  | [] => .absent .empty
  | [a] => a
  | a :: rest => .alt a (any rest)

def many1 (a : Peg ρ) : Peg ρ := .seq a (.many a)

/-- One or more, with a separator between. -/
def sepBy1 (a : Peg ρ) (sep : String) : Peg ρ := .seq a (.many (.seq (.lit sep) a))

/-- The same, with a separator perhaps at the end. -/
def listOf (a : Peg ρ) : Peg ρ := .seq (sepBy1 a ",") (.option (.lit ","))

/-- One of some keywords or punctuation, not kept. -/
def oneOf (ss : List String) : Peg ρ := any (ss.map .lit)

/-- One of some keywords or punctuation, kept. -/
def keepOneOf (ss : List String) : Peg ρ := any (ss.map .keep)

/-! ## Blame -/

/-- Blames the line of a node that was read. -/
def blameAt (i : Nat) (e : Evidence) : Option Nat := (e.nodes[i]?).map Node.line

/-- Blames the line of the last token that was looked at. -/
def blameLast (e : Evidence) : Option Nat := some e.lastLine

end Peg

end Overdue.Source
