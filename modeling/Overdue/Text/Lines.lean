/-!
# Line ends

A text read from a file ends its lines by a line feed alone: a carriage return, with or without a
line feed after it, is read as one line feed.
-/
namespace Overdue.Lines

/-- Reads every spelling of a line end as a line feed. -/
def unify : List Char → List Char
  | [] => []
  | '\r' :: '\n' :: rest => '\n' :: unify rest
  | '\r' :: rest => '\n' :: unify rest
  | c :: rest => c :: unify rest

/-- The lines of a text without their line feeds; a text that ends in a line feed has no further,
empty line. -/
def split : List Char → List (List Char)
  | [] => []
  | '\n' :: rest => [] :: split rest
  | c :: rest =>
    match split rest with
    | line :: more => (c :: line) :: more
    | [] => [[c]]

/-- The lines of a text, each with its line feed if it has one. -/
def terminated : List Char → List (List Char)
  | [] => []
  | '\n' :: rest => ['\n'] :: terminated rest
  | c :: rest =>
    match terminated rest with
    | line :: more => (c :: line) :: more
    | [] => [[c]]

end Overdue.Lines
