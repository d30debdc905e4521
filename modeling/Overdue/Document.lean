import Overdue.Document.Composition
import Overdue.Document.Content
import Overdue.Document.Lexer

/-!
# Documents

A document is a text that declares one value. `Document.read` reads it; an empty text is null.
-/
namespace Overdue.Document

/-- Whether a character may stand in a document. -/
def isAllowed (c : Char) : Bool :=
  c == '\t' || c == '\n' || c == '\r' || (' ' ≤ c && c ≤ '~') || c == '\x85' ||
    (0xA0 ≤ c.toNat && c.toNat ≤ 0xFFFD) || 0x10000 ≤ c.toNat

/-- The value of a text whose lines end in line feeds, and all of whose characters may stand in a
document. -/
def read (s : List Char) : Except Fault Value :=
  match Composition.document (tokenize s) with
  | .error f => .error f
  | .ok none => .ok .null
  | .ok (some n) => n.value

end Overdue.Document
