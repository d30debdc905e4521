import Overdue.Document
import Overdue.Failure
import Overdue.Host
import Overdue.Text.Lines

/-!
# Document files

A document is read from the bytes of a file on a host. The text is parsed as it comes in, so that a
fault may end the reading before the bytes behind it are looked at, and one call per level of
nesting is made, so that a document that nests too deep ends it as well.
-/
namespace Overdue.Document

/-- What reading bytes as a document comes to, if the stack lasts: its value, or a fault, unless a
portion comes in that is no text. -/
def outcome (host : Host) (bytes : List UInt8) : Except Utf8.Fault (Except Fault Value) :=
  match Utf8.decode bytes with
  | .error f =>
    match host.endsEarly? bytes with
    | some early => .ok (.error early)
    | none => .error f
  | .ok chars =>
    let code := Lines.unify chars
    if code.all isAllowed then .ok ((read code).map host.arranged)
    else .ok (.error ((host.endsEarly? bytes).getD .malformed))

/-- The value of the document of these bytes at a path. -/
def ofFile (host : Host) (path : String) (bytes : List UInt8) : Except Failure Value :=
  if host.exhaustsDocument path bytes then .error .exhausted
  else match outcome host bytes with
    | .error f => .error (.encoding f)
    | .ok (.error f) => .error (.document f)
    | .ok (.ok v) => .ok v

end Overdue.Document
