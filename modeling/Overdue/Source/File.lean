import Overdue.Source.Declarations
import Overdue.Source.Outline
import Overdue.Source.Parser
import Overdue.Text.Lines
import Overdue.Text.Utf8

/-!
# Reading the declarations of a source file

From bytes to findings. A file that is not opened, that is not UTF-8, or that the grammar refuses,
is one problem.
-/
namespace Overdue.Source

/-- What the file of these bytes at a place declares; it is shown under a path. The grammar's own
words for what it refuses are left out. -/
def fileFindings (host : Host) (place path : String) (bytes : List UInt8) :
    Except Interruption (List Finding) :=
  let unread (reason : String) : Except Interruption (List Finding) :=
    .ok [.problem ⟨"cannot read file: " ++ reason, some path, none⟩]
  match host.refusal? place, Utf8.decode bytes with
  | some reason, _ => unread reason
  | none, .error f => unread f.message
  | none, .ok chars =>
    let code := Lines.unify chars
    if code.contains '\x00' then .error .zeroCharacter
    else if host.exhaustsSource place bytes then .error .exhausted
    else match parse code with
      | .error line => .ok [.problem ⟨"cannot parse file: <syntax error>", some path, some line⟩]
      | .ok nodes => (Tree.visitAll host path (Node.outlines nodes) {}).map (·.found)

end Overdue.Source
