import Overdue.Failure
import Overdue.Ignore.Pattern
import Overdue.Text.Lines
import Overdue.Value.Text

/-!
# What is ignored

Patterns stand in the order of their lines. The last one that applies to a file decides; a file to
which none applies is not ignored.
-/
namespace Overdue

/-- The patterns of an ignore file, in order. -/
structure Ignore where
  patterns : List Ignore.Pattern := []
deriving DecidableEq, Repr

namespace Ignore

def ignores (i : Ignore) (path : String) : Bool :=
  i.patterns.foldl (fun ignored p => if p.appliesTo path.toList then p.ignores else ignored) false

/-- The patterns of some lines; the first line that is unusable is the failure. -/
def ofLines (lines : List (List Char)) : Except Failure Ignore :=
  match lines.mapM Pattern.ofLine with
  | .ok ps => .ok ⟨ps.filterMap id⟩
  | .error f => .error (.pattern f)

/-- The line that a value gives: none for what counts as not given. -/
def lineOf (v : Value) : Except Failure (List Char) :=
  match v with
  | .text s => .ok s.toList
  | v =>
    if !v.truthy then .ok []
    else if v.literal?.isNone then .error .unwritable
    else .error .wrongKind

/-- The patterns of some values. -/
def ofValues (vs : List Value) : Except Failure Ignore := do
  let ps ← vs.mapM fun v => do
    let line ← lineOf v
    match Pattern.ofLine line with
    | .ok p => pure p
    | .error f => throw (.pattern f)
  return ⟨ps.filterMap id⟩

/-- The patterns of the ignore file of a folder; none if there is no such file. The file is taken in
whole before the first pattern is looked at. -/
def load (files : Files) (root : String) : Except Failure Ignore :=
  let path := Path.join root ".gitignore"
  match files.read path with
  | .error a => if (a.reason? path).isSome then .error (.absence a) else .ok {}
  | .ok bytes =>
    match Utf8.decode bytes with
    | .error f => .error (.encoding f)
    | .ok chars => ofLines (Lines.terminated (Lines.unify chars))

end Ignore

end Overdue
