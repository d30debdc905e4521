/-!
# Nodes of a document

A document is one node: a scalar, a sequence or a mapping, each with a tag. The tag says what value
the node stands for; scalars that were written plainly get theirs by their text.
-/
namespace Overdue.Document

/-- The tags that are told apart. -/
inductive Tag
  | null
  | bool
  | int
  | float
  | binary
  | timestamp
  | orderedMap
  | pairs
  | set
  | str
  | seq
  | map
  /-- The key that merges mappings. -/
  | merge
  /-- The key of a default value. -/
  | default
  /-- Any other tag. It has no meaning. -/
  | other
deriving DecidableEq, Repr

namespace Tag

def home : String := "tag:yaml.org,2002:"

def names : List (String × Tag) :=
  [("null", .null), ("bool", .bool), ("int", .int), ("float", .float), ("binary", .binary),
    ("timestamp", .timestamp), ("omap", .orderedMap), ("pairs", .pairs), ("set", .set),
    ("str", .str), ("seq", .seq), ("map", .map), ("merge", .merge), ("value", .default)]

/-- The tag of a full name. -/
def ofText (text : String) : Tag :=
  ((names.find? fun (name, _) => text == home ++ name).map (·.2)).getD .other

end Tag

/-- A node. -/
inductive Node
  | scalar (tag : Tag) (text : String)
  | sequence (tag : Tag) (items : List Node)
  | mapping (tag : Tag) (entries : List (Node × Node))
  /-- The sequence or mapping that the node itself lies in. -/
  | enclosing (isMapping : Bool)
deriving Repr

instance : Inhabited Node := ⟨.scalar .null ""⟩

namespace Node

def tag : Node → Tag
  | .scalar tag _ => tag
  | .sequence tag _ => tag
  | .mapping tag _ => tag
  | .enclosing isMapping => if isMapping then .map else .seq

mutual

/-- How deep the node nests. -/
def height : Node → Nat
  | .scalar _ _ => 0
  | .sequence _ items => heightOfItems items + 1
  | .mapping _ entries => heightOfEntries entries + 1
  | .enclosing _ => 0

def heightOfItems : List Node → Nat
  | [] => 0
  | n :: ns => max (height n) (heightOfItems ns)

def heightOfEntries : List (Node × Node) → Nat
  | [] => 0
  | (k, v) :: rest => max (max (height k) (height v)) (heightOfEntries rest)

end

end Node

end Overdue.Document
