/-!
# Component trees

The components of a view, kept in the order in which they were added. A component is known by its
handle, its place in that order; the view root is the first. Handles are plain numbers, so one can
be used that is in no tree or in another tree: reading a component that is not there is a `Fault`.

* `Tree.add`: the one operation that changes a tree;
* `Tree.node`, `Tree.parent`, `Tree.children`: what is read from it.
-/

namespace ViewQuery.Component

/-- What a component is, as far as names are concerned. -/
inductive Kind where
  | root
  | component
  | form
  | naming
  | composite
  deriving DecidableEq, Repr, Inhabited

/-- Whether the names of the components inside are relative to the component. -/
def Kind.isNamingContainer : Kind → Bool
  | .form | .naming | .composite => true
  | .root | .component => false

/-- The name of a kind. -/
def Kind.name : Kind → String
  | .root => "root"
  | .component => "component"
  | .form => "form"
  | .naming => "naming"
  | .composite => "composite"

/-- The kind of a name. -/
def Kind.ofName? : String → Option Kind
  | "root" => some .root
  | "component" => some .component
  | "form" => some .form
  | "naming" => some .naming
  | "composite" => some .composite
  | _ => none

/-- The place of a component in the order of addition. -/
abbrev Handle := Nat

/-- A component with its links. -/
structure Node where
  id : String
  kind : Kind
  parent : Option Handle
  children : List Handle
  deriving DecidableEq, Repr

/-- What stops a walk through a tree. -/
inductive Fault where
  /-- There is no component at the handle. -/
  | missing (handle : Handle)
  /-- The parents of a component lead back to a component on the way. -/
  | endless
  deriving DecidableEq, Repr

/-- The components of a view, and the character between the parts of their names. -/
structure Tree where
  nodes : Array Node
  separator : Char
  deriving DecidableEq, Repr

namespace Tree

/-- The handle of the view root. -/
def root : Handle := 0

/-- The tree that holds the view root alone, which has no name of its own. -/
def new (separator : Char) : Tree :=
  { nodes := #[{ id := "", kind := .root, parent := none, children := [] }], separator }

/-- The number of components, the root included. -/
def size (t : Tree) : Nat := t.nodes.size

/-- The component at a handle. -/
def node (t : Tree) (h : Handle) : Except Fault Node :=
  match t.nodes[h]? with
  | some n => .ok n
  | none => .error (.missing h)

/-- The parent of a component; the root and a handle outside of the tree have none. -/
def parent (t : Tree) (h : Handle) : Option Handle := t.nodes[h]?.bind Node.parent

/-- The children of a component in document order; a handle outside of the tree has none. -/
def children (t : Tree) (h : Handle) : List Handle := (t.nodes[h]?.map Node.children).getD []

/-- The kind of a component. -/
def kind (t : Tree) (h : Handle) : Except Fault Kind := (t.node h).map Node.kind

/-- The name of a component within its naming container. -/
def localId (t : Tree) (h : Handle) : Except Fault String := (t.node h).map Node.id

/-- Note a new child at the end of the children. -/
def Node.adopt (child : Handle) (n : Node) : Node := { n with children := n.children ++ [child] }

/-- Add a component under a parent. The component is in the tree before its parent is looked up:
under a parent that is not there it stays behind without one listing it, and under its own handle
it becomes its own parent. -/
def add (t : Tree) (parent : Handle) (id : String) (kind : Kind) : Tree × Except Fault Handle :=
  let handle := t.nodes.size
  let grown := t.nodes.push { id, kind, parent := some parent, children := [] }
  if parent < grown.size then
    ({ t with nodes := grown.modify parent (Node.adopt handle) }, .ok handle)
  else ({ t with nodes := grown }, .error (.missing parent))

@[simp] theorem node_eq_ok_iff {t : Tree} {h : Handle} {n : Node} :
    t.node h = .ok n ↔ t.nodes[h]? = some n := by
  simp only [node]
  split <;> simp_all

end Tree

end ViewQuery.Component
