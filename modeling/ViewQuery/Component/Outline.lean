import ViewQuery.Component.Tree
import ViewQuery.Data

/-!
# Outlines

A subtree described as a value: a component with the outlines of its children. A tree is built from
outlines depth first, a component before what is inside of it.

* `Tree.ofOutlines`: the tree whose root has the given children;
* `Outline.ofData?`: an outline given in a data format.
-/

namespace ViewQuery.Component

/-- A component and what is inside of it. -/
inductive Outline where
  | mk (id : String) (kind : Kind) (children : List Outline)
  deriving Repr, Inhabited

namespace Outline

def id : Outline → String
  | .mk id _ _ => id

def kind : Outline → Kind
  | .mk _ kind _ => kind

def children : Outline → List Outline
  | .mk _ _ children => children

mutual

/-- Add the components of an outline under a parent of the tree. -/
def addTo (t : Tree) (parent : Handle) : Outline → Tree
  | .mk id kind children =>
    let handle := t.size
    addAllTo (t.add parent id kind).1 handle children

/-- Add the components of several outlines under a parent of the tree. -/
def addAllTo (t : Tree) (parent : Handle) : List Outline → Tree
  | [] => t
  | outline :: rest => addAllTo (addTo t parent outline) parent rest

end

/-- The fields of an outline. -/
def fieldNames : List String := ["id", "kind", "children"]

/-- An outline given in a data format, where `room` lists and records may lie within one another. A
component without a kind is a plain one, and one without children has none. -/
def ofData? {α : Type} [Data α] : Nat → α → Option Outline
  | 0, _ => none
  | room + 1, d =>
    match Data.fields? fieldNames d with
    | some [some id, kind, children] => do
      let id ← Data.text? id
      let kind ← Data.orDefault (Data.variant? Kind.ofName?) .component kind
      let children ← match children with
        | none => some []
        | some c => match room with
          | 0 => none
          | room + 1 => Data.list? (ofData? room) c
      pure (.mk id kind children)
    | _ => none

/-- The outlines of a list. -/
def listOfData? {α : Type} [Data α] (d : α) : Option (List Outline) :=
  Data.list? (ofData? (Json.Document.maxNesting - 1)) d

end Outline

/-- The tree whose root has the given children. -/
def Tree.ofOutlines (separator : Char) (outlines : List Outline) : Tree :=
  Outline.addAllTo (Tree.new separator) Tree.root outlines

end ViewQuery.Component
