import ViewQuery.Component.Tree
import ViewQuery.Text.Cut

/-!
# Lineages

The way from a component up to the root of its view, and what is read off it: the client id, under
which the component is known to the outside, and the naming container that a path is relative to.

* `Tree.lineage`: the components on the way, the component itself first, and the fault that ends
  the way if it does not end at a component without parent;
* `Tree.clientId`: the ids of the naming containers around a component and its own id, joined by
  the separator;
* `Tree.searchBase`: the closest naming container, the component itself included.
-/

namespace ViewQuery.Component

/-- The components on the way up from a component, the closest first, and what ended the way other
than a component without parent. -/
structure Lineage where
  members : List (Handle × Node)
  fault : Option Fault
  deriving DecidableEq, Repr

namespace Tree

/-- The way up from a component, in at most `fuel` steps. -/
def climb (t : Tree) : Nat → Handle → Lineage
  | 0, _ => { members := [], fault := some .endless }
  | fuel + 1, h =>
    match t.nodes[h]? with
    | none => { members := [], fault := some (.missing h) }
    | some n =>
      match n.parent with
      | none => { members := [(h, n)], fault := none }
      | some p =>
        let up := climb t fuel p
        { up with members := (h, n) :: up.members }

/-- The way up from a component. One that is longer than the tree is large comes back to where it
was. -/
def lineage (t : Tree) (h : Handle) : Lineage := t.climb (t.size + 1) h

/-- The way up from the parent of a component; nothing where there is no parent. -/
def ancestors (t : Tree) (h : Handle) : Lineage :=
  match t.parent h with
  | some p => t.lineage p
  | none => { members := [], fault := none }

end Tree

/-- The closest component of a lineage with a property. Only what lies below it matters: a fault
further up does not show. -/
def Lineage.find? (l : Lineage) (p : Node → Bool) : Except Fault (Option Handle) :=
  match l.members.find? (fun m => p m.2), l.fault with
  | some m, _ => .ok (some m.1)
  | none, some f => .error f
  | none, none => .ok none

namespace Tree

/-- The id of a component and, in front of it, those of the naming containers around it. -/
def clientId (t : Tree) (h : Handle) : Except Fault String :=
  let l := t.lineage h
  match l.fault, l.members with
  | some f, _ => .error f
  | none, [] => .ok ""
  | none, m :: up =>
    let containers := up.filter fun a => a.2.kind.isNamingContainer
    .ok (Text.joinWith t.separator ((m :: containers).map (·.2.id)).reverse)

/-- The closest naming container at or above a component, or the top of its lineage. -/
def searchBase (t : Tree) (h : Handle) : Except Fault Handle :=
  let l := t.lineage h
  match l.find? fun n => n.kind.isNamingContainer with
  | .ok (some b) => .ok b
  | .ok none => .ok ((l.members.getLast?.map (·.1)).getD h)
  | .error f => .error f

end Tree

end ViewQuery.Component
