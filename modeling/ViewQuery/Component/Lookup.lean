import ViewQuery.Component.Lineage

/-!
# Finding components by name

A path names a component by the ids of naming containers around it and its own id, joined by the
separator of the tree. A path that starts with the separator is read from the root, any other from
the closest naming container at or above the component it is read from. Each id is looked for in
document order below the container reached so far, without going into containers further in.

* `Tree.findWithin`: the component of an id below a component;
* `Tree.findByPath`: the component of a path;
* `Tree.findByClientId`: the component of a client id.
-/

namespace ViewQuery.Component

namespace Tree

/-- The components that the search for an id goes on to below a component: its children, but
nothing below a naming container. -/
def searched (n : Node) : List Handle := if n.kind.isNamingContainer then [] else n.children

/-- The first component with an id among those waiting, in document order, and those below them.
Each step takes one component off the waiting ones; `fuel` bounds the steps. -/
def findAmong (t : Tree) (id : String) : Nat → List Handle → Option Handle
  | 0, _ => none
  | _ + 1, [] => none
  | fuel + 1, h :: waiting =>
    match t.nodes[h]? with
    | none => findAmong t id fuel waiting
    | some n => if n.id = id then some h else findAmong t id fuel (searched n ++ waiting)

/-- The first component with an id below a component, in document order. The search does not go
into naming containers, but it does find their own ids. -/
def findWithin (t : Tree) (base : Handle) (id : String) : Option Handle :=
  t.findAmong id t.size (t.children base)

/-- Go on from a component by one more id, which takes a naming container. -/
def descend (t : Tree) (h : Handle) (id : String) : Option Handle := do
  let n ← t.nodes[h]?
  if n.kind.isNamingContainer then t.findWithin h id else none

/-- The component of a path of ids below a base. The first id may be that of the base itself, unless
the base is the root. -/
def findBelow (t : Tree) (base : Handle) : List String → Option Handle
  | [] => none
  | first :: rest =>
    let start :=
      if (t.nodes[base]?.map Node.id) = some first ∧ base ≠ root then some base
      else t.findWithin base first
    rest.foldl (fun h id => h.bind fun h => t.descend h id) start

/-- The component of a path that is read from an anchor. -/
def findByPath (t : Tree) (anchor : Handle) (path : String) : Except Fault (Option Handle) :=
  if path.isEmpty then .ok none
  else
    match Text.afterPrefix [t.separator] path.toList with
    | some rest => .ok (t.findBelow root (Text.piecesBetween t.separator (.ofList rest)))
    | none => do
      let base ← t.searchBase anchor
      pure (t.findBelow base (Text.piecesBetween t.separator path))

/-- The component of a client id. -/
def findByClientId (t : Tree) (clientId : String) : Except Fault (Option Handle) :=
  t.findByPath root (String.singleton t.separator ++ clientId)

end Tree

end ViewQuery.Component
