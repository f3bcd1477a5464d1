import ViewQuery.Component.Lookup
import ViewQuery.Expression.Error
import ViewQuery.Number.Index
import ViewQuery.Text.Blank

/-!
# Rules for segments

A segment of an expression leads from one component, the anchor, to another one. What it does is its
rule: a plain segment is a path, and each keyword has a rule of its own.

* `Rule.resolve`: the component that a segment leads to;
* `Rule.isNestable`, `Rule.isClientOnly`, `Rule.passesThrough`: how the rule may be used.
-/

namespace ViewQuery.Expression

open ViewQuery.Component (Fault Handle Kind Node Tree)

/-- A kind of component around another one that a keyword asks for. -/
inductive Enclosing where
  | form
  | namingContainer
  | composite
  deriving DecidableEq, Repr

/-- Whether a component is of the kind that is asked for. -/
def Enclosing.accepts : Enclosing → Kind → Bool
  | .form, k => k = .form
  | .namingContainer, k => k.isNamingContainer
  | .composite, k => k = .composite

/-- A side on which a component has a neighbour. -/
inductive Side where
  | previous
  | next
  deriving DecidableEq, Repr

/-- How a segment is resolved. -/
inductive Rule where
  /-- An id or a path. -/
  | path
  /-- The anchor itself. -/
  | this
  /-- The parent of the anchor. -/
  | parent
  /-- The closest component of a kind around the anchor. -/
  | enclosing (what : Enclosing)
  /-- A child of the anchor, by its index. -/
  | child
  /-- A neighbour of the anchor. -/
  | sibling (side : Side)
  /-- The whole view. -/
  | all
  /-- Explicitly nothing. -/
  | none
  /-- A reference that only the client can follow. -/
  | client
  deriving DecidableEq, Repr

namespace Rule

/-- Whether a segment with this rule may be a link of a chain. -/
def isNestable : Rule → Bool
  | .all | .none | .client => false
  | _ => true

/-- Whether a segment with this rule means something to the client only. -/
def isClientOnly : Rule → Bool
  | .client => true
  | _ => false

/-- Whether an expression that is one segment with this rule goes to the client as it is written. -/
def passesThrough : Rule → Bool
  | .all | .none | .client => true
  | _ => false

/-- The text between the first opening and the last closing parenthesis. -/
def argument (segment : List Char) : Option (List Char) := do
  let (_, inside) ← Text.cutAt ['('] segment
  let (_, reversed) ← Text.cutAt [')'] inside.reverse
  pure reversed.reverse

/-- The child index that a segment asks for. -/
def childIndex (segment : String) : Option Nat :=
  (argument segment.toList).bind fun cs => Number.readIndex (Text.trim cs)

/-- The neighbour of a component among the children of its parent. -/
def neighbour (t : Tree) (side : Side) (h : Handle) : Option Handle := do
  let parent ← t.parent h
  let siblings := t.children parent
  let place ← siblings.findIdx? (· == h)
  match side with
  | .previous => if place = 0 then Option.none else siblings[place - 1]?
  | .next => siblings[place + 1]?

/-- The text of the error for a child index that is none. -/
def childReason : String := "@child needs a numeric index, e.g. @child(0)"

/-- The component that a segment leads to from an anchor. The expression is written on `source`. -/
def resolve (t : Tree) (source anchor : Handle) (segment : String) :
    Rule → Except Failure (Option Handle)
  | .path => ofTree (t.findByPath anchor segment)
  | .this => .ok (some anchor)
  | .parent => .ok (t.parent anchor)
  | .enclosing what => ofTree ((t.ancestors anchor).find? fun n => what.accepts n.kind)
  | .child =>
    match childIndex segment with
    | some i => .ok (t.children anchor)[i]?
    | Option.none => do
      let origin ← ofTree (t.clientId source)
      .error (.error (.malformed segment origin childReason))
  | .sibling side => .ok (neighbour t side anchor)
  | .all => .ok (some Tree.root)
  | .none => .ok Option.none
  | .client => .error (.error (.unsupported segment))

end Rule

end ViewQuery.Expression
