import ViewQuery.Component.Lineage
import ViewQuery.Diagnostics.Event
import ViewQuery.Expression.Trail

/-!
# The log of a trail

Where somebody listens, each hop of a trail is reported with the client ids of its two components.
A component that is not in the tree has no client id, so that listening can end a trail in a fault
that would go unnoticed otherwise.
-/

namespace ViewQuery.Expression

open ViewQuery.Component (Fault Tree)
open ViewQuery.Diagnostics (Event)

/-- The part of the library that reports hops. -/
def hopTarget : String := "searchgrid_core::expression"

/-- The report of a hop. -/
def Hop.event (t : Tree) (h : Hop) : Except Fault Event := do
  let origin ← t.clientId h.origin
  let target ← t.clientId h.target
  pure (.report .debug hopTarget "Resolved search expression hop"
    [("segment", .text h.segment), ("from", .text origin), ("to", .text target)])

/-- The reports of the hops up to the first one that cannot be reported, with its fault. -/
def hopEvents (t : Tree) : List Hop → List Event × Option Fault
  | [] => ([], none)
  | h :: rest =>
    match h.event t with
    | .error f => ([], some f)
    | .ok e =>
      let (events, fault) := hopEvents t rest
      (e :: events, fault)

/-- What a listener sees of a trail: its reports and how it ends. -/
def Trail.observed {α : Type} (t : Tree) (trail : Trail α) : List Event × Except Failure α :=
  match hopEvents t trail.hops with
  | (events, some f) => (events, .error (.fault f))
  | (events, none) => (events, trail.outcome)

end ViewQuery.Expression
