import ViewQuery.Diagnostics.Event
import ViewQuery.Text.Cut

/-!
# Collecting events

A collector keeps the latest of the events that are severe enough, up to its capacity.

* `Collector.record`: take note of an event;
* `Collector.emit`: take note of the event of an emission;
* `Collector.matching`: the events with a text in their messages.
-/

namespace ViewQuery.Diagnostics

/-- The events that are kept, the oldest first, with how many and how severe they have to be. -/
structure Collector where
  capacity : Nat
  least : Level
  entries : List Event
  deriving DecidableEq, Repr

namespace Collector

/-- A collector of warnings and errors. -/
def new (capacity : Nat) : Collector := { capacity, least := .warn, entries := [] }

/-- The collector with another least level. -/
def withLeast (c : Collector) (least : Level) : Collector := { c with least }

/-- Take note of an event. The oldest one makes room for it. -/
def record (c : Collector) (e : Event) : Collector :=
  if e.level.reaches c.least ∧ c.capacity ≠ 0 then
    let kept := if c.capacity ≤ c.entries.length then c.entries.drop 1 else c.entries
    { c with entries := kept ++ [e] }
  else c

/-- Take note of the event of an emission. -/
def emit (c : Collector) (m : Emission) : Collector := c.record m.event

/-- Take note of several events in order. -/
def recordAll (c : Collector) (events : List Event) : Collector := events.foldl record c

/-- Forget the events. -/
def clear (c : Collector) : Collector := { c with entries := [] }

/-- The number of events kept. -/
def size (c : Collector) : Nat := c.entries.length

/-- The events whose messages hold a text. -/
def matching (c : Collector) (needle : String) : List Event :=
  c.entries.filter fun e => Text.occursIn needle.toList e.message.toList

end Collector

end ViewQuery.Diagnostics
