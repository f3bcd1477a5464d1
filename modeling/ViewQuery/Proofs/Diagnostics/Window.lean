import Mathlib.Data.List.DropRight
import Mathlib.Data.List.Infix
import ViewQuery.Diagnostics.Collector

/-!
# A window on the latest events

What a collector has after any run of emissions and clears: of the emissions since the last clear
that are severe enough, the latest ones, as many as there is room for. One event makes the window
one longer at its end, and takes its first event away where there is no more room.

* `Emission.event_eq`: the event of an emission, read off its values as a whole;
* `Collector.entries_emit`: what one emission does to the entries;
* `Collector.entries_after`: what a run leaves, and `Collector.window_after` with what can be
  asked of a collector.
-/

namespace ViewQuery.Diagnostics

/-! ## The event of an emission -/

namespace Emission

/-- The message of an emission: its last value with that name, or nothing. -/
def message (m : Emission) : String :=
  ((m.values.filter (·.1 = messageName)).getLast?.map (·.2.shown)).getD ""

/-- The values of an emission other than its message, as they are shown. -/
def fields (m : Emission) : List (String × String) :=
  (m.values.filter (·.1 ≠ messageName)).map fun v => (v.1, v.2.shown)

/-- What is to be seen of an emission. -/
def shown (m : Emission) : Event :=
  { level := m.level, target := m.target, message := m.message, fields := m.fields }

/-- The event that is recorded of an emission is what is to be seen of it. -/
theorem event_eq (m : Emission) : m.event = m.shown := by
  obtain ⟨level, target, values⟩ := m
  -- From the end, since a later message takes the place of the ones before it.
  induction values using List.reverseRecOn with
  | nil => rfl
  | append_singleton values v ih =>
    have hnote : Emission.event ⟨level, target, values ++ [v]⟩ =
        Event.note (Emission.event ⟨level, target, values⟩) v := by
      rw [event, event, List.foldl_append]
      rfl
    rw [hnote, ih, Event.note]
    split
    · rename_i hv
      simp [shown, message, fields, hv]
    · rename_i hv
      simp [shown, message, fields, hv]

theorem level_event (m : Emission) : m.event.level = m.level := by
  rw [event_eq, shown]

end Emission

/-! ## Runs -/

/-- One thing that is done to a collector. -/
inductive Step where
  | emit (m : Emission)
  | clear

namespace Step

/-- The collector after a step. -/
def apply (c : Collector) : Step → Collector
  | .emit m => c.emit m
  | .clear => c.clear

/-- What a step emits. -/
def emission? : Step → Option Emission
  | .emit m => some m
  | .clear => none

end Step

/-- The emissions of a run since it was last cleared. -/
def sinceClear (steps : List Step) : List Emission :=
  (steps.rtakeWhile (·.emission?.isSome)).filterMap Step.emission?

theorem sinceClear_append_emit (steps : List Step) (m : Emission) :
    sinceClear (steps ++ [.emit m]) = sinceClear steps ++ [m] := by
  rw [sinceClear, List.rtakeWhile_concat_pos _ _ _ rfl, List.filterMap_append]
  rfl

theorem sinceClear_append_clear (steps : List Step) : sinceClear (steps ++ [.clear]) = [] := by
  rw [sinceClear, List.rtakeWhile_concat_neg _ _ _ (by simp [Step.emission?])]
  rfl

/-! ## The latest of a list -/

section

variable {α : Type} (xs ys : List α) (n : Nat)

theorem length_rtake : (xs.rtake n).length = min n xs.length := by
  rw [List.rtake, List.length_drop]
  omega

theorem rtake_min_length : xs.rtake (min n xs.length) = xs.rtake n := by
  rw [List.rtake, List.rtake]
  congr 1
  omega

/-- Items that are not among the latest ones do not come back when there are more. -/
theorem rtake_rtake_append : (xs.rtake n ++ ys).rtake n = (xs ++ ys).rtake n := by
  rw [List.rtake, List.rtake, List.rtake, List.length_append, List.length_append,
    List.length_drop, ← List.drop_append_of_le_length (Nat.sub_le _ _), List.drop_drop]
  congr 1
  omega

end

/-! ## The entries of a collector -/

namespace Collector

variable (c : Collector) (e : Event) (steps : List Step)

/-- The collector after a run of steps. -/
def after (c : Collector) (steps : List Step) : Collector := steps.foldl Step.apply c

theorem after_append (step : Step) : c.after (steps ++ [step]) = step.apply (c.after steps) := by
  rw [after, List.foldl_append]
  rfl

/-- What is set up once stays. -/
theorem settings_record : (c.record e).capacity = c.capacity ∧ (c.record e).least = c.least := by
  rw [record]
  split <;> exact ⟨rfl, rfl⟩

theorem settings_after :
    (c.after steps).capacity = c.capacity ∧ (c.after steps).least = c.least := by
  induction steps using List.reverseRecOn with
  | nil => exact ⟨rfl, rfl⟩
  | append_singleton steps step ih =>
    rw [after_append]
    cases step with
    | emit m =>
      obtain ⟨hcapacity, hleast⟩ := settings_record (c.after steps) m.event
      exact ⟨hcapacity.trans ih.1, hleast.trans ih.2⟩
    | clear => exact ih

variable {c e}

theorem entries_record_of_not_reaches (h : ¬ e.level.reaches c.least) :
    (c.record e).entries = c.entries := by
  rw [record, if_neg fun hc => h hc.1]

/-- An event that is severe enough goes to the end of the entries, of which the latest are kept. -/
theorem entries_record_of_reaches (h : e.level.reaches c.least)
    (hc : c.entries.length ≤ c.capacity) :
    (c.record e).entries = (c.entries ++ [e]).rtake c.capacity := by
  rw [record]
  cases hn : c.capacity with
  | zero =>
    rw [hn, Nat.le_zero, List.length_eq_zero_iff] at hc
    rw [if_neg (by simp), List.rtake_zero, hc]
  | succ n =>
    rw [hn] at hc
    rw [if_pos ⟨h, Nat.succ_ne_zero n⟩, List.rtake_concat_succ, List.rtake]
    dsimp only
    split
    · rw [show c.entries.length - n = 1 by omega]
    · rw [show c.entries.length - n = 0 by omega, List.drop_zero]

/-- What an emission does to the entries. -/
theorem entries_emit (m : Emission) (hc : c.entries.length ≤ c.capacity) :
    (c.emit m).entries =
      (c.entries ++ ([m].filter (·.level.reaches c.least)).map Emission.event).rtake
        c.capacity := by
  rw [emit]
  by_cases hm : m.level.reaches c.least
  · have hreaches : m.event.level.reaches c.least := by rwa [m.level_event]
    rw [entries_record_of_reaches hreaches hc, List.filter_cons, if_pos hm]
    rfl
  · have hreaches : ¬ m.event.level.reaches c.least := by rwa [m.level_event]
    rw [entries_record_of_not_reaches hreaches, List.filter_cons, if_neg hm, List.filter_nil,
      List.map_nil, List.append_nil, List.rtake, Nat.sub_eq_zero_of_le hc, List.drop_zero]

/-- The entries after a run: the latest of the events that are severe enough, of those emitted since
the last clear. -/
theorem entries_after (capacity : Nat) (least : Level) (steps : List Step) :
    (((new capacity).withLeast least).after steps).entries =
      (((sinceClear steps).filter (·.level.reaches least)).map Emission.event).rtake capacity := by
  induction steps using List.reverseRecOn with
  | nil => simp [after, new, withLeast, sinceClear]
  | append_singleton steps step ih =>
    obtain ⟨hcapacity, hleast⟩ := settings_after ((new capacity).withLeast least) steps
    rw [after_append]
    generalize ((new capacity).withLeast least).after steps = c at ih hcapacity hleast
    obtain rfl : c.capacity = capacity := hcapacity
    obtain rfl : c.least = least := hleast
    cases step with
    | emit m =>
      have hroom : c.entries.length ≤ c.capacity := by
        rw [ih, length_rtake]
        exact Nat.min_le_left _ _
      rw [Step.apply, entries_emit m hroom, ih, rtake_rtake_append, sinceClear_append_emit,
        List.filter_append, List.map_append]
    | clear =>
      rw [sinceClear_append_clear]
      simp [Step.apply, clear]

/-- A collector is a window on the latest events. After any run of emissions and clears it has, the
oldest first, as many of the last emissions since the last clear as there is room for, out of those
of the least level or a more severe one, each with its level, its target, its message and its other
values in order. Their number does not exceed the capacity, and the entries that are searched for a
text are those with the text in their messages. -/
theorem window_after (capacity : Nat) (least : Level) (steps : List Step) :
    let c := ((new capacity).withLeast least).after steps
    let counted := (sinceClear steps).filter fun m => m.level.rank ≤ least.rank
    c.entries = (counted.rtake (min capacity counted.length)).map Emission.shown ∧
      (c.size = c.entries.length ∧ c.size = min capacity counted.length ∧ c.size ≤ capacity) ∧
      ∀ needle,
        c.matching needle = c.entries.filter fun e => needle.toList <:+: e.message.toList := by
  intro c counted
  have hentries : c.entries = (counted.rtake capacity).map Emission.shown := by
    rw [show c.entries = (counted.map Emission.event).rtake capacity from
      entries_after capacity least steps, funext Emission.event_eq, List.rtake, List.rtake,
      List.length_map, List.map_drop]
  have hsize : c.size = min capacity counted.length := by
    rw [size, hentries, List.length_map, length_rtake]
  refine ⟨?_, ⟨rfl, hsize, ?_⟩, fun needle => ?_⟩
  · rw [hentries, rtake_min_length]
  · rw [hsize]
    exact Nat.min_le_left _ _
  · rw [matching]
    refine List.filter_congr fun e _ => ?_
    rw [Bool.eq_iff_iff, Text.occursIn_iff, decide_eq_true_iff]
    exact exists_congr fun front => exists_congr fun back => eq_comm

/-- Two of three warnings after a clear, with a debug report that does not count between them. -/
example :
    let warning := fun text : String =>
      Step.emit ⟨.warn, "app", [("row", .integer 1), (messageName, .text text)]⟩
    (((new 2).after [warning "a", .clear, warning "b", warning "c",
      .emit ⟨.debug, "app", []⟩, warning "d"]).entries.map Event.line) =
      ["WARN app: c row=1", "WARN app: d row=1"] := by
  decide +kernel

end Collector

end ViewQuery.Diagnostics
