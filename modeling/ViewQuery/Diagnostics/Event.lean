import ViewQuery.Text.Quoted

/-!
# Diagnostic events

What the library reports about its work: an event has a level, the part of the library that reports
it, a message, and named fields in the order in which they were given. Values are kept as the texts
that they are shown as.

An event is emitted as a list of named values, and its message is one of them.

* `Event.report`: the event of a message and of fields that are given apart;
* `Emission.event`: the event of an emission, whose values are recorded one after the other.
-/

namespace ViewQuery.Diagnostics

/-- How severe an event is. -/
inductive Level where
  | error
  | warn
  | info
  | debug
  | trace
  deriving DecidableEq, Repr, Inhabited

namespace Level

/-- The place of a level, the most severe first. -/
def rank : Level → Nat
  | .error => 0
  | .warn => 1
  | .info => 2
  | .debug => 3
  | .trace => 4

/-- Whether an event of a level counts where events from `least` on do. -/
def reaches (level least : Level) : Bool := level.rank ≤ least.rank

/-- The name of a level. -/
def name : Level → String
  | .error => "ERROR"
  | .warn => "WARN"
  | .info => "INFO"
  | .debug => "DEBUG"
  | .trace => "TRACE"

/-- The level of a name. -/
def ofName? : String → Option Level
  | "ERROR" => some .error
  | "WARN" => some .warn
  | "INFO" => some .info
  | "DEBUG" => some .debug
  | "TRACE" => some .trace
  | _ => none

end Level

/-- The value of a field as it is given. -/
inductive Value where
  /-- A text that is shown as it is. -/
  | text (s : String)
  /-- A text that is shown between quotes. -/
  | quoted (s : String)
  /-- A whole number. -/
  | integer (i : Int)
  /-- A truth value. -/
  | flag (b : Bool)
  deriving DecidableEq, Repr

/-- The text that a value is shown as. -/
def Value.shown : Value → String
  | .text s => s
  | .quoted s => Text.quoted s
  | .integer i => toString i
  | .flag b => if b then "true" else "false"

/-- Something that was reported. -/
structure Event where
  level : Level
  target : String
  message : String
  fields : List (String × String)
  deriving DecidableEq, Repr

namespace Event

/-- An event with values that are still to be shown. -/
def report (level : Level) (target message : String) (fields : List (String × Value)) : Event :=
  { level, target, message, fields := fields.map fun f => (f.1, f.2.shown) }

/-- The value of a field. -/
def field? (e : Event) (name : String) : Option String := e.fields.lookup name

/-- An event in one line. -/
def line (e : Event) : String :=
  e.fields.foldl (fun s f => s ++ " " ++ f.1 ++ "=" ++ f.2)
    (e.level.name ++ " " ++ e.target ++ ": " ++ e.message)

end Event

/-! ## Emissions -/

/-- The name of the value that is the message. -/
def messageName : String := "message"

/-- What is emitted: values with their names, in the order in which they are recorded. -/
structure Emission where
  level : Level
  target : String
  values : List (String × Value)
  deriving DecidableEq, Repr

/-- Take note of a recorded value, which is the message or one more field. -/
def Event.note (e : Event) (value : String × Value) : Event :=
  if value.1 = messageName then { e with message := value.2.shown }
  else { e with fields := e.fields ++ [(value.1, value.2.shown)] }

/-- The event that is recorded of an emission. Without a message, the message is empty. -/
def Emission.event (m : Emission) : Event :=
  m.values.foldl Event.note { level := m.level, target := m.target, message := "", fields := [] }

end ViewQuery.Diagnostics
