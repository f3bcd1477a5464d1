import ViewQuery.Diagnostics.Event
import ViewQuery.Number.Index
import ViewQuery.Text.Blank
import ViewQuery.Text.Cut
import ViewQuery.Text.LetterTable

/-!
# Log filters

A log filter tells which events are reported. It is a list of directives with commas between them:
a level, a target, or a target and a level with an equals sign between them; a target may carry the
name of a span and of fields in brackets. A directive speaks of the events whose targets start with
its own and that have its fields; of several the most specific one decides, and of two that are
equally specific the later.

* `LogFilter.parse`: the filter of a text, with complaints about directives that are none;
* `LogFilter.parse?`: the filter of a text if all of it is directives;
* `LogFilter.enables`: whether an event is reported.
-/

namespace ViewQuery.Diagnostics

/-- The events from a level on, or no events. -/
abbrev Threshold : Type := Option Level

/-- The threshold of a name, in any letter case, or of a number. -/
def Threshold.ofText? (s : String) : Option Threshold :=
  match Number.readIndex s.toList with
  | some 0 => some none
  | some 1 => some (some .error)
  | some 2 => some (some .warn)
  | some 3 => some (some .info)
  | some 4 => some (some .debug)
  | some 5 => some (some .trace)
  | _ =>
    match String.ofList (s.toList.map Char.toUpper) with
    | "OFF" => some none
    | name => (Level.ofName? name).map some

/-- One directive of a log filter. -/
structure Directive where
  target : Option String
  /-- The span that events have to lie in. -/
  span : Option String
  /-- The fields that events have to have, with `true` where a value is asked for. -/
  fields : List (String × Bool)
  threshold : Threshold
  deriving DecidableEq, Repr

/-- Why a text is no directive. -/
inductive Directive.Fault where
  | form
  | level
  deriving DecidableEq, Repr

/-- The text of a fault. -/
def Directive.Fault.message : Directive.Fault → String
  | .form => "invalid filter directive"
  | .level =>
    "error parsing level filter: expected one of \"off\", \"error\", \"warn\", \"info\", " ++
      "\"debug\", \"trace\", or a number 0-5"

namespace Directive

/-! ## Reading directives -/

/-- Where in a directive a character stands, with the position at which the part began. -/
inductive Place where
  | start
  | word (first : Nat)
  | span (first : Nat)
  | field (first : Nat)
  | afterFields
  | afterSpan
  | level (first : Nat)
  deriving DecidableEq, Repr

/-- The directive of no text, which asks for everything. -/
def everything : Directive :=
  { target := none, span := none, fields := [], threshold := some .trace }

/-- The part of a text from one position up to another. -/
def slice (text : List Char) (first last : Nat) : String :=
  .ofList ((text.drop first).take (last - first))

/-- A field, of which a value may be asked for. -/
def fieldOf (s : String) : String × Bool :=
  match Text.cutAt ['='] s.toList with
  | some (name, _) => (.ofList name, true)
  | none => (s, false)

/-- Whether a directive may start with a character. -/
def mayStart (c : Char) : Bool := ['-', ':', '_'].contains c || Text.isAlphanumeric c

/-- Go on by the character at a position. -/
def step (text : List Char) (s : Place × Directive) (c : Char × Nat) :
    Except Fault (Place × Directive) :=
  let (place, d) := s
  let (c, i) := c
  match place, c with
  | .start, '[' => .ok (.span (i + 1), d)
  | .start, c => if mayStart c then .ok (.word i, d) else .error .form
  | .word j, '=' => .ok (.level (i + 1), { d with target := some (slice text j i) })
  | .word j, '[' => .ok (.span (i + 1), { d with target := some (slice text j i) })
  | .word j, _ => .ok (.word j, d)
  | .span j, ']' => .ok (.afterSpan, { d with span := some (slice text j i) })
  | .span j, '\x7b' =>
    let name := slice text j i
    .ok (.field (i + 1), { d with span := if name.isEmpty then none else some name })
  | .span j, _ => .ok (.span j, d)
  | .field j, '\x7d' =>
    let field := slice text j i
    if field.isEmpty then .error .form
    else .ok (.afterFields, { d with fields := d.fields ++ [fieldOf field] })
  | .field j, _ => .ok (.field j, d)
  | .afterFields, ']' => .ok (.afterSpan, d)
  | .afterSpan, '=' => .ok (.level (i + 1), d)
  | .level j, _ => .ok (.level j, d)
  | _, _ => .error .form

/-- The directive at the end of its text. One word is a level if it can be, and a target
otherwise. -/
def ending (text : List Char) (s : Place × Directive) : Except Fault Directive :=
  let (place, d) := s
  match place with
  | .word j =>
    let word := slice text j text.length
    match Threshold.ofText? word with
    | some threshold => .ok { d with threshold }
    | none => .ok { d with target := some word }
  | .level j =>
    let word := slice text j text.length
    if word.isEmpty then .ok d
    else match Threshold.ofText? word with
      | some threshold => .ok { d with threshold }
      | none => .error .level
  | .afterSpan => .ok d
  | _ => .error .form

/-- The directive of a text. Its parts are told apart in the trimmed text, and taken from the same
positions of the text as it is. -/
def parse (s : String) : Except Fault Directive := do
  let text := s.toList
  let last ← (Text.trim text).zipIdx.foldlM (step text) (.start, everything)
  ending text last

/-! ## Deciding -/

/-- Whether a directive decides on events by themselves: it names no span and asks for no value. -/
def isStatic (d : Directive) : Bool := d.span.isNone && d.fields.all fun f => !f.2

/-- Whether a directive speaks of an event. -/
def speaksOf (d : Directive) (e : Event) : Bool :=
  (d.target.all fun t => t.toList.isPrefixOf e.target.toList) &&
    d.fields.all fun f => f.1 == "message" || (e.field? f.1).isSome

/-- How specific a directive is by its target. -/
def targetLength (d : Directive) : Nat := (d.target.map fun t => t.length + 1).getD 0

/-- Whether a directive is less specific than another: by the length of its target, then by the
number of its fields, and then by their names. -/
def lessSpecific (d e : Directive) : Bool :=
  if d.targetLength ≠ e.targetLength then d.targetLength < e.targetLength
  else if d.fields.length ≠ e.fields.length then d.fields.length < e.fields.length
  else d.fields.map (·.1) < e.fields.map (·.1)

end Directive

/-- The directives of a log filter in order. -/
structure LogFilter where
  directives : List Directive
  deriving DecidableEq, Repr

namespace LogFilter

/-- The parts of a text that should be directives. -/
def parts (s : String) : List String := (Text.piecesBetween ',' s).filter fun p => !p.isEmpty

/-- The filter that counts where no directive can be read. -/
def default : LogFilter :=
  { directives := [{ Directive.everything with threshold := some .error }] }

/-- The complaint about a text that is no directive. -/
def complaint (s : String) (f : Directive.Fault) : String := "ignoring `" ++ s ++ "`: " ++ f.message

/-- The filter of a text, and the complaints about it in order. -/
def parse (s : String) : LogFilter × List String :=
  let read := (parts s).map fun p => (p, Directive.parse p)
  let directives := read.filterMap fun r => r.2.toOption
  let complaints := read.filterMap fun r => match r.2 with
    | .error f => some (complaint r.1 f)
    | .ok _ => none
  (if directives.isEmpty then default else { directives }, complaints)

/-- The filter of a text if all of its parts are directives. Without any of them nothing is
reported. -/
def parse? (s : String) : Option LogFilter := do
  let directives ← (parts s).mapM fun p => (Directive.parse p).toOption
  pure { directives }

/-- The directive that decides on an event. -/
def decisive (f : LogFilter) (e : Event) : Option Directive :=
  (f.directives.filter fun d => d.isStatic && d.speaksOf e).foldl (fun best d =>
    match best with
    | some b => if d.lessSpecific b then best else some d
    | none => some d) none

/-- Whether an event is reported. -/
def enables (f : LogFilter) (e : Event) : Bool :=
  (f.decisive e).any fun d => d.threshold.any fun least => e.level.reaches least

end LogFilter

end ViewQuery.Diagnostics
