import ViewQuery.Json.Document

/-!
# Data formats

A value of a data format as a decoder sees it: a text, a truth value, a list, a record, nothing, or
something that no decoder of this library asks for. What decoders have in common is said once, for
every format.

* `Data.fields?`: the fields of a structure, given by name or by position;
* `Data.variant?`: one of several names, alone or as the only key of a record.
-/

namespace ViewQuery

/-- A value as a decoder sees it. -/
inductive Data.View (α : Type) where
  | nothing
  | text (s : String)
  | flag (b : Bool)
  | list (items : List α)
  | record (members : List (String × α))
  | other

/-- A data format whose values are of type `α`. -/
class Data (α : Type) where
  /-- What a decoder sees of a value. -/
  view : α → Data.View α
  /-- Whether a value may stand under a name that has no content. -/
  isUnit : α → Bool
  /-- Whether a structure given by position may have more items than fields. -/
  allowsExtraItems : Bool

namespace Data

variable {α : Type} [Data α]

/-- A text. -/
def text? (d : α) : Option String :=
  match view d with
  | .text s => some s
  | _ => none

/-- A text of one character. -/
def char? (d : α) : Option Char :=
  (text? d).bind fun s => match s.toList with
    | [c] => some c
    | _ => none

/-- A truth value. -/
def flag? (d : α) : Option Bool :=
  match view d with
  | .flag b => some b
  | _ => none

/-- A text or nothing. -/
def textOrNothing? (d : α) : Option (Option String) :=
  match view d with
  | .nothing => some none
  | .text s => some (some s)
  | _ => none

/-- A list of values that decode alike. -/
def list? {β : Type} (decode : α → Option β) (d : α) : Option (List β) :=
  match view d with
  | .list items => items.mapM decode
  | _ => none

/-- The values under a name, which must not be there twice. -/
def unique? (members : List (String × α)) (name : String) : Option (Option α) :=
  match members.filter fun m => m.1 == name with
  | [] => some none
  | [m] => some (some m.2)
  | _ => none

/-- The fields of a structure in the order of their names, `none` for one that is not given. -/
def fields? (names : List String) (d : α) : Option (List (Option α)) :=
  match view d with
  | .record members => names.mapM (unique? members)
  | .list items =>
    if items.length ≤ names.length ∨ allowsExtraItems α then
      some ((List.range names.length).map fun i => items[i]?)
    else none
  | _ => none

/-- Decode a field, or take its default where it is not given. -/
def orDefault {β : Type} (decode : α → Option β) (default : β) (field : Option α) : Option β :=
  match field with
  | some d => decode d
  | none => some default

/-- One of several names: a text, or the only key of a record with no content under it. -/
def variant? {β : Type} (ofName : String → Option β) (d : α) : Option β :=
  match view d with
  | .text s => ofName s
  | .record [(name, content)] => if isUnit content then ofName name else none
  | _ => none

end Data

/-! ## JSON -/

instance : Data Json where
  view
    | .null => .nothing
    | .bool b => .flag b
    | .number _ => .other
    | .string s => .text s
    | .array items => .list items
    | .object members => .record members
  isUnit
    | .null => true
    | _ => false
  allowsExtraItems := false

/-- Members whose keys are texts. -/
def Json.Document.keyed? (members : List (Option String × Json.Document)) :
    Option (List (String × Json.Document)) :=
  members.mapM fun m => m.1.map fun key => (key, m.2)

instance : Data Json.Document where
  view
    | .null => .nothing
    | .bool b => .flag b
    | .number _ => .other
    | .string (some s) => .text s
    | .string none => .other
    | .array items => .list items
    | .object members =>
      match Json.Document.keyed? members with
      | some members => .record members
      | none => .other
  isUnit
    | .null => true
    | _ => false
  allowsExtraItems := false

end ViewQuery
