import ViewQuery.Data
import ViewQuery.Number.Binary64

/-!
# TOML values

The values of the configuration format: texts, numbers, truth values, dates and times, arrays and
tables. The members of a table stand in the order in which they were defined, each key once.
-/

namespace ViewQuery

namespace Toml

/-- A day of the calendar. -/
structure Date where
  year : Nat
  month : Nat
  day : Nat
  deriving DecidableEq, Repr

/-- A time of day. -/
structure Time where
  hour : Nat
  minute : Nat
  second : Nat
  nanosecond : Nat
  deriving DecidableEq, Repr

/-- A day, a time, or a time of a day, which may have an offset in minutes. -/
inductive Moment where
  | date (date : Date)
  | time (time : Time)
  | dateTime (date : Date) (time : Time) (offset : Option Int)
  deriving DecidableEq, Repr

end Toml

/-- A TOML value. -/
inductive Toml where
  | string (value : String)
  | integer (value : Int)
  | float (value : Number.Binary64)
  | boolean (value : Bool)
  | moment (value : Toml.Moment)
  | array (items : List Toml)
  | table (members : List (String × Toml))
  deriving Repr, Inhabited

/-- A date or time is taken for a record without any field that a structure has. -/
instance : Data Toml where
  view
    | .string s => .text s
    | .boolean b => .flag b
    | .array items => .list items
    | .table members => .record members
    | .moment _ => .record []
    | .integer _ | .float _ => .other
  isUnit
    | .array [] | .table [] => true
    | _ => false
  allowsExtraItems := true

end ViewQuery
