import ViewQuery.Dict
import ViewQuery.Number.Binary64
import ViewQuery.Number.Index

/-!
# JSON values

The values of the data format, with whole numbers and double-precision numbers kept apart, and
the members of an object in the order of their keys.

* `Json.get?`: one step into an object or an array;
* `Json.at?`: several steps, one for each part of a path.
-/

namespace ViewQuery

/-- A number: a whole one of 64 bits, signed or unsigned, or a double-precision one. -/
inductive Json.Number where
  | integer (value : Int)
  | double (value : Number.Binary64)
  deriving DecidableEq, Repr

/-- A JSON value. The members of an object are a `Dict`. -/
inductive Json where
  | null
  | bool (value : Bool)
  | number (value : Json.Number)
  | string (value : String)
  | array (items : List Json)
  | object (members : List (String × Json))
  deriving Repr, Inhabited

namespace Json

/-- A natural number as a value. -/
def ofNat (n : Nat) : Json := .number (.integer n)

/-- The value under a key of an object, or at an index of an array. -/
def get? (part : String) : Json → Option Json
  | .object members => members.lookup part
  | .array items => (Number.readIndex part.toList).bind fun i => items[i]?
  | _ => none

/-- The value that is reached by one step for each part. -/
def at? (value : Json) (parts : List String) : Option Json :=
  parts.foldl (fun current part => current.bind (get? part)) (some value)

end Json

end ViewQuery
