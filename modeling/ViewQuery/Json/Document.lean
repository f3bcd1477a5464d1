import ViewQuery.Json.Basic

/-!
# JSON documents

What a JSON text says before its values are looked at: members in the order in which they are
written, repeated keys included, and `none` in the place of a number too large for a double and of
a string with one half of a surrogate pair alone. A reader that passes over a part of a document
accepts such places in it.

* `Document.toJson?`: the value of a document, where the last member of one key counts, and at
  most `maxNesting` arrays and objects lie within one another.
-/

namespace ViewQuery.Json

/-- A JSON text as it is written. -/
inductive Document where
  | null
  | bool (value : Bool)
  | number (value : Option Number)
  | string (value : Option String)
  | array (items : List Document)
  | object (members : List (Option String × Document))

namespace Document

/-- How many arrays and objects may lie within one another. -/
def maxNesting : Nat := 127

mutual

/-- The value of a document that may open `room` arrays and objects within one another. -/
def toJsonWithin? (room : Nat) : Document → Option Json
  | .null => some .null
  | .bool b => some (.bool b)
  | .number n => n.map .number
  | .string s => s.map .string
  | .array items =>
    if room = 0 then none else (itemsWithin? (room - 1) items).map .array
  | .object members =>
    if room = 0 then none
    else (membersWithin? (room - 1) members).map fun pairs => .object (Dict.ofList pairs)

/-- The values of the items of an array. -/
def itemsWithin? (room : Nat) : List Document → Option (List Json)
  | [] => some []
  | item :: rest => do
    let value ← toJsonWithin? room item
    let values ← itemsWithin? room rest
    pure (value :: values)

/-- The keys and values of the members of an object, as written. -/
def membersWithin? (room : Nat) : List (Option String × Document) → Option (List (String × Json))
  | [] => some []
  | (key, member) :: rest => do
    let key ← key
    let value ← toJsonWithin? room member
    let pairs ← membersWithin? room rest
    pure ((key, value) :: pairs)

end

/-- The value of a document. -/
def toJson? (d : Document) : Option Json := toJsonWithin? maxNesting d

end Document

end ViewQuery.Json
