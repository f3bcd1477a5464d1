import ViewQuery.Dict
import ViewQuery.Json.Basic
import ViewQuery.Text.Blank

/-!
# Requests and replies

The named values that a client sends along with a filter request, and those that are handed back to
it. A value of a request that is blank counts as none.
-/

namespace ViewQuery.Filter

/-- The parameters of a request. -/
structure Request where
  params : Dict String
  deriving DecidableEq, Repr

namespace Request

/-- A request without parameters. -/
def empty : Request := { params := [] }

/-- Set a parameter. -/
def set (r : Request) (name value : String) : Request :=
  { params := Dict.insert name value r.params }

/-- The request with the given parameters, of two with one name the later. -/
def ofList (pairs : List (String × String)) : Request := { params := Dict.ofList pairs }

/-- The value of a parameter. -/
def get? (r : Request) (name : String) : Option String := r.params.lookup name

/-- Whether a parameter was sent at all. -/
def contains (r : Request) (name : String) : Bool := (r.get? name).isSome

/-- The value of a parameter that is not blank. -/
def nonBlank? (r : Request) (name : String) : Option String :=
  (r.get? name).filter fun v => !Text.allBlank v

end Request

/-- The values that are handed back to the client. -/
structure Reply where
  params : Dict Json

namespace Reply

/-- Nothing handed back. -/
def empty : Reply := { params := [] }

/-- Set a value. -/
def set (r : Reply) (name : String) (value : Json) : Reply :=
  { params := Dict.insert name value r.params }

/-- The value of a name. -/
def get? (r : Reply) (name : String) : Option Json := r.params.lookup name

/-- All the values as one object. -/
def toJson (r : Reply) : Json := .object r.params

end Reply

end ViewQuery.Filter
