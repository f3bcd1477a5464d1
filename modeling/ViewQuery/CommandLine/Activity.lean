import ViewQuery.Config.Reader
import ViewQuery.Diagnostics.Event
import ViewQuery.Expression.Error
import ViewQuery.Filter.Error

/-!
# Activities

What a command does, one step after another: it prints lines, adds lines to its report, lets events
happen, and comes to a result or fails. A step that fails is the last one, and what was printed
before it stays printed.

* `Error`: why a command fails;
* `Activity.andThen`: one activity after another;
* `Activity.print`, `Activity.remark`, `Activity.report`, `Activity.lift`: the single steps.
-/

namespace ViewQuery.CommandLine

open ViewQuery.Diagnostics (Event)

/-! ## Errors -/

/-- Why a command fails. -/
inductive Error where
  | unreadableConfig (reason : String)
  | config (failure : Config.Failure)
  | unreadableTree (path : String)
  | malformedTree (path : String)
  | unknownSource (source path : String)
  | expression (failure : Expression.Failure)
  | unknownTable (table : String)
  | unreadableRows (path : String)
  | malformedRows (path : String)
  | malformedParam (param : String)
  /-- A filter is given for a group of columns as a whole; `name` is the name of the group within
  the table. -/
  | groupParam (key name : String)
  | filter (error : Filter.Error)

/-- The text of an error. -/
def Error.message : Error → String
  | .unreadableConfig reason => "failed to read config file: " ++ reason
  | .config f => f.message
  | .unreadableTree path => "reading component tree " ++ path
  | .malformedTree path => "parsing component tree " ++ path
  | .unknownSource source path => "source component \"" ++ source ++ "\" not found in " ++ path
  | .expression (.error e) => e.message
  | .expression (.fault _) => "component is not in the tree"
  | .unknownTable table => "table \"" ++ table ++ "\" is not configured"
  | .unreadableRows path => "reading rows " ++ path
  | .malformedRows path => "parsing rows " ++ path
  | .malformedParam param => "filter parameter \"" ++ param ++ "\" is not in key=value form"
  | .groupParam key name =>
    "column \"" ++ key ++ "\" is a dynamic group; pass " ++ name ++ "_colIndex_N_filter=..."
  | .filter e => e.message

/-! ## Steps -/

/-- What was done, and how it ended. -/
structure Activity (α : Type) where
  /-- The lines that were printed. -/
  printed : List String
  /-- The lines that were added to the report. -/
  remarks : List String
  /-- The events that happened. -/
  events : List Event
  outcome : Except Error α

namespace Activity

variable {α β : Type}

/-- An outcome without anything done. -/
def lift (outcome : Except Error α) : Activity α :=
  { printed := [], remarks := [], events := [], outcome }

/-- Go on with what is there, or fail. -/
def require (x : Option α) (e : Error) : Activity α :=
  lift (match x with
    | some a => .ok a
    | none => .error e)

/-- Print a line. -/
def print (line : String) : Activity Unit :=
  { printed := [line], remarks := [], events := [], outcome := .ok () }

/-- Add a line to the report. -/
def remark (line : String) : Activity Unit :=
  { printed := [], remarks := [line], events := [], outcome := .ok () }

/-- Let events happen. -/
def report (events : List Event) : Activity Unit :=
  { printed := [], remarks := [], events, outcome := .ok () }

/-- Go on with a result; a failure ends the activity. -/
def andThen (a : Activity α) (f : α → Activity β) : Activity β :=
  match a.outcome with
  | .ok x =>
    { printed := a.printed ++ (f x).printed
      remarks := a.remarks ++ (f x).remarks
      events := a.events ++ (f x).events
      outcome := (f x).outcome }
  | .error e =>
    { printed := a.printed, remarks := a.remarks, events := a.events, outcome := .error e }

instance : Monad Activity where
  pure a := lift (.ok a)
  bind := andThen

/-- Print lines one after the other. -/
def printAll : List String → Activity Unit
  | [] => pure ()
  | line :: rest => do
    print line
    printAll rest

theorem bind_of_ok {a : Activity α} {x : α} (h : a.outcome = .ok x) (f : α → Activity β) :
    a >>= f =
      { printed := a.printed ++ (f x).printed
        remarks := a.remarks ++ (f x).remarks
        events := a.events ++ (f x).events
        outcome := (f x).outcome } := by
  obtain ⟨printed, remarks, events, outcome⟩ := a
  subst h
  rfl

theorem bind_of_error {a : Activity α} {e : Error} (h : a.outcome = .error e)
    (f : α → Activity β) :
    a >>= f =
      { printed := a.printed, remarks := a.remarks, events := a.events, outcome := .error e } := by
  obtain ⟨printed, remarks, events, outcome⟩ := a
  subst h
  rfl

@[simp] theorem lift_ok_bind (x : α) (f : α → Activity β) : lift (.ok x) >>= f = f x := rfl

theorem mk_ok_bind (printed remarks : List String) (events : List Event) (x : α)
    (f : α → Activity β) :
    ({ printed, remarks, events, outcome := .ok x } : Activity α) >>= f =
      { printed := printed ++ (f x).printed, remarks := remarks ++ (f x).remarks
        events := events ++ (f x).events, outcome := (f x).outcome } := rfl

theorem printAll_eq (lines : List String) :
    printAll lines = { printed := lines, remarks := [], events := [], outcome := .ok () } := by
  induction lines with
  | nil => rfl
  | cons line lines ih =>
    rw [printAll, ih]
    rfl

/-- What follows a requirement succeeds only where the requirement is met. -/
theorem exists_of_require_bind {x : Option α} {e : Error} {f : α → Activity β} {y : β}
    (h : (require x e >>= f).outcome = .ok y) : ∃ a, x = some a ∧ require x e >>= f = f a := by
  cases x with
  | none => cases h
  | some a => exact ⟨a, rfl, rfl⟩

/-- What follows a computation succeeds only where the computation gives a result. -/
theorem exists_of_lift_bind {x : Except Error α} {f : α → Activity β} {y : β}
    (h : (lift x >>= f).outcome = .ok y) : ∃ a, x = .ok a ∧ lift x >>= f = f a := by
  cases x with
  | error e => cases h
  | ok a => exact ⟨a, rfl, rfl⟩

end Activity

end ViewQuery.CommandLine
