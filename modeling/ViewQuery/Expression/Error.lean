import ViewQuery.Component.Tree

/-!
# Why an expression does not resolve

The errors of search expressions with their texts. An error carries the client ids it speaks of, so
that its text needs no tree. Next to the errors stand the faults of a tree that is read at a handle
it does not have.
-/

namespace ViewQuery.Expression

/-- What is wrong with an expression. `origin` is the client id of the component that the expression
is written on. -/
inductive Error where
  /-- The expression breaks a rule of the grammar. -/
  | malformed (expression origin reason : String)
  /-- No component answers to a segment, looked for from the component `anchor`. -/
  | notFound (segment anchor expression origin : String)
  /-- The expression means something to the client only. -/
  | unsupported (expression : String)
  /-- A segment starts with the keyword mark, but with no registered keyword. -/
  | unknownKeyword (keyword expression : String)
  deriving DecidableEq, Repr

/-- The text of an error. -/
def Error.message : Error → String
  | .malformed expression origin reason =>
    "malformed search expression \"" ++ expression ++ "\" from \"" ++ origin ++ "\": " ++ reason
  | .notFound segment anchor expression origin =>
    "cannot find component for \"" ++ segment ++ "\" from \"" ++ anchor ++ "\" in expression \"" ++
      expression ++ "\" referenced from \"" ++ origin ++ "\""
  | .unsupported expression =>
    "client side expression cannot be resolved on the server: " ++ expression
  | .unknownKeyword keyword expression =>
    "no resolver registered for \"" ++ keyword ++ "\" in expression \"" ++ expression ++ "\""

/-- Why a resolution ends without a result. -/
inductive Failure where
  | error (error : Error)
  | fault (fault : Component.Fault)
  deriving DecidableEq, Repr

/-- Go on after a walk through a tree. -/
def ofTree {α : Type} : Except Component.Fault α → Except Failure α
  | .ok a => .ok a
  | .error f => .error (.fault f)

end ViewQuery.Expression
