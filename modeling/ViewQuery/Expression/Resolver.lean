import ViewQuery.Expression.Registry
import ViewQuery.Expression.Split
import ViewQuery.Expression.Stage
import ViewQuery.Expression.Trail

/-!
# Resolving expressions

A search expression names a component relative to the component it is written on. It is a path, a
keyword, or a chain of both whose links are joined by the separator of the tree; several expressions
form a list. An expression is resolved to a component for the server, and to a token for the client:
the client id of the component, or the expression itself where only the client can follow it.

* `Resolver.component`, `Resolver.components`: one expression and a list, for the server;
* `Resolver.token`, `Resolver.tokens`: one expression and a list, for the client;
* `Resolver.check`: the rules of the grammar, which count in development only.
-/

namespace ViewQuery.Expression

open ViewQuery.Component (Handle Tree)
open ViewQuery.Text (trimmed)

/-- What resolving depends on besides the tree: the keywords, under which there are rules of this
library, and the stage. -/
structure Resolver where
  registry : Registry Rule
  stage : Stage
  deriving DecidableEq, Repr

/-- Whether a text holds a character. -/
def holds (c : Char) (s : String) : Bool := s.toList.contains c

/-- The text after a separator in front. -/
def afterSeparator (separator : Char) (expression : String) : Option String :=
  (Text.afterPrefix [separator] expression.toList).map String.ofList

/-- Put the separator back in front of the first link of an absolute chain, unless the link is
blank or has a keyword in it. -/
def rooted (separator : Char) : List String → List String
  | [] => []
  | first :: rest =>
    if first.isEmpty || holds keywordMark first then first :: rest
    else (String.singleton separator ++ first) :: rest

/-- The links of a chain, trimmed and without the blank ones. Of a chain that starts with the
separator, the first link is a path from the root. -/
def links (separator : Char) (expression : String) : List String :=
  let segments := match afterSeparator separator expression with
    | some rest => rooted separator ((splitSegments separator rest).map trimmed)
    | none => (splitSegments separator expression).map trimmed
  segments.filter fun s => !s.isEmpty

namespace Resolver

/-- The resolver of the built-in keywords for a stage. -/
def builtin (stage : Stage) : Resolver := { registry := .builtin, stage }

/-- Production is where grammar checks do not count. -/
instance : Inhabited Resolver := ⟨builtin .production⟩

/-- The rule of an expression that is one segment. -/
def soleRule (r : Resolver) (t : Tree) (expression : String) : Option Rule :=
  match splitSegments t.separator expression with
  | [segment] => r.registry.find (trimmed segment)
  | _ => none

/-- Whether an expression goes to the client as it is written. -/
def passesThrough (r : Resolver) (t : Tree) (expression : String) : Bool :=
  (r.soleRule t expression).any Rule.passesThrough

/-- Whether an expression means something to the client only. -/
def isClientOnly (r : Resolver) (t : Tree) (expression : String) : Bool :=
  (r.soleRule t expression).any Rule.isClientOnly

/-! ## The grammar -/

/-- The reason for refusing a keyword that is to be looked for from the root. -/
def rootedKeywordReason : String :=
  "an expression must not start with the separator followed by a keyword"

/-- The reason for refusing a link. -/
def nestedReason (segment : String) : String :=
  "subexpression \"" ++ segment ++ "\" can not be nested"

/-- Whether a trimmed segment may not be a link of a chain. -/
def refusesLink (r : Resolver) (segment : String) : Bool :=
  (r.registry.find segment).any fun rule => !rule.isNestable

/-- The first rule of the grammar that an expression breaks, as a reason: a keyword is relative to
the closest component, so it is not looked for from the root, and some keywords stand alone. -/
def breach (r : Resolver) (separator : Char) (expression : String) : Option String :=
  if [separator, keywordMark].isPrefixOf expression.toList then some rootedKeywordReason
  else
    match splitSegments separator expression with
    | first :: second :: rest =>
      (((first :: second :: rest).map trimmed).find? r.refusesLink).map nestedReason
    | _ => none

/-- Refuse an expression that breaks a rule of the grammar, in development. -/
def check (r : Resolver) (t : Tree) (source : Handle) (expression : String) :
    Except Failure Unit :=
  if r.stage = .development then
    match r.breach t.separator expression with
    | some reason => do
      let origin ← ofTree (t.clientId source)
      .error (.error (.malformed expression origin reason))
    | none => .ok ()
  else .ok ()

/-! ## One expression -/

/-- The error for a segment that leads nowhere from an anchor. -/
def notFound {α : Type} (t : Tree) (source anchor : Handle) (segment expression : String) :
    Except Failure α := do
  let anchorId ← ofTree (t.clientId anchor)
  let origin ← ofTree (t.clientId source)
  .error (.error (.notFound segment anchorId expression origin))

/-- The component that a segment of an expression leads to. -/
def step (r : Resolver) (t : Tree) (source anchor : Handle) (segment expression : String) :
    Except Failure Handle := do
  match r.registry.find segment with
  | none => .error (.error (.unknownKeyword segment expression))
  | some rule =>
    match ← rule.resolve t source anchor segment with
    | some h => .ok h
    | none => notFound t source anchor segment expression

/-- Follow the links of a chain from an anchor. -/
def follow (r : Resolver) (t : Tree) (source : Handle) (expression : String) (anchor : Handle) :
    List String → Trail Handle
  | [] => pure anchor
  | segment :: rest => do
    let next ← Trail.lift (r.step t source anchor segment expression)
    Trail.hop { segment, origin := anchor, target := next }
    follow r t source expression next rest

/-- The component of a trimmed expression: one without a keyword is a path, one without a separator
is a keyword, and any other is a chain. -/
def find (r : Resolver) (t : Tree) (source : Handle) (expression : String) : Trail Handle :=
  if !holds keywordMark expression then
    Trail.lift do
      match ← ofTree (t.findByPath source expression) with
      | some h => .ok h
      | none => notFound t source source expression expression
  else if !holds t.separator expression then
    Trail.lift (r.step t source source expression expression)
  else r.follow t source expression source (links t.separator expression)

/-- The component of an expression; a blank expression and the keyword for no component have
none. -/
def component (r : Resolver) (t : Tree) (source : Handle) (expression : String) :
    Trail (Option Handle) := do
  let expression := trimmed expression
  if expression.isEmpty then return none
  Trail.lift (r.check t source expression)
  if expression = noneKeyword then return none
  if r.isClientOnly t expression then
    Trail.lift (.error (.error (.unsupported expression)))
  else
    let h ← r.find t source expression
    return some h

/-- The token of an expression for the client; a blank expression has none. -/
def token (r : Resolver) (t : Tree) (source : Handle) (expression : String) :
    Trail (Option String) := do
  let expression := trimmed expression
  if expression.isEmpty then return none
  Trail.lift (r.check t source expression)
  if r.passesThrough t expression then return some expression
  let h ← r.find t source expression
  let clientId ← Trail.lift (ofTree (t.clientId h))
  return some clientId

/-! ## Lists -/

/-- The results of several expressions in order, without those that have none. -/
def collect {α : Type} (resolve : String → Trail (Option α)) : List String → Trail (List α)
  | [] => pure []
  | expression :: rest => do
    let result ← resolve expression
    let results ← collect resolve rest
    return result.toList ++ results

/-- The components of a list of expressions. -/
def components (r : Resolver) (t : Tree) (source : Handle) (expressions : String) :
    Trail (List Handle) :=
  collect (r.component t source) (splitExpressions expressions)

/-- The tokens of a list of expressions with single spaces between them, or the keyword for no
component where there are none. -/
def tokens (r : Resolver) (t : Tree) (source : Handle) (expressions : String) : Trail String := do
  let found ← collect (r.token t source) (splitExpressions expressions)
  return if found.isEmpty then noneKeyword else Text.joinWith ' ' found

end Resolver

end ViewQuery.Expression
