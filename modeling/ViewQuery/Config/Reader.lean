import ViewQuery.Config.Decode
import ViewQuery.Config.Validate
import ViewQuery.Toml.Reader

/-!
# Reading configurations

A configuration is a TOML document that decodes and has no violation.

* `Config.parse`: the configuration that a text holds.
-/

namespace ViewQuery.Config

/-- Why a text is no configuration. -/
inductive Failure where
  | unreadable
  | invalid (violation : Violation)
  deriving DecidableEq, Repr

/-- The text of a failure. -/
def Failure.message : Failure → String
  | .unreadable => "failed to parse TOML"
  | .invalid v => v.message

/-- The configuration that a text holds. -/
def parse (s : String) : Except Failure Config :=
  match (Toml.parse s).bind ofData? with
  | none => .error .unreadable
  | some c =>
    match c.violation with
    | some v => .error (.invalid v)
    | none => .ok c

end ViewQuery.Config
