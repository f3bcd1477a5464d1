import ViewQuery.CommandLine.Option

/-!
# Command line arguments

What the program can be asked to do: the options before the name of a subcommand, the subcommands,
and the requests for help and for the version.

* `Request.ofWords`: what the words of a command line ask for.
-/

namespace ViewQuery.CommandLine

/-- A subcommand. -/
inductive Command where
  /-- Cut a list of expressions. -/
  | split (expressions : String)
  /-- Resolve a list of expressions, for the server or for the client. -/
  | resolve (tree source expressions : String) (forClient : Bool)
  /-- Filter the rows of a table. -/
  | filter (table rows : String) (params : List String) (globalValue : Option String)
  /-- Check the configuration, and perhaps show it. -/
  | config (isShown : Bool)
  deriving DecidableEq, Repr

/-- A run of the program. -/
structure Invocation where
  /-- The path of the configuration file. -/
  config : String
  /-- How often more log lines were asked for. -/
  verbosity : Nat
  command : Command
  deriving DecidableEq, Repr

/-- What a command line asks for. -/
inductive Request where
  | run (invocation : Invocation)
  | version
  /-- Help on the program, or on a subcommand. -/
  | help (subcommand : Option String)
  /-- The command line is not understood. -/
  | misuse
  deriving DecidableEq, Repr

/-! ## Options -/

/-- The option that asks for help. -/
def helpOption : Opt :=
  { name := "help", letter := some 'h', takes := .help, isRequired := false
    about := "Print help" }

/-- The path of the configuration file if none is given. -/
def defaultConfigPath : String := "searchgrid.toml"

/-- What stands before the name of a subcommand. -/
def programSpec : Spec :=
  { options :=
      [{ name := "config", letter := some 'c', takes := .path "CONFIG", isRequired := false
         about := "Path to configuration file [default: " ++ defaultConfigPath ++ "]" },
       { name := "verbose", letter := some 'v', takes := .count, isRequired := false
         about := "Increase log verbosity (-v, -vv)" },
       helpOption,
       { name := "version", letter := some 'V', takes := .version, isRequired := false
         about := "Print version" }]
    words := []
    hasSubcommands := true }

/-- The name of the list of expressions. -/
def expressionsWord : String := "EXPRESSIONS"

/-- A subcommand with what it understands. -/
structure Subcommand where
  name : String
  about : String
  spec : Spec
  /-- The command that was given. -/
  command : Reading → Command

/-- The subcommands in order. -/
def subcommands : List Subcommand :=
  [{ name := "split"
     about := "Split an expression list into its top-level expressions"
     spec :=
      { options := [helpOption]
        words := [(expressionsWord, "Comma or whitespace separated expressions")]
        hasSubcommands := false }
     command := fun r => .split (r.words.headD "") },
   { name := "resolve"
     about := "Resolve expressions against a component tree"
     spec :=
      { options :=
          [{ name := "tree", letter := none, takes := .path "TREE", isRequired := true
             about := "JSON file holding the root's children as component specs" },
           { name := "source", letter := none, takes := .text "SOURCE", isRequired := true
             about := "Client id of the component the expressions are relative to" },
           { name := "client", letter := none, takes := .nothing, isRequired := false
             about := "Print client tokens instead of one client id per line" },
           helpOption]
        words := [(expressionsWord, "Expressions to resolve")]
        hasSubcommands := false }
     command := fun r =>
       .resolve ((r.given.value? "tree").getD "") ((r.given.value? "source").getD "")
         (r.words.headD "") (r.given.value? "client").isSome },
   { name := "filter"
     about := "Filter the rows of a configured table"
     spec :=
      { options :=
          [{ name := "table", letter := none, takes := .text "TABLE", isRequired := true
             about := "Client id of a table from the configuration file" },
           { name := "rows", letter := none, takes := .path "ROWS", isRequired := true
             about := "JSON file holding the rows as an array" },
           { name := "param", letter := none, takes := .texts "K=V", isRequired := false
             about := "Column filter as \x60column=value\x60, or a raw \x60parameter=value\x60" },
           { name := "global", letter := none, takes := .text "GLOBAL", isRequired := false
             about := "Global filter value" },
           helpOption]
        words := []
        hasSubcommands := false }
     command := fun r =>
       .filter ((r.given.value? "table").getD "") ((r.given.value? "rows").getD "")
         (r.given.values "param") (r.given.value? "global") },
   { name := "config"
     about := "Validate and display configuration"
     spec :=
      { options :=
          [{ name := "show", letter := none, takes := .nothing, isRequired := false
             about := "Show the resolved configuration" },
           helpOption]
        words := []
        hasSubcommands := false }
     command := fun r => .config (r.given.value? "show").isSome }]

/-- The name of the subcommand that prints help. -/
def helpCommand : String := "help"

/-- The subcommand of a name. -/
def subcommand? (name : String) : Option Subcommand := subcommands.find? fun s => s.name == name

/-! ## Requests -/

/-- What words that are understood in part ask for. -/
def Request.ofHalt (subcommand : Option String) : Halt → Request
  | .usage => .misuse
  | .help => .help subcommand
  | .version => .version

/-- The request for help on what the words name. -/
def Request.ofHelpWords : List String → Request
  | [] => .help none
  | [name] =>
    if name = helpCommand ∨ (subcommand? name).isSome then .help (some name) else .misuse
  | _ => .misuse

/-- What the words of a command line ask for, the name of the program left out. -/
def Request.ofWords (words : List String) : Request :=
  match programSpec.read words with
  | .error halt => .ofHalt none halt
  | .ok program =>
    match program.rest with
    | [] => .misuse
    | name :: rest =>
      if name = helpCommand then .ofHelpWords rest
      else
        match subcommand? name with
        | none => .misuse
        | some s =>
          match s.spec.read rest with
          | .error halt => .ofHalt (some name) halt
          | .ok reading =>
            .run
              { config := (program.given.value? "config").getD defaultConfigPath
                verbosity := program.given.times "verbose"
                command := s.command reading }

end ViewQuery.CommandLine
