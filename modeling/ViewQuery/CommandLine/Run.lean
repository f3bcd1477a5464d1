import ViewQuery.CommandLine.Activity
import ViewQuery.CommandLine.Files
import ViewQuery.CommandLine.Help
import ViewQuery.Component.Outline
import ViewQuery.Config.Printer
import ViewQuery.Diagnostics.Collector
import ViewQuery.Diagnostics.LogFilter
import ViewQuery.Expression.Resolver
import ViewQuery.Filter.Matching
import ViewQuery.Json.Printer
import ViewQuery.Json.Reader

/-!
# Running the program

What a command line does, given what is found at the paths it names and what the environment says
about logging.

The report of a run is what it writes to standard error, but for the log: the lines in which the
events that the log filter enables are written there as they happen. These lines hold the time, and
nothing else of the report depends on them.

* `run`: the exit code, the printed text and the report of a command line;
* `runCommand`: what a command does, step by step;
* `requestOfParams`: the filter request of the arguments of `filter`.
-/

namespace ViewQuery.CommandLine

open ViewQuery.Diagnostics (Collector Event LogFilter)
open ViewQuery.Component (Handle Outline Tree)

/-! ## Results -/

/-- What a run leaves: its exit code, the text that it prints, and the lines of its report. -/
structure Result where
  code : Nat
  printed : String
  /-- What is written to standard error, without the log. -/
  report : List String
  deriving DecidableEq, Repr

/-! ## Commands -/

/-- The text at a path, if there is one. -/
def textAt? (files : String → Found) (path : String) : Option String :=
  match files path with
  | .text content => some content
  | _ => none

/-- Cut a list of expressions. -/
def runSplit (expressions : String) : Activity Unit :=
  .printAll (Expression.splitExpressions expressions)

/-- The components of a document. -/
def treeOf? (separator : Char) (content : String) : Option Tree :=
  ((Json.Document.parse content).bind Outline.listOfData?).map (Tree.ofOutlines separator)

/-- The component of a client id, if there is one. -/
def sourceOf? (tree : Tree) (clientId : String) : Option Handle :=
  (tree.findByClientId clientId).toOption.join

/-- What became of expressions. -/
def resolved {α : Type} (outcome : Except Expression.Failure α) : Activity α :=
  .lift (outcome.mapError .expression)

/-- Print the client ids of components, each as soon as it is read. -/
def printClientIds (tree : Tree) : List Handle → Activity Unit
  | [] => pure ()
  | component :: rest => do
    let id ← resolved (Expression.ofTree (tree.clientId component))
    .print id
    printClientIds tree rest

/-- Resolve a list of expressions against the tree in a file. -/
def runResolve (config : Config) (files : String → Found) (path source expressions : String)
    (forClient : Bool) : Activity Unit := do
  let content ← .require (textAt? files path) (.unreadableTree path)
  let tree ← .require (treeOf? config.expressions.separator content) (.malformedTree path)
  let source ← .require (sourceOf? tree source) (.unknownSource source path)
  let resolver := Expression.Resolver.builtin config.expressions.stage
  if forClient then
    let tokens ← resolved (resolver.tokens tree source expressions).outcome
    .print tokens
  else
    let components ← resolved (resolver.components tree source expressions).outcome
    printClientIds tree components

/-- The parameter that an argument `key=value` sets: that of the column if the key is the id of
one, and else the key itself. A group of columns has a parameter for each of its columns, so the id
of a group is refused. -/
def paramOfKey {R : Type} (table : Filter.Table R) (key : String) : Except Error String :=
  match table.columns.find? fun c => c.id == key with
  | none => .ok key
  | some c =>
    match c.binding with
    | .single _ => .ok (table.columnParam key)
    | .group _ => .error (.groupParam key (table.qualified key))

/-- The parameter and the value that an argument sets. -/
def paramOf {R : Type} (table : Filter.Table R) (param : String) :
    Except Error (String × String) :=
  match Text.cutAt ['='] param.toList with
  | none => .error (.malformedParam param)
  | some (key, value) => do
    let name ← paramOfKey table (String.ofList key)
    pure (name, String.ofList value)

/-- The filter request of the arguments of `filter`, which are set in order, and of a value of the
global filter. -/
def requestOfParams {R : Type} (table : Filter.Table R) (params : List String)
    (globalValue : Option String) : Except Error Filter.Request := do
  let start := Filter.Request.empty.set table.filteringParam "true"
  let pairs ← params.mapM (paramOf table)
  let request := pairs.foldl (fun r p => r.set p.1 p.2) start
  pure (match globalValue with
    | some value => request.set table.globalParam value
    | none => request)

/-- The rows of a document. -/
def rowsOf? (content : String) : Option (List Json) :=
  match Json.parse content with
  | some (.array rows) => some rows
  | _ => none

/-- Print the rows of a table, each in a line of its own. -/
def printRows (table : Filter.Table Json) (matchedOnly : Bool) : Activity Unit :=
  .printAll ((table.shownRows matchedOnly).map Json.compact)

/-- Report what is handed back to the client, if there is anything. -/
def remarkReply (reply : Filter.Reply) : Activity Unit :=
  if reply.params.isEmpty then pure () else .remark reply.toJson.compact

/-- Apply a request to a table, print the rows that it shows then, and report what is handed
back. -/
def filterRows (table : Filter.Table Json) (request : Filter.Request) : Activity Unit := do
  let decoded := Filter.decode table request (some .empty)
  .report (decoded.notices.map Filter.Notice.event)
  let _ ← .lift (decoded.result.mapError .filter)
  printRows decoded.table true
  remarkReply (decoded.reply.getD .empty)

/-- Filter the rows in a file. -/
def runFilter (config : Config) (files : String → Found) (tableId path : String)
    (params : List String) (globalValue : Option String) : Activity Unit := do
  let configured ← .require (config.table? tableId) (.unknownTable tableId)
  let content ← .require (textAt? files path) (.unreadableRows path)
  let rows ← .require (rowsOf? content) (.malformedRows path)
  let table ← .lift ((Filter.Table.ofConfig configured config.filtering
    config.expressions.separator rows).mapError .filter)
  let request ← .lift (requestOfParams table params globalValue)
  filterRows table request

/-- Say that a configuration is valid, or show it. -/
def runConfig (config : Config) (path : String) (isShown : Bool) : Activity Unit :=
  .print (if isShown then config.toToml else "Configuration at '" ++ path ++ "' is valid.")

/-- Do what a command asks for. -/
def runCommand (config : Config) (files : String → Found) (path : String) :
    Command → Activity Unit
  | .split expressions => runSplit expressions
  | .resolve tree source expressions forClient =>
    runResolve config files tree source expressions forClient
  | .filter table rows params globalValue => runFilter config files table rows params globalValue
  | .config isShown => runConfig config path isShown

/-! ## Runs -/

/-- The configuration at a path, or the default one where there is nothing. -/
def loadConfig (files : String → Found) (path : String) : Except Error Config :=
  match files path with
  | .nothing => .ok default
  | .unreadable reason => .error (.unreadableConfig reason)
  | .text content => (Config.parse content).mapError .config

/-- The text of the log filter: that of the configuration, unless more is asked for. -/
def logFilterText (config : Config) : Nat → String
  | 0 => config.logging.level
  | 1 => "debug"
  | _ => "trace"

/-- The log filter of a run, with complaints about its text. That of the environment counts if there
is one and all of it can be read. -/
def logFilter (config : Config) (verbosity : Nat) (logVariable : Option String) :
    LogFilter × List String :=
  match logVariable.bind LogFilter.parse? with
  | some filter => (filter, [])
  | none => LogFilter.parse (logFilterText config verbosity)

/-- How many warnings are remembered. -/
def rememberedWarnings : Nat := 64

/-- The number of warnings among the events that are reported. -/
def countWarnings (filter : LogFilter) (events : List Event) : Nat :=
  ((Collector.new rememberedWarnings).recordAll (events.filter filter.enables)).size

/-- The remark on the number of warnings, if there are any. -/
def warningRemark (count : Nat) : List String :=
  if count = 0 then [] else [toString count ++ " warning(s) emitted"]

/-- Lines as one text. -/
def ofLines (lines : List String) : String := String.join (lines.map (· ++ "\n"))

/-- The lines of texts that may hold line ends themselves. -/
def toLines (texts : List String) : List String := texts.flatMap (Text.piecesBetween '\n')

/-- The lines that tell of an error. -/
def errorLines (e : Error) : List String := toLines ["Error: " ++ e.message]

/-- What a run leaves that has done something, with the lines about its log filter in front of the
report. -/
def finished (filter : LogFilter) (complaints : List String) (done : Activity Unit) : Result :=
  let report := complaints ++ toLines done.remarks
  match done.outcome with
  | .error e => { code := 1, printed := ofLines done.printed, report := report ++ errorLines e }
  | .ok () =>
    { code := 0
      printed := ofLines done.printed
      report := report ++ warningRemark (countWarnings filter done.events) }

/-- Run a command. -/
def runInvocation (i : Invocation) (files : String → Found) (logVariable : Option String) :
    Result :=
  match loadConfig files i.config with
  | .error e => { code := 1, printed := "", report := errorLines e }
  | .ok config =>
    let (filter, complaints) := logFilter config i.verbosity logVariable
    finished filter (toLines complaints) (runCommand config files i.config i.command)

/-- A command line that is not understood. -/
def misused : Result :=
  { code := 2, printed := ""
    report := ["error: the command line is not understood", "",
      "Usage: " ++ programName ++ programSpec.form, "", "For more information, try '--help'."] }

/-- What a command line does. The environment may have a variable with the text of a log filter. -/
def run (words : List String) (files : String → Found) (logVariable : Option String) : Result :=
  match Request.ofWords words with
  | .misuse => misused
  | .version => { code := 0, printed := versionLine, report := [] }
  | .help subcommand => { code := 0, printed := helpText subcommand, report := [] }
  | .run invocation => runInvocation invocation files logVariable

end ViewQuery.CommandLine
