import ViewQuery.CommandLine.Run

/-!
# The program

Reads the files that a command line names and the variable with the log filter, runs the command
line, and prints what it has to say.
-/

namespace ViewQuery.CommandLine

/-- The paths that a run reads. -/
def Invocation.paths (i : Invocation) : List String :=
  i.config :: match i.command with
    | .resolve tree .. => [tree]
    | .filter _ rows .. => [rows]
    | .split _ | .config _ => []

/-- Why a file cannot be read. -/
def reasonOf : IO.Error → String
  | .permissionDenied _ code details | .inappropriateType _ code details =>
    details ++ " (os error " ++ toString code ++ ")"
  | .userError _ => "stream did not contain valid UTF-8"
  | e => toString e

/-- What is at a path. -/
def look (path : String) : IO Found := do
  try return .text (← IO.FS.readFile path)
  catch e =>
    match e with
    | .noFileOrDirectory .. => return .nothing
    | e => return .unreadable (reasonOf e)

/-- What is at the paths that a command line names. -/
def lookAll (words : List String) : IO (List (String × Found)) :=
  match Request.ofWords words with
  | .run i => i.paths.mapM fun path => return (path, ← look path)
  | _ => return []

/-- The name of the variable that may hold a log filter. -/
def logVariableName : String := "RUST_LOG"

end ViewQuery.CommandLine

open ViewQuery.CommandLine in
def main (words : List String) : IO UInt32 := do
  let found ← lookAll words
  let logVariable ← IO.getEnv logVariableName
  let result := run words (fun path => (found.lookup path).getD .nothing) logVariable
  (← IO.getStdout).putStr result.printed
  for line in result.report do
    (← IO.getStderr).putStrLn line
  return result.code.toUInt32
