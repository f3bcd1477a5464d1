import ViewQuery.Text.Cut

/-!
# Files

What a run of the program finds at the paths it reads, and directories held in memory.

* `Directory.find`: what is at a path of a directory.
-/

namespace ViewQuery.CommandLine

/-- What is found at a path. -/
inductive Found where
  | nothing
  /-- Something that is no text, and why it cannot be read. -/
  | unreadable (reason : String)
  | text (content : String)
  deriving DecidableEq, Repr, Inhabited

/-- Texts under paths, without directories of their own. -/
abbrev Directory : Type := List (String × String)

namespace Directory

/-- The names on the way of a path, of which empty ones and single points lead nowhere. -/
def steps (path : String) : List String :=
  (Text.piecesBetween '/' path).filter fun s => s != "" && s != "."

/-- Why a directory cannot be read. -/
def notAText : String := "Is a directory (os error 21)"

/-- Whether a path leads to a file only if that is a directory. -/
def needsDirectory (path : String) : Bool :=
  match (Text.piecesBetween '/' path).reverse with
  | last :: _ => last == "" || last == "."
  | [] => false

/-- What is at a path. A directory is at each path that leads on to a text. -/
def find (d : Directory) (path : String) : Found :=
  let way := steps path
  if path.isEmpty || path.startsWith "/" then .nothing
  else if way.isEmpty then .unreadable notAText
  else
    match d.find? fun f => steps f.1 == way with
    | some f => if needsDirectory path then .nothing else .text f.2
    | none =>
      if d.any fun f => way.isPrefixOf (steps f.1) then .unreadable notAText else .nothing

end Directory

end ViewQuery.CommandLine
