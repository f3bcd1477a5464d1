import ViewQuery.CommandLine.Arguments

/-!
# Help

The texts that tell how the program is used: what it is for, the form of its command line, and
lists of subcommands, words and options with two blanks between the longest name and its
description.

* `helpText`: the help on the program or on a subcommand.
-/

namespace ViewQuery.CommandLine

/-- The name of the program on the command line. -/
def programName : String := "searchgrid"

/-- The version of the program. -/
def programVersion : String := "0.1.0"

/-- What the program is for. -/
def programAbout : String :=
  "Command-line front end for SearchGrid expression resolution and table filtering"

/-- A word in angle brackets. -/
def placeholder (name : String) : String := "<" ++ name ++ ">"

/-- What an option takes, as it is shown behind the name. -/
def Takes.shown : Takes → String
  | .text p | .path p | .texts p => " " ++ placeholder p
  | .count => "..."
  | _ => ""

/-- The name of an option and what it takes. -/
def Opt.usage (o : Opt) : String := "--" ++ o.name ++ o.takes.shown

/-- An option in the list of options. -/
def Opt.entry (o : Opt) : String × String :=
  let letter := match o.letter with
    | some c => "-" ++ String.singleton c ++ ", "
    | none => "    "
  (letter ++ o.usage, o.about)

/-- A list with a title, its second column aligned. -/
def listing (title : String) (entries : List (String × String)) : String :=
  if entries.isEmpty then ""
  else
    let width := (entries.map fun e => e.1.length).foldl max 0
    let line (e : String × String) : String :=
      "  " ++ e.1 ++ String.ofList (List.replicate (width - e.1.length + 2) ' ') ++ e.2 ++ "\n"
    "\n" ++ title ++ ":\n" ++ String.join (entries.map line)

/-- Whether the form of a command line mentions that there are options. -/
def Spec.hasFreeOptions (s : Spec) : Bool :=
  s.options.any fun o => !o.isRequired && o.takes != .help && o.takes != .version

/-- The form of the words of a command. -/
def Spec.form (s : Spec) : String :=
  (if s.hasFreeOptions then " [OPTIONS]" else "") ++
    String.join ((s.options.filter (·.isRequired)).map fun o => " " ++ o.usage) ++
    String.join (s.words.map fun w => " " ++ placeholder w.1) ++
    if s.hasSubcommands then " <COMMAND>" else ""

/-- The help on a command. -/
def Spec.helpText (s : Spec) (about name : String) (commands : List (String × String)) : String :=
  about ++ "\n\nUsage: " ++ name ++ s.form ++ "\n" ++ listing "Commands" commands ++
    listing "Arguments" (s.words.map fun w => (placeholder w.1, w.2)) ++
    listing "Options" (s.options.map Opt.entry)

/-- What the subcommand that prints help does. -/
def helpAbout : String := "Print this message or the help of the given subcommand(s)"

/-- The words that the subcommand that prints help understands. -/
def helpSpec : Spec :=
  { options := []
    words := [("COMMAND", "Print help for the subcommand(s)")]
    hasSubcommands := false }

/-- The help on the program, or on a subcommand. -/
def helpText (subcommand : Option String) : String :=
  match subcommand with
  | none =>
    programSpec.helpText programAbout programName
      (subcommands.map (fun s => (s.name, s.about)) ++ [(helpCommand, helpAbout)])
  | some name =>
    match subcommand? name with
    | some s => s.spec.helpText s.about (programName ++ " " ++ name) []
    | none => helpSpec.helpText helpAbout (programName ++ " " ++ helpCommand) []

/-- The line that tells the version. -/
def versionLine : String := programName ++ " " ++ programVersion ++ "\n"

end ViewQuery.CommandLine
