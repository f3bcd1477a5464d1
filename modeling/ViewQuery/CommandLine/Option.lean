/-!
# Command line options

The words of a command line up to the name of a subcommand or the end. An option is called by a name
after two hyphens, or by a letter after one; its value follows as the next word, or in the same word
after an equals sign. Letters may share a word, of which the last one may take the rest of the word
as its value. Two hyphens alone end the options.

* `Spec.read`: the options that are given, with what is left of the words.
-/

namespace ViewQuery.CommandLine

/-- What an option takes, and how often it may be given. -/
inductive Takes where
  /-- Nothing; it is given once. -/
  | nothing
  /-- Nothing; the number of times counts. -/
  | count
  /-- A text; it is given once. -/
  | text (placeholder : String)
  /-- The path of a file, which is not empty; it is given once. -/
  | path (placeholder : String)
  /-- A text, each time that it is given. -/
  | texts (placeholder : String)
  /-- Nothing: it asks for help instead of a run. -/
  | help
  /-- Nothing: it asks for the version instead of a run. -/
  | version
  deriving DecidableEq, Repr

/-- An option. -/
structure Opt where
  name : String
  letter : Option Char
  takes : Takes
  isRequired : Bool
  about : String
  deriving DecidableEq, Repr

/-- Why the words of a command line ask for no run. -/
inductive Halt where
  | usage
  | help
  | version
  deriving DecidableEq, Repr

/-- The options given so far with their values, and the empty text for those that take none. -/
abbrev Given : Type := List (String × String)

/-- What a command understands. -/
structure Spec where
  options : List Opt
  /-- The names of the words that stand without an option. -/
  words : List (String × String)
  /-- Whether the first word without an option is the name of a subcommand. -/
  hasSubcommands : Bool
  deriving DecidableEq, Repr

/-- What was given to a command: the options, the words without one, and what is left for a
subcommand. -/
structure Reading where
  given : Given
  words : List String
  rest : List String
  deriving DecidableEq, Repr

namespace Given

/-- The value of an option. -/
def value? (g : Given) (name : String) : Option String := g.lookup name

/-- The values of an option in order. -/
def values (g : Given) (name : String) : List String :=
  (g.filter fun p => p.1 == name).map (·.2)

/-- How often an option was given. -/
def times (g : Given) (name : String) : Nat := (g.values name).length

end Given

/-! ## Single options -/

/-- Whether an option waits for a value. -/
def Takes.wantsValue : Takes → Bool
  | .text _ | .path _ | .texts _ => true
  | _ => false

/-- Whether an option may be given again. -/
def Takes.isRepeatable : Takes → Bool
  | .count | .texts _ => true
  | _ => false

/-- Take note of an option and its value. -/
def Opt.accept (o : Opt) (g : Given) (value : String) : Except Halt Given :=
  match o.takes with
  | .help => .error .help
  | .version => .error .version
  | .path _ => if value.isEmpty then .error .usage else once
  | _ => if o.takes.isRepeatable then .ok (g ++ [(o.name, value)]) else once
where
  /-- The option must not have been given before. -/
  once : Except Halt Given :=
    if (g.value? o.name).isSome then .error .usage else .ok (g ++ [(o.name, value)])

/-! ## Words -/

/-- Whether a word is no value, but one or more options. -/
def isOptionWord (word : String) : Bool :=
  match word.toList with
  | '-' :: _ :: _ => true
  | _ => false

/-- The options of letters that share a word, and the option whose value is the next word. -/
def readLetters (options : List Opt) (g : Given) : List Char → Except Halt (Given × Option Opt)
  | [] => .ok (g, none)
  | c :: rest =>
    match options.find? fun o => o.letter == some c with
    | none => .error .usage
    | some o =>
      if o.takes.wantsValue then
        match rest with
        | [] => .ok (g, some o)
        | '=' :: value => (o.accept g (.ofList value)).map fun g => (g, none)
        | value => (o.accept g (.ofList value)).map fun g => (g, none)
      else do
        let g ← o.accept g ""
        readLetters options g rest

/-- The option of a name, with a value after an equals sign or none. -/
def readName (options : List Opt) (g : Given) (cs : List Char) : Except Halt (Given × Option Opt) :=
  let (name, tail) := cs.span (· != '=')
  match options.find? fun o => o.name.toList == name with
  | none => .error .usage
  | some o =>
    match o.takes.wantsValue, tail with
    | true, [] => .ok (g, some o)
    | true, _ :: value => (o.accept g (.ofList value)).map fun g => (g, none)
    | false, [] => (o.accept g "").map fun g => (g, none)
    | false, _ => .error .usage

/-- The options of a word. -/
def readOptionWord (options : List Opt) (g : Given) (word : String) :
    Except Halt (Given × Option Opt) :=
  match word.toList with
  | '-' :: '-' :: name => readName options g name
  | '-' :: letters => readLetters options g letters
  | _ => .error .usage

/-- Whether the words that are required are there. -/
def Spec.isComplete (s : Spec) (r : Reading) : Bool :=
  (s.options.all fun o => !o.isRequired || (r.given.value? o.name).isSome) &&
    s.words.length == r.words.length && s.hasSubcommands == !r.rest.isEmpty

/-- Read words after some of them. `waiting` is the option whose value comes next. -/
def Spec.readFrom (s : Spec) (r : Reading) (waiting : Option Opt) :
    List String → Except Halt Reading
  | [] =>
    if waiting.isNone && s.isComplete r then .ok r else .error .usage
  | word :: rest =>
    match waiting with
    | some o =>
      if isOptionWord word then .error .usage
      else do
        let given ← o.accept r.given word
        s.readFrom { r with given } none rest
    | none =>
      if word = "--" then
        let r := { r with words := r.words ++ rest }
        if s.isComplete r then .ok r else .error .usage
      else if isOptionWord word then do
        let (given, waiting) ← readOptionWord s.options r.given word
        s.readFrom { r with given } waiting rest
      else if s.hasSubcommands then
        let r := { r with rest := word :: rest }
        if s.isComplete r then .ok r else .error .usage
      else if r.words.length < s.words.length then
        s.readFrom { r with words := r.words ++ [word] } none rest
      else .error .usage

/-- Read the words given to a command. -/
def Spec.read (s : Spec) (words : List String) : Except Halt Reading :=
  s.readFrom { given := [], words := [], rest := [] } none words

end ViewQuery.CommandLine
