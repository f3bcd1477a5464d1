import ViewQuery.Toml.Definition
import ViewQuery.Toml.Scalar
import ViewQuery.Toml.Text

/-!
# Reading TOML

The grammar of documents. A reader takes the characters that are left and returns what it read
with the characters after it; `none` says that the text does not follow the grammar, or that it
defines something twice.

* `Toml.parse`: the table that a text defines.
-/

namespace ViewQuery.Toml

/-! ## Between the values -/

/-- The characters without the white space in front. -/
def skipSpace (cs : List Char) : List Char := cs.dropWhile isSpace

/-- The characters after white space, line ends and comments. -/
def skipGaps (inComment : Bool) : List Char → Option (List Char)
  | [] => some []
  | '\n' :: rest => skipGaps false rest
  | '\r' :: '\n' :: rest => skipGaps false rest
  | c :: rest =>
    if inComment then if isPlain c then skipGaps true rest else none
    else if isSpace c then skipGaps false rest
    else if c = '#' then skipGaps true rest
    else some (c :: rest)

/-- The characters after the end of a line, with nothing but white space and a comment before
it. -/
def endLine (inComment : Bool) : List Char → Option (List Char)
  | [] => some []
  | '\n' :: rest => some rest
  | '\r' :: '\n' :: rest => some rest
  | c :: rest =>
    if inComment then if isPlain c then endLine true rest else none
    else if isSpace c then endLine false rest
    else if c = '#' then endLine true rest
    else none

/-! ## Keys -/

/-- Whether a character may stand in a key without quotes. -/
def isBare (c : Char) : Bool := c.isAlphanum || c == '_' || c == '-'

/-- A part of a key: a word, or a string on one line. -/
def readKeyPart (cs : List Char) : Option (String × List Char) :=
  match cs.span isBare with
  | ([], _) => readLineText cs
  | (word, rest) => some (String.ofList word, rest)

/-- A key: parts with dots between them, and white space around the dots. -/
def readKey (fuel : Nat) (cs : List Char) : Option (List String × List Char) :=
  match fuel with
  | 0 => none
  | fuel + 1 => do
    let (part, cs) ← readKeyPart cs
    match skipSpace cs with
    | '.' :: cs =>
      let (parts, cs) ← readKey fuel (skipSpace cs)
      pure (part :: parts, cs)
    | cs => pure ([part], cs)

/-! ## Values -/

/-- Whether a character ends a word. -/
def endsWord (c : Char) : Bool :=
  isSpace c || !isPlain c || ['#', ',', '=', '[', ']', '\x7b', '\x7d', '"', '\''].contains c

/-- A scalar. A day may be followed by one space and a time. -/
def readWord (cs : List Char) : Option (Toml × List Char) :=
  let (word, rest) := cs.span fun c => !endsWord c
  let (word, rest) := match readDate word, rest with
    | some (_, []), ' ' :: d :: more =>
      if d.isDigit then
        let (clock, rest) := (d :: more).span fun c => !endsWord c
        (word ++ ' ' :: clock, rest)
      else (word, rest)
    | _, _ => (word, rest)
  (readScalar word).map fun v => (v, rest)

/-- How many arrays and inline tables may lie within one another. -/
def maxNesting : Nat := 80

mutual

/-- A value, with `fuel` above the number of characters left, where `room` arrays and inline
tables may open within one another. -/
def readValue (fuel room : Nat) (cs : List Char) : Option (Toml × List Char) :=
  match fuel with
  | 0 => none
  | fuel + 1 =>
    match cs with
    | '[' :: rest =>
      if room = 0 then none
      else (readItems fuel (room - 1) rest).map fun p => (.array p.1, p.2)
    | '\x7b' :: rest =>
      if room = 0 then none
      else do
        let (assignments, rest) ← readInline fuel (room - 1) rest
        let table ← ofAssignments? assignments
        pure (table, rest)
    | cs =>
      match readText cs with
      | some (s, rest) => some (.string s, rest)
      | none => readWord cs

/-- The items of an array up to its closing bracket; a comma may follow the last. -/
def readItems (fuel room : Nat) (cs : List Char) : Option (List Toml × List Char) :=
  match fuel with
  | 0 => none
  | fuel + 1 => do
    match ← skipGaps false cs with
    | ']' :: cs => pure ([], cs)
    | cs =>
      let (item, cs) ← readValue fuel room cs
      match ← skipGaps false cs with
      | ',' :: cs =>
        let (items, cs) ← readItems fuel room cs
        pure (item :: items, cs)
      | ']' :: cs => pure ([item], cs)
      | _ => none

/-- The assignments of an inline table up to its closing brace; a comma may follow the last. -/
def readInline (fuel room : Nat) (cs : List Char) : Option (List Assignment × List Char) :=
  match fuel with
  | 0 => none
  | fuel + 1 => do
    match ← skipGaps false cs with
    | '\x7d' :: cs => pure ([], cs)
    | cs =>
      let (assignment, cs) ← readAssignment fuel room cs
      match ← skipGaps false cs with
      | ',' :: cs =>
        let (assignments, cs) ← readInline fuel room cs
        pure (assignment :: assignments, cs)
      | '\x7d' :: cs => pure ([assignment], cs)
      | _ => none

/-- A key and its value, with an equals sign between them. -/
def readAssignment (fuel room : Nat) (cs : List Char) : Option (Assignment × List Char) :=
  match fuel with
  | 0 => none
  | fuel + 1 => do
    let (key, cs) ← readKey fuel cs
    match skipSpace cs with
    | '=' :: cs =>
      let (value, cs) ← readValue fuel room (skipSpace cs)
      pure ({ key, value }, cs)
    | _ => none

end

/-! ## Documents -/

/-- A header in front of the characters that end its line. -/
def readHeader (fuel : Nat) : List Char → Option (Header × List Char)
  | '[' :: '[' :: cs => do
    let (key, cs) ← readKey fuel (skipSpace cs)
    match cs with
    | ']' :: ']' :: cs => pure (.element key, cs)
    | _ => none
  | '[' :: cs => do
    let (key, cs) ← readKey fuel (skipSpace cs)
    match cs with
    | ']' :: cs => pure (.table key, cs)
    | _ => none
  | _ => none

/-- The assignments up to the next header, and the sections from there on. -/
def readLines (fuel : Nat) (cs : List Char) : Option (List Assignment × List Section) :=
  match fuel with
  | 0 => none
  | fuel + 1 => do
    match ← skipGaps false cs with
    | [] => pure ([], [])
    | '[' :: cs =>
      let (header, cs) ← readHeader fuel ('[' :: cs)
      let (assignments, sections) ← readLines fuel (← endLine false cs)
      pure ([], { header, assignments } :: sections)
    | cs =>
      let (assignment, cs) ← readAssignment fuel maxNesting cs
      let (assignments, sections) ← readLines fuel (← endLine false cs)
      pure (assignment :: assignments, sections)

/-- The characters without a byte order mark in front. -/
def skipByteOrderMark : List Char → List Char
  | '\ufeff' :: rest => rest
  | cs => cs

/-- The table that a text defines. -/
def parse (s : String) : Option Toml := do
  let (assignments, sections) ← readLines (2 * s.length + 2) (skipByteOrderMark s.toList)
  ofSections? assignments sections

end ViewQuery.Toml
