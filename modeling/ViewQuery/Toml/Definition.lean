import ViewQuery.Toml.Basic

/-!
# Defining TOML tables

How the lines of a document define its tables. A header opens a table, or one more table of an
array of tables, for the assignments below it; a key with dots defines tables on its way. A table
has one place where it is defined: under its own header, by keys with dots within one table, or
within braces. A table that was only passed through on the way of a header may still get its own.

* `ofSections?`: the table that a whole document defines;
* `ofAssignments?`: the table that assignments alone define.
-/

namespace ViewQuery.Toml

/-- How a table came to be. -/
inductive Origin where
  /-- It was passed through by a header. -/
  | passed
  /-- It was defined by keys with dots. -/
  | dotted
  /-- It has a header of its own. -/
  | headed
  deriving DecidableEq, Repr

/-- What stands under a key while a document is read. Of the tables of an array the last is still
open, and the others are finished. -/
inductive Entry where
  | value (value : Toml)
  | table (origin : Origin) (members : List (String × Entry))
  | tables (finished : List Toml) (members : List (String × Entry))

/-- The entries of a table that is being defined. -/
abbrev Members : Type := List (String × Entry)

/-- A value under a key; the key has a part for each dot and one more. -/
structure Assignment where
  key : List String
  value : Toml

/-- What a header opens: a table, or a new table at the end of an array. -/
inductive Header where
  | table (key : List String)
  | element (key : List String)

/-- A header with the assignments below it. -/
structure Section where
  header : Header
  assignments : List Assignment

/-! ## Finished tables -/

mutual

/-- The value of an entry. -/
def Entry.toToml : Entry → Toml
  | .value v => v
  | .table _ members => .table (finish members)
  | .tables finished members => .array (finished ++ [.table (finish members)])

/-- The members of a table. -/
def finish : List (String × Entry) → List (String × Toml)
  | [] => []
  | (key, entry) :: rest => (key, entry.toToml) :: finish rest

end

/-! ## Steps -/

/-- Put an entry under a key, in place of the one that was there. -/
def Members.set (key : String) (entry : Entry) : Members → Members
  | [] => [(key, entry)]
  | (k, e) :: rest => if k = key then (k, entry) :: rest else (k, e) :: set key entry rest

/-- Define a value under a key. A key without dots has to be new. The tables on the way of a key
with dots are new or defined by such keys themselves; a table that was only passed through, and
the open table of an array, may lie on the way, but not at its end. -/
def Members.assign (value : Toml) : List String → Members → Option Members
  | [], _ => none
  | [name], members =>
    match members.lookup name with
    | none => some (members ++ [(name, .value value)])
    | some _ => none
  | part :: next :: rest, members =>
    let inner := Members.assign value (next :: rest)
    match members.lookup part with
    | none => (inner []).map fun ms => members ++ [(part, .table .dotted ms)]
    | some (.value _) => none
    | some (.table origin ms) =>
      if origin = .headed ∨ (origin = .passed ∧ rest = []) then none
      else (inner ms).map fun ms => members.set part (.table origin ms)
    | some (.tables finished ms) =>
      if rest = [] then none
      else (inner ms).map fun ms => members.set part (.tables finished ms)

/-- Define one assignment after the other. -/
def Members.assignAll (assignments : List Assignment) (members : Members) : Option Members :=
  assignments.foldlM (fun ms a => ms.assign a.value a.key) members

/-- Change the table at the end of the way of a header and then the entry under the last part of
its key. The way leads through tables of any origin and the open tables of arrays. -/
def Members.open (change : Option Entry → Option Entry) : List String → Members → Option Members
  | [], _ => none
  | [name], members => (change (members.lookup name)).map fun entry => members.set name entry
  | part :: next :: rest, members =>
    let inner := Members.open change (next :: rest)
    match members.lookup part with
    | none => (inner []).map fun ms => members ++ [(part, .table .passed ms)]
    | some (.value _) => none
    | some (.table origin ms) => (inner ms).map fun ms => members.set part (.table origin ms)
    | some (.tables finished ms) => (inner ms).map fun ms => members.set part (.tables finished ms)

/-- A table under its header: it is new, or it was only passed through. -/
def headedTable (assignments : List Assignment) : Option Entry → Option Entry
  | none => (Members.assignAll assignments []).map (.table .headed)
  | some (.table .passed ms) => (Members.assignAll assignments ms).map (.table .headed)
  | _ => none

/-- One more table of an array, which is new or an array of tables. -/
def nextElement (assignments : List Assignment) : Option Entry → Option Entry
  | none => (Members.assignAll assignments []).map (.tables [])
  | some (.tables finished ms) =>
    (Members.assignAll assignments []).map (.tables (finished ++ [.table (finish ms)]))
  | _ => none

/-- Define what a header opens. -/
def Members.add (members : Members) (s : Section) : Option Members :=
  match s.header with
  | .table key => members.open (headedTable s.assignments) key
  | .element key => members.open (nextElement s.assignments) key

/-! ## Whole tables -/

/-- The table that assignments define. -/
def ofAssignments? (assignments : List Assignment) : Option Toml :=
  (Members.assignAll assignments []).map fun ms => .table (finish ms)

/-- The table that a document defines: assignments without a header, and then its sections. -/
def ofSections? (assignments : List Assignment) (sections : List Section) : Option Toml := do
  let members ← Members.assignAll assignments []
  let members ← sections.foldlM Members.add members
  pure (.table (finish members))

end ViewQuery.Toml
