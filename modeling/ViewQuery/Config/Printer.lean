import ViewQuery.Config.Basic
import ViewQuery.Toml.Quoted

/-!
# Writing configurations

The TOML document of a configuration, with every default written out. It consists of blocks, each
a header and the entries below it, with an empty line between them.

* `Config.toToml`: the text of the document.
-/

namespace ViewQuery.Config

/-- A part of the document: a header, but for the part in front of all, and written values under
their keys. -/
structure Block where
  header : Option String
  entries : List (String × String)

/-- The lines of a block. -/
def Block.text (b : Block) : String :=
  let header := match b.header with
    | some h => h ++ "\n"
    | none => ""
  header ++ String.join (b.entries.map fun e => e.1 ++ " = " ++ e.2 ++ "\n")

/-- How a truth value is written. -/
def flagText (b : Bool) : String := if b then "true" else "false"

/-- How a list of texts is written: on one line, or a line for each if there are several. -/
def listText : List String → String
  | [] => "[]"
  | [s] => "[" ++ Toml.quoted s ++ "]"
  | ss => "[\n" ++ String.join (ss.map fun s => "    " ++ Toml.quoted s ++ ",\n") ++ "]"

/-- The block of a column, without the binding if it has none. -/
def Column.block (c : Column) : Block :=
  { header := some "[[tables.columns]]"
    entries := [("id", Toml.quoted c.id)] ++
      (c.filterBy.map fun f => ("filter_by", Toml.quoted f)).toList ++
      [("fields", listText c.fields), ("match_mode", Toml.quoted c.matchMode)] }

/-- The block of a table and those of its columns; a table without columns says so in its own. -/
def Table.blocks (t : Table) : List Block :=
  { header := some "[[tables]]"
    entries := [("client_id", Toml.quoted t.clientId), ("lazy", flagText t.isLazy),
        ("paginator", flagText t.isPaginated)] ++
      (if t.columns.isEmpty then [("columns", "[]")] else []) } ::
    t.columns.map Column.block

/-- The blocks of the document in order. -/
def blocks (c : Config) : List Block :=
  (if c.tables.isEmpty then [{ header := none, entries := [("tables", "[]")] }] else []) ++
  [{ header := some "[expressions]"
     entries := [("stage", Toml.quoted c.expressions.stage.name),
       ("separator", Toml.quoted (String.singleton c.expressions.separator))] },
   { header := some "[filtering]"
     entries := [("global_filter_param", Toml.quoted c.filtering.globalFilterParam)] },
   { header := some "[logging]"
     entries := [("level", Toml.quoted c.logging.level)] }] ++
  c.tables.flatMap Table.blocks

/-- The text of the document. -/
def toToml (c : Config) : String := String.intercalate "\n" (c.blocks.map Block.text)

end ViewQuery.Config
