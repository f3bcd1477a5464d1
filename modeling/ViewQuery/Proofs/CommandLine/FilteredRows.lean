import ViewQuery.CommandLine.Run
import ViewQuery.Proofs.Filter.Configured
import ViewQuery.Proofs.Filter.Matching
import ViewQuery.Proofs.Filter.Selection
import ViewQuery.Proofs.Json.Compact
import ViewQuery.Proofs.Text.Join

/-!
# The rows that are printed

What a run of `filter` prints and reports when it succeeds. The rows and their number come from
different places: the rows are those that the table shows, which are all rows where none have
passed, and the number is the one that the filter hands back. They agree because a table that hands
a number back is one whose rows were gone through.

* `shownRows_decode`, `reply_decode`: what a table shows and hands back after a request;
* `FilterInput`: what the command has read when it comes to the rows;
* `runFilter_eq_of_ok`: what the command does with it;
* `run_filter_prints_kept_rows`: whole runs.
-/

namespace ViewQuery

/-! ## The table after a request -/

namespace Filter

variable {R : Type} [Row R] {t : Table R} {request : Request} {matched : Option Nat}

/-- The rows that a request leaves to be seen: those that the rule keeps, and all of a lazy
table. -/
def Table.visibleRows (t : Table R) (request : Request) : List R :=
  if t.isLazy then t.rows else t.rows.filter fun row => decide (t.Keeps request row)

/-- The table shows the rows that the request leaves. -/
theorem shownRows_decode {reply : Option Reply}
    (h : (decode t request reply).result = .ok matched) :
    (decode t request reply).table.shownRows true = t.visibleRows request := by
  obtain ⟨active, ha⟩ := exists_activeFilters h
  unfold Table.shownRows Table.visibleRows
  rw [filteredValue_decode, ha, Except.toOption, Option.bind_some]
  cases t.isLazy with
  | true => exact rows_decode ..
  | false => exact matchedRows_map_fst ha

/-- The number that is handed back is that of the rows that the table shows. -/
theorem reply_decode {reply : Reply} (h : (decode t request (some reply)).result = .ok matched) :
    (decode t request (some reply)).reply = some (
      if t.isPaginated ∧ t.isLazy = false then
        reply.set totalRecords (Json.ofNat (t.visibleRows request).length)
      else reply) := by
  obtain ⟨active, ha⟩ := exists_activeFilters h
  rw [Table.visibleRows]
  cases hl : t.isLazy with
  | true => simp [decode_of_lazy ha hl]
  | false =>
    rw [decode_of_eager ha hl]
    dsimp only
    rw [← matchedRows_map_fst ha]
    cases t.isPaginated <;> simp

end Filter

namespace CommandLine

open ViewQuery.Diagnostics (LogFilter)

/-! ## Lines -/

theorem ofLines_eq (lines : List String) : ofLines lines = Text.joinWith '\n' (lines ++ [""]) := by
  rw [← String.toList_inj, Text.toList_joinWith]
  induction lines with
  | nil => rfl
  | cons line lines ih =>
    rw [ofLines, List.map_cons, String.join_cons, ← ofLines, String.toList_append, ih]
    cases lines <;> simp [List.intercalate_cons_cons]

/-- Lines without line ends are read off a text again. -/
theorem piecesBetween_ofLines {lines : List String} (h : ∀ line ∈ lines, '\n' ∉ line.toList) :
    Text.piecesBetween '\n' (ofLines lines) = lines ++ [""] := by
  rw [ofLines_eq]
  refine Text.piecesBetween_joinWith (by simp) fun line hline => ?_
  rcases List.mem_append.1 hline with hline | hline
  · exact h line hline
  · simp_all

/-- A text without line ends is a line. -/
theorem toLines_singleton {text : String} (h : '\n' ∉ text.toList) : toLines [text] = [text] := by
  have hpieces := Text.piecesBetween_joinWith (List.cons_ne_nil text []) (by simpa using h)
  simpa [toLines, Text.joinWith] using hpieces

/-! ## What is read -/

theorem textAt?_eq_some_iff {files : String → Found} {path content : String} :
    textAt? files path = some content ↔ files path = .text content := by
  unfold textAt?
  cases files path <;> simp

theorem rowsOf?_eq_some_iff {content : String} {rows : List Json} :
    rowsOf? content = some rows ↔ Json.parse content = some (.array rows) := by
  unfold rowsOf?
  split <;> simp_all

/-! ## The command -/

/-- What a successful `filter` has read when it comes to the rows: the configuration and the table
in it, the rows, the table that is made of these, and the request that the arguments describe. -/
structure FilterInput (files : String → Found) (configPath tableId rowsPath : String)
    (params : List String) (globalValue : Option String) where
  config : Config
  config_eq : loadConfig files configPath = .ok config
  configured : Config.Table
  configured_eq : config.table? tableId = some configured
  content : String
  content_eq : files rowsPath = .text content
  rows : List Json
  rows_eq : Json.parse content = some (.array rows)
  table : Filter.Table Json
  table_eq : Filter.Table.ofConfig configured config.filtering config.expressions.separator rows =
    .ok table
  request : Filter.Request
  request_eq : requestOfParams table params globalValue = .ok request

variable {files : String → Found} {configPath tableId rowsPath : String} {params : List String}
  {globalValue : Option String}

namespace FilterInput

variable (x : FilterInput files configPath tableId rowsPath params globalValue)

/-- The rows that are printed: those that the rule keeps, and all of a lazy table. -/
def kept : List Json :=
  if x.configured.isLazy then x.rows
  else x.rows.filter fun row => decide (x.table.Keeps x.request row)

/-- The object that tells the number of rows, where there are pages and the rows were gone
through. -/
def callback : List String :=
  if x.configured.isPaginated ∧ x.configured.isLazy = false then
    ["\x7b\"totalRecords\":" ++ toString x.kept.length ++ "\x7d"]
  else []

/-- What happens when the request is applied. -/
def events : List Diagnostics.Event :=
  (Filter.decode x.table x.request (some .empty)).notices.map Filter.Notice.event

/-- The table that is built is the configured one with the rows. -/
theorem table_fields : x.table.rows = x.rows ∧ x.table.isLazy = x.configured.isLazy ∧
    x.table.isPaginated = x.configured.isPaginated := by
  rw [(Filter.Table.ofConfig_eq_ok_iff.1 x.table_eq).2]
  exact ⟨rfl, rfl, rfl⟩

theorem visibleRows_table : x.table.visibleRows x.request = x.kept := by
  obtain ⟨hrows, hlazy, -⟩ := x.table_fields
  rw [Filter.Table.visibleRows, kept, hrows, hlazy]

end FilterInput

/-- The object with a number and nothing else. -/
theorem compact_totalRecords (n : Nat) :
    (Filter.Reply.empty.set Filter.totalRecords (Json.ofNat n)).toJson.compact =
      "\x7b\"totalRecords\":" ++ toString n ++ "\x7d" := by
  have hkey : Json.stringText Filter.totalRecords = "\"totalRecords\"".toList := by decide
  have hn : (Json.ofNat n).chars = (toString n).toList := by
    rw [Nat.toString_eq_repr, Nat.toList_repr]
    simp [Json.ofNat, Json.chars, Json.Number.text]
  rw [← String.toList_inj]
  simp [Filter.Reply.toJson, Filter.Reply.set, Filter.Reply.empty, Dict.insert, Json.compact,
    Json.chars, Json.memberChars, hkey, hn]

theorem FilterInput.toLines_callback
    (x : FilterInput files configPath tableId rowsPath params globalValue) :
    toLines x.callback = x.callback := by
  rw [callback, ← compact_totalRecords]
  split
  · exact toLines_singleton (Json.lineBreak_notMem_compact _)
  · rfl

theorem remarkReply_eq (reply : Filter.Reply) : remarkReply reply =
    { printed := [], remarks := if reply.params.isEmpty then [] else [reply.toJson.compact]
      events := [], outcome := .ok () } := by
  unfold remarkReply
  split <;> rfl

/-- A request that can be applied is applied, and the rest cannot fail. -/
theorem filterRows_eq {table : Filter.Table Json} {request : Filter.Request} {matched : Option Nat}
    (h : (Filter.decode table request (some .empty)).result = .ok matched) :
    let decoded := Filter.decode table request (some .empty)
    let reply := decoded.reply.getD .empty
    filterRows table request =
      { printed := (decoded.table.shownRows true).map Json.compact
        remarks := if reply.params.isEmpty then [] else [reply.toJson.compact]
        events := decoded.notices.map Filter.Notice.event, outcome := .ok () } := by
  simp [filterRows, h, Except.mapError, Activity.report, Activity.mk_ok_bind, printRows,
    Activity.printAll_eq, remarkReply_eq]

theorem exists_result_of_filterRows {table : Filter.Table Json} {request : Filter.Request}
    (h : (filterRows table request).outcome = .ok ()) :
    ∃ matched, (Filter.decode table request (some .empty)).result = .ok matched := by
  rw [filterRows, Activity.report, Activity.mk_ok_bind] at h
  obtain ⟨matched, hmatched, -⟩ := Activity.exists_of_lift_bind h
  exact ⟨matched, mapError_eq_ok_iff.1 hmatched⟩

/-- What follows the reading: the request is applied, and the rows are printed. -/
theorem FilterInput.filterRows_eq_of_ok
    (x : FilterInput files configPath tableId rowsPath params globalValue)
    (h : (filterRows x.table x.request).outcome = .ok ()) :
    filterRows x.table x.request =
      { printed := x.kept.map Json.compact, remarks := x.callback, events := x.events
        outcome := .ok () } := by
  obtain ⟨matched, hmatched⟩ := exists_result_of_filterRows h
  obtain ⟨-, hlazy, hpaginated⟩ := x.table_fields
  rw [filterRows_eq hmatched, Filter.shownRows_decode hmatched, Filter.reply_decode hmatched,
    x.visibleRows_table, hlazy, hpaginated, callback, ← compact_totalRecords]
  split <;> rfl

/-- A `filter` that succeeds prints the rows that are kept and reports their number. -/
theorem runFilter_eq_of_ok {config : Config} (hconfig : loadConfig files configPath = .ok config)
    (h : (runFilter config files tableId rowsPath params globalValue).outcome = .ok ()) :
    ∃ x : FilterInput files configPath tableId rowsPath params globalValue, x.config = config ∧
      runFilter config files tableId rowsPath params globalValue =
        { printed := x.kept.map Json.compact, remarks := x.callback, events := x.events
          outcome := .ok () } := by
  unfold runFilter at h ⊢
  obtain ⟨configured, hconfigured, e⟩ := Activity.exists_of_require_bind h
  rw [e] at h ⊢
  obtain ⟨content, hcontent, e⟩ := Activity.exists_of_require_bind h
  rw [e] at h ⊢
  obtain ⟨rows, hrows, e⟩ := Activity.exists_of_require_bind h
  rw [e] at h ⊢
  obtain ⟨table, htable, e⟩ := Activity.exists_of_lift_bind h
  rw [e] at h ⊢
  obtain ⟨request, hrequest, e⟩ := Activity.exists_of_lift_bind h
  rw [e] at h ⊢
  let x : FilterInput files configPath tableId rowsPath params globalValue :=
    { config, config_eq := hconfig, configured, configured_eq := hconfigured, content
      content_eq := textAt?_eq_some_iff.1 hcontent, rows, rows_eq := rowsOf?_eq_some_iff.1 hrows
      table, table_eq := mapError_eq_ok_iff.1 htable, request, request_eq := hrequest }
  exact ⟨x, rfl, x.filterRows_eq_of_ok h⟩

/-! ## Runs -/

theorem finished_of_code_eq_zero {filter : LogFilter} {complaints : List String}
    {done : Activity Unit} (h : (finished filter complaints done).code = 0) :
    done.outcome = .ok () := by
  unfold finished at h
  cases ho : done.outcome with
  | error e =>
    rw [ho] at h
    cases h
  | ok u => rfl

/-- A run of `filter` that succeeds prints the rows that are kept, one to a line, and reports their
number where there are pages and the rows were gone through. Before that it reports what is wrong
with the log filter, and after it the number of warnings. -/
theorem run_filter_prints_kept_rows {words : List String} {i : Invocation}
    {logVariable : Option String} (hw : Request.ofWords words = .run i)
    (hi : i.command = .filter tableId rowsPath params globalValue)
    (h : (run words files logVariable).code = 0) :
    let result := run words files logVariable
    ∃ x : FilterInput files i.config tableId rowsPath params globalValue,
      let logging := logFilter x.config i.verbosity logVariable
      result.printed = ofLines (x.kept.map Json.compact) ∧
      Text.piecesBetween '\n' result.printed = x.kept.map Json.compact ++ [""] ∧
      result.report = toLines logging.2 ++ x.callback ++
        warningRemark (countWarnings logging.1 x.events) := by
  intro result
  have hresult : result = runInvocation i files logVariable := by
    show run words files logVariable = _
    rw [run, hw]
  have hcode : (runInvocation i files logVariable).code = 0 := hresult ▸ h
  rw [hresult]
  unfold runInvocation at hcode ⊢
  cases hconfig : loadConfig files i.config with
  | error e =>
    rw [hconfig] at hcode
    cases hcode
  | ok config =>
    rw [hconfig, hi] at hcode
    dsimp only at hcode ⊢
    rw [hi]
    obtain ⟨x, rfl, hx⟩ := runFilter_eq_of_ok hconfig (finished_of_code_eq_zero hcode)
    have hlines : ∀ line ∈ x.kept.map Json.compact, '\n' ∉ line.toList :=
      List.forall_mem_map.2 fun row _ => Json.lineBreak_notMem_compact row
    refine ⟨x, ?_⟩
    rw [runCommand, hx]
    dsimp only [finished]
    exact ⟨rfl, piecesBetween_ofLines hlines, by rw [x.toLines_callback]⟩

/-- A directory with a table on pages and two rows, of which one is of the brand. -/
def twoCars : Directory :=
  [("searchgrid.toml",
    "[[tables]]\nclient_id = \"cars\"\npaginator = true\n" ++
      "[[tables.columns]]\nid = \"brand\"\nfilter_by = \"#\x7bcar.brand\x7d\"\n"),
   ("rows.json", "[\x7b\"brand\": \"Volvo\"\x7d, \x7b\"brand\": \"Audi\"\x7d]")]

/-- Of two rows one is printed, and its number is reported in front of the number of warnings. -/
theorem run_filter_prints_kept_rows_twoCars :
    let words := ["filter", "--table", "cars", "--rows", "rows.json", "--param", "brand=v",
      "--global", "O"]
    let printed := ["\x7b\"brand\":\"Volvo\"\x7d"]
    run words twoCars.find none =
        { code := 0, printed := ofLines printed
          report := ["\x7b\"totalRecords\":1\x7d", "1 warning(s) emitted"] } ∧
      ∃ x : FilterInput twoCars.find "searchgrid.toml" "cars" "rows.json" ["brand=v"] (some "O"),
        x.kept.map Json.compact = printed := by
  intro words printed
  have hw : Request.ofWords words =
      .run { config := "searchgrid.toml", verbosity := 0
             command := .filter "cars" "rows.json" ["brand=v"] (some "O") } := by decide +kernel
  have hrun : run words twoCars.find none =
      { code := 0, printed := ofLines printed
        report := ["\x7b\"totalRecords\":1\x7d", "1 warning(s) emitted"] } := by decide +kernel
  obtain ⟨x, -, hpieces, -⟩ := run_filter_prints_kept_rows hw rfl (congrArg Result.code hrun)
  have hprinted : (run words twoCars.find none).printed = ofLines printed := by rw [hrun]
  rw [hprinted, piecesBetween_ofLines (by decide)] at hpieces
  exact ⟨hrun, x, (List.append_cancel_right hpieces).symm⟩

end CommandLine

end ViewQuery
