import Std.Data.HashMap.Lemmas
import Std.Data.TreeMap.Lemmas
import ViewQuery.Proofs.Filter.RowReports
import ViewQuery.Proofs.Filter.Selection
import ViewQuery.Proofs.Text.Join

/-!
# Rows of different kinds

A filter request sees nothing of a row but its cells. Two tables that are set up alike, and whose
rows have the same cells, cannot be told apart by it, even where their rows are of different kinds.

Rows of named texts are the same in three forms, as a hash map, as an ordered map and as a JSON
object, if no name has a dot in it. A dotted field is a path in a JSON row and a name in the other
two: such a path leads into a text, where there is nothing, and there is no such name.

* `Table.SetUpLike`, `SameCells`: what two tables have to share;
* `keeps_iff`, `keptAt_eq`: the rows that are kept of either;
* `decode_of_same_cells`: a request for either;
* `FlatRow`: a row in three forms, which have the same cells (`FlatRow.cell_ordered`,
  `FlatRow.cell_json`), and `FlatRow.ofEntries`: the row of any entries;
* `decode_same_for_flat_rows`: a request for the same rows in three forms.
-/

namespace ViewQuery.Filter

variable {R S : Type}

/-! ## Tables with the same cells -/

/-- Two tables are set up alike, but for their rows. -/
structure Table.SetUpLike (t : Table R) (u : Table S) : Prop where
  clientId : t.clientId = u.clientId
  separator : t.separator = u.separator
  globalSuffix : t.globalSuffix = u.globalSuffix
  columns : t.columns = u.columns
  isLazy : t.isLazy = u.isLazy
  isPaginated : t.isPaginated = u.isPaginated

/-- Two rows have the same cells. -/
def SameCells [Row R] [Row S] (row : R) (row' : S) : Prop :=
  ∀ field, Row.cell row field = Row.cell row' field

namespace Table.SetUpLike

variable {t : Table R} {u : Table S} (h : t.SetUpLike u)

include h

theorem globalParam_eq : t.globalParam = u.globalParam := by
  simp only [globalParam, qualified, h.clientId, h.separator, h.globalSuffix]

theorem filterMap_eq : t.filterMap = u.filterMap := by
  have hparams : t.paramsOf = u.paramsOf := by
    funext c
    cases hc : c.binding <;>
      simp [paramsOf, hc, columnParam, groupParam, qualified, h.clientId, h.separator]
  rw [filterMap, filterMap, h.columns, hparams]

theorem activeFilters_eq : t.activeFilters = u.activeFilters := by
  rw [activeFilters, activeFilters, h.filterMap_eq]

variable [Row R] [Row S]

/-- One rule decides about rows with the same cells. -/
theorem keeps_iff {row : R} {row' : S} (hrow : SameCells row row') (request : Request) :
    t.Keeps request row ↔ u.Keeps request row' := by
  have hcells : ∀ entry p, CellHas row entry p ↔ CellHas row' entry p := by
    intro entry p
    simp only [CellHas, hrow _]
  simp only [Keeps, ColumnsAccept, GlobalFound, hcells, h.filterMap_eq, h.globalParam_eq]

/-- The rows that a request keeps stand at the same positions in both tables. -/
theorem keptAt_eq (hrows : List.Forall₂ SameCells t.rows u.rows) (request : Request) :
    t.keptAt request = u.keptAt request := by
  refine positionsWhere_eq_of_forall₂ (fun row row' hrow => ?_) hrows
  exact decide_eq_decide.2 (h.keeps_iff hrow request)

end Table.SetUpLike

/-! ## Requests for either table -/

section

variable [Row R] {t : Table R} {request : Request} {reply : Option Reply} {matched : Option Nat}

/-- The rows that passed in a table stand at the given positions; or none are known, and no
positions are given. -/
def Table.PassedAt (t : Table R) (positions : Option (List Nat)) : Prop :=
  Option.Rel (fun kept positions => PickedAt t.rows positions kept) t.filteredValue positions

/-- The positions of the rows that pass a request, if the rows are gone through at all. -/
def Table.passing (t : Table R) (request : Request) : Option (List Nat) :=
  if t.isLazy then none else some (t.keptAt request)

theorem result_decode_eq_passing (t : Table R) (request : Request) (reply : Option Reply) :
    (decode t request reply).result =
      t.activeFilters.map fun _ => (t.passing request).map List.length := by
  rw [result_decode]
  cases ha : t.activeFilters with
  | error e => rfl
  | ok active =>
    cases hl : t.isLazy with
    | true => simp [Except.map, Table.passing, hl]
    | false => simp [Except.map, Table.passing, hl, ← matchedRows_map_snd ha]

theorem passedAt_decode (h : (decode t request reply).result = .ok matched) :
    (decode t request reply).table.PassedAt (t.passing request) := by
  obtain ⟨active, ha⟩ := exists_activeFilters h
  unfold Table.PassedAt Table.passing
  rw [rows_decode]
  cases hl : t.isLazy with
  | true =>
    rw [filteredValue_decode, ha, hl]
    exact .none
  | false =>
    rw [(decode_eq_rowsKept ha hl request reply).2]
    exact .some (t.pickedAt_keptAt request)

variable [Row S] {u : Table S}

/-- A request has the same result for two tables that are set up alike and whose rows have the same
cells, and it leaves rows at the same positions. -/
theorem decode_of_same_cells (h : t.SetUpLike u) (hrows : List.Forall₂ SameCells t.rows u.rows)
    (request : Request) (reply reply' : Option Reply) :
    (decode u request reply').result = (decode t request reply).result ∧
      ∀ matched, (decode t request reply).result = .ok matched →
        (decode u request reply').table.PassedAt (t.passing request) := by
  have hpassing : t.passing request = u.passing request := by
    rw [Table.passing, Table.passing, h.isLazy, h.keptAt_eq hrows]
  have hresult : (decode u request reply').result = (decode t request reply).result := by
    rw [result_decode_eq_passing, result_decode_eq_passing, h.activeFilters_eq, hpassing]
  refine ⟨hresult, fun matched hok => ?_⟩
  rw [hpassing]
  exact passedAt_decode (hresult.trans hok)

end

/-! ## Rows of named texts -/

/-- A row of named texts in three forms. No name has a dot in it. -/
structure FlatRow where
  hashed : Std.HashMap String String
  ordered : Std.TreeMap String String
  members : Dict Json
  ordered_eq : ∀ name : String, ordered[name]? = hashed[name]?
  members_eq : ∀ name : String, members.lookup name = hashed[name]?.map .string
  no_dot : ∀ name ∈ hashed, '.' ∉ name.toList

namespace FlatRow

/-- The row as a JSON object. -/
def json (row : FlatRow) : Json := .object row.members

/-! ### The cells -/

theorem cell_ordered (row : FlatRow) : SameCells row.hashed row.ordered :=
  fun name => (row.ordered_eq name).symm

/-- A path of several parts leads nowhere: what its first part leads to is a text. -/
theorem at?_json_of_cons_cons (row : FlatRow) (part part' : String) (parts : List String) :
    row.json.at? (part :: part' :: parts) = none := by
  have hnone : (row.members.lookup part).bind (Json.get? part') = none := by
    rw [row.members_eq]
    cases row.hashed[part]? <;> rfl
  show parts.foldl _ ((row.members.lookup part).bind (Json.get? part')) = none
  rw [hnone]
  exact List.foldl_fixed' (fun _ => rfl) parts

theorem cell_json (row : FlatRow) : SameCells row.hashed row.json := by
  intro field
  show row.hashed[field]? = (row.json.at? (Text.piecesBetween '.' field)).bind cellText
  have hjoin := Text.joinWith_piecesBetween '.' field
  cases hpieces : Text.piecesBetween '.' field with
  | nil => exact absurd hpieces (Text.piecesBetween_ne_nil '.' field)
  | cons part parts =>
    rw [hpieces] at hjoin
    cases parts with
    | nil =>
      obtain rfl : part = field := by simpa [Text.joinWith] using hjoin
      show _ = (row.members.lookup part).bind cellText
      rw [row.members_eq]
      cases row.hashed[part]? <;> rfl
    | cons part' parts =>
      have hdot : '.' ∈ field.toList := by
        rw [← hjoin, Text.toList_joinWith]
        simp [List.intercalate_cons_cons]
      have hno : field ∉ row.hashed := fun hmem => row.no_dot field hmem hdot
      rw [at?_json_of_cons_cons, Std.HashMap.getElem?_eq_none hno]
      rfl

/-! ### The row of some entries -/

section

variable (entries : List (String × String))

theorem getElem?_foldl_hashed (name : String) :
    (entries.foldl (fun m e => m.insert e.1 e.2) (∅ : Std.HashMap String String))[name]? =
      entries.reverse.lookup name := by
  have hput := Dict.get_foldl_put (fun (m : Std.HashMap String String) name => m[name]?)
    (fun m name text => m.insert name text)
    (fun m name text other => by
      simp only [Std.HashMap.getElem?_insert, beq_iff_eq]
      exact if_congr eq_comm rfl rfl)
    entries ∅ name
  simpa using hput

theorem getElem?_foldl_ordered (name : String) :
    (entries.foldl (fun m e => m.insert e.1 e.2) (∅ : Std.TreeMap String String))[name]? =
      entries.reverse.lookup name := by
  have hput := Dict.get_foldl_put (fun (m : Std.TreeMap String String) name => m[name]?)
    (fun m name text => m.insert name text)
    (fun m name text other => by
      simp only [Std.TreeMap.getElem?_insert, Std.compare_eq_iff_eq]
      exact if_congr eq_comm rfl rfl)
    entries ∅ name
  simpa using hput

theorem lookup_map_string (name : String) :
    (entries.map fun e => (e.1, Json.string e.2)).lookup name =
      (entries.lookup name).map .string := by
  induction entries with
  | nil => rfl
  | cons e entries ih =>
    rw [List.map_cons, Dict.lookup_cons_eq, Dict.lookup_cons_eq, ih]
    split <;> rfl

/-- The row of some entries without a dot in their names, of two with one name the later. -/
def ofEntries (h : ∀ e ∈ entries, '.' ∉ e.1.toList) : FlatRow where
  hashed := entries.foldl (fun m e => m.insert e.1 e.2) ∅
  ordered := entries.foldl (fun m e => m.insert e.1 e.2) ∅
  members := Dict.ofList (entries.map fun e => (e.1, .string e.2))
  ordered_eq name := by rw [getElem?_foldl_hashed, getElem?_foldl_ordered]
  members_eq name := by
    rw [Dict.lookup_ofList, ← List.map_reverse, lookup_map_string, getElem?_foldl_hashed]
  no_dot name hname := by
    rw [Std.HashMap.mem_iff_isSome_getElem?, getElem?_foldl_hashed,
      Option.isSome_iff_exists] at hname
    obtain ⟨text, htext⟩ := hname
    obtain ⟨front, back, hentries, -⟩ := List.lookup_eq_some_iff.1 htext
    have hmem : (name, text) ∈ entries := by
      rw [← List.mem_reverse, hentries]
      simp
    exact h _ hmem

end

end FlatRow

/-- Whether the rows of a table are hash maps, ordered maps or JSON objects with the same texts
under the same names makes no difference to a request: it has the same result, and if it succeeds,
it leaves rows at the same positions. -/
theorem decode_same_for_flat_rows (rows : List FlatRow)
    {hashed : Table (Std.HashMap String String)} {ordered : Table (Std.TreeMap String String)}
    {json : Table Json} (hhashed : hashed.rows = rows.map FlatRow.hashed)
    (hordered : ordered.rows = rows.map FlatRow.ordered)
    (hjson : json.rows = rows.map FlatRow.json) (hho : hashed.SetUpLike ordered)
    (hhj : hashed.SetUpLike json) (request : Request) (reply reply' reply'' : Option Reply) :
    let byHash := decode hashed request reply
    let byOrder := decode ordered request reply'
    let byPath := decode json request reply''
    byOrder.result = byHash.result ∧ byPath.result = byHash.result ∧
      ∀ matched, byHash.result = .ok matched → ∃ positions : Option (List Nat),
        matched = positions.map List.length ∧ (positions = none ↔ hashed.isLazy = true) ∧
          byHash.table.PassedAt positions ∧ byOrder.table.PassedAt positions ∧
          byPath.table.PassedAt positions := by
  intro byHash byOrder byPath
  have hordered : List.Forall₂ SameCells hashed.rows ordered.rows := by
    rw [hhashed, hordered, List.forall₂_map_left_iff, List.forall₂_map_right_iff,
      List.forall₂_same]
    exact fun row _ => row.cell_ordered
  have hjson : List.Forall₂ SameCells hashed.rows json.rows := by
    rw [hhashed, hjson, List.forall₂_map_left_iff, List.forall₂_map_right_iff, List.forall₂_same]
    exact fun row _ => row.cell_json
  obtain ⟨hresult, hpassed⟩ := decode_of_same_cells hho hordered request reply reply'
  obtain ⟨hresult', hpassed'⟩ := decode_of_same_cells hhj hjson request reply reply''
  refine ⟨hresult, hresult', fun matched hok => ?_⟩
  refine ⟨hashed.passing request, ?_, ?_, passedAt_decode hok, hpassed matched hok,
    hpassed' matched hok⟩
  · obtain ⟨active, ha⟩ := exists_activeFilters hok
    have heq := (result_decode_eq_passing hashed request reply).symm.trans hok
    rw [ha] at heq
    exact (Except.ok.inj heq).symm
  · unfold Table.passing
    cases hashed.isLazy <;> simp

/-- A table with a column for a plain field and one for a dotted field. -/
def ownedCars {R : Type} (rows : List R) : Table R :=
  { Table.new "t" ':' rows with
    columns := [Column.single "m" "#\x7bcar.model\x7d", Column.single "o" "car.owner.name"] }

/-- The one car whose model begins with the value is found in all three forms. -/
theorem decode_same_for_flat_rows_golf :
    let rows := [FlatRow.ofEntries [("model", "Polo"), ("owner", "Ada")] (by decide),
      FlatRow.ofEntries [("model", "Golf")] (by decide)]
    let request := Request.ofList [("t:m_filter", "g")]
    let byHash := decode (ownedCars (rows.map FlatRow.hashed)) request none
    let byOrder := decode (ownedCars (rows.map FlatRow.ordered)) request none
    let byPath := decode (ownedCars (rows.map FlatRow.json)) request none
    byPath.result = .ok (some 1) ∧ byHash.result = .ok (some 1) ∧ byOrder.result = .ok (some 1) ∧
      ∃ positions, positions.map List.length = some 1 ∧ byHash.table.PassedAt positions ∧
        byOrder.table.PassedAt positions ∧ byPath.table.PassedAt positions := by
  intro rows request byHash byOrder byPath
  have hrows : rows.map FlatRow.json =
      [.object [("model", .string "Polo"), ("owner", .string "Ada")],
        .object [("model", .string "Golf")]] := rfl
  have hpath : byPath.result = .ok (some 1) := by
    show (decode (ownedCars (rows.map FlatRow.json)) request none).result = _
    rw [hrows]
    rfl
  have hho : (ownedCars (rows.map FlatRow.hashed)).SetUpLike
      (ownedCars (rows.map FlatRow.ordered)) := ⟨rfl, rfl, rfl, rfl, rfl, rfl⟩
  have hhj : (ownedCars (rows.map FlatRow.hashed)).SetUpLike
      (ownedCars (rows.map FlatRow.json)) := ⟨rfl, rfl, rfl, rfl, rfl, rfl⟩
  obtain ⟨horder, hjson, hpositions⟩ :=
    decode_same_for_flat_rows rows rfl rfl rfl hho hhj request none none none
  have hhash : byHash.result = .ok (some 1) := hjson.symm.trans hpath
  obtain ⟨positions, hlength, -, hpassed⟩ := hpositions _ hhash
  exact ⟨hpath, hhash, horder.trans hhash, positions, hlength.symm, hpassed⟩

end ViewQuery.Filter
