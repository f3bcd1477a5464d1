import Mathlib.Data.List.Nodup
import ViewQuery.Proofs.Filter.Configured
import ViewQuery.Proofs.Number.Index

/-!
# Names of tables and parameters

A table is known by its client id, and its filters by the parameters of their values, which are put
together from free text. Whether they are told apart depends on this text.

* `memberName_inj`: the name of a column of a group determines the group and the index;
* `Config.Table.nodup_names_iff`: when the names of the columns of a table are distinct;
* `Filter.Table.nodup_params_iff`: when the parameters of a table are distinct;
* `Config.names_identify_iff`: when tables and parameters are told apart by their names.
-/

namespace ViewQuery

namespace Filter

/-! ## Names of columns -/

/-- The name of the column of a group at an index. -/
def memberName (id : String) (index : Nat) : String := id ++ indexMark ++ toString index

/-- What ends in a character is told apart from what follows without this character. -/
theorem append_singleton_append_inj {c : Char} {as bs ds es : List Char} (hd : c ∉ ds) (he : c ∉ es)
    (h : as ++ c :: ds = bs ++ c :: es) : as = bs ∧ ds = es := by
  rcases List.append_eq_append_iff.1 h with ⟨xs, rfl, hx⟩ | ⟨xs, rfl, hx⟩
  · cases xs with
    | nil => exact ⟨(List.append_nil as).symm, (List.cons.inj hx).2⟩
    | cons x xs =>
      obtain ⟨rfl, rfl⟩ := List.cons.inj hx
      exact absurd (by simp) hd
  · cases xs with
    | nil => exact ⟨List.append_nil bs, ((List.cons.inj hx).2).symm⟩
    | cons x xs =>
      obtain ⟨rfl, rfl⟩ := List.cons.inj hx
      exact absurd (by simp) he

/-- The index mark ends in a character that is no digit, so that the index is read off the end. -/
theorem memberName_inj {id id' : String} {i j : Nat} :
    memberName id i = memberName id' j ↔ id = id' ∧ i = j := by
  constructor
  · intro h
    have hmark : indexMark.toList = "_colIndex".toList ++ ['_'] := rfl
    have hdigit : ∀ n : Nat, '_' ∉ (toString n).toList := fun n hn =>
      absurd (Number.isDigit_of_mem_repr hn) (by decide)
    have hlist := congrArg String.toList h
    simp only [memberName, String.toList_append, hmark, List.append_assoc, List.singleton_append]
      at hlist
    rw [← List.append_assoc, ← List.append_assoc] at hlist
    obtain ⟨hid, hindex⟩ := append_singleton_append_inj (hdigit i) (hdigit j) hlist
    refine ⟨String.toList_inj.1 (List.append_cancel_right hid), ?_⟩
    rw [Nat.toString_eq_repr, Nat.toString_eq_repr, Nat.toList_repr, Nat.toList_repr] at hindex
    rw [← Number.ofDigits_toDigits i, hindex, Number.ofDigits_toDigits]
  · rintro ⟨rfl, rfl⟩
    rfl

end Filter

open ViewQuery.Filter (memberName memberName_inj filterMark)

/-- The names of the columns that a configured column stands for. -/
def Config.Column.names (c : Config.Column) : List String :=
  match c.filterBy with
  | some _ => [c.id]
  | none => (List.range c.fields.length).map (memberName c.id)

theorem Config.Column.nodup_names (c : Config.Column) : c.names.Nodup := by
  unfold names
  cases c.filterBy with
  | some _ => exact List.nodup_singleton _
  | none => exact List.nodup_range.map fun i j h => (memberName_inj.1 h).2

theorem Config.Column.names_of_single {c : Config.Column} (h : c.filterBy.isSome = true) :
    c.names = [c.id] := by
  obtain ⟨binding, hb⟩ := Option.isSome_iff_exists.1 h
  simp only [names, hb]

theorem Config.Column.mem_names_of_group {c : Config.Column} (h : c.filterBy.isNone = true)
    {name : String} : name ∈ c.names ↔ ∃ i < c.fields.length, memberName c.id i = name := by
  simp only [names, Option.isNone_iff_eq_none.1 h, List.mem_map, List.mem_range]

/-- Groups with columns have distinct names exactly when their ids are distinct. -/
theorem Config.Column.disjoint_names_iff {c d : Config.Column} (hc : c.filterBy.isNone = true)
    (hd : d.filterBy.isNone = true) (hcf : c.fields ≠ []) (hdf : d.fields ≠ []) :
    List.Disjoint c.names d.names ↔ c.id ≠ d.id := by
  constructor
  · intro h he
    refine h ((mem_names_of_group hc).2 ⟨0, List.length_pos_iff.2 hcf, rfl⟩)
      ((mem_names_of_group hd).2 ⟨0, List.length_pos_iff.2 hdf, ?_⟩)
    rw [he]
  · intro hne name hmc hmd
    obtain ⟨i, -, hi⟩ := (mem_names_of_group hc).1 hmc
    obtain ⟨j, -, hj⟩ := (mem_names_of_group hd).1 hmd
    exact hne (memberName_inj.1 (hi.trans hj.symm)).1

/-- The names of the columns are distinct: single columns have distinct ids, and so have groups, and
no single column is called like a column of a group. -/
structure Config.Table.ColumnsApart (t : Config.Table) : Prop where
  single_ids : ((t.columns.filter (·.filterBy.isSome)).map (·.id)).Nodup
  group_ids : ((t.columns.filter (·.filterBy.isNone)).map (·.id)).Nodup
  single_ne_member : ∀ s ∈ t.columns, s.filterBy.isSome = true → ∀ g ∈ t.columns,
    g.filterBy.isNone = true → ∀ i < g.fields.length, s.id ≠ memberName g.id i

theorem Config.Table.columnsApart_iff {t : Config.Table} : t.ColumnsApart ↔
    ((t.columns.filter (·.filterBy.isSome)).map (·.id)).Nodup ∧
      ((t.columns.filter (·.filterBy.isNone)).map (·.id)).Nodup ∧
      ∀ s ∈ t.columns, s.filterBy.isSome = true → ∀ g ∈ t.columns, g.filterBy.isNone = true →
        ∀ i < g.fields.length, s.id ≠ memberName g.id i :=
  ⟨fun h => ⟨h.1, h.2, h.3⟩, fun h => ⟨h.1, h.2.1, h.2.2⟩⟩

instance (t : Config.Table) : Decidable t.ColumnsApart :=
  decidable_of_iff' _ Config.Table.columnsApart_iff

/-- A group of an accepted table has columns. -/
theorem Config.Column.Accepted.fields_ne_nil {c : Config.Column} (h : c.Accepted)
    (hnone : c.filterBy.isNone = true) : c.fields ≠ [] := by
  intro hnil
  have hsome := h.single_iff.2 hnil
  rw [Option.isNone_iff_eq_none.1 hnone] at hsome
  cases hsome

theorem Config.Table.flatMap_names_single (t : Config.Table) :
    (t.columns.filter (·.filterBy.isSome)).flatMap (·.names) =
      (t.columns.filter (·.filterBy.isSome)).map (·.id) := by
  rw [List.map_eq_flatMap]
  exact List.flatMap_congr fun c hc => Column.names_of_single (List.mem_filter.1 hc).2

theorem Config.Table.nodup_group_names_iff {t : Config.Table} (h : t.Accepted) :
    ((t.columns.filter (·.filterBy.isNone)).flatMap (·.names)).Nodup ↔
      ((t.columns.filter (·.filterBy.isNone)).map (·.id)).Nodup := by
  rw [List.nodup_flatMap, and_iff_right fun c _ => c.nodup_names, List.Nodup, List.pairwise_map]
  refine List.Pairwise.iff_of_mem fun {c d} hc hd => ?_
  obtain ⟨hmemc, hnonec⟩ := List.mem_filter.1 hc
  obtain ⟨hmemd, hnoned⟩ := List.mem_filter.1 hd
  have hfieldsc : c.fields ≠ [] := (h.columns c hmemc).fields_ne_nil hnonec
  have hfieldsd : d.fields ≠ [] := (h.columns d hmemd).fields_ne_nil hnoned
  exact Column.disjoint_names_iff hnonec hnoned hfieldsc hfieldsd

theorem Config.Table.single_ids_ne_group_names_iff {t : Config.Table} :
    (∀ a ∈ (t.columns.filter (·.filterBy.isSome)).map (·.id),
        ∀ b ∈ (t.columns.filter (·.filterBy.isNone)).flatMap (·.names), a ≠ b) ↔
      ∀ s ∈ t.columns, s.filterBy.isSome = true → ∀ g ∈ t.columns, g.filterBy.isNone = true →
        ∀ i < g.fields.length, s.id ≠ memberName g.id i := by
  constructor
  · intro hne s hs hsome g hg hnone i hi
    have hname : memberName g.id i ∈ g.names := (Column.mem_names_of_group hnone).2 ⟨i, hi, rfl⟩
    exact hne _ (List.mem_map_of_mem (List.mem_filter.2 ⟨hs, hsome⟩)) _
      (List.mem_flatMap.2 ⟨g, List.mem_filter.2 ⟨hg, hnone⟩, hname⟩)
  · intro hne a ha b hb
    obtain ⟨s, hs, rfl⟩ := List.mem_map.1 ha
    obtain ⟨g, hg, hname⟩ := List.mem_flatMap.1 hb
    obtain ⟨hs, hsome⟩ := List.mem_filter.1 hs
    obtain ⟨hg, hnone⟩ := List.mem_filter.1 hg
    obtain ⟨i, hi, rfl⟩ := (Column.mem_names_of_group hnone).1 hname
    exact hne s hs hsome g hg hnone i hi

/-- Under accepted columns, distinct names are the same as the conditions on their ids. -/
theorem Config.Table.nodup_names_iff {t : Config.Table} (h : t.Accepted) :
    (t.columns.flatMap (·.names)).Nodup ↔ t.ColumnsApart := by
  have hperm : (t.columns.filter (·.filterBy.isSome) ++ t.columns.filter (·.filterBy.isNone)).Perm
      t.columns := by
    simpa using List.filter_append_perm (fun c : Config.Column => c.filterBy.isSome) t.columns
  rw [← (hperm.flatMap_right _).nodup_iff, List.flatMap_append, List.nodup_append,
    t.flatMap_names_single, nodup_group_names_iff h, single_ids_ne_group_names_iff,
    columnsApart_iff]

/-! ## Parameters -/

namespace Filter

namespace Table

variable {R : Type}

/-- All parameters that are looked for in a request to a table. -/
def params (t : Table R) : List String :=
  t.filteringParam :: t.globalParam :: t.filterMap.map (·.1)

/-- The parameter for the name of a column. -/
def nameParam (t : Table R) (name : String) : String := t.qualified name ++ filterMark

theorem nameParam_inj {t : Table R} {name name' : String} :
    t.nameParam name = t.nameParam name' ↔ name = name' := by
  rw [← String.toList_inj, ← String.toList_inj]
  simp [nameParam, qualified]

theorem paramsOf_eq_map_names {c : Config.Column} {d : Column} (h : Column.ofConfig c = .ok d)
    (t : Table R) : t.paramsOf d = c.names.map t.nameParam := by
  obtain ⟨hid, hbinding, -⟩ := Column.ofConfig_eq_ok_iff.1 h
  unfold paramsOf Config.Column.names
  rw [hbinding]
  cases c.filterBy with
  | some binding => simp [columnParam, nameParam, hid]
  | none =>
    simp only [Option.elim, List.map_map]
    refine List.map_congr_left fun i _ => ?_
    simp [groupParam, nameParam, memberName, qualified, hid, String.append_assoc]

theorem flatMap_paramsOf {columns : List Config.Column} {ds : List Column}
    (h : columns.map Column.ofConfig = ds.map .ok) (t : Table R) :
    ds.flatMap t.paramsOf = (columns.flatMap (·.names)).map t.nameParam := by
  induction map_eq_map_ok_iff_forall₂.1 h with
  | nil => rfl
  | cons hd _ ih =>
    rw [List.flatMap_cons, List.flatMap_cons, List.map_append, ih (List.cons.inj h).2,
      paramsOf_eq_map_names hd]

theorem map_fst_filterMap (t : Table R) :
    t.filterMap.map (·.1) = t.columns.flatMap t.paramsOf := by
  rw [filterMap, List.map_flatMap]
  refine List.flatMap_congr fun d _ => ?_
  rw [List.map_map]
  exact List.map_id _

theorem filteringParam_ne_nameParam (t : Table R) (name : String) :
    t.filteringParam ≠ t.nameParam name := by
  rw [ne_eq, ← String.toList_inj]
  intro h
  -- The one ends in the last character of its mark, and the other one in that of another.
  have hlast := congrArg (fun cs => cs.reverse.head?) h
  simp [filteringParam, nameParam, qualified, filterMark] at hlast

theorem globalParam_eq_filteringParam_iff {t : Table R} : t.globalParam = t.filteringParam ↔
    t.separator = '_' ∧ t.globalSuffix = "filtering" := by
  have hmark : "_filtering".toList = '_' :: "filtering".toList := rfl
  rw [← String.toList_inj, ← String.toList_inj]
  simp [filteringParam, globalParam, qualified, hmark]

theorem globalParam_eq_nameParam_iff {t : Table R} {name : String} :
    t.globalParam = t.nameParam name ↔ t.globalSuffix = name ++ filterMark := by
  rw [← String.toList_inj, ← String.toList_inj]
  simp [globalParam, nameParam, qualified]

theorem globalParam_notMem_iff {t : Table R} {names : List String} :
    t.globalParam ∉ names.map t.nameParam ↔
      ∀ name ∈ names, t.globalSuffix ≠ name ++ filterMark := by
  constructor
  · intro hm name hname he
    exact hm (List.mem_map.2 ⟨name, hname, (globalParam_eq_nameParam_iff.2 he).symm⟩)
  · intro hne hm
    obtain ⟨name, hname, he⟩ := List.mem_map.1 hm
    exact hne name hname (globalParam_eq_nameParam_iff.1 he.symm)

theorem filteringParam_notMem (t : Table R) (names : List String) :
    t.filteringParam ∉ names.map t.nameParam := by
  intro hm
  obtain ⟨name, -, hname⟩ := List.mem_map.1 hm
  exact filteringParam_ne_nameParam t name hname.symm

end Table

end Filter

/-! ## Distinct parameters -/

/-- The names that go into the parameters of a table are told apart: those of its columns from each
other and from the name of the global filter, and that from the mark of a filter request. -/
structure Config.Table.NamesApart (t : Config.Table) (filtering : Config.Filtering)
    (separator : Char) : Prop extends t.ColumnsApart where
  global_ne_column : ∀ c ∈ t.columns, ∀ name ∈ c.names,
    filtering.globalFilterParam ≠ name ++ filterMark
  global_ne_filtering : ¬ (separator = '_' ∧ filtering.globalFilterParam = "filtering")

theorem Config.Table.namesApart_iff {t : Config.Table} {filtering : Config.Filtering}
    {separator : Char} : t.NamesApart filtering separator ↔ t.ColumnsApart ∧
      (∀ c ∈ t.columns, ∀ name ∈ c.names, filtering.globalFilterParam ≠ name ++ filterMark) ∧
      ¬ (separator = '_' ∧ filtering.globalFilterParam = "filtering") :=
  ⟨fun h => ⟨h.1, h.2, h.3⟩, fun h => ⟨h.1, h.2.1, h.2.2⟩⟩

instance (t : Config.Table) (filtering : Config.Filtering) (separator : Char) :
    Decidable (t.NamesApart filtering separator) :=
  decidable_of_iff' _ Config.Table.namesApart_iff

/-- The parameters of a configured table are distinct exactly when the names in them are told
apart. -/
theorem Filter.Table.nodup_params_iff {R : Type} {c : Config.Table} (hc : c.Accepted)
    {filtering : Config.Filtering} {separator : Char} {rows : List R} {t : Filter.Table R}
    (ht : Filter.Table.ofConfig c filtering separator rows = .ok t) :
    t.params.Nodup ↔ c.NamesApart filtering separator := by
  obtain ⟨hcolumns, htable⟩ := ofConfig_eq_ok_iff.1 ht
  have hseparator : t.separator = separator := congrArg Filter.Table.separator htable
  have hsuffix : t.globalSuffix = filtering.globalFilterParam :=
    congrArg Filter.Table.globalSuffix htable
  have hinj : Function.Injective t.nameParam := fun _ _ h => nameParam_inj.1 h
  rw [params, map_fst_filterMap, flatMap_paramsOf hcolumns, List.nodup_cons, List.mem_cons, not_or,
    List.nodup_cons, List.nodup_map_iff hinj, Config.Table.nodup_names_iff hc,
    and_iff_left (t.filteringParam_notMem _), globalParam_notMem_iff, List.forall_mem_flatMap,
    eq_comm, globalParam_eq_filteringParam_iff, hseparator, hsuffix, Config.Table.namesApart_iff]
  exact ⟨fun h => ⟨h.2.2, h.2.1, h.1⟩, fun h => ⟨h.2.2, h.2.1, h.1⟩⟩

/-! ## Tables by client id -/

/-- The place of the first table of a client id. -/
def Config.tableIndex? (c : Config) (clientId : String) : Option Nat :=
  c.tables.findIdx? fun t => t.clientId == clientId

theorem Config.table?_eq (c : Config) (clientId : String) :
    c.table? clientId = (c.tableIndex? clientId).bind fun i => c.tables[i]? :=
  List.find?_eq_bind_findIdx?_getElem?

/-- Each table is the one that is found under its client id, at its own place, exactly when the
client ids are distinct. -/
theorem Config.forall_tableIndex?_iff {c : Config} :
    (∀ i t, c.tables[i]? = some t →
        c.tableIndex? t.clientId = some i ∧ c.table? t.clientId = some t) ↔
      (c.tables.map (·.clientId)).Nodup := by
  rw [List.Nodup, List.pairwise_map, List.pairwise_iff_getElem]
  constructor
  · intro h i j hi hj hlt he
    have hfirst := (h i _ (List.getElem?_eq_getElem hi)).1
    rw [he, (h j _ (List.getElem?_eq_getElem hj)).1] at hfirst
    exact Nat.ne_of_gt hlt (Option.some.inj hfirst)
  · intro h i t hi
    obtain ⟨hlt, rfl⟩ := List.getElem?_eq_some_iff.1 hi
    have hindex : c.tableIndex? c.tables[i].clientId = some i := by
      refine List.findIdx?_eq_some_iff_getElem.2 ⟨hlt, beq_self_eq_true _, fun j hj he => ?_⟩
      exact h j i (Nat.lt_trans hj hlt) hlt hj (eq_of_beq he)
    exact ⟨hindex, by rw [c.table?_eq, hindex, Option.bind_some, hi]⟩

/-- In an accepted configuration each table is found under its client id exactly when the client ids
are distinct; and each table can be built, with distinct parameters exactly when the names in them
are told apart. -/
theorem Config.names_identify_iff {c : Config} (h : c.validate = .ok ()) :
    ((∀ i t, c.tables[i]? = some t →
        c.tableIndex? t.clientId = some i ∧ c.table? t.clientId = some t) ↔
      (c.tables.map (·.clientId)).Nodup) ∧
    ∀ t ∈ c.tables, ∀ (R : Type) (rows : List R), ∃ table,
      Filter.Table.ofConfig t c.filtering c.expressions.separator rows = .ok table ∧
        (table.params.Nodup ↔ t.NamesApart c.filtering c.expressions.separator) := by
  refine ⟨forall_tableIndex?_iff, fun t ht R rows => ?_⟩
  have haccepted : t.Accepted := (validate_eq_ok_iff.1 h).tables t ht
  obtain ⟨table, htable⟩ := Filter.Table.exists_ofConfig haccepted c.filtering
    c.expressions.separator rows
  exact ⟨table, htable, Filter.Table.nodup_params_iff haccepted htable⟩

/-- A single column of an id. -/
def Config.singleColumn (id : String) : Config.Column :=
  { id, filterBy := some "car.model", fields := [], matchMode := Config.defaultMatchMode }

/-- A group of two columns of an id. -/
def Config.groupColumn (id : String) : Config.Column :=
  { id, filterBy := none, fields := ["car.brand", "car.color"]
    matchMode := Config.defaultMatchMode }

/-- A table with a client id and columns. -/
def Config.tableOf (clientId : String) (columns : List Config.Column) : Config.Table :=
  { clientId, isLazy := false, isPaginated := false, columns }

/-- A configuration of tables. -/
def Config.ofTables (separator : Char) (globalFilterParam : String) (tables : List Config.Table) :
    Config :=
  { expressions := { stage := Config.defaultStage, separator }
    filtering := { globalFilterParam }
    logging := Config.defaultLogging
    tables }

/-- A single column and a group may have one id, and a single column may be called like a column
that a group does not have. -/
theorem Config.names_identify_iff_cars :
    let cars := Config.tableOf "cars"
      [Config.singleColumn "model", Config.groupColumn "model",
        Config.singleColumn "model_colIndex_2"]
    let c := Config.ofTables ':' "model" [Config.tableOf "models" [], cars]
    c.validate = .ok () ∧ c.tableIndex? "cars" = some 1 ∧
      ∃ table : Filter.Table String,
        Filter.Table.ofConfig cars c.filtering ':' [] = .ok table ∧ table.params.Nodup := by
  intro cars c
  have haccepted : c.validate = .ok () := rfl
  obtain ⟨hfind, hbuild⟩ := names_identify_iff haccepted
  obtain ⟨table, htable, hparams⟩ := hbuild cars (by decide) String []
  exact ⟨haccepted, (hfind.2 (by decide) 1 cars rfl).1, table, htable, hparams.2 (by decide)⟩

/-- Nothing compares one name with another: of two tables with a client id only the first is found,
and one parameter goes to two columns with one id, to a single column and a column of a group, to a
column and the global filter, or to the global filter and the mark of a filter request. -/
theorem Config.names_clash :
    let params := fun (c : Config) => c.tables.map fun t =>
      (Filter.Table.ofConfig t c.filtering c.expressions.separator ([] : List String)).map
        Filter.Table.params
    let model := Config.singleColumn "model"
    let sameTables := Config.ofTables ':' "search"
      [Config.tableOf "cars" [], Config.tableOf "cars" [model]]
    let sameColumns := Config.ofTables ':' "search" [Config.tableOf "cars" [model, model]]
    let member := Config.ofTables ':' "search"
      [Config.tableOf "cars" [Config.singleColumn "g_colIndex_0", Config.groupColumn "g"]]
    let globalColumn := Config.ofTables ':' "model_filter" [Config.tableOf "cars" [model]]
    let globalMark := Config.ofTables '_' "filtering" [Config.tableOf "cars" []]
    (sameTables.validate = .ok () ∧ sameTables.tableIndex? "cars" = some 0 ∧
        sameTables.tables[1]?.map (·.clientId) = some "cars") ∧
      (sameColumns.validate = .ok () ∧ params sameColumns =
        [.ok ["cars_filtering", "cars:search", "cars:model_filter", "cars:model_filter"]]) ∧
      (member.validate = .ok () ∧ params member =
        [.ok ["cars_filtering", "cars:search", "cars:g_colIndex_0_filter",
          "cars:g_colIndex_0_filter", "cars:g_colIndex_1_filter"]]) ∧
      (globalColumn.validate = .ok () ∧ params globalColumn =
        [.ok ["cars_filtering", "cars:model_filter", "cars:model_filter"]]) ∧
      (globalMark.validate = .ok () ∧ params globalMark =
        [.ok ["cars_filtering", "cars_filtering"]]) :=
  ⟨⟨rfl, rfl, rfl⟩, ⟨rfl, rfl⟩, ⟨rfl, rfl⟩, ⟨rfl, rfl⟩, rfl, rfl⟩

end ViewQuery
