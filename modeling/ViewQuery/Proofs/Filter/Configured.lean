import ViewQuery.Filter.Table
import ViewQuery.Proofs.Config.Accepted
import ViewQuery.Proofs.Outcome

/-!
# Configured tables

What becomes of a configured table: its columns in order, each with its id, its match mode and its
binding or bindings. The names of match modes that configurations are checked for are those that
columns are built with, so that what is accepted can be built; of what is not, the first unknown
match mode is reported.

* `Constraint.ofName_eq_ok_iff`, `Constraint.ofName_eq_error_iff`: the match modes by their names;
* `Column.ofConfig_eq_ok_iff`, `Table.ofConfig_eq_ok_iff`: the column and the table that a
  configuration describes;
* `Table.ofConfig_eq_error_iff`: the tables that cannot be built;
* `Column.exists_ofConfig_iff`, `Table.exists_ofConfig`: what is accepted can be built;
* `Table.map_snd_filterMap`: the columns of the filter map;
* `Table.accepted_are_built`: all of this for the tables of a configuration.
-/

namespace ViewQuery.Filter

/-! ## Match modes -/

namespace Constraint

variable {name : String} {mode : Constraint} {e : Error}

theorem ofName_eq_ok_iff : ofName name = .ok mode ↔ mode.name = name := by
  constructor
  · intro h
    unfold ofName at h
    split at h <;> cases h <;> rfl
  · rintro rfl
    exact ofName_name mode

/-- The names that a configuration may have are those of the match modes. -/
theorem mem_matchModes_iff : name ∈ Config.matchModes ↔ ∃ mode : Constraint, mode.name = name := by
  constructor
  · have hall : ∀ name ∈ Config.matchModes, ∃ mode, ofName name = .ok mode := by
      simp [Config.matchModes, ofName]
    intro h
    obtain ⟨mode, hmode⟩ := hall name h
    exact ⟨mode, ofName_eq_ok_iff.1 hmode⟩
  · rintro ⟨mode, rfl⟩
    cases mode <;> decide

theorem ofName_eq_error_iff :
    ofName name = .error e ↔ name ∉ Config.matchModes ∧ e = .matchMode name := by
  rw [mem_matchModes_iff]
  cases h : ofName name with
  | ok mode => simpa using fun h' => absurd (ofName_eq_ok_iff.1 h) (h' mode)
  | error e' =>
    have hnone : ¬ ∃ mode : Constraint, mode.name = name := by
      rintro ⟨mode, rfl⟩
      rw [ofName_name] at h
      cases h
    have he : e' = .matchMode name := by
      unfold ofName at h
      split at h <;> cases h
      rfl
    rw [and_iff_right hnone, he, Except.error.injEq, eq_comm]

end Constraint

/-! ## Columns and tables -/

theorem Column.ofConfig_eq_ok_iff {c : Config.Column} {d : Column} :
    Column.ofConfig c = .ok d ↔
      d.id = c.id ∧ d.binding = c.filterBy.elim (.group c.fields) .single ∧
      Constraint.ofName c.matchMode = .ok d.constraint := by
  obtain ⟨id, binding, constraint⟩ := d
  unfold ofConfig
  cases Constraint.ofName c.matchMode with
  | error e => simp [bind, Except.bind]
  | ok mode =>
    cases c.filterBy <;>
      simp [bind, Except.bind, pure, Except.pure, single, group, withConstraint, eq_comm]

theorem Column.ofConfig_eq_error_iff {c : Config.Column} {e : Error} :
    Column.ofConfig c = .error e ↔ c.matchMode ∉ Config.matchModes ∧ e = .matchMode c.matchMode := by
  rw [← Constraint.ofName_eq_error_iff]
  unfold ofConfig
  cases Constraint.ofName c.matchMode <;> simp [bind, Except.bind, pure, Except.pure]

/-- A column can be built exactly if its match mode is one that there is. -/
theorem Column.exists_ofConfig_iff {c : Config.Column} :
    (∃ d, Column.ofConfig c = .ok d) ↔ c.matchMode ∈ Config.matchModes := by
  cases h : Column.ofConfig c with
  | ok d =>
    refine iff_of_true ⟨d, rfl⟩ ?_
    by_contra hmode
    rw [Column.ofConfig_eq_error_iff.2 ⟨hmode, rfl⟩] at h
    cases h
  | error e => simpa using (Column.ofConfig_eq_error_iff.1 h).1

/-- The number of parameters of a column. -/
def Column.width (c : Column) : Nat :=
  match c.binding with
  | .single _ => 1
  | .group bindings => bindings.length

namespace Table

variable {R : Type}

theorem ofConfig_eq_ok_iff {c : Config.Table} {filtering : Config.Filtering} {separator : Char}
    {rows : List R} {t : Table R} : Table.ofConfig c filtering separator rows = .ok t ↔
      c.columns.map Column.ofConfig = t.columns.map .ok ∧
        t = { Table.new c.clientId separator rows with
          columns := t.columns, isLazy := c.isLazy, isPaginated := c.isPaginated
          globalSuffix := filtering.globalFilterParam } := by
  rw [← mapM_eq_ok_iff]
  unfold ofConfig
  cases c.columns.mapM Column.ofConfig with
  | error e => simp [bind, Except.bind]
  | ok columns =>
    simp only [bind, Except.bind, pure, Except.pure, Except.ok.injEq]
    constructor
    · rintro rfl
      exact ⟨rfl, rfl⟩
    · rintro ⟨rfl, ht⟩
      exact ht.symm

/-- A table can be built exactly if all its match modes are ones that there are. -/
theorem exists_ofConfig_iff {c : Config.Table} {filtering : Config.Filtering} {separator : Char}
    {rows : List R} : (∃ t, Table.ofConfig c filtering separator rows = .ok t) ↔
      ∀ d ∈ c.columns, d.matchMode ∈ Config.matchModes := by
  simp only [← Column.exists_ofConfig_iff, ← exists_mapM_eq_ok_iff]
  unfold ofConfig
  cases c.columns.mapM Column.ofConfig <;> simp [bind, Except.bind, pure, Except.pure]

/-- The table of an accepted configuration is there. -/
theorem exists_ofConfig {c : Config.Table} (h : c.Accepted) (filtering : Config.Filtering)
    (separator : Char) (rows : List R) :
    ∃ t, Table.ofConfig c filtering separator rows = .ok t :=
  exists_ofConfig_iff.2 fun d hd => (h.columns d hd).matchMode_mem

/-- The first column with an unknown match mode is the reason why a table cannot be built. -/
theorem ofConfig_eq_error_iff {c : Config.Table} {filtering : Config.Filtering} {separator : Char}
    {rows : List R} {e : Error} : Table.ofConfig c filtering separator rows = .error e ↔
      ∃ front d back, c.columns = front ++ d :: back ∧
        (∀ d' ∈ front, d'.matchMode ∈ Config.matchModes) ∧
        d.matchMode ∉ Config.matchModes ∧ e = .matchMode d.matchMode := by
  have hcolumns : Table.ofConfig c filtering separator rows = .error e ↔
      c.columns.mapM Column.ofConfig = .error e := by
    unfold ofConfig
    cases c.columns.mapM Column.ofConfig <;> simp [bind, Except.bind, pure, Except.pure]
  simp only [hcolumns, mapM_eq_error_iff, Column.exists_ofConfig_iff, Column.ofConfig_eq_error_iff]

/-! ## The filter map -/

theorem length_paramsOf (t : Table R) (c : Column) : (t.paramsOf c).length = c.width := by
  rw [paramsOf, Column.width]
  cases c.binding <;> simp

/-- A column stands in the filter map as often as it has parameters, and the columns are in order. -/
theorem map_snd_filterMap (t : Table R) :
    t.filterMap.map (·.2) = t.columns.flatMap fun c => List.replicate c.width c := by
  rw [filterMap, List.map_flatMap]
  refine List.flatMap_congr fun c _ => ?_
  rw [List.map_map, ← t.length_paramsOf, ← List.map_const']
  rfl

theorem exists_mem_filterMap {t : Table R} {c : Column} (hc : c ∈ t.columns) (hw : 0 < c.width) :
    ∃ parameter, (parameter, c) ∈ t.filterMap := by
  have hmem : c ∈ t.filterMap.map (·.2) := by
    rw [map_snd_filterMap]
    exact List.mem_flatMap.2 ⟨c, hc, List.mem_replicate.2 ⟨Nat.ne_of_gt hw, rfl⟩⟩
  simpa using hmem

end Table

/-! ## Accepted tables -/

/-- A column has the id and the match mode that are configured, and it is a single column if a
binding is configured, or else a group of the configured fields. -/
structure Column.IsBuiltFrom (c : Column) (d : Config.Column) : Prop where
  id : c.id = d.id
  matchMode : c.constraint.name = d.matchMode
  single : ∀ binding, d.filterBy = some binding → c.binding = .single binding
  group : d.filterBy = none → c.binding = .group d.fields

theorem Column.isBuiltFrom_of_ofConfig {c : Column} {d : Config.Column}
    (h : Column.ofConfig d = .ok c) : c.IsBuiltFrom d := by
  obtain ⟨hid, hbinding, hmode⟩ := Column.ofConfig_eq_ok_iff.1 h
  refine ⟨hid, Constraint.ofName_eq_ok_iff.1 hmode, fun binding hd => ?_, fun hd => ?_⟩
  · rw [hbinding, hd, Option.elim_some]
  · rw [hbinding, hd, Option.elim_none]

/-- An accepted column can be filtered. -/
theorem Column.IsBuiltFrom.width_pos {c : Column} {d : Config.Column} (h : c.IsBuiltFrom d)
    (ha : d.Accepted) : 0 < c.width := by
  rw [width]
  cases hd : d.filterBy with
  | some binding =>
    rw [h.single binding hd]
    exact Nat.one_pos
  | none =>
    rw [h.group hd]
    refine List.length_pos_of_ne_nil fun hnil => ?_
    simpa [hd] using ha.single_iff.2 hnil

namespace Table

/-- The tables of an accepted configuration can be built with any rows. Their columns are the
configured ones in order, each stands in the filter map once for its binding or for each of its
fields, and none is left out. Whether accepted or not, a table cannot be built exactly if it has a
column with an unknown match mode, and the error names the first of these. -/
theorem accepted_are_built :
    (∀ c : Config, c.validate = .ok () → ∀ d ∈ c.tables, ∀ (R : Type) (rows : List R),
      ∃ t, Table.ofConfig d c.filtering c.expressions.separator rows = .ok t ∧
        List.Forall₂ Column.IsBuiltFrom t.columns d.columns ∧
        t.filterMap.map (·.2) =
          t.columns.flatMap (fun column => List.replicate column.width column) ∧
        ∀ column ∈ t.columns, ∃ parameter, (parameter, column) ∈ t.filterMap) ∧
      ∀ (d : Config.Table) (filtering : Config.Filtering) (separator : Char) (R : Type)
        (rows : List R), let built := Table.ofConfig d filtering separator rows
        ((∃ e, built = .error e) ↔ ∃ column ∈ d.columns, column.matchMode ∉ Config.matchModes) ∧
        ∀ e, built = .error e ↔ ∃ front column back, d.columns = front ++ column :: back ∧
          (∀ earlier ∈ front, earlier.matchMode ∈ Config.matchModes) ∧
          column.matchMode ∉ Config.matchModes ∧ e = .matchMode column.matchMode := by
  refine ⟨fun c hc d hd R rows => ?_, fun d filtering separator R rows => ⟨?_, fun e => ?_⟩⟩
  · have haccepted := (Config.validate_eq_ok_iff.1 hc).tables d hd
    obtain ⟨t, ht⟩ := exists_ofConfig haccepted c.filtering c.expressions.separator rows
    have hcolumns := (ofConfig_eq_ok_iff.1 ht).1
    have hbuilt : List.Forall₂ Column.IsBuiltFrom t.columns d.columns :=
      (map_eq_map_ok_iff_forall₂.1 hcolumns).flip.imp fun _ _ => Column.isBuiltFrom_of_ofConfig
    refine ⟨t, ht, hbuilt, t.map_snd_filterMap, fun column hcolumn => ?_⟩
    have hmem : Except.ok column ∈ d.columns.map Column.ofConfig :=
      hcolumns ▸ List.mem_map_of_mem hcolumn
    obtain ⟨configured, hconfigured, hfrom⟩ := List.mem_map.1 hmem
    exact exists_mem_filterMap hcolumn <|
      (Column.isBuiltFrom_of_ofConfig hfrom).width_pos (haccepted.columns configured hconfigured)
  · rw [← not_exists_eq_ok_iff, exists_ofConfig_iff]
    push Not
    rfl
  · exact ofConfig_eq_error_iff

/-- A table with a single column and a group of two. -/
def configuredCars : Config.Table :=
  { clientId := "cars", isLazy := false, isPaginated := false
    columns := [{ id := "b", filterBy := some "car.brand", fields := [], matchMode := "contains" },
      { id := "any", filterBy := none, fields := ["brand", "model"], matchMode := "exact" }] }

/-- Two match modes that there are not, the first of them in the second column. -/
def misspelledCars : Config.Table :=
  { configuredCars with
    columns := ["exact", "Exact", "like"].map fun matchMode =>
      { id := "b", filterBy := some "car.brand", fields := [], matchMode } }

theorem accepted_are_built_cars :
    let c : Config := { (default : Config) with tables := [configuredCars] }
    c.validate = .ok () ∧
      (∃ t, Table.ofConfig configuredCars c.filtering ':' ["Golf"] = .ok t ∧
        List.Forall₂ Column.IsBuiltFrom t.columns configuredCars.columns ∧
        ∀ column ∈ t.columns, ∃ parameter, (parameter, column) ∈ t.filterMap) ∧
      Table.ofConfig misspelledCars c.filtering ':' ["Golf"] = .error (.matchMode "Exact") := by
  intro c
  have hc : c.validate = .ok () := by decide +kernel
  obtain ⟨t, ht, hbuilt, -, hfilterable⟩ :=
    accepted_are_built.1 c hc configuredCars (List.mem_singleton.2 rfl) String ["Golf"]
  refine ⟨hc, ⟨t, ht, hbuilt, hfilterable⟩, ?_⟩
  have hfirst := (accepted_are_built.2 misspelledCars c.filtering ':' String ["Golf"]).2
  refine (hfirst (.matchMode "Exact")).2 ⟨misspelledCars.columns.take 1, _, _, rfl, ?_⟩
  decide +kernel

end Table

end ViewQuery.Filter
