import ViewQuery.Proofs.Filter.Matching
import ViewQuery.Proofs.Text.Lowercase

/-!
# Letter case in filters

A filter compares lowercase forms, so that letter case does not count. Whether it then keeps all
that it would keep with letter case is a matter of the capital sigmas: a value with one whose form
is another one where it stands in a cell is not found there.

* `retains_iff_keeps`: whether a table with one column retains a row;
* `retains_iff_accepts`, `retains_iff_occursIn`: the same for a request with one value;
* `Table.RetainsPartsOf`: a request retains the cells that hold its value, up to capital sigmas;
* `decode_retains_cased_matches`: what a request with one value retains, mode by mode.
-/

namespace ViewQuery.Filter

open ViewQuery.Text (KeepsSigmas lowercase lowercased occursIn toList_lowercased)

/-! ## Requests with one value -/

/-- A request has one value, that of a parameter. -/
def Request.HasOnly (request : Request) (parameter value : String) : Prop :=
  request.nonBlank? parameter = some value ∧
    ∀ other, other ≠ parameter → request.nonBlank? other = none

theorem Request.hasOnly_ofList {value : String} (hv : Text.allBlank value = false)
    (parameter : String) : (Request.ofList [(parameter, value)]).HasOnly parameter value := by
  constructor
  · simp [nonBlank?, get?, ofList, Dict.lookup_ofList, hv]
  · intro other hother
    simp [nonBlank?, get?, ofList, Dict.lookup_ofList, hother]

/-! ## Tables with one column -/

variable {R : Type} {c : Column} {binding value cell : String} {request : Request}
  {reply : Option Reply}

theorem filterMap_of_single {t : Table R} (hc : t.columns = [c])
    (hb : c.binding = .single binding) : t.filterMap = [(t.columnParam c.id, c)] := by
  simp [Table.filterMap, Table.paramsOf, hc, hb]

variable [Row R] {t : Table R} {row : R}

/-- A request leaves a row among those that passed. -/
def Table.Retains (t : Table R) (request : Request) (reply : Option Reply) (row : R) : Prop :=
  ∃ passed, (decode t request reply).table.filteredValue = some passed ∧ row ∈ passed

/-- Every request has a filter for a single column, so the rule decides. -/
theorem retains_iff_keeps (hl : t.isLazy = false) (hc : t.columns = [c])
    (hb : c.binding = .single binding) (hr : row ∈ t.rows) :
    t.Retains request reply row ↔ t.Keeps request row := by
  let f : ActiveFilter := ⟨t.columnParam c.id, c.constraint, fieldOfBinding binding⟩
  have hf : Table.activeFilter (t.columnParam c.id, c) = .ok f :=
    Table.activeFilter_eq_ok_iff.2 ⟨by simp [Table.entryField?, hb, f], rfl, rfl⟩
  have ha : t.activeFilters = .ok [f] := by
    rw [Table.activeFilters_eq_ok_iff, filterMap_of_single hc hb, List.map_singleton, hf,
      List.map_singleton]
  rw [Table.Retains, filteredValue_decode, ha]
  simp [Except.toOption, hl, matchedRows_map_fst ha, hr]

theorem cellHas_single (hb : c.binding = .single binding)
    (hcell : Row.cell row (fieldOfBinding binding) = some cell) (parameter : String)
    (p : String → Bool) : CellHas row (parameter, c) p ↔ p (lowercased cell) = true := by
  simp [CellHas, Table.entryField?, hb, hcell]

/-- What a request retains that has a value for the column alone. The value counts as the global one
too if the column's parameter is that of the global filter, which makes no difference for a mode
that accepts only cells with the value in them. -/
theorem retains_iff_accepts (hl : t.isLazy = false) (hc : t.columns = [c])
    (hb : c.binding = .single binding) (hr : row ∈ t.rows)
    (hcell : Row.cell row (fieldOfBinding binding) = some cell)
    (hv : request.HasOnly (t.columnParam c.id) value)
    (hpart : c.constraint.accepts (lowercased cell) (lowercased value) = true →
      occursIn (lowercased value).toList (lowercased cell).toList = true) :
    t.Retains request reply row ↔
      c.constraint.accepts (lowercased cell) (lowercased value) = true := by
  have hcolumn : t.ColumnsAccept request row ↔
      c.constraint.accepts (lowercased cell) (lowercased value) = true := by
    simp [Table.ColumnsAccept, filterMap_of_single hc hb, hv.1, cellHas_single hb hcell]
  have hglobal : c.constraint.accepts (lowercased cell) (lowercased value) = true →
      t.GlobalFound request row := by
    intro haccept other hother
    by_cases hp : t.globalParam = t.columnParam c.id
    · rw [hp, hv.1] at hother
      rw [← Option.some.inj hother, filterMap_of_single hc hb]
      exact ⟨_, List.mem_singleton_self _, (cellHas_single hb hcell _ _).2 (hpart haccept)⟩
    · rw [hv.2 _ hp] at hother
      cases hother
  rw [retains_iff_keeps hl hc hb hr, Table.Keeps, hcolumn]
  exact and_iff_left_of_imp hglobal

/-- What a request retains that has the global value alone. -/
theorem retains_iff_occursIn (hl : t.isLazy = false) (hc : t.columns = [c])
    (hb : c.binding = .single binding) (hr : row ∈ t.rows)
    (hcell : Row.cell row (fieldOfBinding binding) = some cell)
    (hp : t.globalParam ≠ t.columnParam c.id) (hv : request.HasOnly t.globalParam value) :
    t.Retains request reply row ↔
      occursIn (lowercased value).toList (lowercased cell).toList = true := by
  have hcolumn : t.ColumnsAccept request row := by
    simp [Table.ColumnsAccept, filterMap_of_single hc hb, hv.2 _ hp.symm]
  have hglobal : t.GlobalFound request row ↔
      occursIn (lowercased value).toList (lowercased cell).toList = true := by
    simp [Table.GlobalFound, filterMap_of_single hc hb, hv.1, cellHas_single hb hcell]
  rw [retains_iff_keeps hl hc hb hr, Table.Keeps, and_iff_right hcolumn, hglobal]

/-! ## Cells with the value in them -/

/-- A request retains a row whose cell holds a value if the capital sigmas of the value keep their
form there; and unless they do so in all texts, there is a cell with the value in it that is never
retained, whatever the rows of the table are. -/
def Table.RetainsPartsOf (t : Table R) (request : Request) (reply : Option Reply)
    (field value : String) : Prop :=
  (∀ row ∈ t.rows, ∀ x y, Row.cell row field = some (x ++ value ++ y) →
      KeepsSigmas x.toList value.toList y.toList → t.Retains request reply row) ∧
    ((∀ xs ys, KeepsSigmas xs value.toList ys) ∨
      ∃ x y, ∀ rows, ∀ row ∈ rows, Row.cell row field = some (x ++ value ++ y) →
        ¬ { t with rows }.Retains request reply row)

theorem occursIn_lowercased_iff {x y : String} :
    occursIn (lowercased value).toList (lowercased (x ++ value ++ y)).toList = true ↔
      lowercase value.toList <:+: lowercase (x.toList ++ value.toList ++ y.toList) := by
  rw [Text.occursIn_iff, toList_lowercased, toList_lowercased, String.toList_append,
    String.toList_append]
  exact exists_congr fun _ => exists_congr fun _ => eq_comm

theorem retainsPartsOf_of_iff {field : String}
    (h : ∀ rows, ∀ row ∈ rows, ∀ cell, Row.cell row field = some cell →
      ({ t with rows }.Retains request reply row ↔
        occursIn (lowercased value).toList (lowercased cell).toList = true)) :
    t.RetainsPartsOf request reply field value := by
  constructor
  · intro row hr x y hcell hkeep
    exact (h t.rows row hr _ hcell).2 (occursIn_lowercased_iff.2 (Text.lowercase_infix hkeep))
  · by_cases hall : ∀ xs ys, KeepsSigmas xs value.toList ys
    · exact .inl hall
    · rw [← Text.forall_lowercase_infix_iff] at hall
      simp only [not_forall] at hall
      obtain ⟨xs, ys, hnot⟩ := hall
      refine .inr ⟨.ofList xs, .ofList ys, fun rows row hr hcell hretains => hnot ?_⟩
      have hocc := occursIn_lowercased_iff.1 ((h rows row hr _ hcell).1 hretains)
      rwa [String.toList_ofList, String.toList_ofList] at hocc

/-! ## Mode by mode -/

/-- Four modes accept only cells with the value in them. -/
theorem occursIn_of_accepts {mode : Constraint}
    (hm : mode ∈ [.startsWith, .endsWith, .contains, Constraint.exact])
    (h : mode.accepts cell value = true) : occursIn value.toList cell.toList = true := by
  have hinfix {cs ds : List Char} (hcs : cs <:+: ds) : occursIn cs ds = true := by
    obtain ⟨xs, ys, hds⟩ := hcs
    exact (Text.occursIn_iff ..).2 ⟨xs, ys, hds.symm⟩
  cases mode with
  | startsWith => exact hinfix (List.isPrefixOf_iff_prefix.1 h).isInfix
  | endsWith => exact hinfix (List.isSuffixOf_iff_suffix.1 h).isInfix
  | contains => exact h
  | exact =>
    rw [eq_of_beq h]
    exact hinfix List.infix_rfl
  | _ => simp at hm

/-- Comparing without letter case keeps nearly all that comparing with it keeps. On a table with one
column that is not lazy, a request with one value retains every cell that is the value. It retains a
cell that starts or ends with the value exactly if the capital sigmas of the value have the
lowercase form there that they have in the value alone, and a cell that holds the value, in the
column or for the global filter, at least then; a value for which this is not always so is missed in
some cell that holds it. -/
theorem decode_retains_cased_matches (hl : t.isLazy = false) (hc : t.columns = [c])
    (hb : c.binding = .single binding) (request : Request) (reply : Option Reply)
    (value : String) :
    let field := fieldOfBinding binding
    (request.HasOnly (t.columnParam c.id) value →
      (c.constraint = .exact → ∀ row ∈ t.rows, Row.cell row field = some value →
        t.Retains request reply row) ∧
      (c.constraint = .startsWith → ∀ row ∈ t.rows, ∀ y, Row.cell row field = some (value ++ y) →
        (t.Retains request reply row ↔ KeepsSigmas [] value.toList y.toList)) ∧
      (c.constraint = .endsWith → ∀ row ∈ t.rows, ∀ x, Row.cell row field = some (x ++ value) →
        (t.Retains request reply row ↔ KeepsSigmas x.toList value.toList [])) ∧
      (c.constraint = .contains → t.RetainsPartsOf request reply field value)) ∧
    (t.globalParam ≠ t.columnParam c.id → request.HasOnly t.globalParam value →
      t.RetainsPartsOf request reply field value) := by
  intro field
  refine ⟨fun hv => ?_, fun hp hv => retainsPartsOf_of_iff fun rows row hr cell hcell =>
    retains_iff_occursIn (t := { t with rows }) hl hc hb hr hcell hp hv⟩
  have hretains {rows : List R} {row : R} {cell : String} (hr : row ∈ rows)
      (hcell : Row.cell row field = some cell)
      (hm : c.constraint ∈ [.startsWith, .endsWith, .contains, Constraint.exact]) :
      { t with rows }.Retains request reply row ↔
        c.constraint.accepts (lowercased cell) (lowercased value) = true :=
    retains_iff_accepts (t := { t with rows }) hl hc hb hr hcell hv (occursIn_of_accepts hm)
  refine ⟨fun hm row hr hcell => ?_, fun hm row hr y hcell => ?_, fun hm row hr x hcell => ?_,
    fun hm => retainsPartsOf_of_iff fun rows row hr cell hcell => ?_⟩
  · refine (hretains hr hcell (by rw [hm]; decide)).2 ?_
    rw [hm]
    exact beq_self_eq_true _
  · refine (hretains hr hcell (by rw [hm]; decide)).trans ?_
    rw [hm, Constraint.accepts, List.isPrefixOf_iff_prefix, toList_lowercased, toList_lowercased,
      String.toList_append]
    exact Text.lowercase_prefix_iff
  · refine (hretains hr hcell (by rw [hm]; decide)).trans ?_
    rw [hm, Constraint.accepts, List.isSuffixOf_iff_suffix, toList_lowercased, toList_lowercased,
      String.toList_append]
    exact Text.lowercase_suffix_iff
  · have hcontains := hretains hr hcell (by rw [hm]; decide)
    rwa [hm] at hcontains

/-- A table of one row with one column. -/
def oneCell (mode : Constraint) (cell : String) : Table Json :=
  { Table.new "t" ':' [Json.object [("name", .string cell)]] with
    columns := [(Column.single "n" "name").withConstraint mode] }

/-- A capital sigma that is within a word in the value as in the cell. -/
theorem decode_retains_cased_matches_within :
    let request := Request.ofList [("t:n_filter", "ΑΣΑ")]
    request.HasOnly "t:n_filter" "ΑΣΑ" ∧ KeepsSigmas [] "ΑΣΑ".toList "ΣΑΣ".toList ∧
      (oneCell .startsWith "ΑΣΑΣΑΣ").Retains request none
        (Json.object [("name", .string "ΑΣΑΣΑΣ")]) := by
  intro request
  have hv : request.HasOnly "t:n_filter" "ΑΣΑ" := Request.hasOnly_ofList (by decide +kernel) _
  have hkeep : KeepsSigmas [] "ΑΣΑ".toList "ΣΑΣ".toList := by decide +kernel
  refine ⟨hv, hkeep, ?_⟩
  have hmodes := (decode_retains_cased_matches (t := oneCell .startsWith "ΑΣΑΣΑΣ") rfl rfl rfl
    request none "ΑΣΑ").1 hv
  exact (hmodes.2.1 rfl _ (List.mem_singleton_self _) "ΣΑΣ" rfl).2 hkeep

/-- A capital sigma at the end of the value that is within a word in the cell, or the other way
round. -/
theorem decode_drops_cased_matches :
    let request := fun name value => Request.ofList [(name, value)]
    let result := fun mode cell name value =>
      (decode (oneCell mode cell) (request name value) none).result
    ((request "t:n_filter" "ΑΣ").HasOnly "t:n_filter" "ΑΣ" ∧ "ΑΣ".toList <+: "ΑΣΑ".toList ∧
        result .startsWith "ΑΣΑ" "t:n_filter" "ΑΣ" = .ok (some 0) ∧
        result .contains "ΑΣΑ" "t:n_filter" "ΑΣ" = .ok (some 0)) ∧
      ((request "t:n_filter" "Σ").HasOnly "t:n_filter" "Σ" ∧ "Σ".toList <:+ "ΑΣ".toList ∧
        result .endsWith "ΑΣ" "t:n_filter" "Σ" = .ok (some 0)) ∧
      (request "t:globalFilter" "ΑΣ").HasOnly "t:globalFilter" "ΑΣ" ∧
        result .startsWith "ΑΣΑ" "t:globalFilter" "ΑΣ" = .ok (some 0) := by
  refine ⟨⟨Request.hasOnly_ofList ?_ _, ?_, ?_, ?_⟩, ⟨Request.hasOnly_ofList ?_ _, ?_, ?_⟩,
    Request.hasOnly_ofList ?_ _, ?_⟩
  all_goals decide +kernel

end ViewQuery.Filter
