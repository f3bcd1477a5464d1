import ViewQuery.Config.Validate

/-!
# Accepted configurations

What a configuration satisfies when it is accepted, said for all of its tables and columns at once.

* `Column.violation_eq_none_iff`, `Table.violation_eq_none_iff`: columns and tables without a
  violation;
* `validate_eq_ok_iff`: the configurations that are accepted.
-/

namespace ViewQuery.Config

/-- A column has an id, is either a single column with a binding or a group with fields, and has a
match mode that there is. -/
structure Column.Accepted (c : Column) : Prop where
  id_ne_empty : c.id ≠ ""
  single_iff : c.filterBy.isSome = true ↔ c.fields = []
  matchMode_mem : c.matchMode ∈ matchModes

/-- A table has a client id, and its columns are accepted. -/
structure Table.Accepted (t : Table) : Prop where
  clientId_ne_empty : t.clientId ≠ ""
  columns : ∀ c ∈ t.columns, c.Accepted

/-- The names of a configuration are usable, and its tables are accepted. -/
structure Accepted (c : Config) : Prop where
  separator : isUsableSeparator c.expressions.separator = true
  globalFilterParam_ne_empty : c.filtering.globalFilterParam ≠ ""
  level_ne_empty : c.logging.level ≠ ""
  tables : ∀ t ∈ c.tables, t.Accepted

/-! ## Checks one after another -/

/-- A check finds nothing, and neither does what comes after it. -/
theorem ite_some_eq_none_iff {α : Type} {p : Prop} [Decidable p] {v : α} {rest : Option α} :
    (if p then some v else rest) = none ↔ ¬ p ∧ rest = none := by
  split <;> simp [*]

/-- A search with indexes finds nothing where no item has anything wrong with it at any index. -/
theorem findSome?_zipIdx_eq_none_iff {α β : Type} {xs : List α} {f : α × Nat → Option β}
    {P : α → Prop} (h : ∀ x i, f (x, i) = none ↔ P x) :
    xs.zipIdx.findSome? f = none ↔ ∀ x ∈ xs, P x := by
  rw [List.findSome?_eq_none_iff]
  constructor
  · intro hf x hx
    obtain ⟨i, hi⟩ := List.getElem?_of_mem hx
    exact (h x i).1 (hf (x, i) (List.mem_zipIdx_iff_getElem?.2 hi))
  · intro hP p hp
    exact (h p.1 p.2).2 (hP p.1 (List.mem_of_getElem? (List.mem_zipIdx_iff_getElem?.1 hp)))

/-! ## Columns, tables and the whole -/

theorem Column.violation_eq_none_iff {c : Column} : c.violation = none ↔ c.Accepted := by
  have hbinding : (¬ (c.filterBy.isNone && c.fields.isEmpty) = true ∧
      ¬ (c.filterBy.isSome && !c.fields.isEmpty) = true) ↔
        (c.filterBy.isSome = true ↔ c.fields = []) := by
    cases c.filterBy <;> cases c.fields <;> simp
  simp only [violation, ite_some_eq_none_iff]
  constructor
  · rintro ⟨hid, hnone, htwo, hmode, -⟩
    exact ⟨by simpa using hid, hbinding.1 ⟨hnone, htwo⟩, by simpa using hmode⟩
  · rintro ⟨hid, hsingle, hmode⟩
    obtain ⟨hnone, htwo⟩ := hbinding.2 hsingle
    exact ⟨by simpa using hid, hnone, htwo, by simpa using hmode, trivial⟩

theorem Table.violation_eq_none_iff {t : Table} {i : Nat} : t.violation i = none ↔ t.Accepted := by
  have hcolumns : (t.columns.zipIdx.findSome? fun c => c.1.violation.map fun v =>
      Violation.column i c.2 v) = none ↔ ∀ c ∈ t.columns, c.Accepted :=
    findSome?_zipIdx_eq_none_iff fun _ _ =>
      Option.map_eq_none_iff.trans Column.violation_eq_none_iff
  simp only [violation, ite_some_eq_none_iff, hcolumns]
  exact ⟨fun h => ⟨by simpa using h.1, h.2⟩, fun h => ⟨by simpa using h.1, h.2⟩⟩

/-- A configuration is accepted exactly when nothing is wrong with any part of it. -/
theorem validate_eq_ok_iff {c : Config} : c.validate = .ok () ↔ c.Accepted := by
  have htables : (c.tables.zipIdx.findSome? fun t => t.1.violation t.2) = none ↔
      ∀ t ∈ c.tables, t.Accepted :=
    findSome?_zipIdx_eq_none_iff fun _ _ => Table.violation_eq_none_iff
  have hvalidate : c.validate = .ok () ↔ c.violation = none := by
    rw [validate]
    cases c.violation <;> simp
  simp only [hvalidate, violation, ite_some_eq_none_iff, htables]
  constructor
  · rintro ⟨hsep, hparam, hlevel, htables⟩
    exact ⟨by simpa using hsep, by simpa using hparam, by simpa using hlevel, htables⟩
  · rintro ⟨hsep, hparam, hlevel, htables⟩
    exact ⟨by simp [hsep], by simpa using hparam, by simpa using hlevel, htables⟩

end ViewQuery.Config
