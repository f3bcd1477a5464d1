import ViewQuery.Proofs.Filter.Selection

/-!
# What a filter request forgets

A request leaves its mark on the state of a table: the rows that passed, the filters, the page and
the selected row. Nothing of that state goes into what the next request leaves, so two tables that
were set up alike cannot be told apart by it, whatever was done to them before.

* `Table.fresh`: how a table was set up, without its state;
* `Table.fresh_after`: a history of requests and of changes by the host keeps the setup of a table,
  but for the rows;
* `table_decode_decode`: a request that is made once more changes nothing;
* `decode_forgets`: what a request leaves after any two histories.
-/

namespace ViewQuery.Filter

variable {R : Type}

/-! ## How a table was set up -/

namespace Table

/-- A table as if nothing had been done to it: what is left is how it was set up. -/
def fresh (t : Table R) : Table R :=
  { t with
    first := 0, rowIndex := none, filters := [], holder := none, kept := none, warned := false }

section

variable {t u : Table R} (h : t.fresh = u.fresh)

include h

theorem activeFilters_congr : t.activeFilters = u.activeFilters :=
  show t.fresh.activeFilters = u.fresh.activeFilters by rw [h]

theorem isLazy_congr : t.isLazy = u.isLazy :=
  show t.fresh.isLazy = u.fresh.isLazy by rw [h]

theorem globalParam_congr : t.globalParam = u.globalParam :=
  show t.fresh.globalParam = u.fresh.globalParam by rw [h]

theorem matchedRows_congr [Row R] (active : List ActiveFilter) (request : Request) :
    matchedRows t active request = matchedRows u active request :=
  show matchedRows t.fresh active request = matchedRows u.fresh active request by rw [h]

end

theorem fresh_store (t : Table R) (value : Option (List R)) :
    (t.store value).1.fresh = t.fresh := by
  rw [store_fst, fresh, fresh]

theorem fresh_cleared (t : Table R) : t.cleared.fresh = t.fresh := by
  rw [cleared_eq, fresh, fresh]

theorem fresh_noted (t : Table R) (active : List ActiveFilter) (request : Request) :
    (t.noted active request).fresh = t.fresh :=
  t.fresh_cleared

end Table

section

variable [Row R]

/-- A request does not change how a table was set up. -/
theorem fresh_decode (t : Table R) (request : Request) (reply : Option Reply) :
    (decode t request reply).table.fresh = t.fresh := by
  cases ha : t.activeFilters with
  | error e => rw [decode_of_error ha, Table.fresh_cleared]
  | ok active =>
    cases hl : t.isLazy with
    | true => rw [decode_of_lazy ha hl, Table.fresh_noted]
    | false =>
      rw [decode_of_eager ha hl]
      exact (Table.fresh_store ..).trans (Table.fresh_noted ..)

/-! ## Histories -/

/-- One thing that is done to a table: a request, or a change by its host. -/
inductive Step (R : Type) where
  | filter (request : Request) (reply : Option Reply)
  | setFirst (first : Nat)
  | setRowIndex (rowIndex : Option Nat)
  | setFilters (filters : Dict String)
  | setRows (rows : List R)
  | store (value : Option (List R))
  | attach (holder : Holder R)
  /-- The host changes what is in the holder that it shares with the table. -/
  | hold (value : Option (List R))
  /-- A thread of the host panics while it has the lock of the holder. -/
  | poison

/-- The table after a step. -/
def Step.apply (t : Table R) : Step R → Table R
  | .filter request reply => (decode t request reply).table
  | .setFirst first => { t with first }
  | .setRowIndex rowIndex => { t with rowIndex }
  | .setFilters filters => { t with filters }
  | .setRows rows => { t with rows }
  | .store value => (t.store value).1
  | .attach holder => t.attach holder
  | .hold value => { t with holder := t.holder.map fun h => (h.set value).1 }
  | .poison => { t with holder := t.holder.map fun h => { h with isPoisoned := true } }

/-- The rows of a table after a step. -/
def Step.rows (rows : List R) : Step R → List R
  | .setRows rows => rows
  | _ => rows

/-- The table after a history of steps. -/
def Table.after (t : Table R) (history : List (Step R)) : Table R := history.foldl Step.apply t

/-- The rows of a table after a history of steps: those that it was given last. -/
def Table.rowsAfter (t : Table R) (history : List (Step R)) : List R :=
  history.foldl Step.rows t.rows

theorem Step.fresh_apply (t : Table R) (step : Step R) :
    (step.apply t).fresh = { t.fresh with rows := step.rows t.rows } := by
  cases step with
  | filter request reply => exact fresh_decode t request reply
  | store value => exact t.fresh_store value
  | setFirst | setRowIndex | setFilters | setRows | attach | hold | poison => rfl

/-- A history keeps how a table was set up, but for the rows. -/
theorem Table.fresh_after (t : Table R) (history : List (Step R)) :
    (t.after history).fresh = { t.fresh with rows := t.rowsAfter history } := by
  induction history generalizing t with
  | nil => rfl
  | cons step history ih =>
    have hrows : (step.apply t).rows = step.rows t.rows :=
      congrArg Table.rows (step.fresh_apply t)
    calc (t.after (step :: history)).fresh = ((step.apply t).after history).fresh := rfl
      _ = { (step.apply t).fresh with rows := history.foldl Step.rows (step.apply t).rows } :=
        ih (step.apply t)
      _ = { t.fresh with rows := t.rowsAfter (step :: history) } := by
        rw [step.fresh_apply, hrows, rowsAfter, List.foldl_cons]

theorem Table.isLazy_after (t : Table R) (history : List (Step R)) :
    (t.after history).isLazy = t.isLazy := by
  have h := congrArg Table.isLazy (t.fresh_after history)
  exact h

/-! ## Requests -/

theorem result_decode_congr {t u : Table R} (h : t.fresh = u.fresh) (request : Request)
    (reply reply' : Option Reply) :
    (decode t request reply).result = (decode u request reply').result := by
  rw [result_decode, result_decode, Table.activeFilters_congr h, Table.isLazy_congr h]
  simp only [Table.matchedRows_congr h]

theorem filteredValue_decode_congr {t u : Table R} (h : t.fresh = u.fresh) (request : Request)
    (reply reply' : Option Reply) :
    (decode t request reply).table.filteredValue =
      (decode u request reply').table.filteredValue := by
  rw [filteredValue_decode, filteredValue_decode, Table.activeFilters_congr h,
    Table.isLazy_congr h]
  simp only [Table.matchedRows_congr h]

/-- A request that is made once more leaves the table as it left it the first time. -/
theorem table_decode_decode (t : Table R) (request : Request) (reply reply' : Option Reply) :
    (decode (decode t request reply).table request reply').table =
      (decode t request reply).table := by
  have hfresh := fresh_decode t request reply
  have hactive := Table.activeFilters_congr hfresh
  have hlazy := Table.isLazy_congr hfresh
  have hglobal := Table.globalParam_congr hfresh
  -- What is written twice is the same both times, and the holder is there both times or neither.
  cases ha : t.activeFilters with
  | error e =>
    rw [decode_of_error (hactive.trans ha), decode_of_error ha, Table.cleared_eq, Table.cleared_eq]
    cases t.holder <;> simp
  | ok active =>
    cases hl : t.isLazy with
    | true =>
      rw [decode_of_lazy (hactive.trans ha) (hlazy.trans hl), Table.noted,
        Table.globalParam_cleared, hglobal, Table.cleared_eq, decode_of_lazy ha hl, Table.noted,
        Table.globalParam_cleared, Table.cleared_eq]
      cases t.holder <;> simp
    | false =>
      rw [table_decode_of_eager (hactive.trans ha) (hlazy.trans hl),
        Table.matchedRows_congr hfresh, hglobal, table_decode_of_eager ha hl]
      cases t.holder <;> simp

/-- What a request leaves depends on how the table was set up, on its rows and on the request alone,
whatever was done to the table before; and the request leaves the same when it is made once more. -/
theorem decode_forgets {t u : Table R} (h : t.fresh = u.fresh) {before before' : List (Step R)}
    (hrows : t.rowsAfter before = u.rowsAfter before') (request : Request)
    (reply reply' : Option Reply) :
    let done := decode (t.after before) request reply
    let done' := decode (u.after before') request reply'
    done.result = done'.result ∧
      done.table.filteredValue = done'.table.filteredValue ∧
      done.table.first = done'.table.first ∧
      (∀ matched, done.result = .ok matched →
        done.table.filters = done'.table.filters ∧
          (t.isLazy = false → done.table.rowIndex = done'.table.rowIndex)) ∧
      (decode done.table request reply').result = done.result ∧
      (decode done.table request reply').table = done.table := by
  intro done done'
  have hafter : (t.after before).fresh = (u.after before').fresh := by
    rw [Table.fresh_after, Table.fresh_after, h, hrows]
  have hresult : done.result = done'.result := result_decode_congr hafter ..
  refine ⟨hresult, filteredValue_decode_congr hafter .., ?_, fun matched hok => ⟨?_, fun hl => ?_⟩,
    result_decode_congr (fresh_decode ..) .., table_decode_decode ..⟩
  · rw [first_decode, first_decode]
  · obtain ⟨active, ha⟩ := exists_activeFilters hok
    have ha' : (u.after before').activeFilters = .ok active :=
      (Table.activeFilters_congr hafter).symm.trans ha
    rw [filters_decode ha, filters_decode ha', Table.globalParam_congr hafter]
  · have hl' : (t.after before).isLazy = false := (t.isLazy_after before).trans hl
    have hok' : done'.result = .ok matched := hresult.symm.trans hok
    rw [rowIndex_decode hok, rowIndex_decode hok', ← Table.isLazy_congr hafter, hl']
    rfl

/-- A row that holds the model of a car. -/
def carOf (model : String) : Json := .object [("model", .string model)]

/-- A table of two cars that is filtered by their model. -/
def golfAndPolo : Table Json :=
  { Table.new "t" ':' [carOf "Golf", carOf "Polo"] with
    columns := [Column.single "m" "#\x7bcar.model\x7d"] }

/-- One table kept the rows of an earlier request itself and was given others in between; the other
one has a holder that its host wrote to, and whose lock was poisoned. -/
theorem decode_forgets_golfAndPolo :
    let u := golfAndPolo.attach { value := none }
    let before := [.filter (.ofList [("t:m_filter", "g")]) none, .setRows [carOf "Polo"],
      .setFirst 1, .setRows golfAndPolo.rows]
    let before' := [.setRowIndex (some 1), .hold (some []), .poison]
    let request := Request.ofList [("t:m_filter", "p")]
    golfAndPolo.fresh = u.fresh ∧ golfAndPolo.rowsAfter before = u.rowsAfter before' ∧
      (golfAndPolo.after before).filteredValue = some [carOf "Golf"] ∧
      (u.after before').filteredValue = some [] ∧
      (decode (u.after before') request none).table.filteredValue = some [carOf "Polo"] ∧
      (decode (golfAndPolo.after before) request none).table.filteredValue =
        some [carOf "Polo"] := by
  refine ⟨rfl, rfl, rfl, rfl, rfl, ?_⟩
  have hfresh : golfAndPolo.fresh = (golfAndPolo.attach { value := none }).fresh := rfl
  have hrows : golfAndPolo.rowsAfter [.filter (.ofList [("t:m_filter", "g")]) none,
      .setRows [carOf "Polo"], .setFirst 1, .setRows golfAndPolo.rows] =
        (golfAndPolo.attach { value := none }).rowsAfter
          [.setRowIndex (some 1), .hold (some []), .poison] := rfl
  exact (decode_forgets hfresh hrows (.ofList [("t:m_filter", "p")]) none none).2.1.trans rfl

end

end ViewQuery.Filter
