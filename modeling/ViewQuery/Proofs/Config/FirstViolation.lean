import Mathlib.Data.List.Basic
import Mathlib.Tactic.MkIffOfInductiveProp
import ViewQuery.Proofs.Config.Accepted

/-!
# The first violation

All that can be wrong with a configuration, said without regard to how it is checked: each fault has
a place, and places are ordered as words are. A check that stops at the first violation finds the
fault whose place is before those of all others, with the text of this fault.

* `Column.HasFault`, `Table.HasFault`, `HasFault`: the faults of a column, of a table and of a
  configuration;
* `FindsFirst`: a search finds the first of some faults, with `FindsFirst.ite` for one check before
  others and `FindsFirst.findSome?_zipIdx` for the items of a list in order;
* `findsFirst_violation`: the violation of a configuration is its first fault;
* `validate_tells_first`: which configurations are accepted, and what is said about the others.
-/

namespace ViewQuery.Config

/-! ## Faults -/

/-- A fault has a place among others and a text. -/
structure Fault where
  place : List Nat
  text : String

/-- What a column is called in texts. -/
def columnName (i j : Nat) : String := "tables[" ++ toString i ++ "].columns[" ++ toString j ++ "]"

/-- What is wrong with the column at an index of the table at an index. -/
@[mk_iff]
inductive Column.HasFault (i j : Nat) (d : Column) : Fault → Prop
  | emptyId (h : d.id = "") :
      d.HasFault i j ⟨[3, i, j, 0], columnName i j ++ ".id must not be empty"⟩
  | noBinding (h : d.filterBy = none ∧ d.fields = []) :
      d.HasFault i j ⟨[3, i, j, 1], columnName i j ++ " needs either filter_by or fields"⟩
  | twoBindings (h : d.filterBy ≠ none ∧ d.fields ≠ []) :
      d.HasFault i j ⟨[3, i, j, 2], columnName i j ++ " must not set both filter_by and fields"⟩
  | matchMode (h : d.matchMode ∉ matchModes) :
      d.HasFault i j ⟨[3, i, j, 3], columnName i j ++ ".match_mode must be one of [" ++
        String.intercalate ", " (matchModes.map Text.quoted) ++ "], got " ++
        Text.quoted d.matchMode⟩

/-- What is wrong with the table at an index; the place of its own fault is before those of its
columns. -/
@[mk_iff]
inductive Table.HasFault (i : Nat) (t : Table) : Fault → Prop
  | clientId (h : t.clientId = "") :
      t.HasFault i ⟨[3, i], "tables[" ++ toString i ++ "].client_id must not be empty"⟩
  | column {j : Nat} {d : Column} {f : Fault} (hd : t.columns[j]? = some d)
      (h : d.HasFault i j f) : t.HasFault i f

/-- What is wrong with a configuration. -/
@[mk_iff]
inductive HasFault (c : Config) : Fault → Prop
  | separator (h : c.expressions.separator ∈ ['@', '(', ')', ','] ∨
        Text.isBlank c.expressions.separator = true) :
      c.HasFault ⟨[0],
        "expressions.separator must not be '@', a parenthesis, a comma or whitespace, got " ++
          Text.quotedAlone c.expressions.separator⟩
  | globalFilterParam (h : c.filtering.globalFilterParam = "") :
      c.HasFault ⟨[1], "filtering.global_filter_param must not be empty"⟩
  | level (h : c.logging.level = "") : c.HasFault ⟨[2], "logging.level must not be empty"⟩
  | table {i : Nat} {t : Table} {f : Fault} (ht : c.tables[i]? = some t) (h : t.HasFault i f) :
      c.HasFault f

/-! ## Searches -/

/-- A fault is there, and all others have later places. -/
structure Fault.IsFirst (Has : Fault → Prop) (f : Fault) : Prop where
  has : Has f
  first : ∀ f', Has f' → f' = f ∨ f.place < f'.place

/-- A search finds the first of some faults, or nothing where there is none. -/
structure FindsFirst (Has : Fault → Prop) (found : Option Fault) : Prop where
  of_none : found = none → ∀ f, ¬ Has f
  of_some : ∀ f, found = some f → f.IsFirst Has

namespace FindsFirst

variable {Has : Fault → Prop} {found : Option Fault}

theorem eq_some_iff (h : FindsFirst Has found) {f : Fault} : found = some f ↔ f.IsFirst Has := by
  refine ⟨h.of_some f, fun hf => ?_⟩
  cases hfound : found with
  | none => exact absurd hf.has (h.of_none hfound f)
  | some g =>
    have hg := h.of_some g hfound
    -- Of two first faults, each would have to be before the other one.
    rcases hg.first f hf.has with rfl | hlt
    · rfl
    · rcases hf.first g hg.has with rfl | hlt'
      · rfl
      · exact absurd hlt' (List.lt_asymm hlt)

theorem of_forall_not (h : ∀ f, ¬ Has f) : FindsFirst Has none :=
  ⟨fun _ => h, by simp⟩

theorem congr {Has' : Fault → Prop} (hHas : ∀ f, Has f ↔ Has' f) (h : FindsFirst Has found) :
    FindsFirst Has' found := by
  rw [← funext fun f => propext (hHas f)]
  exact h

/-- One check goes before others: what it looks for is before all that they look for. -/
theorem ite {p q : Prop} [Decidable p] {f : Fault} {Rest : Fault → Prop} {rest : Option Fault}
    (hp : p ↔ q) (hrest : FindsFirst Rest rest) (hlt : ∀ f', Rest f' → f.place < f'.place) :
    FindsFirst (fun f' => q ∧ f' = f ∨ Rest f') (if p then some f else rest) := by
  split
  next h =>
    refine ⟨by simp, fun f' hf => ?_⟩
    cases hf
    exact ⟨.inl ⟨hp.1 h, rfl⟩, fun f' hf' => hf'.imp And.right (hlt f')⟩
  next h =>
    have hnot : ¬ q := mt hp.2 h
    refine hrest.congr fun f' => ?_
    rw [or_iff_right fun hf => hnot hf.1]

/-- A single check. -/
theorem ite_none {p q : Prop} [Decidable p] {f : Fault} (hp : p ↔ q) :
    FindsFirst (fun f' => q ∧ f' = f) (if p then some f else none) :=
  (ite hp (of_forall_not fun _ hf => hf) fun _ hf => hf.elim).congr fun f' => by rw [or_false]

end FindsFirst

/-- A search with indexes stops at the first item that gives something. -/
theorem findSome?_zipIdx_eq_some {α β : Type} {xs : List α} {f : α × Nat → Option β} {b : β}
    (h : xs.zipIdx.findSome? f = some b) : ∃ i x, xs[i]? = some x ∧ f (x, i) = some b ∧
      ∀ j y, xs[j]? = some y → j < i → f (y, j) = none := by
  obtain ⟨front, ⟨x, i⟩, back, hsplit, hfound, hfront⟩ := List.findSome?_eq_some_iff.1 h
  have hat : xs.zipIdx[front.length]? = some (x, i) := by simp [hsplit]
  obtain ⟨y, hx, hy⟩ := Option.map_eq_some_iff.1 (List.getElem?_zipIdx.symm.trans hat)
  obtain ⟨rfl, rfl⟩ := Prod.mk.inj hy
  rw [Nat.zero_add] at hfound
  refine ⟨front.length, y, hx, hfound, fun j z hz hj => hfront (z, j) ?_⟩
  have hmem : xs.zipIdx[j]? = some (z, j) := by simp [hz]
  rw [hsplit, List.getElem?_append_left hj] at hmem
  exact List.mem_of_getElem? hmem

/-- The items of a list are searched in order, and all faults of one are before those of a later
one. -/
theorem FindsFirst.findSome?_zipIdx {α : Type} {xs : List α} {f : α × Nat → Option Fault}
    {Has : α → Nat → Fault → Prop} (h : ∀ x i, FindsFirst (Has x i) (f (x, i)))
    (hlt : ∀ x y i j v w, i < j → Has x i v → Has y j w → v.place < w.place) :
    FindsFirst (fun v => ∃ i x, xs[i]? = some x ∧ Has x i v) (xs.zipIdx.findSome? f) := by
  constructor
  · rintro hn v ⟨i, x, hx, hv⟩
    have hnone := List.findSome?_eq_none_iff.1 hn (x, i) (List.mem_zipIdx_iff_getElem?.2 hx)
    exact (h x i).of_none hnone v hv
  · intro v hv
    obtain ⟨i, x, hx, hfound, hbefore⟩ := findSome?_zipIdx_eq_some hv
    have hfirst := (h x i).of_some v hfound
    refine ⟨⟨i, x, hx, hfirst.has⟩, ?_⟩
    rintro w ⟨j, y, hy, hw⟩
    rcases Nat.lt_trichotomy j i with hj | rfl | hj
    · exact absurd hw ((h y j).of_none (hbefore j y hy hj) w)
    · rw [hx] at hy
      cases hy
      exact hfirst.first w hw
    · exact .inr (hlt x y i j v w hj hfirst.has hw)

/-! ## Columns, tables and the whole -/

/-- The fault that a violation is. -/
def Violation.fault (v : Violation) : Fault :=
  { text := v.text
    place := match v with
      | .separator _ => [0]
      | .emptyGlobalFilterParam => [1]
      | .emptyLevel => [2]
      | .emptyClientId i => [3, i]
      | .column i j .emptyId => [3, i, j, 0]
      | .column i j .noBinding => [3, i, j, 1]
      | .column i j .twoBindings => [3, i, j, 2]
      | .column i j (.unknownMatchMode _) => [3, i, j, 3] }

theorem Column.findsFirst_violation (i j : Nat) (d : Column) :
    FindsFirst (d.HasFault i j) (d.violation.map fun v => (Violation.column i j v).fault) := by
  simp only [violation, apply_ite (Option.map _), Option.map_some, Option.map_none]
  refine .congr (fun f => (d.hasFault_iff i j f).symm) ?_
  refine .ite (by simp) (.ite ?_ (.ite ?_ (.ite_none (by simp)) ?_) ?_) ?_
  · cases d.filterBy <;> simp
  · cases d.filterBy <;> simp
  · rintro f ⟨-, rfl⟩
    simp [List.cons_lt_cons_iff]
  · rintro f (⟨-, rfl⟩ | ⟨-, rfl⟩) <;> simp [List.cons_lt_cons_iff]
  · rintro f (⟨-, rfl⟩ | ⟨-, rfl⟩ | ⟨-, rfl⟩) <;> simp [List.cons_lt_cons_iff]

theorem Column.HasFault.exists_place {i j : Nat} {d : Column} {f : Fault} (h : d.HasFault i j f) :
    ∃ k, f.place = [3, i, j, k] := by
  cases h <;> exact ⟨_, rfl⟩

theorem Table.findsFirst_violation (i : Nat) (t : Table) :
    FindsFirst (t.HasFault i) ((t.violation i).map Violation.fault) := by
  simp only [violation, apply_ite (Option.map _), Option.map_some, List.map_findSome?]
  refine .congr (fun f => (t.hasFault_iff i f).symm) ?_
  refine .ite (by simp) (.findSome?_zipIdx (fun d j => ?_) ?_) ?_
  · simpa [Function.comp_def] using d.findsFirst_violation i j
  · intro d d' j j' f f' hlt hf hf'
    obtain ⟨k, hk⟩ := hf.exists_place
    obtain ⟨k', hk'⟩ := hf'.exists_place
    simp [List.cons_lt_cons_iff, hk, hk', hlt]
  · rintro f ⟨j, d, -, hf⟩
    obtain ⟨k, hk⟩ := hf.exists_place
    simp [hk]

theorem Table.HasFault.exists_place {i : Nat} {t : Table} {f : Fault} (h : t.HasFault i f) :
    ∃ rest, f.place = 3 :: i :: rest := by
  cases h with
  | clientId => exact ⟨_, rfl⟩
  | column _ h =>
    obtain ⟨k, hk⟩ := h.exists_place
    exact ⟨_, hk⟩

/-- The violation of a configuration is its first fault. -/
theorem findsFirst_violation (c : Config) :
    FindsFirst c.HasFault (c.violation.map Violation.fault) := by
  have htables : ∀ k < 3, ∀ f : Fault, (∃ i, ∃ t : Table, c.tables[i]? = some t ∧ t.HasFault i f) →
      [k] < f.place := by
    rintro k hk f ⟨i, t, -, hf⟩
    obtain ⟨rest, hrest⟩ := hf.exists_place
    simp [List.cons_lt_cons_iff, hrest, hk]
  simp only [violation, apply_ite (Option.map _), Option.map_some, List.map_findSome?]
  refine .congr (fun f => (c.hasFault_iff f).symm) ?_
  refine .ite ?_ (.ite (by simp) (.ite (by simp) (.findSome?_zipIdx (fun t i => ?_) ?_) ?_) ?_) ?_
  · simp [isUsableSeparator, or_assoc]
  · exact t.findsFirst_violation i
  · intro t t' i i' f f' hlt hf hf'
    obtain ⟨rest, hrest⟩ := hf.exists_place
    obtain ⟨rest', hrest'⟩ := hf'.exists_place
    simp [List.cons_lt_cons_iff, hrest, hrest', hlt]
  · exact htables 2 (by decide)
  · rintro f (⟨-, rfl⟩ | hf)
    · simp [List.cons_lt_cons_iff]
    · exact htables 1 (by decide) f hf
  · rintro f (⟨-, rfl⟩ | ⟨-, rfl⟩ | hf)
    · simp [List.cons_lt_cons_iff]
    · simp [List.cons_lt_cons_iff]
    · exact htables 0 (by decide) f hf

theorem mapError_validate_eq_error_iff {c : Config} {message : String} :
    c.validate.mapError Violation.message = .error message ↔
      ∃ v, c.violation = some v ∧ message = "validation error: " ++ v.text := by
  rw [validate]
  cases c.violation with
  | none => simp [Except.mapError]
  | some v =>
    simp only [Except.mapError, Except.error.injEq, Option.some.injEq, exists_eq_left']
    exact eq_comm

/-- A configuration is accepted exactly if its names are usable and each column of each table has an
id, a binding or else fields, and a match mode that there is. Otherwise the message is about the
fault whose place is before those of all others, with the indexes of its table and column. -/
theorem validate_tells_first (c : Config) :
    (c.validate = .ok () ↔
      (c.expressions.separator ∉ ['@', '(', ')', ','] ∧
        Text.isBlank c.expressions.separator = false) ∧
      c.filtering.globalFilterParam ≠ "" ∧ c.logging.level ≠ "" ∧
      ∀ t ∈ c.tables, t.clientId ≠ "" ∧ ∀ d ∈ t.columns,
        d.id ≠ "" ∧ (d.filterBy.isSome = true ↔ d.fields = []) ∧ d.matchMode ∈ matchModes) ∧
    ∀ message, c.validate.mapError Violation.message = .error message ↔
      ∃ f : Fault, f.IsFirst c.HasFault ∧ message = "validation error: " ++ f.text := by
  constructor
  · have hseparator : isUsableSeparator c.expressions.separator = true ↔
        c.expressions.separator ∉ ['@', '(', ')', ','] ∧
          Text.isBlank c.expressions.separator = false := by
      simp [isUsableSeparator, and_assoc]
    rw [validate_eq_ok_iff, ← hseparator]
    constructor
    · intro h
      refine ⟨h.separator, h.globalFilterParam_ne_empty, h.level_ne_empty, fun t ht => ?_⟩
      have ht := h.tables t ht
      refine ⟨ht.clientId_ne_empty, fun d hd => ?_⟩
      have hd := ht.columns d hd
      exact ⟨hd.id_ne_empty, hd.single_iff, hd.matchMode_mem⟩
    · rintro ⟨hsep, hparam, hlevel, htables⟩
      refine ⟨hsep, hparam, hlevel, fun t ht => ⟨(htables t ht).1, fun d hd => ?_⟩⟩
      obtain ⟨hid, hsingle, hmode⟩ := (htables t ht).2 d hd
      exact ⟨hid, hsingle, hmode⟩
  · intro message
    simp only [← (findsFirst_violation c).eq_some_iff, Option.map_eq_some_iff,
      mapError_validate_eq_error_iff]
    constructor
    · rintro ⟨v, hv, rfl⟩
      exact ⟨v.fault, ⟨v, hv, rfl⟩, rfl⟩
    · rintro ⟨_, ⟨v, hv, rfl⟩, rfl⟩
      exact ⟨v, hv, rfl⟩

end ViewQuery.Config
