import ViewQuery.CommandLine.Run
import ViewQuery.Proofs.Outcome
import ViewQuery.Proofs.Text.FirstCut

/-!
# The request of the arguments of `filter`

An argument sets a parameter of the request: that of a column, by the id of the column, or any other
by its own name. The names under which the values of columns are sent are those that the table lists
for its columns, and of several values for one name the last one counts, however it was addressed.

* `Gives`, `Addresses`, `Sets`: what an argument says, the parameter that it means, and both;
* `paramOf_eq_ok_iff`, `paramOf_eq_error_iff`: the arguments that set a parameter, and those that
  are refused;
* `lookup_reverse_eq_some_iff`: the last of several arguments that set a parameter;
* `exists_first_refused`: how a request fails;
* `get?_requestOfParams`: what a request holds under each name;
* `requestOfParams_addresses_columns`: the request of any arguments.
-/

namespace ViewQuery

/-! ## Requests and columns -/

theorem Filter.Request.get?_set (r : Filter.Request) (name value other : String) :
    (r.set name value).get? other = if other = name then some value else r.get? other :=
  Dict.lookup_insert name value r.params other

namespace Filter.Table

variable {R : Type} {t : Table R} {c : Column} {id param binding : String}

/-- The column that an id stands for: the first one of a table with that id. -/
def ColumnOf (t : Table R) (id : String) (c : Column) : Prop :=
  ∃ front back, t.columns = front ++ c :: back ∧ (∀ d ∈ front, d.id ≠ id) ∧ c.id = id

theorem find?_eq_some_iff_columnOf :
    (t.columns.find? fun c => c.id == id) = some c ↔ t.ColumnOf id c := by
  rw [List.find?_eq_some_iff_append, ColumnOf]
  constructor
  · rintro ⟨hid, front, back, hcolumns, hfront⟩
    exact ⟨front, back, hcolumns, by simpa using hfront, by simpa using hid⟩
  · rintro ⟨front, back, hcolumns, hfront, hid⟩
    exact ⟨by simpa using hid, front, back, hcolumns, by simpa using hfront⟩

theorem find?_eq_none_iff_forall_ne :
    (t.columns.find? fun c => c.id == id) = none ↔ ∀ c ∈ t.columns, c.id ≠ id := by
  simp

theorem ColumnOf.mem (h : t.ColumnOf id c) : c ∈ t.columns := by
  obtain ⟨front, back, hcolumns, -⟩ := h
  rw [hcolumns]
  simp

theorem ColumnOf.id_eq (h : t.ColumnOf id c) : c.id = id := by
  obtain ⟨-, -, -, -, hid⟩ := h
  exact hid

/-- A single column has one parameter. -/
theorem mem_filterMap_iff_of_single (hc : c ∈ t.columns) (hb : c.binding = .single binding) :
    (param, c) ∈ t.filterMap ↔ param = t.columnParam c.id := by
  have hparams : t.paramsOf c = [t.columnParam c.id] := by
    rw [paramsOf, hb]
  simp only [filterMap, List.mem_flatMap, List.mem_map]
  constructor
  · rintro ⟨d, -, p, hp, heq⟩
    obtain ⟨rfl, rfl⟩ := Prod.mk.inj heq
    rw [hparams] at hp
    exact List.mem_singleton.1 hp
  · rintro rfl
    exact ⟨c, hc, t.columnParam c.id, by rw [hparams]; exact List.mem_singleton_self _, rfl⟩

end Filter.Table

namespace CommandLine

open ViewQuery.Filter (Column Table)

variable {R : Type} {t : Table R} {param key name value : String} {e : Error}

/-! ## One argument -/

/-- An argument gives a value to a key. The key ends at the first `=`. -/
def Gives (param key value : String) : Prop := param = key ++ "=" ++ value ∧ '=' ∉ key.toList

/-- The parameter that a key means: the one which a table lists for the column with that id, if this
is a single one; and if there is none, the one with that name. -/
inductive Addresses (t : Table R) (key : String) : String → Prop where
  | column {c : Column} {binding param : String} : t.ColumnOf key c → c.binding = .single binding →
      (param, c) ∈ t.filterMap → Addresses t key param
  | raw : (∀ c ∈ t.columns, c.id ≠ key) → Addresses t key key

/-- An argument sets a parameter to a value. -/
def Sets (t : Table R) (param name value : String) : Prop :=
  ∃ key, Gives param key value ∧ Addresses t key name

/-- Why an argument is refused: it gives no value, or it gives one to a group of columns. -/
inductive Refuses (t : Table R) (param : String) : Error → Prop where
  | malformed : '=' ∉ param.toList → Refuses t param (.malformedParam param)
  | group {key value : String} {c : Column} {bindings : List String} : Gives param key value →
      t.ColumnOf key c → c.binding = .group bindings →
      Refuses t param (.groupParam key (t.qualified key))

theorem cutAt_eq_some_iff_gives :
    Text.cutAt ['='] param.toList = some (key.toList, value.toList) ↔ Gives param key value := by
  rw [Text.cutAt_singleton_eq_some_iff, Gives, ← String.toList_inj]
  simp [and_comm]

theorem cutAt_eq_none_iff_notMem : Text.cutAt ['='] param.toList = none ↔ '=' ∉ param.toList := by
  rw [Text.cutAt_eq_none_iff, ← Bool.not_eq_true, Text.occursIn_iff]
  simp [List.mem_iff_append]

theorem paramOfKey_eq_ok_iff : paramOfKey t key = .ok name ↔ Addresses t key name := by
  unfold paramOfKey
  constructor
  · intro h
    split at h
    · rename_i hnone
      cases h
      exact .raw (Table.find?_eq_none_iff_forall_ne.1 hnone)
    · rename_i c hsome
      have hc := Table.find?_eq_some_iff_columnOf.1 hsome
      split at h
      · rename_i binding hb
        cases h
        exact .column hc hb ((Table.mem_filterMap_iff_of_single hc.mem hb).2 (by rw [hc.id_eq]))
      · cases h
  · intro h
    cases h with
    | column hc hb hmem =>
      rw [Table.find?_eq_some_iff_columnOf.2 hc]
      simp [hb, (Table.mem_filterMap_iff_of_single hc.mem hb).1 hmem, hc.id_eq]
    | raw hne => rw [Table.find?_eq_none_iff_forall_ne.2 hne]

theorem paramOfKey_eq_error_iff : paramOfKey t key = .error e ↔
    ∃ c bindings, t.ColumnOf key c ∧ c.binding = .group bindings ∧
      e = .groupParam key (t.qualified key) := by
  unfold paramOfKey
  constructor
  · intro h
    split at h
    · cases h
    · rename_i c hsome
      split at h
      · cases h
      · rename_i bindings hb
        cases h
        exact ⟨c, bindings, Table.find?_eq_some_iff_columnOf.1 hsome, hb, rfl⟩
  · rintro ⟨c, bindings, hc, hb, rfl⟩
    rw [Table.find?_eq_some_iff_columnOf.2 hc]
    simp [hb]

theorem paramOf_of_gives (h : Gives param key value) :
    paramOf t param = (paramOfKey t key).map fun name => (name, value) := by
  rw [paramOf, cutAt_eq_some_iff_gives.2 h]
  simp only [String.ofList_toList]
  exact bind_ok_eq_map _ _

theorem exists_gives (h : '=' ∈ param.toList) : ∃ key value, Gives param key value := by
  cases hcut : Text.cutAt ['='] param.toList with
  | none => exact absurd h (cutAt_eq_none_iff_notMem.1 hcut)
  | some p =>
    refine ⟨.ofList p.1, .ofList p.2, cutAt_eq_some_iff_gives.1 ?_⟩
    rw [hcut, String.toList_ofList, String.toList_ofList]

theorem Gives.mem (h : Gives param key value) : '=' ∈ param.toList := by
  rw [h.1]
  simp

theorem Gives.unique {key' value' : String} (h : Gives param key value)
    (h' : Gives param key' value') : key = key' ∧ value = value' := by
  have heq := (cutAt_eq_some_iff_gives.2 h).symm.trans (cutAt_eq_some_iff_gives.2 h')
  obtain ⟨hkey, hvalue⟩ := Prod.mk.inj (Option.some.inj heq)
  exact ⟨String.toList_inj.1 hkey, String.toList_inj.1 hvalue⟩

theorem paramOf_of_notMem (h : '=' ∉ param.toList) :
    paramOf t param = .error (.malformedParam param) := by
  rw [paramOf, cutAt_eq_none_iff_notMem.2 h]

/-- An argument that is taken sets the parameter that its key means. -/
theorem paramOf_eq_ok_iff : paramOf t param = .ok (name, value) ↔ Sets t param name value := by
  constructor
  · intro h
    by_cases hmem : '=' ∈ param.toList
    · obtain ⟨key, value', hg⟩ := exists_gives hmem
      rw [paramOf_of_gives hg, map_eq_ok_iff] at h
      obtain ⟨name', hname, heq⟩ := h
      obtain ⟨rfl, rfl⟩ := Prod.mk.inj heq
      exact ⟨key, hg, paramOfKey_eq_ok_iff.1 hname⟩
    · rw [paramOf_of_notMem hmem] at h
      cases h
  · rintro ⟨key, hg, haddr⟩
    rw [paramOf_of_gives hg, paramOfKey_eq_ok_iff.2 haddr]
    rfl

theorem paramOf_eq_error_iff : paramOf t param = .error e ↔ Refuses t param e := by
  constructor
  · intro h
    by_cases hmem : '=' ∈ param.toList
    · obtain ⟨key, value, hg⟩ := exists_gives hmem
      rw [paramOf_of_gives hg, map_eq_error_iff, paramOfKey_eq_error_iff] at h
      obtain ⟨c, bindings, hc, hb, rfl⟩ := h
      exact .group hg hc hb
    · rw [paramOf_of_notMem hmem] at h
      cases h
      exact .malformed hmem
  · intro h
    cases h with
    | malformed hmem => exact paramOf_of_notMem hmem
    | group hg hc hb =>
      rw [paramOf_of_gives hg, map_eq_error_iff, paramOfKey_eq_error_iff]
      exact ⟨_, _, hc, hb, rfl⟩

/-! ## All arguments -/

/-- The last one of the arguments that set a parameter sets it to a value. -/
def LastSets (t : Table R) (params : List String) (name value : String) : Prop :=
  ∃ front param back, params = front ++ param :: back ∧ Sets t param name value ∧
    ∀ later ∈ back, ∀ other, ¬ Sets t later name other

theorem lastSets_cons_iff {params : List String} : LastSets t (param :: params) name value ↔
    LastSets t params name value ∨
      Sets t param name value ∧ ∀ later ∈ params, ∀ other, ¬ Sets t later name other := by
  constructor
  · rintro ⟨front, last, back, heq, hset, hback⟩
    cases front with
    | nil =>
      obtain ⟨rfl, rfl⟩ := List.cons.inj heq
      exact .inr ⟨hset, hback⟩
    | cons first front =>
      obtain ⟨rfl, rfl⟩ := List.cons.inj heq
      exact .inl ⟨front, last, back, rfl, hset, hback⟩
  · rintro (⟨front, last, back, rfl, hset, hback⟩ | ⟨hset, hback⟩)
    · exact ⟨param :: front, last, back, rfl, hset, hback⟩
    · exact ⟨[], param, params, rfl, hset, hback⟩

/-- What an argument sets is what it is read as. -/
theorem sets_iff_eq {pair : String × String} (h : paramOf t param = .ok pair) :
    Sets t param name value ↔ pair = (name, value) := by
  rw [← paramOf_eq_ok_iff, h, Except.ok.injEq]

theorem lookup_singleton_eq_some_iff {pair : String × String} (h : paramOf t param = .ok pair) :
    [pair].lookup name = some value ↔ Sets t param name value := by
  simp only [sets_iff_eq h, Dict.lookup_cons_eq, Prod.ext_iff]
  by_cases hname : name = pair.1 <;> simp [hname, Ne.symm]

section

variable {params : List String} {pairs : List (String × String)}
  (h : List.Forall₂ (fun param pair => paramOf t param = .ok pair) params pairs)

include h

theorem lookup_reverse_eq_none_iff :
    pairs.reverse.lookup name = none ↔ ∀ param ∈ params, ∀ value, ¬ Sets t param name value := by
  induction h with
  | nil => simp
  | @cons param pair params pairs hpair _ ih =>
    have hfirst : [pair].lookup name = none ↔ ∀ value, ¬ Sets t param name value := by
      rw [Option.eq_none_iff_forall_ne_some]
      simp only [ne_eq, lookup_singleton_eq_some_iff hpair]
    rw [List.reverse_cons, List.lookup_append, Option.or_eq_none_iff, ih, hfirst,
      List.forall_mem_cons, and_comm]

/-- The value that is found under a name is that of the last argument which sets it. -/
theorem lookup_reverse_eq_some_iff :
    pairs.reverse.lookup name = some value ↔ LastSets t params name value := by
  induction h with
  | nil => simp [LastSets]
  | @cons param pair params pairs hpair hpairs ih =>
    rw [List.reverse_cons, List.lookup_append, Option.or_eq_some_iff, ih,
      lookup_singleton_eq_some_iff hpair, lookup_reverse_eq_none_iff hpairs, lastSets_cons_iff,
      and_comm]

end

/-! ## The request -/

section

variable {params : List String} {globalValue : Option String} {request : Filter.Request}

theorem requestOfParams_eq_error_iff :
    requestOfParams t params globalValue = .error e ↔ params.mapM (paramOf t) = .error e := by
  unfold requestOfParams
  cases params.mapM (paramOf t) with
  | error e' => simp [bind, Except.bind]
  | ok pairs => simp [bind, Except.bind, pure, Except.pure]

/-- The first argument that is refused decides how a request fails. -/
theorem exists_first_refused (h : requestOfParams t params globalValue = .error e) :
    ∃ front param back, params = front ++ param :: back ∧
      (∀ earlier ∈ front, ∀ e, ¬ Refuses t earlier e) ∧ Refuses t param e := by
  obtain ⟨front, param, back, hparams, hfront, hparam⟩ :=
    mapM_eq_error_iff.1 (requestOfParams_eq_error_iff.1 h)
  refine ⟨front, param, back, hparams, fun earlier hearlier e' hrefuses => ?_,
    paramOf_eq_error_iff.1 hparam⟩
  obtain ⟨pair, hpair⟩ := hfront earlier hearlier
  rw [paramOf_eq_error_iff.2 hrefuses] at hpair
  cases hpair

theorem exists_error_iff_exists_refused :
    (∃ e, requestOfParams t params globalValue = .error e) ↔
      ∃ param ∈ params, ∃ e, Refuses t param e := by
  constructor
  · rintro ⟨e, he⟩
    obtain ⟨front, param, back, rfl, -, hparam⟩ := exists_first_refused he
    exact ⟨param, by simp, e, hparam⟩
  · rintro ⟨param, hmem, e, hparam⟩
    simp only [requestOfParams_eq_error_iff]
    rw [← not_exists_eq_ok_iff, exists_mapM_eq_ok_iff]
    intro hall
    obtain ⟨pair, hpair⟩ := hall param hmem
    rw [paramOf_eq_error_iff.2 hparam] at hpair
    cases hpair

/-- What a request holds: the mark of a filter request, then what the arguments set, and then the
value of the global filter, each in the place of what was there before. -/
theorem get?_requestOfParams (h : requestOfParams t params globalValue = .ok request) :
    ∃ pairs, List.Forall₂ (fun param pair => paramOf t param = .ok pair) params pairs ∧
      ∀ name, request.get? name = (if name = t.globalParam then globalValue else none).or
        ((pairs.reverse.lookup name).or
          (if name = t.filteringParam then some "true" else none)) := by
  obtain ⟨pairs, hpairs, hrequest⟩ := bind_eq_ok_iff.1 h
  refine ⟨pairs, map_eq_map_ok_iff_forall₂.1 (mapM_eq_ok_iff.1 hpairs), fun name => ?_⟩
  have hset := Dict.get_foldl_put Filter.Request.get? Filter.Request.set
    Filter.Request.get?_set pairs (Filter.Request.empty.set t.filteringParam "true") name
  have hempty : Filter.Request.empty.get? name = none := rfl
  rw [Filter.Request.get?_set, hempty] at hset
  cases hrequest
  cases globalValue with
  | none =>
    rw [ite_self, Option.none_or]
    exact hset
  | some value =>
    refine (Filter.Request.get?_set _ t.globalParam value name).trans ?_
    rw [hset]
    by_cases hname : name = t.globalParam
    · rw [if_pos hname, if_pos hname, Option.some_or]
    · rw [if_neg hname, if_neg hname, Option.none_or]

theorem get?_eq_some_iff (h : requestOfParams t params globalValue = .ok request) :
    request.get? name = some value ↔
      (name = t.globalParam ∧ globalValue = some value) ∨
        ¬ (name = t.globalParam ∧ globalValue.isSome = true) ∧
          (LastSets t params name value ∨
            (∀ param ∈ params, ∀ other, ¬ Sets t param name other) ∧
              name = t.filteringParam ∧ value = "true") := by
  obtain ⟨pairs, hpairs, hget⟩ := get?_requestOfParams h
  have hmark : (if name = t.filteringParam then some "true" else none) = some value ↔
      name = t.filteringParam ∧ value = "true" := by
    by_cases hname : name = t.filteringParam <;> simp [hname, eq_comm]
  rw [hget, Option.or_eq_some_iff, Option.or_eq_some_iff, lookup_reverse_eq_none_iff hpairs,
    lookup_reverse_eq_some_iff hpairs, hmark]
  by_cases hname : name = t.globalParam
  · cases globalValue <;> simp [hname]
  · simp [hname]

end

/-- The request of any arguments. It is refused exactly if one of them is, because it gives no value
or gives one to a group of columns, and the first one that is refused tells why. Else, with the id
of a single column standing for the parameter that the table lists for this column, and any other
key for itself, the value under a name is the global one, if one is given and the name is that of
the global filter; or else that of the last argument that sets the name; or else the mark of a
filter request, if the name is that of the mark; or else there is none. -/
theorem requestOfParams_addresses_columns (t : Table R) (params : List String)
    (globalValue : Option String) :
    ((∃ e, requestOfParams t params globalValue = .error e) ↔
        ∃ param ∈ params, ∃ e, Refuses t param e) ∧
      (∀ e, requestOfParams t params globalValue = .error e →
        ∃ front param back, params = front ++ param :: back ∧
          (∀ earlier ∈ front, ∀ e, ¬ Refuses t earlier e) ∧ Refuses t param e) ∧
      ∀ request, requestOfParams t params globalValue = .ok request → ∀ name value,
        (request.get? name = some value ↔
          (name = t.globalParam ∧ globalValue = some value) ∨
            ¬ (name = t.globalParam ∧ globalValue.isSome = true) ∧
              (LastSets t params name value ∨
                (∀ param ∈ params, ∀ other, ¬ Sets t param name other) ∧
                  name = t.filteringParam ∧ value = "true")) :=
  ⟨exists_error_iff_exists_refused, fun _ => exists_first_refused,
    fun _ hrequest _ _ => get?_eq_some_iff hrequest⟩

/-- A table with a single column and a group under one id, of which the column is the first. -/
def brandTwice : Table Json :=
  { Table.new "cars" ':' [] with
    columns := [Column.single "brand" "car.brand", Column.group "brand" ["car.model"]] }

/-- The value of a column is set by its id and then by the name of its parameter; the second value
counts, all of it behind the first `=`. A value is set for the mark of a filter request as well. -/
theorem requestOfParams_addresses_columns_brandTwice :
    let params := ["brand=vw", "cars:brand_filter=a=b", "cars_filtering=no"]
    ∃ request, requestOfParams brandTwice params (some "o") = .ok request ∧
      request.get? "cars:brand_filter" = some "a=b" ∧
      LastSets brandTwice params "cars:brand_filter" "a=b" ∧
      request.get? "cars_filtering" = some "no" ∧ request.get? "cars:globalFilter" = some "o" ∧
      ∀ e, requestOfParams brandTwice ("brand" :: params) none = .error e →
        ∃ param ∈ "brand" :: params, ∃ e, Refuses brandTwice param e := by
  intro params
  obtain ⟨-, -, hvalues⟩ := requestOfParams_addresses_columns brandTwice params (some "o")
  have hrequest : requestOfParams brandTwice params (some "o") = .ok (.ofList
      [("cars_filtering", "no"), ("cars:brand_filter", "a=b"), ("cars:globalFilter", "o")]) := rfl
  have hlast : LastSets brandTwice params "cars:brand_filter" "a=b" := by
    rcases (hvalues _ hrequest "cars:brand_filter" "a=b").1 rfl with ⟨hname, -⟩ | ⟨-, h | ⟨-, h, -⟩⟩
    · exact absurd hname (by decide)
    · exact h
    · exact absurd h (by decide)
  refine ⟨_, hrequest, rfl, hlast, rfl, rfl, fun e he => ?_⟩
  exact (requestOfParams_addresses_columns brandTwice ("brand" :: params) none).1.1 ⟨e, he⟩

end CommandLine

end ViewQuery
