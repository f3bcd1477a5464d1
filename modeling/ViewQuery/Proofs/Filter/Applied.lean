import ViewQuery.Proofs.Filter.Decode

/-!
# The filters that a request leaves

A request notes its values in the table under the fields that they are for, and the value of the
global filter under a name of its own. There is one value for each field: where columns share a
field, or a field has the name of the global filter, only one of several values can be noted.

* `Table.appliedFilters_eq`: the noted filters, from the entries of the filter map;
* `lookup_filters_decode`: when the value of an entry is noted;
* `decode_notes_last_values`: all that is noted, and when no value is lost.
-/

namespace ViewQuery.Filter

variable {R : Type}

/-! ## Values and their fields -/

/-- A request has a value for an entry of a filter map, and the value is for a field. -/
def Request.Applies (request : Request) (entry : String × Column) (field value : String) : Prop :=
  Table.entryField? entry = some field ∧ request.nonBlank? entry.1 = some value

instance (request : Request) (entry : String × Column) (field value : String) :
    Decidable (request.Applies entry field value) :=
  inferInstanceAs (Decidable (_ ∧ _))

/-- The values of a request for the entries of a filter map in order, each with its field. -/
def Request.submitted (request : Request) (entries : List (String × Column)) :
    List (String × String) :=
  entries.filterMap fun entry => (Table.entryField? entry).bind fun field =>
    (request.nonBlank? entry.1).map fun value => (field, value)

theorem Request.mem_submitted_iff {request : Request} {entries : List (String × Column)}
    {field value : String} : (field, value) ∈ request.submitted entries ↔
      ∃ entry ∈ entries, request.Applies entry field value := by
  simp [submitted, Applies, Option.bind_eq_some_iff]

theorem Request.submitted_append_cons {request : Request} {entry : String × Column}
    {field value : String} (h : request.Applies entry field value)
    (front back : List (String × Column)) : request.submitted (front ++ entry :: back) =
      request.submitted front ++ (field, value) :: request.submitted back := by
  simp [submitted, h.1, h.2]

namespace Table

/-- No value of a request has a rival: the values for one field are the same, and so is the global
value where the field has the name of the global filter. -/
def Unrivalled (t : Table R) (request : Request) : Prop :=
  ∀ entry ∈ t.filterMap, ∀ field value, request.Applies entry field value →
    (∀ rival ∈ t.filterMap, ∀ other, request.Applies rival field other → other = value) ∧
      (field = globalFilterKey →
        ∀ other, request.nonBlank? t.globalParam = some other → other = value)

/-- The value of the global filter, if there is one, under its name. -/
def submittedGlobally (t : Table R) (request : Request) : List (String × String) :=
  ((request.nonBlank? t.globalParam).map fun value => (globalFilterKey, value)).toList

theorem mem_submittedGlobally_iff {t : Table R} {request : Request} {key value : String} :
    (key, value) ∈ t.submittedGlobally request ↔
      key = globalFilterKey ∧ request.nonBlank? t.globalParam = some value := by
  rw [submittedGlobally, Option.mem_toList, Option.map_eq_some_iff]
  constructor
  · rintro ⟨v, hv, heq⟩
    obtain ⟨rfl, rfl⟩ := Prod.mk.inj heq
    exact ⟨rfl, hv⟩
  · rintro ⟨rfl, hv⟩
    exact ⟨value, hv, rfl⟩

/-- What the filters of the columns take from a request is what it has for the entries. -/
theorem submitted_eq_of_map_activeFilter {request : Request} {entries : List (String × Column)}
    {active : List ActiveFilter} (h : entries.map activeFilter = active.map .ok) :
    request.submitted entries = active.filterMap fun f =>
      (request.nonBlank? f.parameter).map fun value => (f.field, value) := by
  induction map_eq_map_ok_iff_forall₂.1 h with
  | nil => rfl
  | cons hf _ ih =>
    obtain ⟨hfield, hparam, -⟩ := activeFilter_eq_ok_iff.1 hf
    rw [List.filterMap_cons, ← ih (List.cons.inj h).2, hparam, Request.submitted,
      List.filterMap_cons, hfield, Option.bind_some]
    rfl

theorem appliedFilters_eq {t : Table R} {active : List ActiveFilter}
    (h : t.activeFilters = .ok active) (request : Request) :
    appliedFilters active t.globalParam request =
      Dict.ofList (request.submitted t.filterMap ++ t.submittedGlobally request) := by
  rw [submitted_eq_of_map_activeFilter (activeFilters_eq_ok_iff.1 h)]
  rfl

end Table

/-! ## What is noted -/

section

variable [Row R] {t : Table R} {request : Request} {reply : Option Reply} {matched : Option Nat}

theorem filters_decode_eq (h : (decode t request reply).result = .ok matched) :
    (decode t request reply).table.filters =
      Dict.ofList (request.submitted t.filterMap ++ t.submittedGlobally request) := by
  obtain ⟨active, ha⟩ := exists_activeFilters h
  rw [filters_decode ha, Table.appliedFilters_eq ha]

/-- The value of an entry is noted if the later entries of its field have no other value, and
neither has the global filter where the field has its name. -/
theorem lookup_filters_decode (h : (decode t request reply).result = .ok matched)
    {front back : List (String × Column)} {entry : String × Column} {field value : String}
    (hmap : t.filterMap = front ++ entry :: back) (he : request.Applies entry field value)
    (hback : ∀ later ∈ back, ∀ other, request.Applies later field other → other = value)
    (hglobal : field = globalFilterKey →
      ∀ other, request.nonBlank? t.globalParam = some other → other = value) :
    (decode t request reply).table.filters.lookup field = some value := by
  rw [filters_decode_eq h, hmap, Request.submitted_append_cons he, List.append_assoc,
    List.cons_append]
  refine Dict.lookup_ofList_append_cons fun other hother => ?_
  rcases List.mem_append.1 hother with hlater | hall
  · obtain ⟨later, hlater, happ⟩ := Request.mem_submitted_iff.1 hlater
    exact hback later hlater other happ
  · obtain ⟨hname, hvalue⟩ := Table.mem_submittedGlobally_iff.1 hall
    exact hglobal hname other hvalue

/-- The global value is noted after all others. -/
theorem lookup_globalFilterKey_decode (h : (decode t request reply).result = .ok matched)
    {value : String} (hv : request.nonBlank? t.globalParam = some value) :
    (decode t request reply).table.filters.lookup globalFilterKey = some value := by
  have hall : t.submittedGlobally request = [(globalFilterKey, value)] := by
    rw [Table.submittedGlobally, hv]
    rfl
  rw [filters_decode_eq h, hall]
  exact Dict.lookup_ofList_append_cons fun other hother => by cases hother

/-- Nothing is noted that the request does not have. -/
theorem exists_applies_of_mem_keys (h : (decode t request reply).result = .ok matched)
    {key : String} (hk : key ∈ Dict.keys (decode t request reply).table.filters) :
    (∃ entry ∈ t.filterMap, ∃ value, request.Applies entry key value) ∨
      key = globalFilterKey ∧ ∃ value, request.nonBlank? t.globalParam = some value := by
  rw [filters_decode_eq h] at hk
  obtain ⟨value, hvalue⟩ := Dict.mem_keys_iff.1 hk
  rcases List.mem_append.1 (Dict.mem_of_lookup_ofList hvalue) with hcolumn | hall
  · obtain ⟨entry, he, happ⟩ := Request.mem_submitted_iff.1 hcolumn
    exact .inl ⟨entry, he, value, happ⟩
  · obtain ⟨hname, hsome⟩ := Table.mem_submittedGlobally_iff.1 hall
    exact .inr ⟨hname, value, hsome⟩

/-- For each field the last value of a request is noted, the global one after those of the columns,
and nothing else; so no value is lost exactly when none has a rival. -/
theorem decode_notes_last_values (h : (decode t request reply).result = .ok matched) :
    let noted := (decode t request reply).table.filters
    (∀ front entry back field value, t.filterMap = front ++ entry :: back →
        request.Applies entry field value →
        (∀ later ∈ back, ∀ other, request.Applies later field other → other = value) →
        (field = globalFilterKey →
          ∀ other, request.nonBlank? t.globalParam = some other → other = value) →
        noted.lookup field = some value) ∧
      (∀ value, request.nonBlank? t.globalParam = some value →
        noted.lookup globalFilterKey = some value) ∧
      (∀ key ∈ Dict.keys noted, (∃ entry ∈ t.filterMap, ∃ value, request.Applies entry key value) ∨
        key = globalFilterKey ∧ ∃ value, request.nonBlank? t.globalParam = some value) ∧
      ((∀ entry ∈ t.filterMap, ∀ field value, request.Applies entry field value →
          noted.lookup field = some value) ↔ t.Unrivalled request) := by
  refine ⟨fun front entry back field value hmap he => lookup_filters_decode h hmap he,
    fun value => lookup_globalFilterKey_decode h, fun key => exists_applies_of_mem_keys h, ?_, ?_⟩
  · intro hkept entry he field value happ
    have hvalue := hkept entry he field value happ
    constructor
    · intro rival hr other hother
      exact Option.some.inj ((hkept rival hr field other hother).symm.trans hvalue)
    · rintro rfl other hother
      exact Option.some.inj ((lookup_globalFilterKey_decode h hother).symm.trans hvalue)
  · intro hun entry he field value happ
    obtain ⟨hrival, hglobal⟩ := hun entry he field value happ
    obtain ⟨front, back, hmap⟩ := List.append_of_mem he
    refine lookup_filters_decode h hmap happ (fun later hl => hrival later ?_) hglobal
    rw [hmap]
    exact List.mem_append_right front (List.mem_cons_of_mem entry hl)

/-- A table that leaves its rows to their source, with two filters on the price and one on a field
that has the name of the global filter. -/
def priceRange : Table Json :=
  { Table.new "t" ':' [] with
    columns :=
      [(Column.single "from" "#\x7bcar.price\x7d").withConstraint .greaterThanEquals,
       (Column.single "to" "#\x7bcar.price\x7d").withConstraint .lessThanEquals,
       Column.single "g" "#\x7bcar.globalFilter\x7d"]
    isLazy := true }

/-- The value of the last column of a field is noted. -/
theorem decode_notes_last_values_priceRange :
    let request := Request.ofList [("t:from_filter", "1000"), ("t:to_filter", "2000")]
    (decode priceRange request none).result = .ok none ∧
      (decode priceRange request none).table.filters.lookup "price" = some "2000" := by
  intro request
  have hdone : (decode priceRange request none).result = .ok none := rfl
  refine ⟨hdone, ?_⟩
  refine (decode_notes_last_values hdone).1 [_] _ [_] "price" "2000" rfl ⟨rfl, rfl⟩ ?_ (by decide)
  intro later hl other happ
  obtain rfl := List.mem_singleton.1 hl
  cases happ.2

/-- One of two values for a field is lost, and so is one for a field that has the name of the global
filter. -/
theorem decode_loses_values :
    let range := Request.ofList [("t:from_filter", "1000"), ("t:to_filter", "2000")]
    let both := Request.ofList [("t:g_filter", "a"), ("t:globalFilter", "b")]
    (decode priceRange range none).result = .ok none ∧
      (∃ entry ∈ priceRange.filterMap, range.Applies entry "price" "1000") ∧
      (decode priceRange range none).table.filters = [("price", "2000")] ∧
      (decode priceRange both none).result = .ok none ∧
      (∃ entry ∈ priceRange.filterMap, both.Applies entry "globalFilter" "a") ∧
      (decode priceRange both none).table.filters = [("globalFilter", "b")] :=
  ⟨rfl, ⟨_, List.mem_cons_self, rfl, rfl⟩, rfl, rfl,
    ⟨_, List.mem_cons_of_mem _ (List.mem_cons_of_mem _ List.mem_cons_self), rfl, rfl⟩, rfl⟩

end

end ViewQuery.Filter
