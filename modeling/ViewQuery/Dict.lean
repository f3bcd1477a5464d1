/-!
# Dictionaries

Values under texts, kept as a list of pairs in the order of the keys, each key once. `insert`
keeps that order, so two dictionaries with the same entries are equal as lists, and the order of
insertions does not show.

* `lookup_insert`: what an insertion changes;
* `sorted_insert`: an insertion keeps the order;
* `eq_of_lookup`: a dictionary is determined by what is looked up in it;
* `get_foldl_put`, `lookup_ofList`: of several pairs with one key the last is looked up, here and
  wherever else values stand under texts.
-/

namespace ViewQuery

/-- Values of type `α` under texts, in the order of the keys. -/
abbrev Dict (α : Type) : Type := List (String × α)

namespace Dict

variable {α : Type}

/-- Put a value under a key, in place of the one that was there. -/
def insert (key : String) (value : α) : Dict α → Dict α
  | [] => [(key, value)]
  | (k, v) :: rest =>
    if key < k then (key, value) :: (k, v) :: rest
    else if key = k then (key, value) :: rest
    else (k, v) :: insert key value rest

/-- The dictionary that holds the given pairs, of two pairs with one key the later. -/
def ofList (pairs : List (String × α)) : Dict α :=
  pairs.foldl (fun d p => insert p.1 p.2 d) []

/-- The keys in order. -/
def keys (d : Dict α) : List String := d.map (·.1)

/-- The keys are in strictly ascending order. -/
def Sorted (d : Dict α) : Prop := d.Pairwise fun p q => p.1 < q.1

theorem lookup_cons_eq (key : String) (p : String × α) (d : Dict α) :
    (p :: d).lookup key = if key = p.1 then some p.2 else d.lookup key := by
  rw [show p = (p.1, p.2) from rfl, List.lookup_cons]
  by_cases h : key = p.1
  · simp [h]
  · simp [h, beq_eq_false_iff_ne.2 h]

theorem lookup_insert_self (key : String) (value : α) (d : Dict α) :
    (insert key value d).lookup key = some value := by
  induction d with
  | nil => simp [insert]
  | cons p rest ih =>
    simp only [insert]
    split
    · simp
    · split
      · simp
      · rename_i h
        rw [lookup_cons_eq, if_neg h, ih]

theorem lookup_insert_of_ne {key other : String} (h : other ≠ key) (value : α) (d : Dict α) :
    (insert key value d).lookup other = d.lookup other := by
  induction d with
  | nil => simp [insert, lookup_cons_eq, h]
  | cons p rest ih =>
    simp only [insert]
    split
    · rw [lookup_cons_eq, if_neg h]
    · split
      · rename_i hk
        rw [lookup_cons_eq, lookup_cons_eq, if_neg h, if_neg (hk ▸ h)]
      · rw [lookup_cons_eq, lookup_cons_eq, ih]

theorem mem_keys_insert {key k : String} {value : α} {d : Dict α} :
    k ∈ keys (insert key value d) ↔ k = key ∨ k ∈ keys d := by
  induction d with
  | nil => simp [insert, keys]
  | cons p rest ih =>
    obtain ⟨k', v⟩ := p
    simp only [insert]
    split
    · simp [keys]
    · split
      · rename_i _ hk
        subst hk
        simp [keys]
      · simp only [keys, List.map_cons, List.mem_cons] at ih ⊢
        rw [ih]
        constructor <;> (rintro (h | h | h) <;> simp [h])

theorem sorted_insert (key : String) (value : α) {d : Dict α} (h : Sorted d) :
    Sorted (insert key value d) := by
  induction d with
  | nil => simp [insert, Sorted]
  | cons p rest ih =>
    obtain ⟨k, v⟩ := p
    obtain ⟨hk, hr⟩ := List.pairwise_cons.1 h
    simp only [insert]
    split
    · rename_i hlt
      refine List.pairwise_cons.2 ⟨fun q hq => ?_, h⟩
      rcases List.mem_cons.1 hq with rfl | hq
      · exact hlt
      · exact String.lt_trans hlt (hk q hq)
    · rename_i hlt
      split
      · rename_i heq
        subst heq
        exact List.pairwise_cons.2 ⟨hk, hr⟩
      · rename_i hne
        refine List.pairwise_cons.2 ⟨fun q hq => ?_, ih hr⟩
        have hq' : q.1 = key ∨ q.1 ∈ keys rest :=
          mem_keys_insert.1 (List.mem_map.2 ⟨q, hq, rfl⟩)
        rcases hq' with hq' | hq'
        · rw [hq']
          by_cases hlt' : k < key
          · exact hlt'
          · exact absurd (String.le_antisymm (String.not_lt.1 hlt') (String.not_lt.1 hlt)) hne
        · obtain ⟨q', hm, he⟩ := List.mem_map.1 hq'
          exact he ▸ hk q' hm

theorem sorted_ofList (pairs : List (String × α)) : Sorted (ofList pairs) := by
  suffices ∀ d : Dict α, Sorted d → Sorted (pairs.foldl (fun d p => insert p.1 p.2 d) d) from
    this [] List.Pairwise.nil
  induction pairs with
  | nil => exact fun _ h => h
  | cons p rest ih => exact fun d h => ih _ (sorted_insert p.1 p.2 h)

theorem lookup_eq_none_of_lt {d : Dict α} {key : String} (h : ∀ q ∈ d, key < q.1) :
    d.lookup key = none := by
  induction d with
  | nil => rfl
  | cons p rest ih =>
    have hp : key ≠ p.1 := fun he => String.lt_irrefl key (by
      simpa [← he] using h p (List.mem_cons_self ..))
    rw [lookup_cons_eq, if_neg hp]
    exact ih fun q hq => h q (List.mem_cons_of_mem _ hq)

theorem eq_of_lookup {d e : Dict α} (hd : Sorted d) (he : Sorted e)
    (h : ∀ key, d.lookup key = e.lookup key) : d = e := by
  induction d generalizing e with
  | nil =>
    cases e with
    | nil => rfl
    | cons q e => simpa [lookup_cons_eq] using h q.1
  | cons p d ih =>
    obtain ⟨hp, hd'⟩ := List.pairwise_cons.1 hd
    cases e with
    | nil => simpa [lookup_cons_eq] using h p.1
    | cons q e =>
      obtain ⟨hq, he'⟩ := List.pairwise_cons.1 he
      have hkey : p.1 = q.1 := by
        by_cases hlt : p.1 < q.1
        · have := h p.1
          rw [lookup_eq_none_of_lt (d := q :: e)] at this
          · simp [lookup_cons_eq] at this
          · rintro r (_ | ⟨_, hr⟩)
            · exact hlt
            · exact String.lt_trans hlt (hq r hr)
        · by_cases hgt : q.1 < p.1
          · have := h q.1
            rw [lookup_eq_none_of_lt (d := p :: d)] at this
            · simp [lookup_cons_eq] at this
            · rintro r (_ | ⟨_, hr⟩)
              · exact hgt
              · exact String.lt_trans hgt (hp r hr)
          · exact String.le_antisymm (String.not_lt.1 hgt) (String.not_lt.1 hlt)
      have hval : p.2 = q.2 := by
        have := h p.1
        simpa [lookup_cons_eq, hkey] using this
      obtain rfl : p = q := Prod.ext hkey hval
      congr 1
      refine ih hd' he' fun key => ?_
      by_cases hk : key = p.1
      · subst hk
        rw [lookup_eq_none_of_lt hp, lookup_eq_none_of_lt hq]
      · have := h key
        simpa [lookup_cons_eq, hk] using this

/-- In a dictionary an entry is what is looked up under its key. -/
theorem mem_iff_lookup {d : Dict α} (h : Sorted d) {key : String} {value : α} :
    (key, value) ∈ d ↔ d.lookup key = some value := by
  induction d with
  | nil => simp
  | cons p rest ih =>
    obtain ⟨hp, hrest⟩ := List.pairwise_cons.1 h
    rw [List.mem_cons, lookup_cons_eq, ih hrest]
    split
    · rename_i hk
      subst hk
      rw [lookup_eq_none_of_lt hp]
      simp [Prod.ext_iff, eq_comm]
    · rename_i hk
      exact or_iff_right fun heq => hk (congrArg Prod.fst heq)

theorem mem_keys_iff {d : Dict α} {key : String} :
    key ∈ keys d ↔ ∃ value, d.lookup key = some value := by
  rw [← Option.isSome_iff_exists, List.lookup_isSome_iff, keys, List.mem_map]
  constructor
  · rintro ⟨p, hp, rfl⟩
    exact ⟨p, hp, beq_self_eq_true p.1⟩
  · rintro ⟨p, hp, heq⟩
    exact ⟨p, hp, (eq_of_beq heq).symm⟩

theorem lookup_insert (key : String) (value : α) (d : Dict α) (other : String) :
    (insert key value d).lookup other = if other = key then some value else d.lookup other := by
  split
  · rename_i h
    rw [h, lookup_insert_self]
  · rename_i h
    exact lookup_insert_of_ne h value d

/-- Wherever values are put under keys one after the other, the last one of a key is found. -/
theorem get_foldl_put {M : Type} (get : M → String → Option α) (put : M → String → α → M)
    (h : ∀ m key value other,
      get (put m key value) other = if other = key then some value else get m other)
    (pairs : List (String × α)) (m : M) (key : String) :
    get (pairs.foldl (fun m p => put m p.1 p.2) m) key =
      (pairs.reverse.lookup key).or (get m key) := by
  induction pairs generalizing m with
  | nil => simp
  | cons p rest ih =>
    have hput : get (put m p.1 p.2) key = ([p].lookup key).or (get m key) := by
      rw [h, lookup_cons_eq]
      split <;> simp
    rw [List.foldl_cons, ih, hput, List.reverse_cons, List.lookup_append, Option.or_assoc]

theorem lookup_ofList (pairs : List (String × α)) (key : String) :
    (ofList pairs).lookup key = pairs.reverse.lookup key := by
  have hput := get_foldl_put (fun (d : Dict α) key => d.lookup key)
    (fun d key value => insert key value d)
    (fun d key value other => lookup_insert key value d other) pairs [] key
  exact hput.trans (Option.or_none ..)

theorem mem_of_lookup_ofList {pairs : List (String × α)} {key : String} {value : α}
    (h : (ofList pairs).lookup key = some value) : (key, value) ∈ pairs := by
  rw [lookup_ofList, List.lookup_eq_some_iff] at h
  obtain ⟨front, back, heq, -⟩ := h
  rw [← List.mem_reverse, heq]
  simp

/-- A pair is kept if the later ones with its key have its value as well. -/
theorem lookup_ofList_append_cons {front back : List (String × α)} {key : String} {value : α}
    (h : ∀ other, (key, other) ∈ back → other = value) :
    (ofList (front ++ (key, value) :: back)).lookup key = some value := by
  rw [lookup_ofList, List.reverse_append, List.reverse_cons, List.append_assoc, List.lookup_append]
  cases hb : back.reverse.lookup key with
  | none => simp
  | some other =>
    rw [← lookup_ofList] at hb
    rw [h other (mem_of_lookup_ofList hb), Option.some_or]

end Dict

end ViewQuery
