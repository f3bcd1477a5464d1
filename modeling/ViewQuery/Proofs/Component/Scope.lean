import Mathlib.Data.List.Perm.Subperm
import ViewQuery.Component.Lookup
import ViewQuery.Proofs.Component.DocumentOrder

/-!
# Scopes

The scope of a component is what a search for an id below it goes through: the components inside of
it, without what is inside of another naming container.

* `Tree.WellFormed.mem_scope_iff`: the scope in document order holds the components of the scope;
* `Tree.WellFormed.pairwise_scope`: one before the other, so each of them once;
* `Tree.WellFormed.findWithin_eq`: a search finds the first component of the scope with the id;
* `Tree.WellFormed.findWithin_eq_findSome?`: it does so from child to child;
* `Tree.WellFormed.findWithin_eq_some_iff`: of the components with the id, it finds the one that
  comes before all others.
-/

namespace ViewQuery.Component

namespace Tree

variable {t : Tree} {b c h m n p : Handle} {id : String}

/-- The id of the component at a handle. -/
def idAt (t : Tree) (h : Handle) : Option String := t.nodes[h]?.map Node.id

/-- Whether there is a naming container at a handle. -/
def isNaming (t : Tree) (h : Handle) : Bool := t.nodes[h]?.any fun n => n.kind.isNamingContainer

theorem idAt_of_node {n : Node} (hn : t.nodes[h]? = some n) : t.idAt h = some n.id := by
  rw [idAt, hn, Option.map_some]

theorem isNaming_of_node {n : Node} (hn : t.nodes[h]? = some n) :
    t.isNaming h = n.kind.isNamingContainer := by
  rw [isNaming, hn, Option.any_some]

/-- A component inside of another one, with no naming container in between. -/
inductive InScope (t : Tree) (base : Handle) : Handle → Prop where
  | child {h : Handle} : t.parent h = some base → InScope t base h
  | deeper {p h : Handle} :
    InScope t base p → t.isNaming p = false → t.parent h = some p → InScope t base h

/-- A component that a search for an id below another one may find. -/
structure Candidate (t : Tree) (base : Handle) (id : String) (n : Handle) : Prop where
  inScope : t.InScope base n
  idAt_eq : t.idAt n = some id

theorem WellFormed.base_lt_of_inScope (w : t.WellFormed) (hs : t.InScope b n) : b < n := by
  induction hs with
  | child hp => exact w.parent_lt hp
  | deeper _ _ hp ih => exact Nat.lt_trans ih (w.parent_lt hp)

theorem InScope.lt_size (hs : t.InScope b n) : n < t.size := by
  cases hs with
  | child hp => exact lt_size_of_parent hp
  | deeper _ _ hp => exact lt_size_of_parent hp

/-! ## Scopes in document order -/

/-- The components that a search goes on to below a handle. -/
def searchedAt (t : Tree) (h : Handle) : List Handle := (t.nodes[h]?.map searched).getD []

/-- Components with those that a search goes through below them, in document order and no deeper
than `depth`. -/
def inside (t : Tree) : Nat → List Handle → List Handle
  | 0, _ => []
  | depth + 1, hs => hs.flatMap fun h => h :: t.inside depth (t.searchedAt h)

/-- The scope of a component in document order. -/
def scope (t : Tree) (base : Handle) : List Handle := t.inside t.size (t.children base)

theorem searchedAt_eq (t : Tree) (h : Handle) :
    t.searchedAt h = if t.isNaming h then [] else t.children h := by
  rw [searchedAt, isNaming, children]
  cases t.nodes[h]? with
  | none => simp
  | some n => simp [searched]

theorem inside_nil (depth : Nat) : t.inside depth [] = [] := by
  cases depth <;> rfl

theorem inside_succ_cons (depth : Nat) (h : Handle) (hs : List Handle) :
    t.inside (depth + 1) (h :: hs) =
      h :: t.inside depth (t.searchedAt h) ++ t.inside (depth + 1) hs := rfl

theorem inside_append (depth : Nat) (hs hs' : List Handle) :
    t.inside depth (hs ++ hs') = t.inside depth hs ++ t.inside depth hs' := by
  cases depth with
  | zero => rfl
  | succ depth => exact List.flatMap_append ..

/-- A search goes through components in document order. -/
theorem inside_sublist_orderWithin (t : Tree) (depth : Nat) (hs : List Handle) :
    (t.inside depth hs).Sublist (t.orderWithin depth hs) := by
  induction depth generalizing hs with
  | zero => exact .slnil
  | succ depth ih =>
    induction hs with
    | nil => exact .slnil
    | cons h hs ihs =>
      have hbelow : (t.inside depth (t.searchedAt h)).Sublist (t.orderWithin depth (t.children h)) := by
        rw [searchedAt_eq]
        split
        · rw [inside_nil]
          exact List.nil_sublist _
        · exact ih _
      rw [inside_succ_cons, orderWithin_cons]
      exact (hbelow.cons_cons h).append ihs

theorem mem_inside_succ_iff {depth : Nat} {hs : List Handle} :
    n ∈ t.inside (depth + 1) hs ↔ ∃ h ∈ hs, n = h ∨ n ∈ t.inside depth (t.searchedAt h) := by
  simp only [inside, List.mem_flatMap, List.mem_cons]

/-- Further on, a search has to go less deep. -/
theorem size_le_of_lt {depth : Nat} (hsize : t.size ≤ h + (depth + 1)) (hlt : h < c) :
    t.size ≤ c + depth := by
  calc t.size ≤ h + 1 + depth := by rwa [Nat.add_right_comm]
    _ ≤ c + depth := Nat.add_le_add_right hlt depth

/-- Components of the tree, for which a search no deeper than `depth` goes through all there is. -/
def Within (t : Tree) (depth : Nat) (hs : List Handle) : Prop :=
  ∀ h ∈ hs, h < t.size ∧ t.size ≤ h + depth

theorem Within.eq_nil {hs : List Handle} (hw : t.Within 0 hs) : hs = [] := by
  cases hs with
  | nil => rfl
  | cons h hs =>
    have hh := hw h List.mem_cons_self
    exact absurd (Nat.lt_of_lt_of_le hh.1 hh.2) (Nat.lt_irrefl h)

namespace WellFormed

theorem mem_searchedAt_iff (w : t.WellFormed) :
    c ∈ t.searchedAt h ↔ t.isNaming h = false ∧ t.parent c = some h := by
  rw [← w.mem_children_iff, searchedAt_eq]
  cases t.isNaming h <;> simp

theorem within_searchedAt (w : t.WellFormed) {depth : Nat} {hs : List Handle}
    (hw : t.Within (depth + 1) hs) (hh : h ∈ hs) : t.Within depth (t.searchedAt h) := by
  intro c hc
  have hp := (w.mem_searchedAt_iff.1 hc).2
  exact ⟨lt_size_of_parent hp, size_le_of_lt (hw h hh).2 (w.parent_lt hp)⟩

theorem within_children (w : t.WellFormed) (base : Handle) :
    t.Within t.size (t.children base) := fun _ hc =>
  ⟨w.lt_size_of_mem_children hc, Nat.le_add_left ..⟩

/-- Looking deeper finds nothing more. -/
theorem inside_succ (w : t.WellFormed) {depth : Nat} {hs : List Handle}
    (hw : t.Within depth hs) : t.inside (depth + 1) hs = t.inside depth hs := by
  induction depth generalizing hs with
  | zero =>
    rw [hw.eq_nil]
    rfl
  | succ depth ih =>
    induction hs with
    | nil => rfl
    | cons h hs ihs =>
      rw [inside_succ_cons, inside_succ_cons, ih (w.within_searchedAt hw List.mem_cons_self),
        ihs fun h' hh' => hw h' (List.mem_cons_of_mem h hh')]

/-- A component that waits comes first, then what is below it, then the others. -/
theorem inside_cons (w : t.WellFormed) {depth : Nat} {hs : List Handle}
    (hw : t.Within depth (h :: hs)) :
    t.inside depth (h :: hs) = h :: t.inside depth (t.searchedAt h ++ hs) := by
  cases depth with
  | zero => cases hw.eq_nil
  | succ depth =>
    rw [inside_succ_cons, inside_append, w.inside_succ (w.within_searchedAt hw List.mem_cons_self),
      List.cons_append]

/-- What waits, with what is below a component instead of the component. -/
theorem within_searchedAt_append (w : t.WellFormed) {depth : Nat} {hs : List Handle}
    (hw : t.Within depth (h :: hs)) : t.Within depth (t.searchedAt h ++ hs) := by
  intro c hc
  rcases List.mem_append.1 hc with hc | hc
  · have hp := (w.mem_searchedAt_iff.1 hc).2
    exact ⟨lt_size_of_parent hp, Nat.le_trans (hw h List.mem_cons_self).2
      (Nat.add_le_add_right (Nat.le_of_lt (w.parent_lt hp)) depth)⟩
  · exact hw c (List.mem_cons_of_mem h hc)

/-! ## Members of a scope -/

theorem subset_inside (hs : List Handle) {depth : Nat} (hw : t.Within depth hs) :
    hs ⊆ t.inside depth hs := by
  intro h hh
  cases depth with
  | zero =>
    rw [hw.eq_nil] at hh
    cases hh
  | succ depth => exact mem_inside_succ_iff.2 ⟨h, hh, .inl rfl⟩

theorem inside_closed (w : t.WellFormed) {depth : Nat} {hs : List Handle}
    (hw : t.Within depth hs) (hp : p ∈ t.inside depth hs) (hc : c ∈ t.searchedAt p) :
    c ∈ t.inside depth hs := by
  induction depth generalizing hs with
  | zero => cases hp
  | succ depth ih =>
    obtain ⟨h, hh, hp⟩ := mem_inside_succ_iff.1 hp
    have hw' := w.within_searchedAt hw hh
    refine mem_inside_succ_iff.2 ⟨h, hh, .inr ?_⟩
    rcases hp with rfl | hp
    · exact subset_inside _ hw' hc
    · exact ih hw' hp

theorem inScope_of_mem_inside (w : t.WellFormed) {depth : Nat} {hs : List Handle}
    (hb : ∀ h ∈ hs, t.InScope b h) (hn : n ∈ t.inside depth hs) : t.InScope b n := by
  induction depth generalizing hs with
  | zero => cases hn
  | succ depth ih =>
    obtain ⟨h, hh, hn⟩ := mem_inside_succ_iff.1 hn
    rcases hn with rfl | hn
    · exact hb n hh
    · refine ih (fun c hc => ?_) hn
      obtain ⟨hk, hp⟩ := w.mem_searchedAt_iff.1 hc
      exact .deeper (hb h hh) hk hp

/-- The scope in document order holds the components of the scope. -/
theorem mem_scope_iff (w : t.WellFormed) : n ∈ t.scope b ↔ t.InScope b n := by
  constructor
  · exact w.inScope_of_mem_inside fun h hh => .child (w.mem_children_iff.1 hh)
  · intro hs
    induction hs with
    | child hp => exact subset_inside _ (w.within_children b) (w.mem_children_iff.2 hp)
    | deeper _ hk hp ih =>
      exact w.inside_closed (w.within_children b) ih (w.mem_searchedAt_iff.2 ⟨hk, hp⟩)

/-! ## Each component once -/

/-- The components of a scope come one before the other. -/
theorem pairwise_scope (w : t.WellFormed) (b : Handle) : (t.scope b).Pairwise t.Precedes :=
  (w.pairwise_orderWithin t.size b).sublist (inside_sublist_orderWithin ..)

/-- The scope in document order holds each component once. -/
theorem nodup_scope (w : t.WellFormed) (b : Handle) : (t.scope b).Nodup :=
  (w.pairwise_scope b).imp w.precedes_ne

/-- A scope is no larger than the tree. -/
theorem length_scope_le (w : t.WellFormed) (b : Handle) : (t.scope b).length ≤ t.size := by
  have hsub : t.scope b ⊆ List.range t.size := fun n hn =>
    List.mem_range.2 (w.mem_scope_iff.1 hn).lt_size
  calc (t.scope b).length ≤ (List.range t.size).length := ((w.nodup_scope b).subperm hsub).length_le
    _ = t.size := List.length_range

/-! ## Searching -/

/-- A search with enough fuel goes through what waits and what is below it, in document order. -/
theorem findAmong_eq (w : t.WellFormed) (id : String) {fuel depth : Nat} {waiting : List Handle}
    (hw : t.Within depth waiting) (hfuel : (t.inside depth waiting).length ≤ fuel) :
    t.findAmong id fuel waiting =
      (t.inside depth waiting).find? fun h => t.idAt h = some id := by
  -- A step takes one component off what is still to be gone through, so that the fuel is enough for
  -- what waits afterwards.
  induction fuel generalizing waiting with
  | zero =>
    rw [List.eq_nil_of_length_eq_zero (Nat.le_zero.1 hfuel)]
    rfl
  | succ fuel ih =>
    cases waiting with
    | nil =>
      rw [inside_nil]
      rfl
    | cons h waiting =>
      rw [w.inside_cons hw, List.length_cons, Nat.add_le_add_iff_right] at hfuel
      have ih := ih (w.within_searchedAt_append hw) hfuel
      obtain ⟨n, hn⟩ := exists_node (hw h List.mem_cons_self).1
      have hid : t.idAt h = some n.id := idAt_of_node hn
      have hsearched : searched n = t.searchedAt h := by
        rw [searchedAt, hn, Option.map_some, Option.getD_some]
      rw [w.inside_cons hw, List.find?_cons, findAmong, hn]
      simp only [hid, Option.some.injEq, hsearched, ih]
      by_cases he : n.id = id
      · simp [he]
      · simp [he]

/-- A search finds the first component of the scope with the id, in document order. -/
theorem findWithin_eq (w : t.WellFormed) (b : Handle) (id : String) :
    t.findWithin b id = (t.scope b).find? fun h => t.idAt h = some id :=
  w.findAmong_eq id (w.within_children b) (w.length_scope_le b)

/-- What a search finds is in the scope and has the id. -/
theorem inScope_of_findWithin (w : t.WellFormed) (hf : t.findWithin b id = some n) :
    t.InScope b n ∧ t.idAt n = some id := by
  rw [w.findWithin_eq] at hf
  exact ⟨w.mem_scope_iff.1 (List.mem_of_find?_eq_some hf), by simpa using List.find?_some hf⟩

/-- A search goes from child to child: it takes a child with the id, and goes on below any other one
that is no naming container before it comes to the next. -/
theorem findWithin_eq_findSome? (w : t.WellFormed) (b : Handle) (id : String) :
    t.findWithin b id = (t.children b).findSome? fun c =>
      if t.idAt c = some id then some c
      else if t.isNaming c then none else t.findWithin c id := by
  rw [w.findWithin_eq, scope, ← w.inside_succ (w.within_children b), inside, List.find?_flatMap]
  congr 1
  funext c
  rw [List.find?_cons, searchedAt_eq]
  by_cases hid : t.idAt c = some id
  · simp [hid]
  · cases t.isNaming c with
    | true => simp [hid, inside_nil]
    | false => simp [hid, w.findWithin_eq, scope]

theorem findWithin_eq_none_iff (w : t.WellFormed) :
    t.findWithin b id = none ↔ ∀ n, ¬ t.Candidate b id n := by
  rw [w.findWithin_eq, List.find?_eq_none]
  constructor
  · intro hnone n hn
    exact hnone n (w.mem_scope_iff.2 hn.inScope) (by simpa using hn.idAt_eq)
  · intro hnone n hn hid
    exact hnone n ⟨w.mem_scope_iff.1 hn, by simpa using hid⟩

/-- What a search finds comes before all other candidates. -/
theorem precedes_of_findWithin (w : t.WellFormed) (hf : t.findWithin b id = some n)
    (hm : t.Candidate b id m) (hne : m ≠ n) : t.Precedes n m := by
  rw [w.findWithin_eq, List.find?_eq_some_iff_append] at hf
  obtain ⟨-, front, rest, hscope, hfront⟩ := hf
  have hpairs := w.pairwise_scope b
  have hmem := w.mem_scope_iff.2 hm.inScope
  rw [hscope] at hpairs hmem
  rcases List.mem_append.1 hmem with hmem | hmem
  · exact absurd hm.idAt_eq (by simpa using hfront m hmem)
  · have hrest : m ∈ rest := (List.mem_cons.1 hmem).resolve_left hne
    exact List.rel_of_pairwise_cons (List.pairwise_append.1 hpairs).2.1 hrest

/-- A search finds the candidate that comes before all others. -/
theorem findWithin_eq_some_iff (w : t.WellFormed) :
    t.findWithin b id = some n ↔
      t.Candidate b id n ∧ ∀ m, t.Candidate b id m → m ≠ n → t.Precedes n m := by
  constructor
  · intro hf
    obtain ⟨hs, hid⟩ := w.inScope_of_findWithin hf
    exact ⟨⟨hs, hid⟩, fun m hm hne => w.precedes_of_findWithin hf hm hne⟩
  · rintro ⟨hn, hfirst⟩
    cases hf : t.findWithin b id with
    | none => exact absurd hn (w.findWithin_eq_none_iff.1 hf n)
    | some m =>
      obtain ⟨hs, hid⟩ := w.inScope_of_findWithin hf
      by_contra hne
      have hmn : m ≠ n := fun he => hne (he ▸ rfl)
      exact w.precedes_asymm (w.precedes_of_findWithin hf hn hmn.symm) (hfirst m ⟨hs, hid⟩ hmn)

/-- A search finds the one component of the scope that has the id. -/
theorem findWithin_of_inScope (w : t.WellFormed) (hs : t.InScope b n) (hi : t.idAt n = some id)
    (hu : ∀ m, t.InScope b m → t.idAt m = some id → m = n) : t.findWithin b id = some n :=
  w.findWithin_eq_some_iff.2
    ⟨⟨hs, hi⟩, fun m hm hne => absurd (hu m hm.inScope hm.idAt_eq) hne⟩

end WellFormed

/-- In a tree that was built, a search below a component finds the first component in document order
that has the id and is inside of the component with no naming container in between, and nothing if
there is none. In a tree that is built from outlines, that is the one with the smallest handle. -/
theorem findWithin_finds_first (hb : t.Built) (base : Handle) (id : String) :
    (∀ n, t.findWithin base id = some n ↔
      t.Candidate base id n ∧ ∀ m, t.Candidate base id m → m ≠ n → t.Precedes n m) ∧
    (t.findWithin base id = none ↔ ∀ n, ¬ t.Candidate base id n) ∧
    ∀ separator outlines, t = Tree.ofOutlines separator outlines →
      ∀ n, t.findWithin base id = some n ↔
        t.Candidate base id n ∧ ∀ m, t.Candidate base id m → n ≤ m := by
  have w := hb.wellFormed
  refine ⟨fun n => w.findWithin_eq_some_iff, w.findWithin_eq_none_iff, ?_⟩
  rintro separator outlines rfl n
  rw [w.findWithin_eq_some_iff]
  refine and_congr_right fun hn => forall_congr' fun m => imp_congr_right fun hm => ?_
  rw [precedes_ofOutlines_iff hn.inScope.lt_size hm.inScope.lt_size]
  constructor
  · intro hlt
    by_cases he : m = n
    · exact Nat.le_of_eq he.symm
    · exact Nat.le_of_lt (hlt he)
  · exact fun hle hne => Nat.lt_of_le_of_ne hle (Ne.symm hne)

/-- A form with a field, a group, and a field with the same id behind the group. -/
def formAndGroup : Tree :=
  .ofOutlines ':'
    [.mk "form" .form [.mk "name" .component []], .mk "group" .component [],
      .mk "name" .component []]

/-- The field in the form is not looked at. One that is added to the group is found in place of the
one behind the group, which was added before it. -/
theorem findWithin_finds_first_added :
    let t := formAndGroup
    let added := (t.add 3 "name" .component).1
    t.findWithin root "name" = some 4 ∧ (∀ m, t.Candidate root "name" m → 4 ≤ m) ∧
      added.findWithin root "name" = some 5 ∧ added.Precedes 5 4 ∧
      added.findWithin 4 "name" = none ∧ ∀ n, ¬ added.Candidate 4 "name" n := by
  intro t added
  have hb : t.Built := .ofOutlines ':' _
  have hb' : added.Built := hb.add "name" .component (by decide)
  have hfour : t.findWithin root "name" = some 4 := rfl
  have hfive : added.findWithin root "name" = some 5 := rfl
  have hnone : added.findWithin 4 "name" = none := rfl
  have hcandidate : added.Candidate root "name" 4 := ⟨.child rfl, rfl⟩
  refine ⟨hfour, ?_, hfive, ?_, hnone, ?_⟩
  · exact (((findWithin_finds_first hb root "name").2.2 ':' _ rfl 4).1 hfour).2
  · exact (((findWithin_finds_first hb' root "name").1 5).1 hfive).2 4 hcandidate (by decide)
  · exact (findWithin_finds_first hb' 4 "name").2.1.1 hnone

end Tree

end ViewQuery.Component
