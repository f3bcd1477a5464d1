import ViewQuery.Proofs.Component.ReadBack

/-!
# Document order

Which of two components comes first when a tree is read from the root on: a component comes before
all that is inside of it, and a child with all that is inside of it before the children that are
listed after it. Handles tell the order of addition, which is another one where a component has been
added in front of some that were there already.

* `Tree.AtOrAbove`: a component is another one or around it;
* `Tree.Precedes`: a component comes before another one in document order;
* `Tree.WellFormed.precedes_asymm`: of two components no more than one comes before the other;
* `Tree.WellFormed.pairwise_orderWithin`: components that are read in document order come one before
  the other;
* `Tree.precedes_ofOutlines_iff`: in a tree that is built from outlines, document order is the order
  of the handles.
-/

namespace ViewQuery.Component

namespace Tree

variable {t : Tree} {a b c d e f h n p q : Handle}

/-- A component is another one or around it. -/
inductive AtOrAbove (t : Tree) (a : Handle) : Handle → Prop where
  | refl : AtOrAbove t a a
  | step {p h : Handle} : AtOrAbove t a p → t.parent h = some p → AtOrAbove t a h

/-- A component comes before another one in document order: it is around it, or the two are at or
below different children of a third one, in the order in which these are listed. -/
inductive Precedes (t : Tree) : Handle → Handle → Prop where
  | inside {a p b : Handle} : t.AtOrAbove a p → t.parent b = some p → Precedes t a b
  | beside {p c d a b : Handle} :
    [c, d].Sublist (t.children p) → t.AtOrAbove c a → t.AtOrAbove d b → Precedes t a b

/-! ## Above and below -/

namespace AtOrAbove

theorem trans (ha : t.AtOrAbove a b) (hb : t.AtOrAbove b h) : t.AtOrAbove a h := by
  induction hb with
  | refl => exact ha
  | step _ hp ih => exact ih.step hp

/-- Of two components around a third one, one is around the other. -/
theorem total (ha : t.AtOrAbove a h) (hb : t.AtOrAbove b h) :
    t.AtOrAbove a b ∨ t.AtOrAbove b a := by
  induction ha with
  | refl => exact .inr hb
  | step ha hp ih =>
    cases hb with
    | refl => exact .inl (.step ha hp)
    | step hb hp' =>
      obtain rfl := Option.some.inj (hp.symm.trans hp')
      exact ih hb

theorem of_parent (ha : t.AtOrAbove a h) (hne : a ≠ h) (hp : t.parent h = some p) :
    t.AtOrAbove a p := by
  cases ha with
  | refl => exact absurd rfl hne
  | step ha hp' =>
    obtain rfl := Option.some.inj (hp'.symm.trans hp)
    exact ha

theorem exists_parent (ha : t.AtOrAbove a h) (hne : a ≠ h) : ∃ p, t.parent h = some p := by
  cases ha with
  | refl => exact absurd rfl hne
  | step _ hp => exact ⟨_, hp⟩

end AtOrAbove

namespace WellFormed

theorem le_of_atOrAbove (w : t.WellFormed) (ha : t.AtOrAbove a h) : a ≤ h := by
  induction ha with
  | refl => exact Nat.le_refl _
  | step _ hp ih => exact Nat.le_trans ih (Nat.le_of_lt (w.parent_lt hp))

theorem atOrAbove_root (w : t.WellFormed) (hh : h < t.size) : t.AtOrAbove root h := by
  induction h using Nat.strongRecOn with
  | ind h ih =>
    by_cases hr : h = root
    · rw [hr]
      exact .refl
    · obtain ⟨p, hp⟩ := w.exists_parent hh hr
      have hlt : p < h := w.parent_lt hp
      exact (ih p hlt (Nat.lt_trans hlt hh)).step hp

/-- No component is around its siblings. -/
theorem not_atOrAbove_sibling (w : t.WellFormed) (ha : t.parent a = some p)
    (hb : t.parent b = some p) (hne : a ≠ b) : ¬ t.AtOrAbove a b := by
  intro h
  have hle := w.le_of_atOrAbove (h.of_parent hne hb)
  exact Nat.lt_irrefl _ (Nat.lt_of_le_of_lt hle (w.parent_lt ha))

/-- Siblings have nothing inside of them in common. -/
theorem disjoint_siblings (w : t.WellFormed) (ha : t.parent a = some p)
    (hb : t.parent b = some p) (hne : a ≠ b) (han : t.AtOrAbove a n) : ¬ t.AtOrAbove b n := by
  intro hbn
  rcases han.total hbn with h | h
  · exact w.not_atOrAbove_sibling ha hb hne h
  · exact w.not_atOrAbove_sibling hb ha hne.symm h

theorem nodup_children (w : t.WellFormed) (p : Handle) : (t.children p).Nodup :=
  (w.sorted p).imp Nat.ne_of_lt

/-- Of two children in the order in which they are listed. -/
theorem siblings_of_sublist (w : t.WellFormed) (hs : [c, d].Sublist (t.children p)) :
    t.parent c = some p ∧ t.parent d = some p ∧ c < d := by
  have hsorted : [c, d].Pairwise (· < ·) := (w.sorted p).sublist hs
  exact ⟨w.mem_children_iff.1 (hs.subset (by simp)), w.mem_children_iff.1 (hs.subset (by simp)),
    List.rel_of_pairwise_cons hsorted List.mem_cons_self⟩

/-! ## Before and after -/

/-- A component comes before what is at or below its children. -/
theorem precedes_of_mem_children (w : t.WellFormed) (hc : c ∈ t.children h)
    (hn : t.AtOrAbove c n) : t.Precedes h n := by
  cases hn with
  | refl => exact .inside .refl (w.mem_children_iff.1 hc)
  | step hn hp => exact .inside ((AtOrAbove.refl.step (w.mem_children_iff.1 hc)).trans hn) hp

/-- What is at or below one of two siblings is not around what is at or below the other. -/
theorem not_atOrAbove_of_siblings (w : t.WellFormed) (hc : t.parent c = some p)
    (hd : t.parent d = some p) (hne : c ≠ d) (ha : t.AtOrAbove c a) (hb : t.AtOrAbove d b) :
    ¬ t.AtOrAbove a b := fun hab =>
  w.disjoint_siblings hc hd hne (ha.trans hab) hb

/-- Two components, each with a sibling around one and the same third component, are not inside of
one another. -/
theorem eq_of_siblings_around (w : t.WellFormed) (hc : t.parent c = some p)
    (hd : t.parent d = some p) (hne : c ≠ d) (hdb : t.AtOrAbove d b) (he : t.parent e = some q)
    (hf : t.parent f = some q) (hfb : t.AtOrAbove f b) (hce : t.AtOrAbove c e) : c = e := by
  by_contra hnot
  have hcf : t.AtOrAbove c f := (hce.of_parent hnot he).step hf
  exact w.disjoint_siblings hc hd hne (hcf.trans hfb) hdb

/-- Of two components no more than one comes before the other. -/
theorem precedes_asymm (w : t.WellFormed) (hab : t.Precedes a b) : ¬ t.Precedes b a := by
  intro hba
  cases hab with
  | inside ha hb =>
    have hle := w.le_of_atOrAbove (ha.step hb)
    cases hba with
    | inside hb' ha' =>
      have hlt := w.parent_lt ha'
      exact Nat.lt_irrefl _ (Nat.lt_of_le_of_lt (Nat.le_trans hle (w.le_of_atOrAbove hb')) hlt)
    | beside hs hc hd =>
      obtain ⟨hpc, hpd, hlt⟩ := w.siblings_of_sublist hs
      exact w.not_atOrAbove_of_siblings hpd hpc (Nat.ne_of_gt hlt) hd hc (ha.step hb)
  | @beside p c d _ _ hs hc hd =>
    obtain ⟨hpc, hpd, hlt⟩ := w.siblings_of_sublist hs
    cases hba with
    | inside hb' ha' =>
      exact w.not_atOrAbove_of_siblings hpd hpc (Nat.ne_of_gt hlt) hd hc (hb'.step ha')
    | @beside q e f _ _ hs' he hf =>
      obtain ⟨hpe, hpf, hlt'⟩ := w.siblings_of_sublist hs'
      -- Both pairs of siblings part at one and the same component, in opposite orders.
      have hcf : c = f := by
        rcases hc.total hf with hcf | hfc
        · exact w.eq_of_siblings_around hpc hpd (Nat.ne_of_lt hlt) hd hpf hpe he hcf
        · exact (w.eq_of_siblings_around hpf hpe (Nat.ne_of_gt hlt') he hpc hpd hd hfc).symm
      subst hcf
      obtain rfl := Option.some.inj (hpc.symm.trans hpf)
      have hde : d = e := by
        by_contra hne
        exact w.disjoint_siblings hpd hpe hne hd he
      subst hde
      exact Nat.lt_asymm hlt hlt'

theorem precedes_ne (w : t.WellFormed) (hab : t.Precedes a b) : a ≠ b := by
  rintro rfl
  exact w.precedes_asymm hab hab

/-! ## Components that are read in document order -/

theorem atOrAbove_of_mem_cons_orderWithin (w : t.WellFormed) {room : Nat}
    (hn : n ∈ h :: t.orderWithin room (t.children h)) : t.AtOrAbove h n := by
  induction room generalizing h with
  | zero =>
    obtain rfl := List.mem_singleton.1 hn
    exact .refl
  | succ room ih =>
    rcases List.mem_cons.1 hn with rfl | hn
    · exact .refl
    · obtain ⟨c, hc, hcn⟩ := List.mem_flatMap.1 hn
      exact (AtOrAbove.refl.step (w.mem_children_iff.1 hc)).trans (ih hcn)

theorem precedes_of_mem_orderWithin (w : t.WellFormed) {room : Nat}
    (hn : n ∈ t.orderWithin room (t.children h)) : t.Precedes h n := by
  cases room with
  | zero => cases hn
  | succ room =>
    obtain ⟨c, hc, hcn⟩ := List.mem_flatMap.1 hn
    exact w.precedes_of_mem_children hc (w.atOrAbove_of_mem_cons_orderWithin hcn)

/-- Components that are read in document order come one before the other. -/
theorem pairwise_orderWithin (w : t.WellFormed) (room : Nat) (p : Handle) :
    (t.orderWithin room (t.children p)).Pairwise t.Precedes := by
  induction room generalizing p with
  | zero => exact List.Pairwise.nil
  | succ room ih =>
    refine List.pairwise_flatMap.2 ⟨fun h _ => List.pairwise_cons.2 ⟨fun n hn => ?_, ih h⟩, ?_⟩
    · exact w.precedes_of_mem_orderWithin hn
    · refine List.pairwise_iff_forall_sublist.2 fun hs a ha b hb => ?_
      exact .beside hs (w.atOrAbove_of_mem_cons_orderWithin ha)
        (w.atOrAbove_of_mem_cons_orderWithin hb)

end WellFormed

/-! ## Trees from outlines -/

theorem precedes_ofOutlines_of_lt {separator : Char} {os : List Outline}
    (hb : b < (ofOutlines separator os).size) (hlt : a < b) :
    (ofOutlines separator os).Precedes a b := by
  have w := (Built.ofOutlines separator os).wellFormed
  rcases Nat.eq_zero_or_pos a with rfl | hpos
  · obtain ⟨p, hp⟩ := w.exists_parent hb (Nat.ne_of_gt hlt)
    exact .inside (w.atOrAbove_root (Nat.lt_trans (w.parent_lt hp) hb)) hp
  · obtain ⟨i, rfl⟩ := Nat.exists_eq_add_of_le hpos
    obtain ⟨j, rfl⟩ := Nat.exists_eq_add_of_le (Nat.le_trans hpos (Nat.le_of_lt hlt))
    rw [size_ofOutlines] at hb
    have hij : i < j := Nat.lt_of_add_lt_add_left hlt
    have hj : j < (List.range' 1 (Outline.preorderAll os).length).length := by
      rw [List.length_range']
      exact Nat.lt_of_add_lt_add_left hb
    have hread := w.pairwise_orderWithin (ofOutlines separator os).size root
    rw [← documentOrder, documentOrder_ofOutlines] at hread
    simpa using List.pairwise_iff_getElem.1 hread i j (Nat.lt_trans hij hj) hj hij

/-- In a tree that is built from outlines, document order is the order of the handles. -/
theorem precedes_ofOutlines_iff {separator : Char} {os : List Outline}
    (ha : a < (ofOutlines separator os).size) (hb : b < (ofOutlines separator os).size) :
    (ofOutlines separator os).Precedes a b ↔ a < b := by
  have w := (Built.ofOutlines separator os).wellFormed
  refine ⟨fun hab => ?_, precedes_ofOutlines_of_lt hb⟩
  rcases Nat.lt_trichotomy a b with hlt | rfl | hgt
  · exact hlt
  · exact absurd rfl (w.precedes_ne hab)
  · exact absurd (precedes_ofOutlines_of_lt ha hgt) (w.precedes_asymm hab)

end Tree

end ViewQuery.Component
