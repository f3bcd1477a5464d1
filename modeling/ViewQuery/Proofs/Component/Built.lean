import ViewQuery.Component.Outline

/-!
# Trees that were built

A tree that is built from outlines, or by adding components under those it has, is well formed:
parents and children agree, and every component but the root comes after its parent.

* `Tree.getElem?_add`: the components of a tree after an addition;
* `Tree.WellFormed.add`: an addition under a component of the tree keeps the tree well formed;
* `Tree.Built.wellFormed`: every tree that was built is well formed.
-/

namespace ViewQuery.Component

namespace Tree

variable {t : Tree} {p h c : Handle} {id : String} {kind : Kind}

/-- A tree that is built from outlines, or by adding components under those that it has. -/
inductive Built : Tree → Prop where
  | ofOutlines (separator : Char) (outlines : List Outline) :
    Built (Tree.ofOutlines separator outlines)
  | add {t : Tree} {parent : Handle} (id : String) (kind : Kind) :
    Built t → parent < t.size → Built (t.add parent id kind).1

/-- Parents and children agree, and parents come first. -/
structure WellFormed (t : Tree) : Prop where
  root_node : ∃ children, t.nodes[root]? =
    some { id := "", kind := .root, parent := none, children }
  exists_parent : ∀ {h}, h < t.size → h ≠ root → ∃ p, t.parent h = some p
  parent_lt : ∀ {h p}, t.parent h = some p → p < h
  mem_children_iff : ∀ {p c}, c ∈ t.children p ↔ t.parent c = some p
  sorted : ∀ p, (t.children p).Pairwise (· < ·)

theorem exists_node (hh : h < t.size) : ∃ n, t.nodes[h]? = some n :=
  ⟨_, Array.getElem?_eq_getElem hh⟩

theorem lt_size_of_node {n : Node} (hn : t.nodes[h]? = some n) : h < t.size :=
  (Array.getElem?_eq_some_iff.1 hn).1

theorem parent_of_node {n : Node} (hn : t.nodes[h]? = some n) : t.parent h = n.parent := by
  rw [parent, hn, Option.bind_some]

theorem children_of_node {n : Node} (hn : t.nodes[h]? = some n) : t.children h = n.children := by
  rw [children, hn, Option.map_some, Option.getD_some]

/-! ## Additions -/

/-- What is at a handle after an addition, also under a parent that is not there. -/
theorem getElem?_add (t : Tree) (p : Handle) (id : String) (kind : Kind) (h : Handle) :
    (t.add p id kind).1.nodes[h]? =
      (if h = t.size then some { id, kind, parent := some p, children := [] }
        else t.nodes[h]?).map fun n => if h = p then Node.adopt t.size n else n := by
  unfold add size
  dsimp only
  split
  · rw [Array.getElem?_modify, Array.getElem?_push]
    by_cases hh : h = p
    · simp [hh]
    · simp only [if_neg hh, if_neg (Ne.symm hh), Option.map_id']
  · rename_i hp
    have hle : t.nodes.size + 1 ≤ p := by simpa using hp
    rw [Array.getElem?_push]
    by_cases hh : h = p
    · subst hh
      rw [if_neg (Nat.ne_of_gt hle), Array.getElem?_eq_none (Nat.le_of_succ_le hle),
        Option.map_none]
    · simp only [if_neg hh, Option.map_id']

@[simp] theorem size_add (t : Tree) (p : Handle) (id : String) (kind : Kind) :
    (t.add p id kind).1.size = t.size + 1 := by
  simp only [add, size]
  split <;> simp

theorem children_of_size_le (hh : t.size ≤ h) : t.children h = [] := by
  rw [children, Array.getElem?_eq_none hh]
  rfl

theorem parent_of_size_le (hh : t.size ≤ h) : t.parent h = none := by
  rw [parent, Array.getElem?_eq_none hh]
  rfl

theorem lt_size_of_parent (hp : t.parent h = some p) : h < t.size := by
  rcases Nat.lt_or_ge h t.size with hlt | hle
  · exact hlt
  · rw [parent_of_size_le hle] at hp
    cases hp

theorem parent_add (t : Tree) (p : Handle) (id : String) (kind : Kind) (h : Handle) :
    (t.add p id kind).1.parent h = if h = t.size then some p else t.parent h := by
  have hadopt (n : Node) : (if h = p then Node.adopt t.size n else n).parent = n.parent := by
    split <;> rfl
  unfold parent
  rw [getElem?_add, Option.bind_map]
  simp only [Function.comp_def, hadopt]
  by_cases hh : h = t.size
  · rw [if_pos hh, if_pos hh, Option.bind_some]
  · rw [if_neg hh, if_neg hh]

theorem children_add (hp : p < t.size) (id : String) (kind : Kind) (h : Handle) :
    (t.add p id kind).1.children h =
      if h = p then t.children h ++ [t.size] else t.children h := by
  unfold children
  rw [getElem?_add]
  by_cases hh : h = t.size
  · have hne : h ≠ p := fun he => Nat.ne_of_gt hp (hh.symm.trans he)
    have hout : t.nodes[h]? = none := Array.getElem?_eq_none (Nat.le_of_eq hh.symm)
    rw [if_pos hh, hout, Option.map_some, if_neg hne, if_neg hne]
    rfl
  · rw [if_neg hh]
    by_cases he : h = p
    · subst he
      rw [Array.getElem?_eq_getElem hp]
      simp [Node.adopt]
    · simp [he]

/-! ## Well formed trees -/

/-- A tree of the root alone is well formed. -/
theorem wellFormed_new (separator : Char) : (Tree.new separator).WellFormed where
  root_node := ⟨[], rfl⟩
  exists_parent hlt hne := absurd (Nat.lt_one_iff.1 hlt) hne
  parent_lt {h p} hp := by
    obtain rfl : h = 0 := Nat.lt_one_iff.1 (lt_size_of_parent hp)
    cases hp
  mem_children_iff {p c} := by
    constructor
    · intro hc
      rcases Nat.eq_zero_or_pos p with rfl | hpos
      · cases hc
      · rw [children_of_size_le hpos] at hc
        cases hc
    · intro hp
      obtain rfl : c = 0 := Nat.lt_one_iff.1 (lt_size_of_parent hp)
      cases hp
  sorted p := by
    rcases Nat.eq_zero_or_pos p with rfl | hpos
    · exact List.Pairwise.nil
    · rw [children_of_size_le hpos]
      exact List.Pairwise.nil

namespace WellFormed

theorem size_pos (w : t.WellFormed) : root < t.size := by
  obtain ⟨children, hr⟩ := w.root_node
  exact lt_size_of_node hr

theorem parent_root (w : t.WellFormed) : t.parent root = none := by
  obtain ⟨children, hr⟩ := w.root_node
  rw [parent_of_node hr]

theorem lt_size_of_mem_children (w : t.WellFormed) (hc : c ∈ t.children p) : c < t.size :=
  lt_size_of_parent (w.mem_children_iff.1 hc)

/-- An addition under a component of the tree keeps the tree well formed. -/
theorem add (w : t.WellFormed) (hp : p < t.size) (id : String) (kind : Kind) :
    (t.add p id kind).1.WellFormed where
  root_node := by
    obtain ⟨children, hr⟩ := w.root_node
    rw [getElem?_add, if_neg (Nat.ne_of_lt w.size_pos), hr, Option.map_some]
    split
    · exact ⟨_, rfl⟩
    · exact ⟨_, rfl⟩
  exists_parent {h} hlt hne := by
    rw [parent_add]
    rw [size_add] at hlt
    split
    · exact ⟨p, rfl⟩
    · rename_i hh
      exact w.exists_parent (Nat.lt_of_le_of_ne (Nat.le_of_lt_succ hlt) hh) hne
  parent_lt {h q} hq := by
    rw [parent_add] at hq
    split at hq
    · rename_i hh
      obtain rfl : p = q := Option.some.inj hq
      exact hh ▸ hp
    · exact w.parent_lt hq
  mem_children_iff {q c} := by
    rw [children_add hp, parent_add]
    by_cases hc : c = t.size
    · have hnot : t.size ∉ t.children q := fun hm =>
        Nat.lt_irrefl _ (w.lt_size_of_mem_children hm)
      subst hc
      rw [if_pos rfl]
      split
      · simp [*]
      · rename_i hq
        simp [hnot, Ne.symm hq]
    · rw [if_neg hc, ← w.mem_children_iff]
      split
      · simp [hc]
      · rfl
  sorted q := by
    rw [children_add hp]
    split
    · rw [List.pairwise_append]
      refine ⟨w.sorted q, List.pairwise_singleton .., fun c hc d hd => ?_⟩
      rw [List.mem_singleton.1 hd]
      exact w.lt_size_of_mem_children hc
    · exact w.sorted q

end WellFormed

end Tree

/-! ## Building -/

namespace Outline

variable {P : Tree → Prop}

mutual

/-- What every addition keeps, adding the components of an outline keeps; no component is lost. -/
theorem addTo_invariant
    (hadd : ∀ t parent id kind, P t → parent < t.size → P (t.add parent id kind).1)
    (t : Tree) (parent : Handle) (hp : parent < t.size) (ht : P t) :
    (o : Outline) → P (addTo t parent o) ∧ t.size ≤ (addTo t parent o).size
  | .mk id kind children => by
    have hsize : t.size < (t.add parent id kind).1.size := by
      rw [Tree.size_add]
      exact Nat.lt_succ_self _
    have hall := addAllTo_invariant hadd (t.add parent id kind).1 t.size hsize
      (hadd t parent id kind ht hp) children
    rw [addTo]
    exact ⟨hall.1, Nat.le_trans (Nat.le_of_lt hsize) hall.2⟩

theorem addAllTo_invariant
    (hadd : ∀ t parent id kind, P t → parent < t.size → P (t.add parent id kind).1)
    (t : Tree) (parent : Handle) (hp : parent < t.size) (ht : P t) :
    (os : List Outline) → P (addAllTo t parent os) ∧ t.size ≤ (addAllTo t parent os).size
  | [] => by
    rw [addAllTo]
    exact ⟨ht, Nat.le_refl _⟩
  | o :: os => by
    have hone := addTo_invariant hadd t parent hp ht o
    have hall := addAllTo_invariant hadd (addTo t parent o) parent (Nat.lt_of_lt_of_le hp hone.2)
      hone.1 os
    rw [addAllTo]
    exact ⟨hall.1, Nat.le_trans hone.2 hall.2⟩

end

end Outline

namespace Tree

/-- What holds of the tree of the root alone, and is kept by every addition under a component of the
tree, holds of every tree that was built. -/
theorem Built.invariant {P : Tree → Prop} {t : Tree} (hb : t.Built)
    (hnew : ∀ separator, P (Tree.new separator))
    (hadd : ∀ t parent id kind, P t → parent < t.size → P (t.add parent id kind).1) : P t := by
  induction hb with
  | ofOutlines separator outlines =>
    have hroot : root < (Tree.new separator).size := Nat.zero_lt_one
    exact (Outline.addAllTo_invariant hadd _ root hroot (hnew separator) outlines).1
  | add id kind _ hp ih => exact hadd _ _ id kind ih hp

/-- Every tree that was built is well formed. -/
theorem Built.wellFormed {t : Tree} (hb : t.Built) : t.WellFormed :=
  hb.invariant wellFormed_new fun _ _ id kind w hp => w.add hp id kind

end Tree

end ViewQuery.Component
