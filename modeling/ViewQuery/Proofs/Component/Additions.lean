import Mathlib.Data.List.Nodup
import ViewQuery.Proofs.Component.Scope

/-!
# Runs of additions

What comes of components that are added one after the other, under handles that may be in the tree
or not. A component is in the tree before its parent is looked up, so every addition leaves one more
component, with the parent that it was given for good: one parent that is not there yet is enough
for the tree to be none any longer.

* `Tree.IsTree`: parents come first, each component is listed once, by its parent alone, and every
  way up ends at the root;
* `Tree.children_add_of_size_le`, `Tree.add_snd`: an addition under a parent that is not there;
* `Tree.WellFormed.isTree_addAll_iff`: when a run of additions leaves a tree;
* `Tree.isTree_new_addAll_iff`: runs of additions to the root alone.
-/

namespace ViewQuery.Component

/-- What a component is added with. -/
structure Addition where
  parent : Handle
  id : String
  kind : Kind
  deriving DecidableEq, Repr

namespace Tree

variable {t : Tree} {h p : Handle}

/-- The tree after additions one after the other, whatever comes of each. -/
def addAll (t : Tree) (as : List Addition) : Tree :=
  as.foldl (fun t a => (t.add a.parent a.id a.kind).1) t

/-- The components make up a tree below the root. -/
structure IsTree (t : Tree) : Prop where
  parent_root : t.parent root = none
  exists_parent : ∀ h < t.size, h ≠ root → ∃ p < h, t.parent h = some p ∧
    (t.children p).count h = 1 ∧ ∀ q, q ≠ p → h ∉ t.children q
  atOrAbove_root : ∀ h < t.size, t.AtOrAbove root h

/-! ## Well formed trees -/

namespace WellFormed

theorem isTree (w : t.WellFormed) : t.IsTree where
  parent_root := w.parent_root
  exists_parent h hh hr := by
    obtain ⟨p, hp⟩ := w.exists_parent hh hr
    have hmem : h ∈ t.children p := w.mem_children_iff.2 hp
    refine ⟨p, w.parent_lt hp, hp, List.count_eq_one_of_mem (w.nodup_children p) hmem, ?_⟩
    intro q hq hc
    exact hq (Option.some.inj ((w.mem_children_iff.1 hc).symm.trans hp))
  atOrAbove_root _ hh := w.atOrAbove_root hh

end WellFormed

/-! ## Parents that are not there -/

/-- An addition gives a handle also where the parent is the new component itself. -/
theorem add_snd (t : Tree) (p : Handle) (id : String) (kind : Kind) :
    (t.add p id kind).2 = if p ≤ t.size then .ok t.size else .error (.missing p) := by
  unfold add size
  dsimp only
  rw [Array.size_push]
  by_cases hp : p ≤ t.nodes.size
  · rw [if_pos (Nat.lt_succ_of_le hp), if_pos hp]
  · rw [if_neg fun hlt => hp (Nat.le_of_lt_succ hlt), if_neg hp]

/-- Only the new component itself can list it where the parent is not there. -/
theorem children_add_of_size_le (hp : t.size ≤ p) (id : String) (kind : Kind) (h : Handle) :
    (t.add p id kind).1.children h =
      if h = t.size ∧ p = t.size then [t.size] else t.children h := by
  by_cases hh : h = t.size
  · subst hh
    rw [children_of_size_le (Nat.le_refl t.size), children, getElem?_add, if_pos rfl]
    by_cases he : t.size = p
    · simp [← he, Node.adopt]
    · simp [he, Ne.symm he]
  · rw [if_neg fun he => hh he.1, children, getElem?_add, if_neg hh, children]
    by_cases he : h = p
    · have hout : t.nodes[h]? = none := Array.getElem?_eq_none (he ▸ hp)
      rw [hout, Option.map_none]
    · simp [he]

/-! ## Runs -/

theorem addAll_append (t : Tree) (as bs : List Addition) :
    t.addAll (as ++ bs) = (t.addAll as).addAll bs :=
  List.foldl_append ..

/-- Every addition leaves one more component. -/
theorem size_addAll (t : Tree) (as : List Addition) : (t.addAll as).size = t.size + as.length := by
  induction as generalizing t with
  | nil => rfl
  | cons a as ih =>
    calc ((t.add a.parent a.id a.kind).1.addAll as).size
        = (t.add a.parent a.id a.kind).1.size + as.length := ih _
      _ = t.size + (a :: as).length := by
        rw [size_add, List.length_cons, Nat.add_assoc, Nat.add_comm 1]

/-- A component keeps its parent. -/
theorem parent_addAll_of_lt (hh : h < t.size) (as : List Addition) :
    (t.addAll as).parent h = t.parent h := by
  induction as generalizing t with
  | nil => rfl
  | cons a as ih =>
    have hlt : h < (t.add a.parent a.id a.kind).1.size := by
      rw [size_add]
      exact Nat.lt_succ_of_lt hh
    calc ((t.add a.parent a.id a.kind).1.addAll as).parent h
        = (t.add a.parent a.id a.kind).1.parent h := ih hlt
      _ = t.parent h := by rw [parent_add, if_neg (Nat.ne_of_lt hh)]

/-- The parent of a component that was added is the one that it was given, there or not. -/
theorem parent_addAll {as : List Addition} {i : Nat} {a : Addition} (ha : as[i]? = some a) :
    (t.addAll as).parent (t.size + i) = some a.parent := by
  obtain ⟨hi, rfl⟩ := List.getElem?_eq_some_iff.1 ha
  have hsize : (t.addAll (as.take i)).size = t.size + i := by
    rw [size_addAll, List.length_take, Nat.min_eq_left (Nat.le_of_lt hi)]
  have hsplit : t.addAll as =
      ((t.addAll (as.take i)).add as[i].parent as[i].id as[i].kind).1.addAll (as.drop (i + 1)) := by
    conv_lhs => rw [← List.take_append_drop i as, List.drop_eq_getElem_cons hi, addAll_append]
    rfl
  rw [hsplit, parent_addAll_of_lt, parent_add, if_pos hsize.symm]
  rw [size_add, hsize]
  exact Nat.lt_succ_self _

namespace WellFormed

theorem addAll (w : t.WellFormed) {as : List Addition}
    (has : ∀ i a, as[i]? = some a → a.parent < t.size + i) : (t.addAll as).WellFormed := by
  induction as generalizing t with
  | nil => exact w
  | cons a as ih =>
    refine ih (w.add (has 0 a rfl) a.id a.kind) fun i b hb => ?_
    have hlt := has (i + 1) b hb
    rwa [size_add, Nat.add_assoc, Nat.add_comm 1]

/-- A run of additions leaves a tree exactly when each parent was there by then. -/
theorem isTree_addAll_iff (w : t.WellFormed) {as : List Addition} :
    (t.addAll as).IsTree ↔ ∀ i a, as[i]? = some a → a.parent < t.size + i := by
  constructor
  · intro htree i a ha
    have hlt : t.size + i < (t.addAll as).size := by
      rw [size_addAll]
      exact Nat.add_lt_add_left (List.getElem?_eq_some_iff.1 ha).1 t.size
    have hne : t.size + i ≠ root :=
      Nat.ne_of_gt (Nat.lt_of_lt_of_le w.size_pos (Nat.le_add_right ..))
    obtain ⟨p, hp, hparent, -⟩ := htree.exists_parent _ hlt hne
    rw [parent_addAll ha] at hparent
    exact Option.some.inj hparent ▸ hp
  · intro has
    exact (w.addAll has).isTree

end WellFormed

/-- A run of additions to the root alone leaves a tree exactly when each parent was there by then.
Under a parent that is there an addition succeeds; under any other it leaves the new component
behind, and it succeeds all the same if the parent is the new component itself. -/
theorem isTree_new_addAll_iff (separator : Char) (as : List Addition) :
    let t := (Tree.new separator).addAll as
    (t.IsTree ↔ ∀ (i : Nat) (a : Addition), as[i]? = some a → a.parent ≤ i) ∧
      ∀ a : Addition,
        let added := t.add a.parent a.id a.kind
        (a.parent < t.size → added.2 = .ok t.size) ∧
          (t.size ≤ a.parent →
            added.1.size = t.size + 1 ∧ added.1.parent t.size = some a.parent ∧
              (∀ h < t.size, added.1.parent h = t.parent h ∧ added.1.children h = t.children h) ∧
              added.1.children t.size = (if a.parent = t.size then [t.size] else []) ∧
              added.2 = if a.parent = t.size then .ok t.size else .error (.missing a.parent)) := by
  intro t
  refine ⟨?_, fun a => ⟨fun hp => ?_, fun hp => ⟨?_, ?_, fun h hh => ⟨?_, ?_⟩, ?_, ?_⟩⟩⟩
  · rw [(wellFormed_new separator).isTree_addAll_iff]
    refine forall_congr' fun i => forall_congr' fun a => imp_congr_right fun _ => ?_
    rw [show (Tree.new separator).size = 1 from rfl, Nat.add_comm]
    exact Nat.lt_succ_iff
  · rw [add_snd, if_pos (Nat.le_of_lt hp)]
  · rw [size_add]
  · rw [parent_add, if_pos rfl]
  · rw [parent_add, if_neg (Nat.ne_of_lt hh)]
  · rw [children_add_of_size_le hp, if_neg fun he => Nat.ne_of_lt hh he.1]
  · rw [children_add_of_size_le hp, children_of_size_le (Nat.le_refl t.size)]
    simp
  · rw [add_snd]
    by_cases he : a.parent = t.size
    · rw [if_pos (Nat.le_of_eq he), if_pos he]
    · rw [if_neg fun hle => he (Nat.le_antisymm hle hp), if_neg he]

/-- A component that is added under its own handle is its own parent and child, and one under a
handle further on stays behind. -/
theorem add_under_missing :
    let own := (Tree.new ':').add 1 "x" .component
    let further := (Tree.new ':').add 2 "x" .component
    own.2 = .ok 1 ∧ own.1.parent 1 = some 1 ∧ own.1.children 1 = [1] ∧ ¬ own.1.IsTree ∧
      further.2 = .error (.missing 2) ∧ further.1.size = 2 ∧ further.1.parent 1 = some 2 := by
  refine ⟨rfl, rfl, rfl, fun htree => ?_, rfl, rfl, rfl⟩
  obtain ⟨p, hp, hparent, -⟩ := htree.exists_parent 1 (by decide) (by decide)
  have hself : some 1 = some p := hparent
  exact Nat.ne_of_lt hp (Option.some.inj hself).symm

end Tree

end ViewQuery.Component
