import ViewQuery.Proofs.Component.Built
import ViewQuery.Proofs.Outcome

/-!
# Reading trees back

A tree that is built from outlines is what they describe: read from the root on, it gives the same
outlines, and the components are numbered as the outlines come in document order, each before those
inside of it.

* `Outline.preorder`: an outline with all that are inside of it, in document order;
* `Tree.outlineAt`, `Tree.documentOrder`: what is read from a tree, an outline or handles;
* `Outline.PlacesAll`: the components of outlines stand one behind the other;
* `Outline.placesAll_addAllTo`: that is where additions put them;
* `Tree.ofOutlines_reads_back`: what is read from a tree that is built from outlines.
-/

namespace ViewQuery.Component

/-! ## Outlines in document order -/

namespace Outline

mutual

/-- An outline, and after it those inside of it, in document order. -/
def preorder : Outline → List Outline
  | .mk id kind children => .mk id kind children :: preorderAll children

/-- Outlines, each with those inside of it, in document order. -/
def preorderAll : List Outline → List Outline
  | [] => []
  | o :: os => preorder o ++ preorderAll os

end

/-- The handles of outlines if the first one stands at `start`, and behind each of them what is
inside of it. -/
def handlesFrom (start : Handle) : List Outline → List Handle
  | [] => []
  | o :: os => start :: handlesFrom (start + o.preorder.length) os

mutual

/-- A tree has the component of an outline under a parent at a handle, and what is inside of it
right behind it. -/
def Places (t : Tree) (parent start : Handle) : Outline → Prop
  | .mk id kind children =>
    t.nodes[start]? = some
        { id, kind, parent := some parent, children := handlesFrom (start + 1) children } ∧
      PlacesAll t start (start + 1) children

/-- A tree has the components of outlines under a parent one behind the other from a handle on. -/
def PlacesAll (t : Tree) (parent start : Handle) : List Outline → Prop
  | [] => True
  | o :: os => Places t parent start o ∧ PlacesAll t parent (start + o.preorder.length) os

end

/-! ## Where additions put components -/

mutual

theorem size_addTo (t : Tree) (p : Handle) :
    (o : Outline) → (addTo t p o).size = t.size + o.preorder.length
  | .mk id kind children => by
    rw [addTo, size_addAllTo, Tree.size_add, preorder, List.length_cons, Nat.add_assoc,
      Nat.add_comm 1]

theorem size_addAllTo (t : Tree) (p : Handle) :
    (os : List Outline) → (addAllTo t p os).size = t.size + (preorderAll os).length
  | [] => by rw [addAllTo, preorderAll, List.length_nil, Nat.add_zero]
  | o :: os => by
    rw [addAllTo, size_addAllTo, size_addTo, preorderAll, List.length_append, Nat.add_assoc]

end

/-- A component with more children behind those that it has. -/
def adoptAll (children : List Handle) (n : Node) : Node :=
  { n with children := n.children ++ children }

mutual

/-- Of the components that were there before, adding an outline changes the parent alone. -/
theorem getElem?_addTo {t : Tree} {p h : Handle} (hh : h < t.size) :
    (o : Outline) → (addTo t p o).nodes[h]? =
      t.nodes[h]?.map fun n => if h = p then adoptAll [t.size] n else n
  | .mk id kind children => by
    have hlt : t.size < (t.add p id kind).1.size := by
      rw [Tree.size_add]
      exact Nat.lt_succ_self _
    have hne : h ≠ t.size := Nat.ne_of_lt hh
    rw [addTo, getElem?_addAllTo (Nat.lt_trans hh hlt)]
    simp only [if_neg hne, Option.map_id']
    rw [Tree.getElem?_add, if_neg hne]
    rfl

theorem getElem?_addAllTo {t : Tree} {p h : Handle} (hh : h < t.size) :
    (os : List Outline) → (addAllTo t p os).nodes[h]? =
      t.nodes[h]?.map fun n => if h = p then adoptAll (handlesFrom t.size os) n else n
  | [] => by simp [addAllTo, handlesFrom, adoptAll]
  | o :: os => by
    have hle : t.size ≤ (addTo t p o).size := by
      rw [size_addTo]
      exact Nat.le_add_right ..
    rw [addAllTo, getElem?_addAllTo (Nat.lt_of_lt_of_le hh hle), getElem?_addTo hh,
      Option.map_map, size_addTo, handlesFrom]
    congr 1
    funext n
    by_cases he : h = p
    · simp [he, adoptAll]
    · simp [he]

end

mutual

/-- Only the components at the handles of an outline matter for where it is. -/
theorem Places.congr {t u : Tree} {p start : Handle} : (o : Outline) →
    (∀ k, start ≤ k → k < start + o.preorder.length → u.nodes[k]? = t.nodes[k]?) →
    Places t p start o → Places u p start o
  | .mk id kind children => by
    intro heq hplaces
    rw [preorder, List.length_cons] at heq
    rw [Places] at hplaces ⊢
    refine ⟨?_, PlacesAll.congr children (fun k hk hlt => heq k ?_ ?_) hplaces.2⟩
    · rw [heq start (Nat.le_refl _) (Nat.lt_add_of_pos_right (Nat.succ_pos _))]
      exact hplaces.1
    · exact Nat.le_of_succ_le hk
    · rwa [Nat.add_assoc, Nat.add_comm 1] at hlt

theorem PlacesAll.congr {t u : Tree} {p start : Handle} : (os : List Outline) →
    (∀ k, start ≤ k → k < start + (preorderAll os).length → u.nodes[k]? = t.nodes[k]?) →
    PlacesAll t p start os → PlacesAll u p start os
  | [] => fun _ _ => trivial
  | o :: os => by
    intro heq hplaces
    rw [preorderAll, List.length_append, ← Nat.add_assoc] at heq
    rw [PlacesAll] at hplaces ⊢
    refine ⟨Places.congr o (fun k hk hlt => heq k hk ?_) hplaces.1,
      PlacesAll.congr os (fun k hk hlt => heq k ?_ hlt) hplaces.2⟩
    · exact Nat.lt_of_lt_of_le hlt (Nat.le_add_right ..)
    · exact Nat.le_trans (Nat.le_add_right ..) hk

end

mutual

/-- An outline that is added stands behind the components that were there before. -/
theorem places_addTo {t : Tree} {p : Handle} (hp : p < t.size) :
    (o : Outline) → Places (addTo t p o) p t.size o
  | .mk id kind children => by
    have hlt : t.size < (t.add p id kind).1.size := by
      rw [Tree.size_add]
      exact Nat.lt_succ_self _
    rw [addTo, Places]
    constructor
    · rw [getElem?_addAllTo hlt, Tree.getElem?_add, if_pos rfl, Tree.size_add]
      simp [Nat.ne_of_gt hp, adoptAll]
    · have hall := placesAll_addAllTo hlt children
      rwa [Tree.size_add] at hall

theorem placesAll_addAllTo {t : Tree} {p : Handle} (hp : p < t.size) :
    (os : List Outline) → PlacesAll (addAllTo t p os) p t.size os
  | [] => trivial
  | o :: os => by
    have hlt : p < (addTo t p o).size := by
      rw [size_addTo]
      exact Nat.lt_of_lt_of_le hp (Nat.le_add_right ..)
    have hall := placesAll_addAllTo hlt os
    rw [size_addTo] at hall
    rw [addAllTo, PlacesAll]
    refine ⟨Places.congr o (fun k hk hlt' => ?_) (places_addTo hp o), hall⟩
    -- The components of the first outline come after the parent, which alone changes afterwards.
    have hne : k ≠ p := Nat.ne_of_gt (Nat.lt_of_lt_of_le hp hk)
    rw [getElem?_addAllTo (by rwa [size_addTo])]
    simp [hne]

end

end Outline

/-! ## Reading -/

namespace Tree

open Outline (preorder preorderAll handlesFrom Places PlacesAll)

/-- The outline of a component, with no more than `room` components within one another. -/
def outlineWithin (t : Tree) : Nat → Handle → Except Fault Outline
  | 0, _ => .error .endless
  | room + 1, h => do
    let id ← t.localId h
    let kind ← t.kind h
    let children ← (t.children h).mapM (t.outlineWithin room)
    pure (.mk id kind children)

/-- The outline of a component. -/
def outlineAt (t : Tree) (h : Handle) : Except Fault Outline := t.outlineWithin t.size h

/-- Components, each with all that is inside of it, in document order, with no more than `room`
components within one another. -/
def orderWithin (t : Tree) : Nat → List Handle → List Handle
  | 0, _ => []
  | room + 1, hs => hs.flatMap fun h => h :: t.orderWithin room (t.children h)

/-- All components but the root, in document order. -/
def documentOrder (t : Tree) : List Handle := t.orderWithin t.size (t.children root)

theorem outlineWithin_succ {t : Tree} {h : Handle} {room : Nat} {n : Node}
    (hn : t.nodes[h]? = some n) {children : List Outline}
    (hc : n.children.map (t.outlineWithin room) = children.map .ok) :
    t.outlineWithin (room + 1) h = .ok (.mk n.id n.kind children) := by
  have hid : t.localId h = .ok n.id := by rw [localId, node_eq_ok_iff.2 hn, Except.map]
  have hkind : t.kind h = .ok n.kind := by rw [kind, node_eq_ok_iff.2 hn, Except.map]
  rw [outlineWithin, hid, hkind, children_of_node hn, mapM_eq_ok_iff.2 hc]
  rfl

mutual

/-- The component of an outline reads as the outline. -/
theorem outlineWithin_of_places {t : Tree} {p start : Handle} :
    (o : Outline) → {room : Nat} → Places t p start o →
    o.preorder.length ≤ room → t.outlineWithin room start = .ok o
  | .mk id kind children, 0 => fun _ hroom => absurd hroom (by simp [preorder])
  | .mk id kind children, room + 1 => by
    intro hplaces hroom
    rw [Places] at hplaces
    rw [preorder, List.length_cons] at hroom
    exact outlineWithin_succ hplaces.1
      (map_outlineWithin_handlesFrom children hplaces.2 (Nat.le_of_succ_le_succ hroom))

theorem map_outlineWithin_handlesFrom {t : Tree} {p start : Handle} :
    (os : List Outline) → {room : Nat} → PlacesAll t p start os → (preorderAll os).length ≤ room →
    (handlesFrom start os).map (t.outlineWithin room) = os.map .ok
  | [], _ => fun _ _ => rfl
  | o :: os, room => by
    intro hplaces hroom
    rw [PlacesAll] at hplaces
    rw [preorderAll, List.length_append] at hroom
    rw [handlesFrom, List.map_cons, List.map_cons,
      outlineWithin_of_places o hplaces.1 (Nat.le_trans (Nat.le_add_right ..) hroom),
      map_outlineWithin_handlesFrom os hplaces.2 (Nat.le_trans (Nat.le_add_left ..) hroom)]

end

mutual

/-- Each outline inside of one that is placed is read at its own place in document order. -/
theorem map_outlineWithin_range_of_places {t : Tree} {p start : Handle} :
    (o : Outline) → {room : Nat} → Places t p start o → o.preorder.length ≤ room →
    (List.range' start o.preorder.length).map (t.outlineWithin room) = o.preorder.map .ok
  | .mk id kind children, room => by
    intro hplaces hroom
    have hself := outlineWithin_of_places (.mk id kind children) hplaces hroom
    rw [Places] at hplaces
    rw [preorder, List.length_cons] at hroom ⊢
    rw [List.range'_succ, List.map_cons, List.map_cons, hself,
      map_outlineWithin_range children hplaces.2 (Nat.le_of_succ_le hroom)]

theorem map_outlineWithin_range {t : Tree} {p start : Handle} :
    (os : List Outline) → {room : Nat} → PlacesAll t p start os →
    (preorderAll os).length ≤ room →
    (List.range' start (preorderAll os).length).map (t.outlineWithin room) =
      (preorderAll os).map .ok
  | [], _ => fun _ _ => rfl
  | o :: os, room => by
    intro hplaces hroom
    rw [PlacesAll] at hplaces
    rw [preorderAll, List.length_append] at hroom ⊢
    rw [← List.range'_append_1, List.map_append, List.map_append,
      map_outlineWithin_range_of_places o hplaces.1 (Nat.le_trans (Nat.le_add_right ..) hroom),
      map_outlineWithin_range os hplaces.2 (Nat.le_trans (Nat.le_add_left ..) hroom)]

end

theorem orderWithin_cons (t : Tree) (room : Nat) (h : Handle) (hs : List Handle) :
    t.orderWithin (room + 1) (h :: hs) =
      h :: t.orderWithin room (t.children h) ++ t.orderWithin (room + 1) hs := rfl

mutual

/-- The components of an outline come in the order of their handles. -/
theorem orderWithin_of_places {t : Tree} {p start : Handle} :
    (o : Outline) → {room : Nat} → Places t p start o → o.preorder.length ≤ room + 1 →
    start :: t.orderWithin room (t.children start) = List.range' start o.preorder.length
  | .mk id kind children, room => by
    intro hplaces hroom
    rw [Places] at hplaces
    rw [preorder, List.length_cons] at hroom ⊢
    have hchildren : t.children start = handlesFrom (start + 1) children :=
      children_of_node hplaces.1
    rw [hchildren, orderWithin_handlesFrom children hplaces.2 (Nat.le_of_succ_le_succ hroom),
      List.range'_succ]

theorem orderWithin_handlesFrom {t : Tree} {p start : Handle} :
    (os : List Outline) → {room : Nat} → PlacesAll t p start os →
    (preorderAll os).length ≤ room →
    t.orderWithin room (handlesFrom start os) = List.range' start (preorderAll os).length
  | [], 0 => fun _ _ => rfl
  | [], room + 1 => fun _ _ => rfl
  | .mk id kind children :: os, 0 => fun _ hroom => absurd hroom (by simp [preorderAll, preorder])
  | o :: os, room + 1 => by
    intro hplaces hroom
    rw [PlacesAll] at hplaces
    rw [preorderAll, List.length_append] at hroom ⊢
    rw [handlesFrom, orderWithin_cons,
      orderWithin_of_places o hplaces.1 (Nat.le_trans (Nat.le_add_right ..) hroom),
      orderWithin_handlesFrom os hplaces.2 (Nat.le_trans (Nat.le_add_left ..) hroom),
      List.range'_append_1]

end

/-! ## Trees from outlines -/

section

variable (separator : Char) (os : List Outline)

theorem size_ofOutlines : (ofOutlines separator os).size = 1 + (preorderAll os).length :=
  Outline.size_addAllTo ..

theorem placesAll_ofOutlines : PlacesAll (ofOutlines separator os) root 1 os :=
  Outline.placesAll_addAllTo Nat.zero_lt_one os

theorem getElem?_root_ofOutlines : (ofOutlines separator os).nodes[root]? =
    some { id := "", kind := .root, parent := none, children := handlesFrom 1 os } :=
  Outline.getElem?_addAllTo Nat.zero_lt_one os

/-- In document order, the components have the handles from the first one after the root on. -/
theorem documentOrder_ofOutlines :
    (ofOutlines separator os).documentOrder = List.range' 1 (preorderAll os).length := by
  have hchildren : (ofOutlines separator os).children root = handlesFrom 1 os :=
    children_of_node (getElem?_root_ofOutlines separator os)
  have hroom : (preorderAll os).length ≤ (ofOutlines separator os).size := by
    rw [size_ofOutlines]
    exact Nat.le_add_left ..
  rw [documentOrder, hchildren, orderWithin_handlesFrom os (placesAll_ofOutlines separator os) hroom]

end

/-- A tree that is built from outlines has one component for each of them besides the root. In
document order, the components have the handles from the first one after the root on, and read as
the outlines in document order; the root reads as what the tree was built from. -/
theorem ofOutlines_reads_back (separator : Char) (os : List Outline) :
    let t := Tree.ofOutlines separator os
    t.size = 1 + (preorderAll os).length ∧
      t.documentOrder = List.range' 1 (preorderAll os).length ∧
      t.documentOrder.map t.outlineAt = (preorderAll os).map .ok ∧
      t.outlineAt root = .ok (.mk "" .root os) := by
  intro t
  have hsize : t.size = 1 + (preorderAll os).length := size_ofOutlines separator os
  have hplaces : PlacesAll t root 1 os := placesAll_ofOutlines separator os
  have horder : t.documentOrder = List.range' 1 (preorderAll os).length :=
    documentOrder_ofOutlines separator os
  refine ⟨hsize, horder, ?_, ?_⟩
  · have hroom : (preorderAll os).length ≤ t.size := by
      rw [hsize]
      exact Nat.le_add_left ..
    rw [horder]
    exact map_outlineWithin_range os hplaces hroom
  · rw [outlineAt, hsize, Nat.add_comm]
    exact outlineWithin_succ (getElem?_root_ofOutlines separator os)
      (map_outlineWithin_handlesFrom os hplaces (Nat.le_refl _))

end Tree

end ViewQuery.Component
