import ViewQuery.Proofs.Component.ClientId
import ViewQuery.Proofs.Text.FirstCut

/-!
# Paths

How a path of ids is walked, and what a path read from the component that its front leads to has to
do with the path as a whole.

* `Tree.findByPath_of_relative`: the base of a path that does not start at the root;
* `Tree.findBelow_append`: a path goes on by its remaining ids from where its front leads to;
* `Tree.descendAll_cons`: going on from a component is reading a path from it, if it is a naming
  container with another id than the next one, and leads nowhere if it is no naming container;
* `Tree.WellFormed.idAt_of_findBelow`: a path leads to a component with its last id.
-/

namespace ViewQuery.Component

namespace Tree

variable {t : Tree} {b h n : Handle} {id : String} {ids ids' : List String}

/-! ## Bases -/

/-- A path that does not start with the separator is read from the naming container that is closest
to the anchor. -/
theorem findByPath_of_relative {path : String} (hne : path ≠ "")
    (hp : path.toList.head? ≠ some t.separator) (anchor : Handle) :
    t.findByPath anchor path =
      (t.searchBase anchor).bind fun b =>
        .ok (t.findBelow b (Text.piecesBetween t.separator path)) := by
  have ha : Text.afterPrefix [t.separator] path.toList = none :=
    Text.afterPrefix_singleton_eq_none_iff.2 hp
  rw [findByPath, if_neg (by simpa using hne), ha]
  rfl

/-- The naming container that is closest to a naming container is itself. -/
theorem WellFormed.searchBase_of_isNaming (w : t.WellFormed) (hk : t.isNaming h = true) :
    t.searchBase h = .ok h := by
  obtain ⟨n, hn, hk⟩ := (Option.any_eq_true _ _).1 hk
  simp [searchBase, Lineage.find?, w.lineage_eq hn, hk]

/-! ## Going on -/

@[simp] theorem descendAll_none (ids : List String) : t.descendAll none ids = none := by
  induction ids with
  | nil => rfl
  | cons id ids ih => exact ih

/-- A path goes on by its remaining ids from where its front leads to. -/
theorem findBelow_append (hne : ids ≠ []) (ids' : List String) :
    t.findBelow b (ids ++ ids') = t.descendAll (t.findBelow b ids) ids' := by
  cases ids with
  | nil => exact absurd rfl hne
  | cons first rest => exact List.foldl_append ..

/-- Going on from a component by at least one more id. -/
theorem descendAll_cons (hid : t.idAt h ≠ some id) :
    t.descendAll (some h) (id :: ids) =
      if t.isNaming h then t.findBelow h (id :: ids) else none := by
  have hcons : t.descendAll (some h) (id :: ids) = t.descendAll (t.descend h id) ids := rfl
  cases hk : t.isNaming h with
  | true =>
    rw [hcons, descend_of_isNaming hk, if_pos rfl, findBelow]
    exact congrArg (t.descendAll · ids) (if_neg fun hself => hid hself.1).symm
  | false =>
    have hdescend : t.descend h id = none := by
      unfold isNaming at hk
      rw [descend]
      cases hn : t.nodes[h]? with
      | none => rfl
      | some n =>
        rw [hn, Option.any_some] at hk
        exact if_neg (by rw [hk]; exact Bool.false_ne_true)
    rw [hcons, hdescend, descendAll_none, if_neg Bool.false_ne_true]

namespace WellFormed

theorem idAt_of_descend (w : t.WellFormed) (hd : t.descend h id = some n) :
    t.idAt n = some id := by
  obtain ⟨m, -, hd⟩ := Option.bind_eq_some_iff.1 hd
  split at hd
  · exact (w.inScope_of_findWithin hd).2
  · cases hd

/-- A path leads to a component with its last id. -/
theorem idAt_of_findBelow (w : t.WellFormed) (hf : t.findBelow b ids = some n) :
    t.idAt n = ids.getLast? := by
  rcases List.eq_nil_or_concat ids with rfl | ⟨front, id, rfl⟩
  · cases hf
  · rw [List.concat_eq_append] at hf ⊢
    rw [List.getLast?_concat]
    cases front with
    | nil =>
      change (if t.idAt b = some id ∧ b ≠ root then some b else t.findWithin b id) = some n at hf
      split at hf
      · rename_i hself
        rw [← Option.some.inj hf, hself.1]
      · exact (w.inScope_of_findWithin hf).2
    | cons first rest =>
      rw [findBelow_append (List.cons_ne_nil first rest)] at hf
      obtain ⟨m, -, hd⟩ := Option.bind_eq_some_iff.1 hf
      exact w.idAt_of_descend hd

end WellFormed

end Tree

end ViewQuery.Component
