import ViewQuery.Proofs.Component.Path

/-!
# Bases

The base of a component is what a path that is written on it is read from: the naming container that
is closest to it, or the root where there is none. Client ids, paths and the keyword for the naming
container come upon it on walks of their own.

* `Tree.IsBase`: the closest naming container, said with `Tree.AtOrAbove` alone;
* `Tree.WellFormed.isBase_iff`: the walk of a path ends at the base;
* `Tree.WellFormed.find?_ancestors_of_isBase`: so does the walk of a keyword, from the parent on,
  unless the base is no naming container;
* `Tree.WellFormed.inScope_of_isBase`: a component is in the scope of the base of its parent;
* `Tree.WellFormed.clientId_of_isBase`: so its client id is that of this base with one id more.
-/

namespace ViewQuery.Component

namespace Tree

variable {t : Tree} {a b c h n p : Handle} {id : String}

/-- A component is the naming container that is closest to another one, this one included, or the
root where there is no naming container. -/
structure IsBase (t : Tree) (b a : Handle) : Prop where
  atOrAbove : t.AtOrAbove b a
  root_or_naming : b = root ∨ t.isNaming b = true
  closest : ∀ c, t.isNaming c = true → t.AtOrAbove c a → t.AtOrAbove c b

theorem isBase_self (hb : b = root ∨ t.isNaming b = true) : t.IsBase b b :=
  ⟨.refl, hb, fun _ _ hc => hc⟩

/-- A component that is no naming container has the base of its parent. -/
theorem IsBase.step (h : t.IsBase b p) (hk : t.isNaming a = false) (hp : t.parent a = some p) :
    t.IsBase b a where
  atOrAbove := h.atOrAbove.step hp
  root_or_naming := h.root_or_naming
  closest c hc hca := by
    have hne : c ≠ a := by
      rintro rfl
      rw [hk] at hc
      cases hc
    exact h.closest c hc (hca.of_parent hne hp)

theorem ancestors_of_parent (hp : t.parent h = some p) : t.ancestors h = t.lineage p := by
  rw [ancestors, hp]

namespace WellFormed

theorem isBase_unique (w : t.WellFormed) (hb : t.IsBase b a) (hc : t.IsBase c a) : b = c := by
  have hle : ∀ {b c}, t.IsBase b a → t.IsBase c a → b ≤ c := by
    intro b c hb hc
    rcases hb.root_or_naming with rfl | hk
    · exact Nat.zero_le c
    · exact w.le_of_atOrAbove (hc.closest b hk hb.atOrAbove)
  exact Nat.le_antisymm (hle hb hc) (hle hc hb)

theorem lt_size_of_isBase (w : t.WellFormed) (hb : t.IsBase b a) : a < t.size := by
  obtain ⟨ha, hk, -⟩ := hb
  cases ha with
  | refl =>
    rcases hk with rfl | hk
    · exact w.size_pos
    · obtain ⟨m, hm, -⟩ := (Option.any_eq_true _ _).1 hk
      exact lt_size_of_node hm
  | step _ hp => exact lt_size_of_parent hp

/-! ## The walks -/

theorem searchBase_root (w : t.WellFormed) : t.searchBase root = .ok root := by
  obtain ⟨children, hr⟩ := w.root_node
  have hup : t.ancestors root = { members := [], fault := none } := by
    rw [ancestors, w.parent_root]
  simp [searchBase, Lineage.find?, w.lineage_eq hr, hup, Kind.isNamingContainer]

/-- The walk of a path goes on from a component that is no naming container. -/
theorem searchBase_of_parent (w : t.WellFormed) (hk : t.isNaming a = false)
    (hp : t.parent a = some p) : t.searchBase a = t.searchBase p := by
  have ha : a < t.size := lt_size_of_parent hp
  have hps : p < t.size := Nat.lt_trans (w.parent_lt hp) ha
  obtain ⟨m, hm⟩ := exists_node ha
  obtain ⟨m', hm'⟩ := exists_node hps
  rw [isNaming_of_node hm] at hk
  obtain ⟨top, htop⟩ : ∃ top, (t.lineage p).members.getLast? = some top := by
    rw [w.lineage_eq hm', List.getLast?_cons]
    exact ⟨_, rfl⟩
  simp only [searchBase, w.lineage_eq hm, ancestors_of_parent hp, Lineage.find?, List.find?_cons,
    hk, List.getLast?_cons, htop, Option.getD_some, Option.map_some]

/-- A component with a property is the component itself or one around it. -/
theorem find?_lineage {m : Node} (w : t.WellFormed) (hm : t.nodes[h]? = some m) (q : Node → Bool) :
    (t.lineage h).find? q = if q m then .ok (some h) else (t.ancestors h).find? q := by
  rw [w.lineage_eq hm, Lineage.find?, List.find?_cons]
  cases hq : q m <;> rfl

/-- There is a base. The walk of a path ends there, and so does the walk of a keyword if it is a
naming container. -/
theorem exists_isBase (w : t.WellFormed) (ha : a < t.size) :
    ∃ b, t.IsBase b a ∧ t.searchBase a = .ok b ∧
      (t.lineage a).find? (fun m => m.kind.isNamingContainer) =
        .ok (if t.isNaming b then some b else none) := by
  induction a using Nat.strongRecOn with
  | ind a ih =>
    obtain ⟨m, hm⟩ := exists_node ha
    have hkind : t.isNaming a = m.kind.isNamingContainer := isNaming_of_node hm
    rw [w.find?_lineage hm, ← hkind]
    cases hk : t.isNaming a with
    | true =>
      refine ⟨a, isBase_self (.inr hk), w.searchBase_of_isNaming hk, ?_⟩
      rw [hk]
      rfl
    | false =>
      by_cases hr : a = root
      · subst hr
        refine ⟨root, isBase_self (.inl rfl), w.searchBase_root, ?_⟩
        rw [w.isNaming_root, ancestors, w.parent_root]
        rfl
      · obtain ⟨p, hp⟩ := w.exists_parent ha hr
        have hlt := w.parent_lt hp
        obtain ⟨b, hb, hs, hf⟩ := ih p hlt (Nat.lt_trans hlt ha)
        refine ⟨b, hb.step hk hp, (w.searchBase_of_parent hk hp).trans hs, ?_⟩
        rw [ancestors_of_parent hp]
        exact hf

/-- The walk of a path ends at the base. -/
theorem isBase_iff (w : t.WellFormed) : t.IsBase b a ↔ t.searchBase a = .ok b := by
  constructor
  · intro hb
    obtain ⟨c, hc, hs, -⟩ := w.exists_isBase (w.lt_size_of_isBase hb)
    rw [hs, w.isBase_unique hc hb]
  · intro hs
    rcases Nat.lt_or_ge a t.size with ha | ha
    · obtain ⟨c, hc, hs', -⟩ := w.exists_isBase ha
      obtain rfl : c = b := Except.ok.inj (hs'.symm.trans hs)
      exact hc
    · simp only [searchBase, lineage_of_size_le ha, Lineage.find?, List.find?_nil] at hs
      cases hs

/-- Where the bases are the same, so are the results of paths. -/
theorem findByPath_congr (w : t.WellFormed) (ha : t.IsBase b a) (hc : t.IsBase b c)
    (path : String) : t.findByPath a path = t.findByPath c path := by
  rw [findByPath, findByPath, w.isBase_iff.1 ha, w.isBase_iff.1 hc]

/-- From the parent of a component on, the walk of a keyword ends at the base of the parent if it is
a naming container, and finds nothing otherwise. -/
theorem find?_ancestors_of_isBase (w : t.WellFormed) (hb : t.IsBase b p)
    (hp : t.parent n = some p) :
    (t.ancestors n).find? (fun m => m.kind.isNamingContainer) =
      .ok (if t.isNaming b then some b else none) := by
  obtain ⟨c, hc, -, hf⟩ := w.exists_isBase (w.lt_size_of_isBase hb)
  rw [ancestors_of_parent hp, hf, w.isBase_unique hc hb]

/-! ## Names -/

/-- A component is in the scope of the base of its parent. -/
theorem inScope_of_isBase (w : t.WellFormed) (hb : t.IsBase b p) (hp : t.parent n = some p) :
    t.InScope b n := by
  induction p using Nat.strongRecOn generalizing n with
  | ind p ih =>
    by_cases he : b = p
    · exact .child (he ▸ hp)
    · have hk : t.isNaming p = false := by
        rw [← Bool.not_eq_true]
        exact fun hk => he (w.isBase_unique hb (isBase_self (.inr hk)))
      obtain ⟨q, hq⟩ := hb.atOrAbove.exists_parent he
      have hlt := w.parent_lt hq
      obtain ⟨c, hc, -⟩ := w.exists_isBase (Nat.lt_trans hlt (lt_size_of_parent hq))
      obtain rfl := w.isBase_unique (hc.step hk hq) hb
      exact .deeper (ih q hlt hc hq) hk hp

/-- A component has the names of the base of its parent, if this is a naming container, and its own
id. -/
theorem names_of_isBase (w : t.WellFormed) (hb : t.IsBase b p) (hp : t.parent n = some p)
    (hi : t.idAt n = some id) : t.names n = if b = root then [id] else t.names b ++ [id] := by
  have hs := w.inScope_of_isBase hb hp
  split
  · rename_i hr
    exact w.names_of_inScope_root (hr ▸ hs) hi
  · rename_i hr
    exact w.names_of_inScope_naming (hb.root_or_naming.resolve_left hr) hs hi

/-- Its client id is that of the base of its parent, if this is a naming container, and its own
id. -/
theorem clientId_of_isBase (w : t.WellFormed) (hb : t.IsBase b p) (hp : t.parent n = some p)
    (hi : t.idAt n = some id) :
    ∃ outer, t.clientId b = .ok outer ∧ t.clientId n =
      .ok (if b = root then id else outer ++ String.singleton t.separator ++ id) := by
  have hbs : b < t.size :=
    Nat.lt_of_le_of_lt (w.le_of_atOrAbove hb.atOrAbove) (w.lt_size_of_isBase hb)
  refine ⟨_, w.clientId_eq hbs, ?_⟩
  rw [w.clientId_eq (lt_size_of_parent hp), w.names_of_isBase hb hp hi]
  split
  · rw [Text.joinWith, String.intercalate_singleton]
  · rw [Text.joinWith_append (names_ne_nil_iff.2 hbs) (List.cons_ne_nil id []),
      Text.joinWith, Text.joinWith, String.intercalate_singleton]

end WellFormed

end Tree

end ViewQuery.Component
