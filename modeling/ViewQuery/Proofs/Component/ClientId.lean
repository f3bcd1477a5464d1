import ViewQuery.Proofs.Component.Scope
import ViewQuery.Proofs.Text.Join

/-!
# Client ids

A client id is the ids of the naming containers around a component and its own id, and looking it up
goes the same way down.

* `Tree.WellFormed.clientId_eq`: the client id of a component is its names, joined;
* `Tree.WellFormed.around_of_inScope`: what is around the components of a scope;
* `Tree.WellFormed.names_of_findBelow`: a path of ids leads to a component with these names;
* `Tree.WellFormed.clientId_eq_empty_iff`: which components have an empty client id;
* `Tree.findByClientId_clientId`: client ids and looking them up are inverse.
-/

namespace ViewQuery.Component

namespace Tree

variable {t : Tree} {b c h n p : Handle} {id : String}

/-! ## Lineages -/

/-- The ids of the naming containers among components, the last first. -/
def containerIds (members : List (Handle × Node)) : List String :=
  ((members.filter fun m => m.2.kind.isNamingContainer).map (·.2.id)).reverse

/-- The ids of the naming containers around a component, the outermost first. -/
def around (t : Tree) (h : Handle) : List String := containerIds (t.ancestors h).members

/-- The ids that make up the client id of a component. -/
def names (t : Tree) (h : Handle) : List String := t.around h ++ (t.idAt h).toList

/-- Going on by ids one after the other. -/
def descendAll (t : Tree) (start : Option Handle) (ids : List String) : Option Handle :=
  ids.foldl (fun h id => h.bind fun h => t.descend h id) start

/-- Ids are distinct in the scopes of the root and of every naming container. -/
def DistinctInScopes (t : Tree) : Prop :=
  ∀ b, b = root ∨ t.isNaming b = true →
    ∀ m n, t.InScope b m → t.InScope b n → t.idAt m = t.idAt n → m = n

theorem around_of_parent_none (hp : t.parent h = none) : t.around h = [] := by
  rw [around, ancestors, hp]
  rfl

/-- Exactly the components of the tree have names. -/
theorem names_ne_nil_iff : t.names h ≠ [] ↔ h < t.size := by
  rcases Nat.lt_or_ge h t.size with hh | hh
  · obtain ⟨n, hn⟩ := exists_node hh
    simp [names, idAt_of_node hn, hh]
  · have hid : t.idAt h = none := by rw [idAt, Array.getElem?_eq_none hh, Option.map_none]
    simp [names, around_of_parent_none (parent_of_size_le hh), hid, Nat.not_lt.2 hh]

theorem descend_of_isNaming (hk : t.isNaming h = true) (id : String) :
    t.descend h id = t.findWithin h id := by
  obtain ⟨n, hn, hk⟩ := (Option.any_eq_true _ _).1 hk
  rw [descend, hn]
  exact if_pos hk

theorem findBelow_root_cons (t : Tree) (first : String) (rest : List String) :
    t.findBelow root (first :: rest) = t.descendAll (t.findWithin root first) rest := by
  rw [findBelow, if_neg fun h => h.2 rfl, descendAll]

theorem descendAll_concat (start : Option Handle) (ids : List String) (id : String) :
    t.descendAll start (ids ++ [id]) = (t.descendAll start ids).bind fun h => t.descend h id :=
  List.foldl_append ..

theorem findBelow_root_concat {ids : List String} (hne : ids ≠ []) (id : String) :
    t.findBelow root (ids ++ [id]) = (t.findBelow root ids).bind fun h => t.descend h id := by
  cases ids with
  | nil => exact absurd rfl hne
  | cons first rest =>
    rw [List.cons_append, findBelow_root_cons, findBelow_root_cons, descendAll_concat]

namespace WellFormed

/-- A way up that has enough fuel needs no more. -/
theorem climb_succ (w : t.WellFormed) {fuel : Nat} (hh : h < t.size) (hf : h < fuel) :
    t.climb (fuel + 1) h = t.climb fuel h := by
  induction fuel generalizing h with
  | zero => exact absurd hf (Nat.not_lt_zero h)
  | succ fuel ih =>
    obtain ⟨n, hn⟩ := exists_node hh
    rw [climb, climb, hn]
    cases hp : n.parent with
    | none => simp only [hp]
    | some p =>
      have hlt : p < h := w.parent_lt ((parent_of_node hn).trans hp)
      simp only [hp]
      rw [ih (Nat.lt_trans hlt hh) (Nat.lt_of_lt_of_le hlt (Nat.le_of_lt_succ hf))]

/-- A lineage is the component and the lineage of its parent. -/
theorem lineage_eq (w : t.WellFormed) {n : Node} (hn : t.nodes[h]? = some n) :
    t.lineage h = { t.ancestors h with members := (h, n) :: (t.ancestors h).members } := by
  have hh : h < t.size := lt_size_of_node hn
  have hpn := parent_of_node hn
  rw [lineage, climb, hn, ancestors, hpn]
  cases hp : n.parent with
  | none => simp [hp]
  | some p =>
    have hlt : p < h := w.parent_lt (hpn.trans hp)
    have hps : p < t.size := Nat.lt_trans hlt hh
    simp only [hp]
    rw [lineage, w.climb_succ hps hps]

theorem fault_lineage (w : t.WellFormed) (hh : h < t.size) : (t.lineage h).fault = none := by
  induction h using Nat.strongRecOn with
  | ind h ih =>
    obtain ⟨n, hn⟩ := exists_node hh
    rw [w.lineage_eq hn, ancestors]
    cases hp : t.parent h with
    | none => rfl
    | some p => exact ih p (w.parent_lt hp) (Nat.lt_trans (w.parent_lt hp) hh)

/-- The client id of a component is its names, joined. -/
theorem clientId_eq (w : t.WellFormed) (hh : h < t.size) :
    t.clientId h = .ok (Text.joinWith t.separator (t.names h)) := by
  obtain ⟨n, hn⟩ := exists_node hh
  have hf := w.fault_lineage hh
  rw [w.lineage_eq hn] at hf
  simp only at hf
  simp only [clientId, w.lineage_eq hn, hf]
  simp [names, around, containerIds, idAt_of_node hn]

/-! ## Names -/

theorem around_of_parent (w : t.WellFormed) (hp : t.parent h = some p) :
    t.around h = t.around p ++ if t.isNaming p then (t.idAt p).toList else [] := by
  have hps : p < t.size := Nat.lt_trans (w.parent_lt hp) (lt_size_of_parent hp)
  obtain ⟨n, hn⟩ := exists_node hps
  have hk : t.isNaming p = n.kind.isNamingContainer := isNaming_of_node hn
  rw [around, ancestors, hp, idAt_of_node hn, hk]
  simp only [w.lineage_eq hn, around, containerIds, List.filter_cons]
  split <;> simp

/-- What is around the components of a scope. -/
theorem around_of_inScope (w : t.WellFormed) (hs : t.InScope b n) :
    t.around n = t.around b ++ if t.isNaming b then (t.idAt b).toList else [] := by
  induction hs with
  | child hp => exact w.around_of_parent hp
  | deeper _ hk hp ih =>
    rw [w.around_of_parent hp, ih, hk]
    simp

theorem isNaming_root (w : t.WellFormed) : t.isNaming root = false := by
  obtain ⟨children, hr⟩ := w.root_node
  rw [isNaming_of_node hr]
  rfl

theorem around_root (w : t.WellFormed) : t.around root = [] :=
  around_of_parent_none w.parent_root

/-- Nothing is around the components of the scope of the root. -/
theorem names_of_inScope_root (w : t.WellFormed) (hs : t.InScope root n) (hi : t.idAt n = some id) :
    t.names n = [id] := by
  rw [names, w.around_of_inScope hs, w.around_root, w.isNaming_root, hi]
  rfl

/-- A component in the scope of a naming container has one name more. -/
theorem names_of_inScope_naming (w : t.WellFormed) (hb : t.isNaming b = true)
    (hs : t.InScope b n) (hi : t.idAt n = some id) : t.names n = t.names b ++ [id] := by
  rw [names, w.around_of_inScope hs, if_pos hb, hi, names, Option.toList_some]

/-- Every component but the root is in the scope of the root or of a naming container. -/
theorem exists_inScope (w : t.WellFormed) (hn : n < t.size) (hr : n ≠ root) :
    ∃ b, (b = root ∨ t.isNaming b = true) ∧ t.InScope b n := by
  induction n using Nat.strongRecOn with
  | ind n ih =>
    obtain ⟨p, hp⟩ := w.exists_parent hn hr
    cases hk : t.isNaming p with
    | true => exact ⟨p, .inr hk, .child hp⟩
    | false =>
      by_cases hpr : p = root
      · exact ⟨p, .inl hpr, .child hp⟩
      · obtain ⟨b, hb, hs⟩ := ih p (w.parent_lt hp) (Nat.lt_trans (w.parent_lt hp) hn) hpr
        exact ⟨b, hb, hs.deeper hk hp⟩

/-- Induction from scope to scope: from the components of the scope of the root to those of the
scope of every naming container. -/
theorem scope_induction (w : t.WellFormed) {P : Handle → Prop}
    (top : ∀ n id, t.InScope root n → t.idAt n = some id → P n)
    (inner : ∀ b n id, b < t.size → t.isNaming b = true → t.InScope b n → t.idAt n = some id →
      P b → P n)
    (hn : n < t.size) (hr : n ≠ root) : P n := by
  induction n using Nat.strongRecOn with
  | ind n ih =>
    obtain ⟨b, hb, hs⟩ := w.exists_inScope hn hr
    obtain ⟨m, hm⟩ := exists_node hn
    have hlt := w.base_lt_of_inScope hs
    have hbs := Nat.lt_trans hlt hn
    rcases hb with rfl | hb
    · exact top n m.id hs (idAt_of_node hm)
    · refine inner b n m.id hbs hb hs (idAt_of_node hm) (ih b hlt hbs ?_)
      rintro rfl
      rw [w.isNaming_root] at hb
      cases hb

/-! ## The way down -/

/-- Going on by an id leads to a component with one name more. -/
theorem names_of_descend (w : t.WellFormed) (hd : t.descend h id = some n) :
    t.names n = t.names h ++ [id] := by
  obtain ⟨m, hm, hd⟩ := Option.bind_eq_some_iff.1 hd
  split at hd
  · rename_i hk
    obtain ⟨hs, hi⟩ := w.inScope_of_findWithin hd
    have hnam : t.isNaming h = true := (isNaming_of_node hm).trans hk
    exact w.names_of_inScope_naming hnam hs hi
  · cases hd

theorem names_of_descendAll (w : t.WellFormed) {start : Option Handle} {ids : List String}
    (hd : t.descendAll start ids = some n) :
    ∃ h, start = some h ∧ t.names n = t.names h ++ ids := by
  induction ids generalizing start with
  | nil => exact ⟨n, hd, (List.append_nil _).symm⟩
  | cons id ids ih =>
    obtain ⟨h', hh', hn⟩ := ih hd
    obtain ⟨h, hs, hd'⟩ := Option.bind_eq_some_iff.1 hh'
    refine ⟨h, hs, ?_⟩
    rw [hn, w.names_of_descend hd', List.append_assoc, List.singleton_append]

/-- From the root, a path of ids leads to a component with these names. -/
theorem names_of_findBelow (w : t.WellFormed) {ids : List String}
    (hf : t.findBelow root ids = some n) : t.names n = ids := by
  cases ids with
  | nil => cases hf
  | cons first rest =>
    rw [findBelow_root_cons] at hf
    obtain ⟨h, hs, hn⟩ := w.names_of_descendAll hf
    obtain ⟨hsc, hi⟩ := w.inScope_of_findWithin hs
    rw [hn, w.names_of_inScope_root hsc hi, List.singleton_append]

/-- Where the ids of each scope are distinct, the names of a component lead to it. -/
theorem findBelow_names (w : t.WellFormed) (hd : t.DistinctInScopes) (hn : n < t.size)
    (hr : n ≠ root) : t.findBelow root (t.names n) = some n := by
  have hfind : ∀ b n id, b = root ∨ t.isNaming b = true → t.InScope b n → t.idAt n = some id →
      t.findWithin b id = some n := by
    intro b n id hb hs hi
    exact w.findWithin_of_inScope hs hi fun m hm hi' => hd b hb m n hm hs (hi'.trans hi.symm)
  refine w.scope_induction (P := fun n => t.findBelow root (t.names n) = some n) ?_ ?_ hn hr
  · intro n id hs hi
    rw [w.names_of_inScope_root hs hi, findBelow_root_cons]
    exact hfind root n id (.inl rfl) hs hi
  · intro b n id hbs hb hs hi ih
    rw [w.names_of_inScope_naming hb hs hi, findBelow_root_concat (names_ne_nil_iff.2 hbs), ih,
      Option.bind_some, descend_of_isNaming hb, hfind b n id (.inr hb) hs hi]

/-- What holds of the ids of all components but the root holds of the names of a component. -/
theorem forall_mem_names (w : t.WellFormed) {P : String → Prop}
    (hP : ∀ h, h ≠ root → ∀ id, t.idAt h = some id → P id) (hn : n < t.size) (hr : n ≠ root) :
    ∀ id ∈ t.names n, P id := by
  have hne : ∀ {b n}, t.InScope b n → n ≠ root := fun hs =>
    Nat.ne_of_gt (Nat.lt_of_le_of_lt (Nat.zero_le _) (w.base_lt_of_inScope hs))
  refine w.scope_induction (P := fun n => ∀ id ∈ t.names n, P id) ?_ ?_ hn hr
  · intro n id hs hi id' hm
    rw [w.names_of_inScope_root hs hi, List.mem_singleton] at hm
    exact hP n (hne hs) id' (hm ▸ hi)
  · intro b n id _ hb hs hi ih id' hm
    rw [w.names_of_inScope_naming hb hs hi, List.mem_append, List.mem_singleton] at hm
    rcases hm with hm | hm
    · exact ih id' hm
    · exact hP n (hne hs) id' (hm ▸ hi)

/-- Names are ids of the tree. -/
theorem exists_idAt_of_mem_names (w : t.WellFormed) (hn : n < t.size) (hr : n ≠ root) :
    ∀ id ∈ t.names n, ∃ h, t.idAt h = some id :=
  w.forall_mem_names (fun h _ _ hi => ⟨h, hi⟩) hn hr

/-- Whether ids are distinct can be read off the scopes in document order. -/
theorem distinctInScopes_iff (w : t.WellFormed) :
    t.DistinctInScopes ↔
      ∀ b < t.size, b = root ∨ t.isNaming b = true →
        ∀ m ∈ t.scope b, ∀ n ∈ t.scope b, t.idAt m = t.idAt n → m = n := by
  constructor
  · intro hd b _ hb m hm n hn
    exact hd b hb m n (w.mem_scope_iff.1 hm) (w.mem_scope_iff.1 hn)
  · intro hd b hb m n hm hn
    have hlt : b < t.size := Nat.lt_trans (w.base_lt_of_inScope hm) hm.lt_size
    exact hd b hlt hb m (w.mem_scope_iff.2 hm) n (w.mem_scope_iff.2 hn)

end WellFormed

/-! ## Components without a name -/

theorem lineage_of_size_le (hh : t.size ≤ h) :
    t.lineage h = { members := [], fault := some (.missing h) } := by
  rw [lineage, climb, Array.getElem?_eq_none hh]

theorem clientId_of_size_le (hh : t.size ≤ h) : t.clientId h = .error (.missing h) := by
  simp only [clientId, lineage_of_size_le hh]

/-- A component that has no name for the client: the root, or a component with an empty id that no
naming container is around. -/
def Nameless (t : Tree) (h : Handle) : Prop :=
  h = root ∨ t.InScope root h ∧ t.idAt h = some ""

namespace WellFormed

theorem names_root (w : t.WellFormed) : t.names root = [""] := by
  obtain ⟨children, hr⟩ := w.root_node
  rw [names, w.around_root, idAt_of_node hr]
  rfl

theorem names_eq_empty_iff (w : t.WellFormed) (hh : h < t.size) :
    t.names h = [""] ↔ t.Nameless h := by
  by_cases hr : h = root
  · simp [hr, w.names_root, Nameless]
  · constructor
    · refine w.scope_induction (P := fun h => t.names h = [""] → t.Nameless h) ?_ ?_ hh hr
      · intro n id hs hi hn
        rw [w.names_of_inScope_root hs hi, List.singleton_inj] at hn
        exact .inr ⟨hs, hn ▸ hi⟩
      · intro b n id hbs hb hs hi _ hn
        rw [w.names_of_inScope_naming hb hs hi, List.append_eq_singleton_iff] at hn
        rcases hn with ⟨hnil, -⟩ | ⟨-, hcons⟩
        · exact absurd hnil (names_ne_nil_iff.2 hbs)
        · cases hcons
    · rintro (hroot | ⟨hs, hi⟩)
      · exact absurd hroot hr
      · exact w.names_of_inScope_root hs hi

/-- Exactly the components without a name have an empty client id. -/
theorem clientId_eq_empty_iff (w : t.WellFormed) : t.clientId h = .ok "" ↔ t.Nameless h := by
  rcases Nat.lt_or_ge h t.size with hh | hh
  · rw [w.clientId_eq hh, Except.ok.injEq, Text.joinWith_eq_empty_iff,
      or_iff_right (names_ne_nil_iff.2 hh), w.names_eq_empty_iff hh]
  · rw [clientId_of_size_le hh]
    constructor
    · intro he
      cases he
    · rintro (rfl | ⟨hs, -⟩)
      · exact absurd w.size_pos (Nat.not_lt.2 hh)
      · exact absurd hs.lt_size (Nat.not_lt.2 hh)

end WellFormed

/-! ## Client ids and looking them up -/

/-- A path that starts with the separator is read from the root, whatever it is written on. -/
theorem findByPath_of_absolute {path : String} {rest : List Char}
    (hp : path.toList = t.separator :: rest) (anchor : Handle) :
    t.findByPath anchor path =
      .ok (t.findBelow root (Text.piecesBetween t.separator (.ofList rest))) := by
  have hne : ¬ path.isEmpty = true := by
    rw [String.isEmpty_iff]
    rintro rfl
    simp at hp
  have ha : Text.afterPrefix [t.separator] path.toList = some rest :=
    Text.afterPrefix_eq_some_iff.2 hp
  rw [findByPath, if_neg hne, ha]

theorem findByClientId_eq (t : Tree) (s : String) :
    t.findByClientId s = .ok (t.findBelow root (Text.piecesBetween t.separator s)) := by
  have hp : (String.singleton t.separator ++ s).toList = t.separator :: s.toList := by simp
  rw [findByClientId, findByPath_of_absolute hp, String.ofList_toList]

/-- Client ids and looking them up are inverse: what a client id finds has this client id, and where
ids are distinct and without the separator, the client id of every component but the root finds
it. -/
theorem findByClientId_clientId (hb : t.Built) :
    (∀ s n, t.findByClientId s = .ok (some n) → t.clientId n = .ok s) ∧
      ((∀ node ∈ t.nodes, t.separator ∉ node.id.toList) → t.DistinctInScopes →
        ∀ n, n < t.size → n ≠ root → (t.clientId n).bind t.findByClientId = .ok (some n)) := by
  have w := hb.wellFormed
  refine ⟨fun s n hf => ?_, fun hsep hd n hn hr => ?_⟩
  · rw [findByClientId_eq, Except.ok.injEq] at hf
    have hnames := w.names_of_findBelow hf
    have hn : n < t.size := by
      rw [← names_ne_nil_iff, hnames]
      exact Text.piecesBetween_ne_nil t.separator s
    rw [w.clientId_eq hn, hnames, Text.joinWith_piecesBetween]
  · have hparts : ∀ part ∈ t.names n, t.separator ∉ part.toList := by
      intro part hpart
      obtain ⟨h, hi⟩ := w.exists_idAt_of_mem_names hn hr part hpart
      obtain ⟨node, hnode, rfl⟩ := Option.map_eq_some_iff.1 hi
      exact hsep node (Array.mem_of_getElem? hnode)
    rw [w.clientId_eq hn, Except.bind, findByClientId_eq,
      Text.piecesBetween_joinWith (names_ne_nil_iff.2 hn) hparts, w.findBelow_names hd hn hr]

/-- Two forms with a field of the same id, the one of them inside of a panel. -/
def twoForms : Tree :=
  .ofOutlines ':'
    [.mk "f" .form [.mk "panel" .component [.mk "name" .component []]],
      .mk "g" .form [.mk "name" .component []]]

/-- The client ids of the two fields tell them apart. -/
theorem findByClientId_clientId_twoForms :
    twoForms.findByClientId "f:name" = .ok (some 3) ∧ twoForms.clientId 3 = .ok "f:name" ∧
      (twoForms.clientId 5).bind twoForms.findByClientId = .ok (some 5) := by
  have hb : twoForms.Built := .ofOutlines ':' _
  have hd : twoForms.DistinctInScopes := hb.wellFormed.distinctInScopes_iff.2 (by decide +kernel)
  have hf : twoForms.findByClientId "f:name" = .ok (some 3) := rfl
  obtain ⟨sound, complete⟩ := findByClientId_clientId hb
  exact ⟨hf, sound _ _ hf, complete (by decide +kernel) hd 5 (by decide +kernel) (by decide)⟩

end Tree

end ViewQuery.Component
