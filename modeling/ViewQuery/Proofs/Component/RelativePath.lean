import Mathlib.Data.List.TakeWhile
import ViewQuery.Proofs.Component.Additions
import ViewQuery.Proofs.Component.Base
import ViewQuery.Proofs.Component.Reading

/-!
# Relative paths

A path that does not start with the separator is read from the base of its anchor. What it leads to
has the client id of the base with the path behind it, and where ids tell components apart, it leads
to every component below the base that has such a client id. Only a path that starts with the id of
the base itself leads elsewhere: its first id is taken for the base.

* `firstId`, `afterFirstId`: a path cut at its first separator;
* `Tree.WellFormed.names_of_findBelow_naming`: the names of what a path leads to from a naming
  container;
* `Tree.WellFormed.exists_ids_of_atOrAbove`: ids that lead from a base to a component below it;
* `Tree.clientId_findByPath_relative`: client ids and relative paths.
-/

namespace ViewQuery.Component

open ViewQuery.Text (joinWith piecesBetween)

/-! ## The first id of a path -/

/-- The first id of a path. -/
def firstId (separator : Char) (path : String) : String :=
  .ofList (path.toList.takeWhile (· ≠ separator))

/-- What a path holds behind its first id: nothing, or a separator and the other ids. -/
def afterFirstId (separator : Char) (path : String) : String :=
  .ofList (path.toList.dropWhile (· ≠ separator))

/-- The ids of a path are its first id and others, and joined behind other ids these make up what
the path holds behind its first id. -/
theorem piecesBetween_eq_firstId_cons (separator : Char) (path : String) :
    ∃ rest, piecesBetween separator path = firstId separator path :: rest ∧
      ∀ front ≠ [], joinWith separator (front ++ rest) =
        joinWith separator front ++ afterFirstId separator path := by
  have hfirst : separator ∉ path.toList.takeWhile (· ≠ separator) := fun hm => by
    simpa using List.mem_takeWhile_imp hm
  have hpath := List.takeWhile_append_dropWhile (p := (· ≠ separator)) (l := path.toList)
  cases hafter : path.toList.dropWhile (· ≠ separator) with
  | nil =>
    rw [hafter, List.append_nil] at hpath
    refine ⟨[], ?_, fun front _ => ?_⟩
    · rw [piecesBetween, firstId, hpath, List.splitOn_eq_singleton (hpath ▸ hfirst)]
      rfl
    · rw [List.append_nil, afterFirstId, hafter, String.ofList_nil, String.append_empty]
  | cons c after =>
    have hc : c = separator := by
      have hhead := List.head?_dropWhile_not (· ≠ separator) path.toList
      rw [hafter] at hhead
      simpa using hhead
    subst hc
    rw [hafter] at hpath
    refine ⟨piecesBetween c (.ofList after), ?_, fun front hfront => ?_⟩
    · rw [piecesBetween, ← hpath, List.splitOn_append_cons_self_of_not_mem hfirst, List.map_cons,
        piecesBetween, String.toList_ofList, firstId]
    · rw [Text.joinWith_append hfront (Text.piecesBetween_ne_nil _ _), Text.joinWith_piecesBetween,
        afterFirstId, hafter, String.append_assoc, ← String.toList_inj]
      simp

namespace Tree

variable {t : Tree} {a b c n p : Handle} {first : String} {ids rest : List String}

theorem findBelow_cons (first : String) (rest : List String) :
    t.findBelow b (first :: rest) =
      t.descendAll (if t.idAt b = some first ∧ b ≠ root then some b else t.findWithin b first)
        rest :=
  rfl

namespace WellFormed

/-! ## What a path leads to -/

/-- From a naming container, a path leads to a component with these names behind those of the naming
container, which its first id may be one of. -/
theorem names_of_findBelow_naming (w : t.WellFormed) (hk : t.isNaming b = true)
    (hf : t.findBelow b (first :: rest) = some n) :
    t.names n = t.names b ++ if t.idAt b = some first then rest else first :: rest := by
  have hr : b ≠ root := by
    rintro rfl
    rw [w.isNaming_root] at hk
    cases hk
  rw [findBelow_cons] at hf
  obtain ⟨h, hs, hn⟩ := w.names_of_descendAll hf
  rw [hn]
  by_cases hself : t.idAt b = some first
  · rw [if_pos ⟨hself, hr⟩] at hs
    rw [if_pos hself, Option.some.inj hs]
  · rw [if_neg fun h => hself h.1] at hs
    obtain ⟨hin, hi⟩ := w.inScope_of_findWithin hs
    rw [if_neg hself, w.names_of_inScope_naming hk hin hi, List.append_assoc, List.singleton_append]

/-- The client id of what a path leads to from a base. -/
theorem clientId_of_findBelow (w : t.WellFormed) (hb : b = root ∨ t.isNaming b = true)
    (hbs : b < t.size) {own path : String} (hown : t.clientId b = .ok own)
    (hf : t.findBelow b (piecesBetween t.separator path) = some n) :
    t.clientId n = .ok (
      if b = root then path
      else if t.idAt b = some (firstId t.separator path) then own ++ afterFirstId t.separator path
      else own ++ String.singleton t.separator ++ path) := by
  rw [w.clientId_eq hbs] at hown
  rw [w.clientId_eq ((w.readBelow_eq hbs _).2 n hf), ← Except.ok.inj hown]
  split
  · rename_i hr
    rw [w.names_of_findBelow (hr ▸ hf), Text.joinWith_piecesBetween]
  · rename_i hr
    have hne : t.names b ≠ [] := names_ne_nil_iff.2 hbs
    obtain ⟨rest, hpieces, hafter⟩ := piecesBetween_eq_firstId_cons t.separator path
    rw [hpieces] at hf
    rw [w.names_of_findBelow_naming (hb.resolve_left hr) hf]
    split
    · rw [hafter _ hne]
    · rw [Text.joinWith_append hne (List.cons_ne_nil _ _), ← hpieces, Text.joinWith_piecesBetween]

/-! ## What leads to a component -/

/-- Inside of a base, ids lead to each component below it, and its names are these ids, behind those
of the base if this is a naming container. -/
theorem exists_ids_of_atOrAbove (w : t.WellFormed) (hd : t.DistinctInScopes)
    (hb : b = root ∨ t.isNaming b = true) (ha : t.AtOrAbove b n) (hne : b ≠ n) :
    ∃ first rest, t.names n = (if b = root then [] else t.names b) ++ first :: rest ∧
      t.descendAll (t.findWithin b first) rest = some n := by
  -- From scope to scope: the component is in the scope of the base itself, or of a naming container
  -- that is below the base, too.
  induction n using Nat.strongRecOn with
  | ind n ih =>
    obtain ⟨p, hp⟩ := ha.exists_parent hne
    obtain ⟨m, hm⟩ := exists_node (lt_size_of_parent hp)
    have hi : t.idAt n = some m.id := idAt_of_node hm
    have hps : p < t.size := Nat.lt_trans (w.parent_lt hp) (lt_size_of_parent hp)
    obtain ⟨c, hc, -⟩ := w.exists_isBase hps
    have hs : t.InScope c n := w.inScope_of_isBase hc hp
    have hnames := w.names_of_isBase hc hp hi
    have hfind : t.findWithin c m.id = some n := w.findWithin_of_inScope hs hi
      fun m' hm' hi' => hd c hc.root_or_naming m' n hm' hs (hi'.trans hi.symm)
    by_cases hbc : b = c
    · subst hbc
      refine ⟨m.id, [], ?_, hfind⟩
      rw [hnames]
      split <;> rfl
    · have hbelow : t.AtOrAbove b c := by
        rcases hb with rfl | hk
        · exact w.atOrAbove_root (Nat.lt_trans (w.base_lt_of_inScope hs) hs.lt_size)
        · exact hc.closest b hk (ha.of_parent hne hp)
      have hcr : c ≠ root := fun hcr =>
        hbc (Nat.le_antisymm (w.le_of_atOrAbove hbelow) (hcr ▸ Nat.zero_le b))
      obtain ⟨first, rest, hcn, hcf⟩ := ih c (w.base_lt_of_inScope hs) hbelow hbc
      refine ⟨first, rest ++ [m.id], ?_, ?_⟩
      · rw [hnames, if_neg hcr, hcn, List.append_assoc, List.cons_append]
      · rw [descendAll_concat, hcf, Option.bind_some,
          descend_of_isNaming (hc.root_or_naming.resolve_left hcr), hfind]

/-- Where ids tell components apart, a path from a base leads to the component below it whose client
id is that of the base with the path behind it, unless the path begins with the id of the base. -/
theorem findBelow_of_clientId (w : t.WellFormed) (hd : t.DistinctInScopes)
    (hsep : ∀ node ∈ t.nodes, t.separator ∉ node.id.toList)
    (hb : b = root ∨ t.isNaming b = true) (ha : t.AtOrAbove b n) (hne : b ≠ n) {own path : String}
    (hown : t.clientId b = .ok own) (hself : t.idAt b ≠ some (firstId t.separator path))
    (hid : t.clientId n =
      .ok (if b = root then path else own ++ String.singleton t.separator ++ path)) :
    t.findBelow b (piecesBetween t.separator path) = some n := by
  obtain ⟨p, hp⟩ := ha.exists_parent hne
  have hn : n < t.size := lt_size_of_parent hp
  have hbs : b < t.size := Nat.lt_of_le_of_lt (w.le_of_atOrAbove ha) hn
  have hnr : n ≠ root := fun hr =>
    hne (Nat.le_antisymm (w.le_of_atOrAbove ha) (hr ▸ Nat.zero_le b))
  obtain ⟨first, rest, hnames, hfind⟩ := w.exists_ids_of_atOrAbove hd hb ha hne
  rw [w.clientId_eq hbs, Except.ok.injEq] at hown
  rw [w.clientId_eq hn, Except.ok.injEq, hnames] at hid
  have hpath : joinWith t.separator (first :: rest) = path := by
    split at hid
    · exact hid
    · rw [Text.joinWith_append (names_ne_nil_iff.2 hbs) (List.cons_ne_nil _ _), hown] at hid
      exact (String.append_right_inj _).1 hid
  have hparts : ∀ part ∈ first :: rest, t.separator ∉ part.toList := by
    intro part hpart
    obtain ⟨h, hi⟩ := w.exists_idAt_of_mem_names hn hnr part
      (hnames ▸ List.mem_append_right _ hpart)
    obtain ⟨node, hnode, rfl⟩ := Option.map_eq_some_iff.1 hi
    exact hsep node (Array.mem_of_getElem? hnode)
  have hpieces : piecesBetween t.separator path = first :: rest := by
    rw [← hpath, Text.piecesBetween_joinWith (List.cons_ne_nil _ _) hparts]
  obtain ⟨rest', hcons, -⟩ := piecesBetween_eq_firstId_cons t.separator path
  obtain rfl : first = firstId t.separator path := (List.cons.inj (hpieces.symm.trans hcons)).1
  rw [hpieces, findBelow_cons, if_neg fun h => hself h.1, hfind]

end WellFormed

/-- What a relative path leads to. Every anchor has a base, the naming container that is closest to
it or the root. From a base that is the root, a path leads to a component whose client id is the
path; from another one to a component whose client id is that of the base with the path behind it,
where a first id that is the id of the base stands for the base itself. Conversely, where ids are
distinct in their scopes and without the separator, a path that does not begin with the id of the
base leads to the component below the base with such a client id. -/
theorem clientId_findByPath_relative (hb : t.Built) (ha : a < t.size) :
    ∃ b own, (∀ c, t.IsBase c a ↔ c = b) ∧ t.clientId b = .ok own ∧
      ∀ path : String, path ≠ "" → path.toList.head? ≠ some t.separator →
        (∀ n, t.findByPath a path = .ok (some n) → t.clientId n = .ok (
          if b = root then path
          else if t.idAt b = some (firstId t.separator path) then
            own ++ afterFirstId t.separator path
          else own ++ String.singleton t.separator ++ path)) ∧
        ((∀ node ∈ t.nodes, t.separator ∉ node.id.toList) → t.DistinctInScopes →
          t.idAt b ≠ some (firstId t.separator path) →
          ∀ n, t.AtOrAbove b n → b ≠ n →
            t.clientId n = .ok (
              if b = root then path else own ++ String.singleton t.separator ++ path) →
            t.findByPath a path = .ok (some n)) := by
  have w := hb.wellFormed
  obtain ⟨b, hbase, hsearch, -⟩ := w.exists_isBase ha
  have hbs : b < t.size := Nat.lt_of_le_of_lt (w.le_of_atOrAbove hbase.atOrAbove) ha
  refine ⟨b, _, fun c => ⟨fun hc => w.isBase_unique hc hbase, fun hc => hc ▸ hbase⟩,
    w.clientId_eq hbs, fun path hne hrel => ?_⟩
  rw [findByPath_of_relative hne hrel, hsearch, Except.bind]
  refine ⟨fun n hf => ?_, fun hsep hd hself n hbelow hbn hid => ?_⟩
  · exact w.clientId_of_findBelow hbase.root_or_naming hbs (w.clientId_eq hbs) (Except.ok.inj hf)
  · rw [w.findBelow_of_clientId hd hsep hbase.root_or_naming hbelow hbn (w.clientId_eq hbs) hself
      hid]

/-- A form with a field, a panel with a button, and a group with another button. -/
def formWithPanel : Tree :=
  .ofOutlines ':'
    [.mk "form" .form
      [.mk "name" .component [], .mk "panel" .naming [.mk "save" .component []],
        .mk "group" .component [.mk "cancel" .component []]]]

/-- From the button in the panel, the first id stands for the panel itself. From the field, the same
path is read from the form. -/
theorem clientId_findByPath_relative_panel :
    let t := formWithPanel
    t.findByPath 4 "panel:save" = .ok (some 4) ∧
      t.clientId 4 = .ok ("form:panel" ++ afterFirstId ':' "panel:save") ∧
      t.clientId 4 = .ok ("form" ++ String.singleton ':' ++ "panel:save") ∧
      t.findByPath 2 "panel:save" = .ok (some 4) := by
  intro t
  have hb : t.Built := .ofOutlines ':' _
  have w := hb.wellFormed
  have hd : t.DistinctInScopes := w.distinctInScopes_iff.2 (by decide +kernel)
  obtain ⟨b, own, hbase, hown, hpath⟩ := @clientId_findByPath_relative t 4 hb (by decide +kernel)
  obtain ⟨c, outer, hbase', houter, hclosest⟩ :=
    @clientId_findByPath_relative t 2 hb (by decide +kernel)
  obtain rfl : 3 = b := (hbase 3).1 (w.isBase_iff.2 rfl)
  obtain rfl : 1 = c := (hbase' 1).1 (w.isBase_iff.2 rfl)
  obtain rfl : "form:panel" = own := Except.ok.inj (Eq.trans rfl hown)
  obtain rfl : "form" = outer := Except.ok.inj (Eq.trans rfl houter)
  have hsave : t.findByPath 4 "panel:save" = .ok (some 4) := rfl
  have hbelow : t.AtOrAbove 1 4 := .step (.step .refl (show t.parent 3 = some 1 from rfl)) rfl
  have hid : t.clientId 4 = .ok ("form" ++ String.singleton ':' ++ "panel:save") := rfl
  exact ⟨hsave, (hpath "panel:save" (by decide) (by decide)).1 4 hsave, hid,
    (hclosest "panel:save" (by decide) (by decide)).2 (by decide +kernel) hd (by decide) 4 hbelow
      (by decide) hid⟩

end Tree

end ViewQuery.Component
