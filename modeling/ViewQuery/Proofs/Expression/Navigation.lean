import ViewQuery.Proofs.Component.Base
import ViewQuery.Proofs.Expression.Absolute
import ViewQuery.Proofs.Number.Index

/-!
# Navigation

Where the keywords for components around a component lead, and how they fit together. A segment is
resolved by the rule that serves it; whether it stands alone or is a link of a chain does not
matter.

* `Rule.childIndex_childKeyword`: the index of a child is read as it is written;
* `Rule.neighbour_next_iff`, `Rule.neighbour_previous_iff`: neighbours are adjacent children;
* `Resolver.leadsTo`: where a segment leads to from a component;
* `Resolver.component_eq_ok_iff_leadsTo`: a keyword that stands alone leads to the same component;
* `Resolver.namingContainer_prefixes`: the naming container in client ids and paths;
* `Resolver.navigation_inverse`: neighbours, children and parents are inverse to each other.
-/

namespace ViewQuery.Expression

open ViewQuery.Component (Handle Tree)
open ViewQuery.Text (trimmed)

/-! ## The segment for a child -/

/-- The segment for a child by its index. -/
def childKeyword (n : Nat) : String := "@child(" ++ toString n ++ ")"

theorem toList_childKeyword (n : Nat) :
    (childKeyword n).toList = "@child".toList ++ '(' :: ((toString n).toList ++ [')']) := by
  simp [childKeyword]

theorem isBlank_of_mem_childKeyword {n : Nat} {c : Char} (hc : c ∈ (childKeyword n).toList) :
    Text.isBlank c = false := by
  have hparts : c ∈ "@child(".toList ∨ c ∈ (toString n).toList ∨ c = ')' := by
    simpa [childKeyword, or_assoc] using hc
  rcases hparts with hc | hc | rfl
  · have hkeyword : "@child(".toList.all fun c => !Text.isBlank c := by decide
    simpa using List.all_eq_true.1 hkeyword c hc
  · exact Number.isBlank_of_mem_repr hc
  · rfl

namespace Rule

variable {t : Tree} {a b p : Handle}

/-- The argument of a keyword in front of a parenthesis goes to the last closing one, and what
stands behind that does not show. -/
theorem argument_eq_some_iff {keyword rest inside : List Char} (hk : '(' ∉ keyword) :
    argument (keyword ++ '(' :: rest) = some inside ↔
      ∃ behind, ')' ∉ behind ∧ rest = inside ++ ')' :: behind := by
  have hopen : Text.cutAt ['('] (keyword ++ '(' :: rest) = some (keyword, rest) :=
    Text.cutAt_singleton_eq_some_iff.2 ⟨hk, rfl⟩
  simp only [argument, hopen, Option.bind_eq_bind, Option.bind_some, Option.bind_eq_some_iff, pure,
    Option.some.injEq, Prod.exists]
  constructor
  · rintro ⟨behind, reversed, hclose, rfl⟩
    obtain ⟨hno, hrest⟩ := Text.cutAt_singleton_eq_some_iff.1 hclose
    refine ⟨behind.reverse, by simpa using hno, ?_⟩
    simpa using congrArg List.reverse hrest
  · rintro ⟨behind, hno, rfl⟩
    refine ⟨behind.reverse, inside.reverse, ?_, List.reverse_reverse inside⟩
    exact Text.cutAt_singleton_eq_some_iff.2 ⟨by simpa using hno, by simp⟩

/-- The index of the segment for a child is the one that it is written with, if this is an index at
all. -/
theorem childIndex_childKeyword (n : Nat) :
    childIndex (childKeyword n) = if n < Number.indexBound then some n else Option.none := by
  have hblank : ∀ c ∈ (toString n).toList, Text.isBlank c = false := fun c hc =>
    Number.isBlank_of_mem_repr hc
  have hargument := (@argument_eq_some_iff "@child".toList _ _ (by decide)).2
    ⟨[], List.not_mem_nil, @rfl _ ((toString n).toList ++ [')'])⟩
  rw [childIndex, toList_childKeyword, hargument, Option.bind_some, Text.trim_eq_self hblank,
    Number.readIndex_repr_eq]

/-! ## Neighbours -/

/-- The second component is right behind the first one among the children of their parent. -/
def Adjacent (t : Tree) (a b : Handle) : Prop :=
  ∃ (p : Handle) (i : Nat), (t.children p)[i]? = some a ∧ (t.children p)[i + 1]? = some b

theorem parent_of_getElem?_children (w : t.WellFormed) {i : Nat}
    (ha : (t.children p)[i]? = some a) : t.parent a = some p :=
  w.mem_children_iff.1 (List.mem_of_getElem? ha)

/-- A component is found among the children of its parent at its own place only. -/
theorem findIdx?_children (w : t.WellFormed) {i : Nat} (ha : (t.children p)[i]? = some a) :
    (t.children p).findIdx? (· == a) = some i := by
  obtain ⟨hi, rfl⟩ := List.getElem?_eq_some_iff.1 ha
  rw [List.findIdx?_eq_some_iff_getElem]
  refine ⟨hi, beq_self_eq_true _, fun j hj => ?_⟩
  have hlt := List.pairwise_iff_getElem.1 (w.sorted p) j i (Nat.lt_trans hj hi) hi hj
  simpa using Nat.ne_of_lt hlt

theorem neighbour_next (w : t.WellFormed) {i : Nat} (ha : (t.children p)[i]? = some a) :
    neighbour t .next a = (t.children p)[i + 1]? := by
  simp only [neighbour, parent_of_getElem?_children w ha, Option.bind_eq_bind,
    Option.bind_some, findIdx?_children w ha]

theorem neighbour_previous (w : t.WellFormed) {i : Nat} (ha : (t.children p)[i]? = some a) :
    neighbour t .previous a = if i = 0 then Option.none else (t.children p)[i - 1]? := by
  simp only [neighbour, parent_of_getElem?_children w ha, Option.bind_eq_bind,
    Option.bind_some, findIdx?_children w ha]

/-- A component with a neighbour has a place among the children of its parent. -/
theorem exists_place_of_neighbour {side : Side} (hn : neighbour t side a = some b) :
    ∃ (p : Handle) (i : Nat), (t.children p)[i]? = some a := by
  obtain ⟨p, -, hn⟩ := Option.bind_eq_some_iff.1 hn
  obtain ⟨i, hi, -⟩ := Option.bind_eq_some_iff.1 hn
  obtain ⟨hlt, hia, -⟩ := List.findIdx?_eq_some_iff_getElem.1 hi
  exact ⟨p, i, List.getElem?_eq_some_iff.2 ⟨hlt, eq_of_beq hia⟩⟩

theorem neighbour_next_iff (w : t.WellFormed) :
    neighbour t .next a = some b ↔ Adjacent t a b := by
  constructor
  · intro hn
    obtain ⟨p, i, ha⟩ := exists_place_of_neighbour hn
    rw [neighbour_next w ha] at hn
    exact ⟨p, i, ha, hn⟩
  · rintro ⟨p, i, ha, hb⟩
    rw [neighbour_next w ha, hb]

theorem neighbour_previous_iff (w : t.WellFormed) :
    neighbour t .previous b = some a ↔ Adjacent t a b := by
  constructor
  · intro hn
    obtain ⟨p, i, hb⟩ := exists_place_of_neighbour hn
    rw [neighbour_previous w hb] at hn
    split at hn
    · cases hn
    · rename_i hi
      exact ⟨p, i - 1, hn, by rw [Nat.sub_add_cancel (Nat.pos_of_ne_zero hi), hb]⟩
  · rintro ⟨p, i, ha, hb⟩
    rw [neighbour_previous w hb, if_neg (Nat.succ_ne_zero i), Nat.add_sub_cancel, ha]

/-- Children have greater handles than their parent, and each a greater one than those before. -/
theorem add_lt_of_getElem?_children (w : t.WellFormed) {i : Nat}
    (hb : (t.children a)[i]? = some b) : a + i < b := by
  induction i generalizing b with
  | zero => exact w.parent_lt (parent_of_getElem?_children w hb)
  | succ i ih =>
    obtain ⟨hi, rfl⟩ := List.getElem?_eq_some_iff.1 hb
    have hlt := List.pairwise_iff_getElem.1 (w.sorted a) i (i + 1) (Nat.lt_of_succ_lt hi) hi
      (Nat.lt_succ_self i)
    exact Nat.lt_of_le_of_lt (ih (List.getElem?_eq_getElem _)) hlt

/-- A child is at one place among the children of its parent. -/
theorem exists_unique_place (w : t.WellFormed) (hp : t.parent b = some a) :
    ∃ n : Nat, (t.children a)[n]? = some b ∧
      ∀ m : Nat, (t.children a)[m]? = some b → m = n := by
  obtain ⟨n, hn⟩ := List.mem_iff_getElem?.1 (w.mem_children_iff.2 hp)
  refine ⟨n, hn, fun m hm => ?_⟩
  exact Option.some.inj ((findIdx?_children w hm).symm.trans (findIdx?_children w hn))

end Rule

namespace Resolver

variable {r : Resolver} {t : Tree} {a b h p anchor : Handle} {segment : String} {rule : Rule}

/-! ## Where segments lead -/

/-- Where a segment leads to from a component, if anywhere, by the rule that serves it. -/
def leadsTo (r : Resolver) (t : Tree) (anchor : Handle) (segment : String) :
    Except Failure (Option Handle) :=
  match r.registry.find segment with
  | some rule => rule.resolve t anchor anchor segment
  | none => .error (.error (.unknownKeyword segment segment))

theorem leadsTo_of_find (hf : r.registry.find segment = some rule) :
    r.leadsTo t anchor segment = rule.resolve t anchor anchor segment := by
  rw [leadsTo, hf]

theorem leadsTo_eq_ok_some_iff :
    r.leadsTo t anchor segment = .ok (some h) ↔ r.LinkLeads t anchor segment h := by
  rw [leadsTo, LinkLeads]
  cases r.registry.find segment with
  | none => simp
  | some rule => simp

/-! ## Keywords that stand alone -/

theorem splitSegments_of_not_mem {separator : Char} (hs : separator ∉ segment.toList) :
    splitSegments separator segment = [segment] := by
  rw [splitSegments, segmentsFrom_of_not_mem hs, List.map_singleton, String.ofList_toList]

/-- A keyword for the server that stands alone leads where it leads as a link, unless the separator
is one of its characters. -/
theorem component_eq_ok_iff_leadsTo (hm : keywordMark ∈ segment.toList)
    (hs : t.separator ∉ segment.toList) (ht : trimmed segment = segment)
    (hnone : segment ≠ noneKeyword) (hf : r.registry.find segment = some rule)
    (hc : rule.isClientOnly = false) :
    (r.component t anchor segment).outcome = .ok (some h) ↔
      r.leadsTo t anchor segment = .ok (some h) := by
  have hne : segment ≠ "" := by
    rintro rfl
    simp at hm
  have hsegments := splitSegments_of_not_mem hs
  have hcheck : r.check t anchor segment = .ok () := by
    rw [check_eq_ok_iff, breach, hsegments, if_neg]
    · simp
    · rw [List.isPrefixOf_iff_prefix]
      rintro ⟨rest, hrest⟩
      exact hs (hrest ▸ List.mem_cons_self)
  have hclient : r.isClientOnly t segment = false := by
    rw [isClientOnly, soleRule, hsegments]
    simp [ht, hf, hc]
  have hfind : (r.find t anchor segment).outcome = r.step t anchor anchor segment segment := by
    unfold find
    rw [if_neg (by simpa using holds_iff.2 hm), if_pos (by simpa using mt holds_iff.1 hs),
      Trail.outcome_lift]
  rw [component_eq_ok_iff, ht, hfind, step_eq_ok_iff, leadsTo_eq_ok_some_iff]
  simp [hne, hcheck, hnone, hclient]

/-! ## The naming container -/

/-- What the keyword for the naming container leads to makes up client ids and is the base of paths.
The client id of a component is that of the naming container and its own id, or its own id alone if
there is none; and where the component is no naming container itself, paths lead to the same
components from it and from the naming container, or from the root if there is none. -/
theorem namingContainer_prefixes (hb : t.Built) (stage : Stage) {n : Handle} (hn : n < t.size)
    (hr : n ≠ Tree.root) :
    ∃ found id, (builtin stage).leadsTo t n "@namingcontainer" = .ok found ∧
      t.localId n = .ok id ∧
      (∀ m, found = some m → ∃ outer, t.clientId m = .ok outer ∧
        t.clientId n = .ok (outer ++ String.singleton t.separator ++ id)) ∧
      (found = none → t.clientId n = .ok id) ∧
      (t.isNaming n = false → ∀ path,
        t.findByPath n path = t.findByPath (found.getD Tree.root) path) ∧
      (t.separator ∉ "@namingcontainer".toList → ∀ m,
        ((builtin stage).component t n "@namingcontainer").outcome = .ok (some m) ↔
          found = some m) := by
  have w := hb.wellFormed
  obtain ⟨p, hp⟩ := w.exists_parent hn hr
  obtain ⟨node, hnode⟩ := Tree.exists_node hn
  obtain ⟨b, hbase, -⟩ := w.exists_isBase (Nat.lt_trans (w.parent_lt hp) hn)
  obtain ⟨outer, houter, hid⟩ := w.clientId_of_isBase hbase hp (Tree.idAt_of_node hnode)
  have hfind : (builtin stage).registry.find "@namingcontainer" =
      some (.enclosing .namingContainer) := rfl
  have hleads : (builtin stage).leadsTo t n "@namingcontainer" =
      .ok (if t.isNaming b then some b else none) := by
    rw [leadsTo_of_find hfind]
    exact congrArg ofTree (w.find?_ancestors_of_isBase hbase hp)
  have hlocal : t.localId n = .ok node.id := by
    rw [Tree.localId, Tree.node_eq_ok_iff.2 hnode, Except.map]
  have halone : ∀ found, (builtin stage).leadsTo t n "@namingcontainer" = .ok found →
      t.separator ∉ "@namingcontainer".toList → ∀ m,
        ((builtin stage).component t n "@namingcontainer").outcome = .ok (some m) ↔
          found = some m := by
    intro found hfound hs m
    rw [component_eq_ok_iff_leadsTo (by decide) hs rfl (by decide) hfind rfl, hfound,
      Except.ok.injEq]
  rcases hbase.root_or_naming with rfl | hk
  · rw [w.isNaming_root] at hleads
    refine ⟨none, node.id, hleads, hlocal, by simp, fun _ => hid, fun hself path => ?_,
      halone none hleads⟩
    exact w.findByPath_congr (hbase.step hself hp) (Tree.isBase_self (.inl rfl)) path
  · have hbr : b ≠ Tree.root := by
      rintro rfl
      rw [w.isNaming_root] at hk
      cases hk
    rw [hk] at hleads
    rw [if_neg hbr] at hid
    refine ⟨some b, node.id, hleads, hlocal, ?_, by simp, fun hself path => ?_,
      halone (some b) hleads⟩
    · rintro _ ⟨⟩
      exact ⟨outer, houter, hid⟩
    · exact w.findByPath_congr (hbase.step hself hp) (Tree.isBase_self (.inr hk)) path

/-- The field is inside of a component that is no naming container, and this is inside of a form. -/
theorem namingContainer_prefixes_twoForms :
    let t := Tree.twoForms
    (builtin .development).leadsTo t 3 "@namingcontainer" = .ok (some 1) ∧
      t.clientId 3 = .ok ("f" ++ String.singleton ':' ++ "name") ∧
      ∀ path, t.findByPath 3 path = t.findByPath 1 path := by
  intro t
  have hb : t.Built := .ofOutlines ':' _
  have hleads : (builtin .development).leadsTo t 3 "@namingcontainer" = .ok (some 1) := rfl
  obtain ⟨found, id, hfound, hid, hsome, -, hpath, -⟩ :=
    @namingContainer_prefixes t hb .development 3 (by decide +kernel) (by decide)
  obtain rfl : some 1 = found := Except.ok.inj (hleads.symm.trans hfound)
  obtain rfl : "name" = id := Except.ok.inj (Eq.trans rfl hid)
  obtain ⟨outer, houter, hclient⟩ := hsome 1 rfl
  obtain rfl : "f" = outer := Except.ok.inj (Eq.trans rfl houter)
  exact ⟨hleads, hclient, hpath rfl⟩

/-! ## Neighbours, children and parents -/

theorem find_childKeyword (stage : Stage) (n : Nat) :
    (builtin stage).registry.find (childKeyword n) = some .child := by
  rw [Registry.find, toList_childKeyword]
  rfl

/-- Where the segment for a child leads to. -/
theorem leadsTo_childKeyword {stage : Stage} {n : Nat} (hn : n < Number.indexBound) :
    (builtin stage).leadsTo t a (childKeyword n) = .ok (t.children a)[n]? := by
  rw [leadsTo_of_find (find_childKeyword stage n), Rule.resolve, Rule.childIndex_childKeyword,
    if_pos hn]

theorem leadsTo_childKeyword_eq_some_iff {stage : Stage} {n : Nat} :
    (builtin stage).leadsTo t a (childKeyword n) = .ok (some b) ↔
      n < Number.indexBound ∧ (t.children a)[n]? = some b := by
  by_cases hn : n < Number.indexBound
  · rw [leadsTo_childKeyword hn, Except.ok.injEq, and_iff_right hn]
  · rw [leadsTo_of_find (find_childKeyword stage n), Rule.resolve, Rule.childIndex_childKeyword,
      if_neg hn]
    cases ofTree (t.clientId a) <;> simp [hn, bind, Except.bind]

/-- The segment for a child can stand alone. -/
theorem component_childKeyword_iff {stage : Stage} {n : Nat}
    (hs : t.separator ∉ (childKeyword n).toList) :
    ((builtin stage).component t a (childKeyword n)).outcome = .ok (some b) ↔
      (builtin stage).leadsTo t a (childKeyword n) = .ok (some b) := by
  have htrim : trimmed (childKeyword n) = childKeyword n := by
    rw [trimmed, Text.trim_eq_self fun _ => isBlank_of_mem_childKeyword, String.ofList_toList]
  have hnone : childKeyword n ≠ noneKeyword := by
    intro h
    have hmem : '(' ∈ noneKeyword.toList := by
      rw [← h, toList_childKeyword]
      simp
    revert hmem
    decide
  refine component_eq_ok_iff_leadsTo ?_ hs htrim hnone (find_childKeyword stage n) rfl
  rw [toList_childKeyword]
  simp [keywordMark]

/-- The keywords for components around a component are inverse to each other. A component is the
next one of another exactly if this is the previous one of it; the parent of a child is where the
child was asked for; and each child has one index, behind which the next component is the child of
the following index. A child whose handle lies below the bound of indexes has an index below it, and
so has the one behind. As expressions the keywords lead where they lead as links, unless they hold
the separator. -/
theorem navigation_inverse (hb : t.Built) (stage : Stage) :
    let leads := fun a segment b => (builtin stage).leadsTo t a segment = .ok (some b)
    (∀ a b, leads a "@next" b ↔ leads b "@previous" a) ∧
      (∀ a b n, n < Number.indexBound → leads a (childKeyword n) b → leads b "@parent" a) ∧
      (∀ a b, b < Number.indexBound → t.parent b = some a →
        ∃ n, leads a (childKeyword n) b ∧ (∀ m, leads a (childKeyword m) b → m = n) ∧
          (builtin stage).leadsTo t b "@next" =
            (builtin stage).leadsTo t a (childKeyword (n + 1))) ∧
      ∀ segment, (segment ∈ ["@next", "@previous", "@parent"] ∨ ∃ n, segment = childKeyword n) →
        t.separator ∉ segment.toList → ∀ a b,
          ((builtin stage).component t a segment).outcome = .ok (some b) ↔ leads a segment b := by
  have w := hb.wellFormed
  have hnext (a : Handle) : (builtin stage).leadsTo t a "@next" = .ok (Rule.neighbour t .next a) :=
    rfl
  have hprevious (a : Handle) :
      (builtin stage).leadsTo t a "@previous" = .ok (Rule.neighbour t .previous a) := rfl
  have hparent (a : Handle) : (builtin stage).leadsTo t a "@parent" = .ok (t.parent a) := rfl
  intro leads
  refine ⟨fun a b => ?_, fun a b n hn hl => ?_, fun a b hlt hp => ?_, fun segment hk hs a b => ?_⟩
  · simp only [leads, hnext, hprevious, Except.ok.injEq]
    rw [Rule.neighbour_next_iff w, Rule.neighbour_previous_iff w]
  · have hplace := (leadsTo_childKeyword_eq_some_iff.1 hl).2
    simp only [leads, hparent, Except.ok.injEq]
    exact Rule.parent_of_getElem?_children w hplace
  · obtain ⟨n, hn, hunique⟩ := Rule.exists_unique_place w hp
    have hbound : n + 1 < Number.indexBound :=
      calc n + 1 ≤ a + n + 1 := Nat.succ_le_succ (Nat.le_add_left n a)
        _ ≤ b := Rule.add_lt_of_getElem?_children w hn
        _ < Number.indexBound := hlt
    refine ⟨n, ?_, fun m hm => hunique m (leadsTo_childKeyword_eq_some_iff.1 hm).2, ?_⟩
    · exact leadsTo_childKeyword_eq_some_iff.2 ⟨Nat.lt_of_succ_lt hbound, hn⟩
    · rw [hnext, Rule.neighbour_next w hn, leadsTo_childKeyword hbound]
  · rcases hk with hk | ⟨n, rfl⟩
    · simp only [List.mem_cons, List.not_mem_nil, or_false] at hk
      rcases hk with rfl | rfl | rfl
      all_goals exact component_eq_ok_iff_leadsTo (by decide) hs rfl (by decide) rfl rfl
    · exact component_childKeyword_iff hs

/-- The two forms are the children of the root. -/
theorem navigation_inverse_twoForms :
    let t := Tree.twoForms
    let r := builtin .development
    r.leadsTo t 4 "@previous" = .ok (some 1) ∧ r.leadsTo t 4 "@parent" = .ok (some 0) ∧
      r.leadsTo t 1 "@next" = r.leadsTo t 0 "@child(1)" ∧
      (r.component t 4 "@previous").outcome = .ok (some 1) := by
  intro t r
  have hb : t.Built := .ofOutlines ':' _
  have hfirst : r.leadsTo t 0 (childKeyword 0) = .ok (some 1) := by decide +kernel
  obtain ⟨hnext, hparent, hplace, halone⟩ := @navigation_inverse t hb .development
  have hprevious : r.leadsTo t 4 "@previous" = .ok (some 1) := (hnext 1 4).1 (by decide +kernel)
  obtain ⟨n, -, hunique, hn⟩ := hplace 0 1 (by decide) rfl
  obtain rfl : 0 = n := hunique 0 hfirst
  exact ⟨hprevious, hparent 0 4 1 (by decide) (by decide +kernel), hn,
    (halone "@previous" (by simp) (by decide) 4 1).2 hprevious⟩

end Resolver

end ViewQuery.Expression
