import ViewQuery.Proofs.Component.Path

/-!
# What a walk reads

Walks through a tree that was built read components of the tree only, and come to an end. A client
id and a search base say so themselves, since they end in a fault otherwise. Looking for an id does
not, so it is compared with a search that reads every component as it goes and ends in a fault where
one is missing or where it goes deeper than the tree has components.

* `Tree.WellFormed.readWithin_eq`: that search finds what `Tree.findWithin` finds, without a fault;
* `Tree.WellFormed.readPath_eq`: the same for whole paths, read from anywhere;
* `Tree.WellFormed.exists_find?_ancestors`, `Tree.WellFormed.exists_findByPath`: where a walk leads
  is in the tree.
-/

namespace ViewQuery.Component

namespace Tree

/-! ## Searching with faults -/

/-- The first result of a search in several components, in order. -/
def firstOf (search : Handle → Except Fault (Option Handle)) :
    List Handle → Except Fault (Option Handle)
  | [] => .ok none
  | h :: hs =>
    (search h).bind fun
      | some found => .ok (some found)
      | none => firstOf search hs

/-- The first component with an id below a component, no deeper than `depth`. -/
def readWithin (t : Tree) (id : String) : Nat → Handle → Except Fault (Option Handle)
  | 0, _ => .error .endless
  | depth + 1, base =>
    (t.node base).bind fun n => firstOf (fun h => (t.node h).bind fun m =>
      if m.id = id then .ok (some h)
      else if m.kind.isNamingContainer then .ok none
      else t.readWithin id depth h) n.children

/-- Go on from a component by ids, each of which takes a naming container. -/
def readOn (t : Tree) : Option Handle → List String → Except Fault (Option Handle)
  | start, [] => .ok start
  | none, _ :: _ => .ok none
  | some h, id :: ids =>
    (t.node h).bind fun n =>
      if n.kind.isNamingContainer then
        (t.readWithin id (t.size + 1) h).bind fun next => t.readOn next ids
      else .ok none

/-- The component of a path of ids below a base. -/
def readBelow (t : Tree) (base : Handle) : List String → Except Fault (Option Handle)
  | [] => .ok none
  | first :: rest =>
    (t.node base).bind fun n =>
      if n.id = first ∧ base ≠ root then t.readOn (some base) rest
      else (t.readWithin first (t.size + 1) base).bind fun start => t.readOn start rest

/-- The component of a path that is read from an anchor. -/
def readPath (t : Tree) (anchor : Handle) (path : String) : Except Fault (Option Handle) :=
  if path.isEmpty then .ok none
  else
    match Text.afterPrefix [t.separator] path.toList with
    | some rest => t.readBelow root (Text.piecesBetween t.separator (.ofList rest))
    | none =>
      (t.searchBase anchor).bind fun base => t.readBelow base (Text.piecesBetween t.separator path)

/-- Below a component that is its own child the search does not end. -/
example : let t := ((Tree.new ':').add 1 "x" .component).1
    t.readWithin "y" (t.size + 1) 1 = .error .endless := rfl

variable {t : Tree} {b h n : Handle} {id : String} {ids : List String}

/-- Look for an id at a component and then below it. -/
def readAt (t : Tree) (id : String) (depth : Nat) (h : Handle) : Except Fault (Option Handle) :=
  (t.node h).bind fun m =>
    if m.id = id then .ok (some h)
    else if m.kind.isNamingContainer then .ok none
    else t.readWithin id depth h

theorem readAt_of_node {n : Node} (hn : t.nodes[h]? = some n) (id : String) (depth : Nat) :
    t.readAt id depth h =
      if n.id = id then .ok (some h)
      else if n.kind.isNamingContainer then .ok none
      else t.readWithin id depth h := by
  rw [readAt, node_eq_ok_iff.2 hn]
  rfl

theorem readWithin_succ {n : Node} (hn : t.nodes[b]? = some n) (id : String) (depth : Nat) :
    t.readWithin id (depth + 1) b = firstOf (t.readAt id depth) (t.children b) := by
  rw [readWithin, node_eq_ok_iff.2 hn, children_of_node hn]
  rfl

/-- The first result of searches without a fault. -/
theorem firstOf_eq_findSome? {search : Handle → Except Fault (Option Handle)}
    {found : Handle → Option Handle} {hs : List Handle}
    (h : ∀ c ∈ hs, search c = .ok (found c)) : firstOf search hs = .ok (hs.findSome? found) := by
  induction hs with
  | nil => rfl
  | cons c hs ih =>
    have hrest := ih fun c' hc' => h c' (List.mem_cons_of_mem c hc')
    rw [firstOf, h c List.mem_cons_self, hrest, List.findSome?_cons]
    cases found c <;> rfl

namespace WellFormed

/-- A search that reads each component finds what the other finds, if it goes deep enough. -/
theorem readWithin_of_size_le (w : t.WellFormed) (id : String) {depth : Nat} (hb : b < t.size)
    (hdepth : t.size ≤ b + depth) : t.readWithin id depth b = .ok (t.findWithin b id) := by
  induction depth generalizing b with
  | zero => exact absurd hdepth (Nat.not_le_of_lt hb)
  | succ depth ih =>
    obtain ⟨n, hn⟩ := exists_node hb
    rw [readWithin_succ hn, w.findWithin_eq_findSome?]
    refine firstOf_eq_findSome? fun c hc => ?_
    have hcs : c < t.size := w.lt_size_of_mem_children hc
    have hlt : b < c := w.parent_lt (w.mem_children_iff.1 hc)
    obtain ⟨m, hm⟩ := exists_node hcs
    rw [readAt_of_node hm, ih hcs (size_le_of_lt hdepth hlt), idAt_of_node hm, isNaming_of_node hm]
    simp only [Option.some_inj]
    split
    · rfl
    · split
      · rfl
      · rfl

/-- From a component of the tree, a search that reads each component finds what the other finds. -/
theorem readWithin_eq (w : t.WellFormed) (hb : b < t.size) (id : String) :
    t.readWithin id (t.size + 1) b = .ok (t.findWithin b id) :=
  w.readWithin_of_size_le id hb (Nat.le_trans (Nat.le_succ _) (Nat.le_add_left ..))

theorem lt_size_of_findWithin (w : t.WellFormed) (hf : t.findWithin b id = some n) : n < t.size :=
  (w.inScope_of_findWithin hf).1.lt_size

theorem lt_size_of_descend (w : t.WellFormed) (hd : t.descend h id = some n) : n < t.size := by
  obtain ⟨m, -, hd⟩ := Option.bind_eq_some_iff.1 hd
  split at hd
  · exact w.lt_size_of_findWithin hd
  · cases hd

/-- Going on from a component of the tree leads to components of the tree. -/
theorem readOn_eq (w : t.WellFormed) {start : Option Handle} (hs : ∀ h ∈ start, h < t.size) :
    t.readOn start ids = .ok (t.descendAll start ids) ∧
      ∀ n ∈ t.descendAll start ids, n < t.size := by
  induction ids generalizing start with
  | nil =>
    rw [readOn]
    exact ⟨rfl, hs⟩
  | cons id ids ih =>
    have hcons : t.descendAll start (id :: ids) =
        t.descendAll (start.bind fun h => t.descend h id) ids := rfl
    have ih := @ih (start.bind fun h => t.descend h id) fun n hn => by
      obtain ⟨h, -, hd⟩ := Option.bind_eq_some_iff.1 hn
      exact w.lt_size_of_descend hd
    rw [hcons]
    refine ⟨?_, ih.2⟩
    cases start with
    | none => rw [readOn, Option.bind_none, descendAll_none]
    | some h =>
      have hh := hs h rfl
      obtain ⟨n, hn⟩ := exists_node hh
      have hdescend : t.descend h id =
          if n.kind.isNamingContainer then t.findWithin h id else none := by
        rw [descend, hn]
        rfl
      rw [← ih.1, readOn, node_eq_ok_iff.2 hn, Option.bind_some, hdescend, w.readWithin_eq hh]
      cases hk : n.kind.isNamingContainer with
      | true => simp [Except.bind, hk]
      | false => cases ids <;> simp [Except.bind, hk, readOn]

/-- A path of ids below a component of the tree leads to components of the tree. -/
theorem readBelow_eq (w : t.WellFormed) (hb : b < t.size) (ids : List String) :
    t.readBelow b ids = .ok (t.findBelow b ids) ∧ ∀ n ∈ t.findBelow b ids, n < t.size := by
  cases ids with
  | nil => exact ⟨rfl, by simp [findBelow]⟩
  | cons first rest =>
    obtain ⟨m, hm⟩ := exists_node hb
    have hbelow : t.findBelow b (first :: rest) =
        t.descendAll (if m.id = first ∧ b ≠ root then some b else t.findWithin b first) rest := by
      simp only [findBelow, hm, Option.map_some, Option.some_inj]
      rfl
    rw [readBelow, node_eq_ok_iff.2 hm, Except.bind, hbelow, w.readWithin_eq hb]
    by_cases hself : m.id = first ∧ b ≠ root
    · rw [if_pos hself, if_pos hself]
      refine w.readOn_eq fun h hh => ?_
      rwa [← Option.some.inj hh]
    · rw [if_neg hself, if_neg hself]
      exact w.readOn_eq fun h hh => w.lt_size_of_findWithin hh

end WellFormed

/-! ## The way up -/

/-- The components of a lineage are components of the tree. -/
theorem lt_size_of_mem_climb {fuel : Nat} {m : Handle × Node} (hm : m ∈ (t.climb fuel h).members) :
    m.1 < t.size := by
  induction fuel generalizing h with
  | zero => cases hm
  | succ fuel ih =>
    rw [climb] at hm
    split at hm
    · cases hm
    · rename_i n hn
      have hh : h < t.size := lt_size_of_node hn
      split at hm
      · rw [List.mem_singleton.1 hm]
        exact hh
      · rcases List.mem_cons.1 hm with rfl | hm
        · exact hh
        · exact ih hm

/-- A lineage that ends without a fault is searched without one. -/
theorem find?_of_fault_eq_none {l : Lineage} (hl : l.fault = none) (p : Node → Bool) :
    l.find? p = .ok ((l.members.find? fun m => p m.2).map (·.1)) := by
  rw [Lineage.find?, hl]
  cases l.members.find? fun m => p m.2 <;> rfl

namespace WellFormed

/-- A component of some kind is looked for among the components of the tree. -/
theorem exists_find?_lineage (w : t.WellFormed) (hh : h < t.size) (p : Node → Bool) :
    ∃ found, (t.lineage h).find? p = .ok found ∧ ∀ a ∈ found, a < t.size := by
  refine ⟨_, find?_of_fault_eq_none (w.fault_lineage hh) p, fun a ha => ?_⟩
  obtain ⟨m, hm, rfl⟩ := Option.map_eq_some_iff.1 ha
  exact lt_size_of_mem_climb (List.mem_of_find?_eq_some hm)

/-- So it is around a component, which need not be in the tree. -/
theorem exists_find?_ancestors (w : t.WellFormed) (h : Handle) (p : Node → Bool) :
    ∃ found, (t.ancestors h).find? p = .ok found ∧ ∀ a ∈ found, a < t.size := by
  rw [ancestors]
  cases hp : t.parent h with
  | none => exact ⟨none, rfl, by simp⟩
  | some parent =>
    have hlt := Nat.lt_trans (w.parent_lt hp) (lt_size_of_parent hp)
    exact w.exists_find?_lineage hlt p

/-- From a component of the tree, the base of a path is one. -/
theorem exists_searchBase (w : t.WellFormed) (hh : h < t.size) :
    ∃ b, t.searchBase h = .ok b ∧ b < t.size := by
  obtain ⟨found, hf, hfound⟩ := w.exists_find?_lineage hh fun n => n.kind.isNamingContainer
  simp only [searchBase, hf]
  cases found with
  | some b => exact ⟨b, rfl, hfound b rfl⟩
  | none =>
    refine ⟨_, rfl, ?_⟩
    cases hl : (t.lineage h).members.getLast? with
    | none => exact hh
    | some m => exact lt_size_of_mem_climb (List.mem_of_getLast? hl)

/-- Outside of the tree there is no base. -/
theorem searchBase_of_size_le (hh : t.size ≤ h) : t.searchBase h = .error (.missing h) := by
  simp only [searchBase, lineage_of_size_le hh]
  rfl

/-! ## Paths -/

/-- A path is read without a fault, and leads where it leads with all components read on the way. -/
theorem readPath_eq (w : t.WellFormed) (anchor : Handle) (path : String) :
    t.readPath anchor path = t.findByPath anchor path := by
  rw [readPath, findByPath]
  split
  · rfl
  · cases Text.afterPrefix [t.separator] path.toList with
    | some rest => exact (w.readBelow_eq w.size_pos _).1
    | none =>
      rcases Nat.lt_or_ge anchor t.size with hh | hh
      · obtain ⟨b, hb, hlt⟩ := w.exists_searchBase hh
        rw [hb]
        exact (w.readBelow_eq hlt _).1
      · rw [searchBase_of_size_le hh]
        rfl

/-- From a component of the tree, a path leads to a component of the tree or nowhere. -/
theorem exists_findByPath (w : t.WellFormed) (hh : h < t.size) (path : String) :
    ∃ found, t.findByPath h path = .ok found ∧ ∀ n ∈ found, n < t.size := by
  rw [findByPath]
  split
  · exact ⟨none, rfl, by simp⟩
  · split
    · exact ⟨_, rfl, (w.readBelow_eq w.size_pos _).2⟩
    · obtain ⟨b, hb, hlt⟩ := w.exists_searchBase hh
      rw [hb]
      exact ⟨_, rfl, (w.readBelow_eq hlt _).2⟩

end WellFormed

end Tree

end ViewQuery.Component
