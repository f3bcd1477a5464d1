import ViewQuery.Proofs.Component.Path
import ViewQuery.Proofs.Expression.Chain

/-!
# Paths as chains

A path can be found as a whole, or as a chain with one link for each of its segments. Found as a
whole, it goes on from naming containers only, and goes into each of them; a link starts over from
the naming container that is closest, which may be further out or have the id of the link itself.

* `flatMap_piecesBetween_splitSegments`: the ids of the segments are those of the path;
* `Resolver.findBelow_eq_some_iff_leads`: going on by the ids of segments is following them as
  links, if each of the links but the last leads to a naming container;
* `Resolver.findByPath_eq_ok_iff_leads`: the same for a whole path;
* `Resolver.component_append_this_iff`: when an expression has the same component with a link to
  the component itself behind it.
-/

namespace ViewQuery.Expression

open ViewQuery.Component (Handle Tree)
open ViewQuery.Text (piecesBetween trimmed)

variable {separator : Char}

/-! ## The ids of segments -/

/-- The ids of the segments of a text are those of the text. -/
theorem flatMap_splitOn_segmentsFrom (depth : Nat) (cs : List Char) :
    (segmentsFrom separator depth cs).flatMap (List.splitOn separator) = cs.splitOn separator := by
  induction cs generalizing depth with
  | nil => rfl
  | cons c cs ih =>
    have hcons : ∀ ds : List Char, (c :: ds).splitOn separator =
        if c = separator then [] :: ds.splitOn separator
        else (ds.splitOn separator).modifyHead (c :: ·) := fun ds => by
      simp [List.splitOn, List.splitOnP_cons_eq_if_modifyHead]
    rw [segmentsFrom, hcons]
    split
    · rename_i hcut
      rw [if_pos hcut.1, List.flatMap_cons, ih]
      rfl
    · rw [← ih (depthAfter depth c)]
      cases hs : segmentsFrom separator (depthAfter depth c) cs with
      | nil => exact absurd hs (segmentsFrom_ne_nil _ _)
      | cons segment rest =>
        rw [consFirst, List.flatMap_cons, List.flatMap_cons, hcons]
        split
        · rfl
        · cases hp : segment.splitOn separator with
          | nil => exact absurd hp (List.splitOn_ne_nil _ _)
          | cons piece pieces => rfl

theorem flatMap_piecesBetween_splitSegments (expression : String) :
    (splitSegments separator expression).flatMap (piecesBetween separator) =
      piecesBetween separator expression := by
  rw [splitSegments, piecesBetween, ← flatMap_splitOn_segmentsFrom 0, List.flatMap_map,
    List.map_flatMap]
  simp [piecesBetween]

/-- The characters of a segment are characters of the text. -/
theorem mem_of_mem_segmentsFrom {depth : Nat} {cs segment : List Char} {c : Char}
    (h : segment ∈ segmentsFrom separator depth cs) (hc : c ∈ segment) : c ∈ cs := by
  induction cs generalizing depth segment with
  | nil =>
    obtain rfl : segment = [] := by simpa [segmentsFrom] using h
    exact hc
  | cons d cs ih =>
    rw [segmentsFrom] at h
    split at h
    · rcases List.mem_cons.1 h with rfl | h
      · cases hc
      · exact List.mem_cons_of_mem d (ih h hc)
    · cases hs : segmentsFrom separator (depthAfter depth d) cs with
      | nil => exact absurd hs (segmentsFrom_ne_nil _ _)
      | cons first rest =>
        rw [hs, consFirst, List.mem_cons] at h
        rcases h with rfl | h
        · rcases List.mem_cons.1 hc with rfl | hc
          · exact List.mem_cons_self
          · exact List.mem_cons_of_mem d (ih (hs ▸ List.mem_cons_self) hc)
        · exact List.mem_cons_of_mem d (ih (hs ▸ List.mem_cons_of_mem first h) hc)

theorem not_mem_of_mem_splitSegments {text segment : String} {c : Char} (hc : c ∉ text.toList)
    (h : segment ∈ splitSegments separator text) : c ∉ segment.toList := by
  obtain ⟨cs, hcs, rfl⟩ := List.mem_map.1 h
  rw [String.toList_ofList]
  exact fun hmem => hc (mem_of_mem_segmentsFrom hcs hmem)

/-- No segment starts with the separator; the first one might if the text began within
parentheses. -/
theorem head?_ne_of_mem_segmentsFrom (hu : UsableSeparator separator) {depth : Nat}
    {cs first : List Char} {rest : List (List Char)}
    (h : segmentsFrom separator depth cs = first :: rest) :
    (depth = 0 → first.head? ≠ some separator) ∧
      ∀ segment ∈ rest, segment.head? ≠ some separator := by
  induction cs generalizing depth first rest with
  | nil =>
    obtain ⟨rfl, rfl⟩ : [] = first ∧ [] = rest := by simpa [segmentsFrom] using h
    simp
  | cons c cs ih =>
    rw [segmentsFrom] at h
    split at h
    · obtain ⟨rfl, rfl⟩ := List.cons.inj h
      rename_i hcut
      obtain ⟨rfl, rfl, -⟩ := hcut
      refine ⟨fun _ => by simp, ?_⟩
      cases hs : segmentsFrom c 0 cs with
      | nil => simp
      | cons first rest =>
        obtain ⟨hfirst, hrest⟩ := ih hs
        exact List.forall_mem_cons.2 ⟨hfirst rfl, hrest⟩
    · rename_i hcut
      cases hs : segmentsFrom separator (depthAfter depth c) cs with
      | nil => exact absurd hs (segmentsFrom_ne_nil _ _)
      | cons segment others =>
        rw [hs, consFirst] at h
        obtain ⟨rfl, rfl⟩ := List.cons.inj h
        refine ⟨fun hdepth hhead => ?_, (ih hs).2⟩
        obtain rfl : c = separator := by simpa using hhead
        exact hcut ⟨rfl, hdepth, hu.ne_open, hu.ne_close⟩

/-! ## Segments as links -/

/-- The segments of an expression, without the separator that may stand in front of them. -/
def bodySegments (separator : Char) (expression : String) : List String :=
  splitSegments separator ((afterSeparator separator expression).getD expression)

/-- Segments that mean the same ids in a path and as links: they are neither blank nor have blank
characters around them, and none begins with the id that the one before ends with. -/
structure ReadsAsLinks (separator : Char) (segments : List String) : Prop where
  trimmed_eq : ∀ segment ∈ segments, segment ≠ "" ∧ trimmed segment = segment
  distinct : segments.IsChain fun segment next =>
    (piecesBetween separator segment).getLast? ≠ (piecesBetween separator next).head?

/-- A segment that is read as a path, and not from the root. -/
structure IsPathLink (separator : Char) (segment : String) : Prop where
  ne_empty : segment ≠ ""
  mark_not_mem : keywordMark ∉ segment.toList
  head?_ne : segment.toList.head? ≠ some separator

instance (separator : Char) (segments : List String) :
    Decidable (ReadsAsLinks separator segments) :=
  decidable_of_iff
    ((∀ segment ∈ segments, segment ≠ "" ∧ trimmed segment = segment) ∧
      segments.IsChain fun segment next =>
        (piecesBetween separator segment).getLast? ≠ (piecesBetween separator next).head?)
    ⟨fun h => ⟨h.1, h.2⟩, fun h => ⟨h.1, h.2⟩⟩

theorem bodySegments_of_absolute {expression : String} {rest : List Char}
    (h : expression.toList = separator :: rest) :
    bodySegments separator expression = splitSegments separator (.ofList rest) := by
  rw [bodySegments, afterSeparator_of_absolute h, Option.getD_some]

theorem bodySegments_of_relative {expression : String}
    (h : expression.toList.head? ≠ some separator) :
    bodySegments separator expression = splitSegments separator expression := by
  rw [bodySegments, afterSeparator_of_relative h, Option.getD_none]

/-- Such segments are not changed on the way to the links. -/
theorem ReadsAsLinks.trimmedSegments_eq {text : String}
    (h : ReadsAsLinks separator (splitSegments separator text)) :
    trimmedSegments separator text.toList = splitSegments separator text := by
  rw [← map_trimmed_splitSegments]
  exact (List.map_congr_left fun s hs => (h.trimmed_eq s hs).2).trans (List.map_id _)

theorem nonEmpty_eq_self {texts : List String} (h : ∀ s ∈ texts, s ≠ "") :
    nonEmpty texts = texts :=
  List.filter_eq_self.2 fun s hs => by simpa using h s hs

/-- The segments of a text without the keyword mark are paths. -/
theorem isPathLink_of_mem (hu : UsableSeparator separator) {body segment : String}
    (hm : keywordMark ∉ body.toList) (hs : segment ∈ splitSegments separator body)
    (hne : segment ≠ "") : IsPathLink separator segment := by
  refine ⟨hne, not_mem_of_mem_splitSegments hm hs, ?_⟩
  obtain ⟨cs, hcs, rfl⟩ := List.mem_map.1 hs
  rw [String.toList_ofList]
  cases hfrom : segmentsFrom separator 0 body.toList with
  | nil => exact absurd hfrom (segmentsFrom_ne_nil _ _)
  | cons first rest =>
    obtain ⟨hfirst, hrest⟩ := head?_ne_of_mem_segmentsFrom hu hfrom
    rw [hfrom] at hcs
    rcases List.mem_cons.1 hcs with rfl | hcs
    · exact hfirst rfl
    · exact hrest cs hcs

/-- There is a first segment, and all segments are paths. -/
theorem ReadsAsLinks.exists_isPathLink (hu : UsableSeparator separator) {body : String}
    (hr : ReadsAsLinks separator (splitSegments separator body))
    (hm : keywordMark ∉ body.toList) :
    ∃ first rest, splitSegments separator body = first :: rest ∧
      IsPathLink separator first ∧ ∀ s ∈ rest, IsPathLink separator s := by
  cases hsegments : splitSegments separator body with
  | nil => exact absurd (List.map_eq_nil_iff.1 hsegments) (segmentsFrom_ne_nil _ _)
  | cons first rest =>
    refine ⟨first, rest, rfl, List.forall_mem_cons.1 fun s hs => ?_⟩
    rw [← hsegments] at hs
    exact isPathLink_of_mem hu hm hs (hr.trimmed_eq s hs).1

namespace Resolver

variable {r : Resolver} {t : Tree} {anchor c h source : Handle} {expression segment : String}
  {others : List String}

/-- Every component that some of the links lead to, but not all of them, is a naming container. -/
def ThroughContainers (r : Resolver) (t : Tree) (anchor : Handle) (links : List String) : Prop :=
  ∀ front back h, links = front ++ back → front ≠ [] → back ≠ [] → r.Leads t anchor front h →
    t.isNaming h = true

theorem throughContainers_nil : r.ThroughContainers t anchor [] := by
  intro front back h hl hf
  exact absurd (List.append_eq_nil_iff.1 hl.symm).1 hf

/-- If there are more links behind the first one, it leads to a naming container, and so do they. -/
theorem throughContainers_cons_iff (hl : r.LinkLeads t anchor segment h) :
    r.ThroughContainers t anchor (segment :: others) ↔
      (others ≠ [] → t.isNaming h = true) ∧ r.ThroughContainers t h others := by
  constructor
  · intro hc
    refine ⟨fun hne => hc [segment] others h rfl (List.cons_ne_nil _ _) hne
      (leads_singleton_iff.2 hl), fun front back h' hf hfront hback hlead => ?_⟩
    exact hc (segment :: front) back h' (by rw [hf, List.cons_append]) (List.cons_ne_nil _ _) hback
      (.cons hl hlead)
  · rintro ⟨hfirst, hothers⟩ front back h' hf hfront hback hlead
    cases front with
    | nil => exact absurd rfl hfront
    | cons s front =>
      rw [List.cons_append] at hf
      obtain ⟨rfl, rfl⟩ := List.cons.inj hf
      obtain ⟨next, hnext, hlead⟩ := leads_cons_iff.1 hlead
      obtain rfl : h = next :=
        (leads_singleton_iff.2 hl).unique (leads_singleton_iff.2 hnext)
      cases front with
      | nil =>
        rw [leads_nil_iff] at hlead
        exact hlead ▸ hfirst hback
      | cons s' front =>
        exact hothers _ back h' rfl (List.cons_ne_nil _ _) hback hlead

/-- From a naming container, such a segment leads along its ids. -/
theorem linkLeads_of_isNaming (w : t.WellFormed) (hs : IsPathLink t.separator segment)
    (hk : t.isNaming anchor = true) :
    r.LinkLeads t anchor segment h ↔
      t.findBelow anchor (piecesBetween t.separator segment) = some h := by
  rw [linkLeads_path_iff (find_of_no_mark hs.mark_not_mem),
    Component.Tree.findByPath_of_relative hs.ne_empty hs.head?_ne, w.searchBase_of_isNaming hk,
    Except.bind, Except.ok.injEq]

/-- From a base on, the ids of segments lead where the segments lead as links, if each of these but
the last leads to a naming container. The first link may be written in another way than its segment,
as long as it leads the same way. -/
theorem findBelow_eq_some_iff_leads (w : t.WellFormed) {b : Handle} {link : String}
    {rest : List String}
    (hl : ∀ next, r.LinkLeads t anchor link next ↔
      t.findBelow b (piecesBetween t.separator segment) = some next)
    (hs : ∀ s ∈ rest, IsPathLink t.separator s)
    (hdistinct : (segment :: rest).IsChain fun s s' =>
      (piecesBetween t.separator s).getLast? ≠ (piecesBetween t.separator s').head?) :
    t.findBelow b ((segment :: rest).flatMap (piecesBetween t.separator)) = some c ↔
      r.Leads t anchor (link :: rest) c ∧ r.ThroughContainers t anchor (link :: rest) := by
  induction rest generalizing anchor b link segment with
  | nil =>
    rw [List.flatMap_cons, List.flatMap_nil, List.append_nil, ← hl, leads_singleton_iff]
    refine ⟨fun hlead => ⟨hlead, ?_⟩, And.left⟩
    exact (throughContainers_cons_iff hlead).2 ⟨absurd rfl, throughContainers_nil⟩
  | cons s rest ih =>
    obtain ⟨hid, hdistinct⟩ := List.isChain_cons_cons.1 hdistinct
    obtain ⟨hpath, hs⟩ := List.forall_mem_cons.1 hs
    rw [List.flatMap_cons, Component.Tree.findBelow_append (Text.piecesBetween_ne_nil _ _),
      leads_cons_iff]
    simp only [hl]
    cases hf : t.findBelow b (piecesBetween t.separator segment) with
    | none => simp
    | some next =>
      -- The component that is led to has the last id of its segment, which the next one does not
      -- begin with. So the next link cannot find the component itself again.
      rw [← w.idAt_of_findBelow hf] at hid
      rw [throughContainers_cons_iff ((hl next).2 hf), List.flatMap_cons]
      cases hp : piecesBetween t.separator s with
      | nil => exact absurd hp (Text.piecesBetween_ne_nil _ _)
      | cons id ids =>
        rw [hp, List.head?_cons] at hid
        rw [List.cons_append, Component.Tree.descendAll_cons hid, ← List.cons_append, ← hp,
          ← List.flatMap_cons]
        cases hk : t.isNaming next with
        | false => simp
        | true =>
          rw [if_pos rfl, ih (fun _ => linkLeads_of_isNaming w hpath hk) hs hdistinct]
          simp

/-! ## Paths as links -/

/-- A path whose first link is read from the same base leads where its links lead, if each but the
last leads to a naming container. -/
theorem findByPath_eq_ok_iff_of_base (w : t.WellFormed)
    {base : Except Component.Fault Handle} {link : String} {rest : List String}
    (hp : t.findByPath source expression = base.bind fun b =>
      .ok (t.findBelow b ((segment :: rest).flatMap (piecesBetween t.separator))))
    (hl : t.findByPath source link = base.bind fun b =>
      .ok (t.findBelow b (piecesBetween t.separator segment)))
    (hf : r.registry.find link = some .path) (hs : ∀ s ∈ rest, IsPathLink t.separator s)
    (hr : ReadsAsLinks t.separator (segment :: rest)) :
    t.findByPath source expression = .ok (some c) ↔
      r.Leads t source (link :: rest) c ∧ r.ThroughContainers t source (link :: rest) := by
  have hlink : ∀ next, r.LinkLeads t source link next ↔ (base.bind fun b =>
      .ok (t.findBelow b (piecesBetween t.separator segment))) = .ok (some next) := fun next => by
    rw [linkLeads_path_iff hf, hl]
  rw [hp]
  cases base with
  | error e => simp [leads_cons_iff, hlink, Except.bind]
  | ok b =>
    simp only [Except.bind, Except.ok.injEq] at hlink ⊢
    exact findBelow_eq_some_iff_leads w hlink hs hr.distinct

/-- A path from the root leads where its segments lead as links, the first of them with the
separator in front of it. -/
theorem findByPath_absolute_eq_ok_iff_leads (w : t.WellFormed) (hu : UsableSeparator t.separator)
    {body : List Char} (hbody : expression.toList = t.separator :: body)
    (hm : keywordMark ∉ body) (hr : ReadsAsLinks t.separator (bodySegments t.separator expression)) :
    t.findByPath source expression = .ok (some c) ↔
      r.Leads t source (links t.separator expression) c ∧
        r.ThroughContainers t source (links t.separator expression) := by
  rw [bodySegments_of_absolute hbody] at hr
  obtain ⟨first, rest, hsegments, hfirst, hrest⟩ :=
    hr.exists_isPathLink hu (by rwa [String.toList_ofList])
  have hlinks : links t.separator expression =
      (String.singleton t.separator ++ first) :: rest := by
    have htrim := hr.trimmedSegments_eq
    rw [String.toList_ofList, hsegments] at htrim
    rw [links_of_absolute hbody, htrim, rooted_of_path hfirst.ne_empty hfirst.mark_not_mem]
    exact nonEmpty_eq_self (List.forall_mem_cons.2 ⟨by simp, fun s hs => (hrest s hs).ne_empty⟩)
  have hwhole : t.findByPath source expression = (Except.ok Tree.root).bind fun b =>
      .ok (t.findBelow b ((first :: rest).flatMap (piecesBetween t.separator))) := by
    rw [Component.Tree.findByPath_of_absolute hbody, ← flatMap_piecesBetween_splitSegments,
      hsegments]
    rfl
  have hlink : (String.singleton t.separator ++ first).toList = t.separator :: first.toList := by
    simp
  have hmlink : keywordMark ∉ (String.singleton t.separator ++ first).toList := by
    simp [hu.ne_mark.symm, hfirst.mark_not_mem]
  rw [hlinks]
  refine findByPath_eq_ok_iff_of_base w hwhole ?_ (find_of_no_mark hmlink) hrest (hsegments ▸ hr)
  rw [Component.Tree.findByPath_of_absolute hlink, String.ofList_toList]
  rfl

/-- Any other path leads where its segments lead as links. -/
theorem findByPath_relative_eq_ok_iff_leads (w : t.WellFormed) (hu : UsableSeparator t.separator)
    (hne : expression ≠ "") (hhead : expression.toList.head? ≠ some t.separator)
    (hm : keywordMark ∉ expression.toList)
    (hr : ReadsAsLinks t.separator (bodySegments t.separator expression)) :
    t.findByPath source expression = .ok (some c) ↔
      r.Leads t source (links t.separator expression) c ∧
        r.ThroughContainers t source (links t.separator expression) := by
  rw [bodySegments_of_relative hhead] at hr
  obtain ⟨first, rest, hsegments, hfirst, hrest⟩ := hr.exists_isPathLink hu hm
  have hlinks : links t.separator expression = first :: rest := by
    rw [links_of_relative hhead, hr.trimmedSegments_eq,
      nonEmpty_eq_self fun s hs => (hr.trimmed_eq s hs).1, hsegments]
  rw [hlinks]
  refine findByPath_eq_ok_iff_of_base w ?_
    (Component.Tree.findByPath_of_relative hfirst.ne_empty hfirst.head?_ne source)
    (find_of_no_mark hfirst.mark_not_mem) hrest (hsegments ▸ hr)
  rw [Component.Tree.findByPath_of_relative hne hhead, ← flatMap_piecesBetween_splitSegments,
    hsegments]

/-- A path leads where its segments lead as links, if each but the last leads to a naming
container. -/
theorem findByPath_eq_ok_iff_leads (w : t.WellFormed) (hu : UsableSeparator t.separator)
    (hne : expression ≠ "") (hm : keywordMark ∉ expression.toList)
    (hr : ReadsAsLinks t.separator (bodySegments t.separator expression)) :
    t.findByPath source expression = .ok (some c) ↔
      r.Leads t source (links t.separator expression) c ∧
        r.ThroughContainers t source (links t.separator expression) := by
  by_cases hhead : expression.toList.head? = some t.separator
  · obtain ⟨body, hbody⟩ := List.head?_eq_some_iff.1 hhead
    have hmbody : keywordMark ∉ body := fun hc => hm (hbody ▸ List.mem_cons_of_mem _ hc)
    exact findByPath_absolute_eq_ok_iff_leads w hu hbody hmbody hr
  · exact findByPath_relative_eq_ok_iff_leads w hu hne hhead hm hr

/-! ## A link to the component itself -/

theorem linkLeads_this_iff (stage : Stage) :
    (builtin stage).LinkLeads t anchor "@this" h ↔ anchor = h := by
  have hf : (builtin stage).registry.find "@this" = some .this := rfl
  simp [LinkLeads, hf, Rule.resolve]

theorem not_mem_trimmed (hm : keywordMark ∉ expression.toList) :
    keywordMark ∉ (trimmed expression).toList := by
  rwa [Text.toList_trimmed, Text.mem_trim_iff rfl]

theorem trimmed_ne_noneKeyword (hm : keywordMark ∉ expression.toList) :
    trimmed expression ≠ noneKeyword := by
  intro hn
  have hmark := not_mem_trimmed hm
  rw [hn] at hmark
  exact hmark (by decide)

/-- Without the keyword mark, all segments of an expression are paths. -/
theorem find_of_mem_splitSegments (hm : keywordMark ∉ expression.toList)
    (h : segment ∈ splitSegments separator expression) :
    r.registry.find (trimmed segment) = some .path :=
  find_of_no_mark (not_mem_trimmed (not_mem_of_mem_splitSegments hm h))

theorem soleRule_of_not_mem (hm : keywordMark ∉ expression.toList) :
    ∀ rule ∈ r.soleRule t expression, rule = .path := by
  intro rule hrule
  unfold soleRule at hrule
  split at hrule
  · rename_i segment hsole
    rw [find_of_mem_splitSegments hm (hsole ▸ List.mem_singleton_self segment)] at hrule
    exact (Option.some.inj hrule).symm
  · cases hrule

/-- Without the keyword mark, an expression is never left to the client. -/
theorem isClientOnly_of_not_mem (hm : keywordMark ∉ expression.toList) :
    r.isClientOnly t expression = false := by
  rw [isClientOnly, Option.any_eq_false]
  intro rule hrule
  rw [soleRule_of_not_mem hm rule hrule]
  rfl

/-- In production, the component of an expression without the keyword mark is that of the path. -/
theorem component_eq_ok_iff_findByPath (hne : trimmed expression ≠ "")
    (hm : keywordMark ∉ expression.toList) :
    ((builtin .production).component t source expression).outcome = .ok (some h) ↔
      t.findByPath source (trimmed expression) = .ok (some h) := by
  have hmt := not_mem_trimmed hm
  rw [component_eq_ok_iff, find_eq_ok_iff_findByPath hmt]
  simp only [ne_eq, hne, trimmed_ne_noneKeyword hm, not_false_eq_true, true_and,
    isClientOnly_of_not_mem hmt,
    check_of_production (show (builtin .production).stage = .production from rfl)]

/-- In production, an expression with a link to the component itself behind it has the component
that its links lead to. -/
theorem component_append_this_eq_ok_iff (hu : UsableSeparator t.separator)
    (hs : t.separator ∉ "@this".toList) (hne : trimmed expression ≠ "")
    (hd : depthAfterAll 0 expression.toList = 0) :
    ((builtin .production).component t source
        (expression ++ String.singleton t.separator ++ "@this")).outcome = .ok (some c) ↔
      (builtin .production).Leads t source (links t.separator (trimmed expression)) c := by
  have hm : keywordMark ∈ (expression ++ String.singleton t.separator ++ "@this").toList := by
    simp [keywordMark]
  have hthis : links t.separator (trimmed "@this") = ["@this"] :=
    links_of_not_mem hs rfl (by decide)
  have hblank : trimmed (expression ++ String.singleton t.separator ++ "@this") ≠ "" := by
    intro hb
    rw [← Text.mem_trim_iff rfl, ← Text.toList_trimmed, hb] at hm
    simp at hm
  have hrelative : (trimmed "@this").toList.head? ≠ some t.separator := by
    rw [show (trimmed "@this").toList.head? = some keywordMark from rfl]
    exact fun h => hu.ne_mark (Option.some.inj h).symm
  rw [component_eq_ok_iff_leads hu (.inl hm), and_iff_right hblank,
    links_append hu hd hne hrelative, hthis, leads_append_iff]
  simp only [leads_singleton_iff, linkLeads_this_iff, exists_eq_right]

/-- An expression with a keyword mark has the same component with a link to the component itself
behind it. A path has it exactly if each of its links but the last leads to a naming container,
where its segments read the same as links. -/
theorem component_append_this_iff {config : Config} (hc : config.validate = .ok ()) {t : Tree}
    (hb : t.Built) (ht : t.separator = config.expressions.separator)
    (hs : t.separator.isAlphanum = false) {source : Handle} {expression : String}
    (hne : trimmed expression ≠ "") (hd : depthAfterAll 0 expression.toList = 0) (c : Handle) :
    let direct := ((builtin .production).component t source expression).outcome
    let hopped := ((builtin .production).component t source
      (expression ++ String.singleton t.separator ++ "@this")).outcome
    (keywordMark ∈ expression.toList → (direct = .ok (some c) ↔ hopped = .ok (some c))) ∧
      (keywordMark ∉ expression.toList →
        ReadsAsLinks t.separator (bodySegments t.separator (trimmed expression)) →
        (direct = .ok (some c) ↔ hopped = .ok (some c) ∧
          (builtin .production).ThroughContainers t source
            (links t.separator (trimmed expression)))) := by
  intro direct hopped
  have hu : UsableSeparator t.separator := ht ▸ usableSeparator_of_validate hc
  have hthis : t.separator ∉ "@this".toList := by
    intro hm
    have hcases : t.separator = '@' ∨ t.separator = 't' ∨ t.separator = 'h' ∨ t.separator = 'i' ∨
        t.separator = 's' := by simpa using hm
    rcases hcases with h | h | h | h | h
    · exact hu.ne_mark h
    all_goals
      rw [h] at hs
      exact absurd hs (by decide)
  have hhopped := @component_append_this_eq_ok_iff t c source expression hu hthis hne hd
  refine ⟨fun hm => ?_, fun hm hr => ?_⟩
  · rw [hhopped]
    exact (component_eq_ok_iff_leads hu (.inl hm)).trans (and_iff_right hne)
  · have hmt : keywordMark ∉ (trimmed expression).toList := by
      rwa [Text.toList_trimmed, Text.mem_trim_iff rfl]
    rw [hhopped]
    exact (component_eq_ok_iff_findByPath hne hm).trans
      (findByPath_eq_ok_iff_leads hb.wellFormed hu hne hmt hr)

/-- A form with two fields, and with a container of its own id. -/
def formInForm : Tree :=
  .ofOutlines ':'
    [.mk "f" .form
      [.mk "name" .component [], .mk "city" .component [],
        .mk "g" .naming [.mk "name" .component []], .mk "f" .naming []]]

/-- From a field, through the form and the container in it, with blank characters around it all. -/
theorem component_append_this_iff_formInForm :
    ((builtin .production).component formInForm 2 " :f:g:name").outcome = .ok (some 5) ∧
      ((builtin .production).component formInForm 2
        (" :f:g:name" ++ String.singleton ':' ++ "@this")).outcome = .ok (some 5) ∧
      ((builtin .production).component formInForm 2
        ("@form:g" ++ String.singleton ':' ++ "@this")).outcome = .ok (some 4) := by
  have hb : formInForm.Built := .ofOutlines ':' _
  have hpath : ((builtin .production).component formInForm 2 " :f:g:name").outcome =
      .ok (some 5) := rfl
  have hform : ((builtin .production).component formInForm 2 "@form:g").outcome =
      .ok (some 4) := rfl
  have hp := (@component_append_this_iff default rfl formInForm hb rfl (by decide) 2 " :f:g:name"
    (by decide) rfl 5).2 (by decide) (by decide +kernel)
  have hf := (@component_append_this_iff default rfl formInForm hb rfl (by decide) 2 "@form:g"
    (by decide) rfl 4).1 (by decide)
  exact ⟨hpath, (hp.1 hpath).1, hf.1 hform⟩

/-- Where the two differ: a container with a child of its own id, a blank segment, a blank character
in front of a segment, and a segment behind a component that is no naming container. -/
theorem component_append_this_ne :
    let direct := fun expression =>
      ((builtin .production).component formInForm 0 expression).outcome
    let hopped := fun expression => direct (expression ++ String.singleton ':' ++ "@this")
    (direct "f:f" = .ok (some 6) ∧ hopped "f:f" = .ok (some 1)) ∧
      (direct "f::name" = .error (.error (.notFound "f::name" "" "f::name" "")) ∧
        hopped "f::name" = .ok (some 2)) ∧
      (direct "f: name" = .error (.error (.notFound "f: name" "" "f: name" "")) ∧
        hopped "f: name" = .ok (some 2)) ∧
      (direct "f:name:city" = .error (.error (.notFound "f:name:city" "" "f:name:city" "")) ∧
        hopped "f:name:city" = .ok (some 3)) :=
  ⟨⟨rfl, rfl⟩, ⟨rfl, rfl⟩, ⟨rfl, rfl⟩, rfl, rfl⟩

end Resolver

end ViewQuery.Expression
