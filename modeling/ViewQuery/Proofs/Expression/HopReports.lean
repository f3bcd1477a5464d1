import Mathlib.Data.List.Chain
import ViewQuery.Proofs.Expression.ClientToken
import ViewQuery.Proofs.Expression.Safety

/-!
# Reports of hops

What a listener is told while a chain is followed, and that this is the way that was gone. A chain
makes hops from its source until its segments are used up or one of them fails; where it stops is
where the last hop has led, and this is the component that is found or that the error speaks of.

* `chainSegments`: the segments that a chain is followed along, read off the expression;
* `Resolver.Walk`, `Resolver.Ends`: the hops on a way, and how a chain ends where it stops;
* `Resolver.follow_walks`: a chain walks along its segments from the left;
* `Resolver.Walk.told`: reports of the hops on a way connect, and end where it ends;
* `Resolver.reports_tell_path`: the reports and the outcome of an expression tell its way.
-/

namespace ViewQuery.Expression

open ViewQuery.Component (Handle Tree)
open ViewQuery.Diagnostics (Event)
open ViewQuery.Text (trimmed)

/-! ## Segments by position -/

/-- A segment at a position of a chain, with the separator in front if the chain is absolute, the
position is the first one, and the segment has no keyword mark. -/
def atPosition (separator : Char) (absolute : Bool) (segment : String) (position : Nat) : String :=
  if absolute ∧ position = 0 ∧ keywordMark ∉ segment.toList then
    String.singleton separator ++ segment
  else segment

/-- The segments that are not blank, from the left, as they stand at their positions. -/
def positioned (separator : Char) (absolute : Bool) (segments : List String) : List String :=
  (segments.zipIdx.filter fun s => s.1 ≠ "").map fun s => atPosition separator absolute s.1 s.2

/-- The segments that a chain is followed along, read off the expression. An absolute chain starts
with the separator and is cut behind it. -/
def chainSegments (separator : Char) (expression : String) : List String :=
  if expression.toList.head? = some separator then
    positioned separator true
      ((splitSegments separator (.ofList expression.toList.tail)).map trimmed)
  else positioned separator false ((splitSegments separator expression).map trimmed)

theorem map_filter_zipIdx {f : String × Nat → String} {k : Nat}
    (hf : ∀ s i, k ≤ i → f (s, i) = s) (segments : List String) :
    ((segments.zipIdx k).filter fun s => s.1 ≠ "").map f = nonEmpty segments := by
  induction segments generalizing k with
  | nil => rfl
  | cons s rest ih =>
    have ih := ih fun s i hi => hf s i (Nat.le_of_succ_le hi)
    rw [nonEmpty, List.zipIdx_cons]
    by_cases hs : s = ""
    · rw [List.filter_cons_of_neg (by simpa using hs), List.filter_cons_of_neg (by simpa using hs)]
      exact ih
    · rw [List.filter_cons_of_pos (by simpa using hs), List.filter_cons_of_pos (by simpa using hs),
        List.map_cons, ih, hf s k (Nat.le_refl k), nonEmpty]

theorem positioned_relative (separator : Char) (segments : List String) :
    positioned separator false segments = nonEmpty segments :=
  map_filter_zipIdx (fun _ _ _ => if_neg fun h => Bool.false_ne_true h.1) segments

theorem positioned_absolute (separator : Char) (segments : List String) :
    positioned separator true segments = nonEmpty (rooted separator segments) := by
  cases segments with
  | nil => rfl
  | cons first others =>
    have hothers : ((others.zipIdx 1).filter fun s => s.1 ≠ "").map
        (fun s => atPosition separator true s.1 s.2) = nonEmpty others :=
      map_filter_zipIdx (fun s i hi => if_neg fun h => by omega) others
    rw [positioned, List.zipIdx_cons]
    by_cases hempty : first = ""
    · rw [rooted_of_not_path (.inl hempty), nonEmpty,
        List.filter_cons_of_neg (by simpa using hempty),
        List.filter_cons_of_neg (by simpa using hempty)]
      exact hothers
    · rw [List.filter_cons_of_pos (by simpa using hempty), List.map_cons, hothers, atPosition]
      by_cases hm : keywordMark ∈ first.toList
      · rw [rooted_of_not_path (.inr hm), if_neg (fun h => h.2.2 hm), nonEmpty, nonEmpty,
          List.filter_cons_of_pos (by simpa using hempty)]
      · rw [rooted_of_path hempty hm, if_pos ⟨rfl, rfl, hm⟩, nonEmpty, nonEmpty,
          List.filter_cons_of_pos (by simp)]

theorem links_eq_chainSegments (separator : Char) (expression : String) :
    links separator expression = chainSegments separator expression := by
  rw [chainSegments]
  split
  · rename_i habsolute
    obtain ⟨rest, he⟩ : ∃ rest, expression.toList = separator :: rest :=
      List.head?_eq_some_iff.1 habsolute
    rw [links_of_absolute he, positioned_absolute, map_trimmed_splitSegments,
      String.toList_ofList, he, List.tail_cons]
  · rename_i hrelative
    rw [links_of_relative hrelative, positioned_relative, map_trimmed_splitSegments]

theorem exists_ne_of_mark {separator : Char} (hne : separator ≠ keywordMark) {expression : String}
    (hm : keywordMark ∈ expression.toList) :
    ∃ segment ∈ (splitSegments separator expression).map trimmed, segment ≠ "" := by
  obtain ⟨segment, hin, hmark⟩ := exists_mem_segmentsFrom hne.symm hm 0
  refine ⟨_, List.mem_map_of_mem (List.mem_map_of_mem hin), fun hempty => ?_⟩
  have htrim : keywordMark ∈ (trimmed (.ofList segment)).toList := by
    rwa [Text.toList_trimmed, String.toList_ofList, Text.mem_trim_iff rfl]
  rw [hempty] at htrim
  cases htrim

theorem positioned_ne_nil {separator : Char} {absolute : Bool} {segments : List String}
    (h : ∃ segment ∈ segments, segment ≠ "") : positioned separator absolute segments ≠ [] := by
  obtain ⟨segment, hin, hne⟩ := h
  obtain ⟨i, hi⟩ := List.mem_iff_getElem?.1 hin
  have hkept : (segment, i) ∈ segments.zipIdx.filter fun s => s.1 ≠ "" :=
    List.mem_filter.2 ⟨List.mk_mem_zipIdx_iff_getElem?.2 hi, by simpa using hne⟩
  exact List.ne_nil_of_mem (List.mem_map_of_mem hkept)

/-- A chain with a keyword is followed along one segment at least, unless the keyword mark is the
separator. -/
theorem chainSegments_ne_nil {separator : Char} (hne : separator ≠ keywordMark)
    {expression : String} (hm : keywordMark ∈ expression.toList) :
    chainSegments separator expression ≠ [] := by
  rw [chainSegments]
  split
  · rename_i habsolute
    obtain ⟨rest, he⟩ : ∃ rest, expression.toList = separator :: rest :=
      List.head?_eq_some_iff.1 habsolute
    refine positioned_ne_nil (exists_ne_of_mark hne ?_)
    rw [he] at hm ⊢
    rw [String.toList_ofList]
    exact (List.mem_cons.1 hm).resolve_left hne.symm
  · exact positioned_ne_nil (exists_ne_of_mark hne hm)

/-! ## The way of a chain -/

/-- What a report tells of a hop: its segment and the client ids of its two components. -/
structure HopReport where
  segment : String
  origin : String
  target : String
  deriving DecidableEq, Repr

namespace HopReport

/-- The event that a report is. -/
def event (report : HopReport) : Event :=
  .report .debug hopTarget "Resolved search expression hop"
    [("segment", .text report.segment), ("from", .text report.origin), ("to", .text report.target)]

/-- A report tells of a hop. -/
structure IsOf (t : Tree) (report : HopReport) (hop : Hop) : Prop where
  segment : report.segment = hop.segment
  origin : t.clientId hop.origin = .ok report.origin
  target : t.clientId hop.target = .ok report.target

/-- The client id that reports lead to: the target of the last one, or where they start from if
there are none. -/
def place (start : String) (reports : List HopReport) : String :=
  (reports.map (·.target)).getLastD start

end HopReport

/-- Hops between components of a tree are reported one by one. -/
theorem exists_reports {t : Tree} (w : t.WellFormed) {hops : List Hop}
    (hin : ∀ hop ∈ hops, hop.origin < t.size ∧ hop.target < t.size) :
    ∃ reports, List.Forall₂ (HopReport.IsOf t) reports hops ∧
      hopEvents t hops = (reports.map HopReport.event, none) := by
  induction hops with
  | nil => exact ⟨[], .nil, rfl⟩
  | cons hop rest ih =>
    obtain ⟨ho, ht⟩ := hin hop List.mem_cons_self
    obtain ⟨reports, htold, hevents⟩ := ih fun hop' hm => hin hop' (List.mem_cons_of_mem _ hm)
    have hfirst := w.clientId_eq ho
    have hlast := w.clientId_eq ht
    refine ⟨⟨hop.segment, _, _⟩ :: reports, .cons ⟨rfl, hfirst, hlast⟩ htold, ?_⟩
    rw [hopEvents, Hop.event, hfirst, hlast, hevents]
    rfl

namespace Resolver

variable {r : Resolver} {t : Tree} {source anchor next stop : Handle} {segment expression : String}
  {rest segments : List String} {f : Failure}

/-- Hops that lead from a component to another one, each from where the one before has led to. -/
inductive Walk (r : Resolver) (t : Tree) : Handle → List Hop → Handle → Prop where
  | nil (anchor : Handle) : Walk r t anchor [] anchor
  | cons {anchor next stop : Handle} {segment : String} {rest : List Hop} :
    r.LinkLeads t anchor segment next → Walk r t next rest stop →
      Walk r t anchor ({ segment, origin := anchor, target := next } :: rest) stop

/-- How a chain ends at a component with the segments that are left: there are none, or the first
one fails. -/
inductive Ends (r : Resolver) (t : Tree) (source : Handle) (expression : String) (stop : Handle) :
    List String → Except Failure Handle → Prop where
  | arrived : Ends r t source expression stop [] (.ok stop)
  | failed {segment : String} {rest : List String} {f : Failure} :
    r.step t source stop segment expression = .error f →
      Ends r t source expression stop (segment :: rest) (.error f)

theorem follow_cons_of_ok (h : r.step t source anchor segment expression = .ok next) :
    r.follow t source expression anchor (segment :: rest) =
      { hops := { segment, origin := anchor, target := next } ::
          (r.follow t source expression next rest).hops
        outcome := (r.follow t source expression next rest).outcome } := by
  rw [follow, h]
  rfl

theorem follow_cons_of_error (h : r.step t source anchor segment expression = .error f) :
    r.follow t source expression anchor (segment :: rest) =
      { hops := [], outcome := .error f } := by
  rw [follow, h]
  rfl

/-- A chain walks along its segments from the left, until they are used up or one fails. -/
theorem follow_walks (r : Resolver) (t : Tree) (source : Handle) (expression : String)
    (anchor : Handle) (segments : List String) :
    ∃ stop rest, r.Walk t anchor (r.follow t source expression anchor segments).hops stop ∧
      segments = (r.follow t source expression anchor segments).hops.map (·.segment) ++ rest ∧
      r.Ends t source expression stop rest
        (r.follow t source expression anchor segments).outcome := by
  -- The anchor is where the hops so far have led, so that each hop starts there.
  induction segments generalizing anchor with
  | nil => exact ⟨anchor, [], .nil anchor, rfl, .arrived⟩
  | cons segment segments ih =>
    cases hstep : r.step t source anchor segment expression with
    | ok next =>
      obtain ⟨stop, rest, hwalk, hsegments, hends⟩ := ih next
      rw [follow_cons_of_ok hstep]
      exact ⟨stop, rest, .cons (step_eq_ok_iff.1 hstep) hwalk, congrArg (segment :: ·) hsegments,
        hends⟩
    | error f =>
      rw [follow_cons_of_error hstep]
      exact ⟨anchor, segment :: segments, .nil anchor, rfl, .failed hstep⟩

/-- Reports of the hops on a way connect: each starts where the one before has ended, the first one
at the start of the way and the last one ends where the way does. -/
theorem Walk.told {hops : List Hop} (hw : r.Walk t anchor hops stop) {start : String}
    (ha : t.clientId anchor = .ok start) {reports : List HopReport}
    (ht : List.Forall₂ (HopReport.IsOf t) reports hops) :
    (∀ first ∈ reports.head?, first.origin = start) ∧
      (reports.IsChain fun before after => after.origin = before.target) ∧
      t.clientId stop = .ok (HopReport.place start reports) := by
  induction hw generalizing start reports with
  | nil =>
    cases ht
    exact ⟨by simp, .nil, ha⟩
  | cons hlead hw ih =>
    obtain ⟨report, reports, htold, hrest, rfl⟩ := List.forall₂_cons_right_iff.1 ht
    obtain ⟨hstart, hchain, hplace⟩ := ih htold.target hrest
    refine ⟨?_, List.isChain_cons.2 ⟨hstart, hchain⟩, ?_⟩
    · rintro _ ⟨⟩
      exact Except.ok.inj (htold.origin.symm.trans ha)
    · rw [hplace, HopReport.place, HopReport.place, List.map_cons, List.getLastD_cons]

/-! ## What the error says -/

theorem resolve_ne_notFound (rule : Rule) (t : Tree) (source anchor : Handle)
    (segment s a e o : String) :
    rule.resolve t source anchor segment ≠ .error (.error (.notFound s a e o)) := by
  have hwalk : ∀ {α : Type} (x : Except Component.Fault α),
      ofTree x ≠ .error (.error (.notFound s a e o)) := by
    intro α x
    cases x <;> simp [ofTree]
  cases rule with
  | path => exact hwalk _
  | enclosing what => exact hwalk _
  | child =>
    rw [Rule.resolve]
    cases Rule.childIndex segment with
    | some i => simp
    | none =>
      cases t.clientId source <;> simp [ofTree, bind, Except.bind]
  | _ => simp [Rule.resolve]

theorem eq_of_notFound_eq {α : Type} {s a e o : String}
    (h : (notFound t source anchor segment expression : Except Failure α) =
      .error (.error (.notFound s a e o))) :
    s = segment ∧ t.clientId anchor = .ok a ∧ e = expression ∧ t.clientId source = .ok o := by
  rw [notFound] at h
  cases ha : t.clientId anchor with
  | error fault =>
    rw [ha] at h
    cases h
  | ok anchorId =>
    cases ho : t.clientId source with
    | error fault =>
      rw [ha, ho] at h
      cases h
    | ok origin =>
      rw [ha, ho] at h
      cases h
      exact ⟨rfl, rfl, rfl, rfl⟩

/-- If no component answers to a segment, then the error names this segment and, as client ids, the
component that it was looked for from and the source. -/
theorem eq_of_step_eq_notFound {s a e o : String}
    (h : r.step t source anchor segment expression = .error (.error (.notFound s a e o))) :
    s = segment ∧ t.clientId anchor = .ok a ∧ e = expression ∧ t.clientId source = .ok o := by
  rw [step] at h
  cases hf : r.registry.find segment with
  | none =>
    rw [hf] at h
    cases h
  | some rule =>
    rw [hf] at h
    dsimp only at h
    cases hr : rule.resolve t source anchor segment with
    | error f =>
      rw [hr] at h
      obtain rfl : f = .error (.notFound s a e o) := Except.error.inj h
      exact absurd hr (resolve_ne_notFound rule t source anchor segment s a e o)
    | ok found =>
      rw [hr] at h
      cases found with
      | some next => cases h
      | none => exact eq_of_notFound_eq h

/-! ## Expressions -/

/-- What a listener sees of a trail that goes on with a computation that makes no hops. -/
theorem observed_bind_lift {α β : Type} (trail : Trail α) (g : α → Except Failure β) :
    (trail >>= fun a => Trail.lift (g a)).observed t =
      ((trail.observed t).1, (trail.observed t).2.bind g) := by
  obtain ⟨hops, outcome⟩ := trail
  cases outcome with
  | ok a =>
    rw [Trail.bind_of_ok rfl, Trail.observed, Trail.observed]
    simp only [Trail.lift, List.append_nil]
    rcases hopEvents t hops with ⟨events, _ | fault⟩ <;> rfl
  | error f =>
    rw [Trail.bind_of_error rfl, Trail.observed, Trail.observed]
    rcases hopEvents t hops with ⟨events, _ | fault⟩ <;> rfl

/-- The reports of an expression tell its way from the source, whose client id is `start`, to the
component `stop`, and what becomes of it there. -/
structure TellsPath (r : Resolver) (t : Tree) (source : Handle) (expression start : String)
    (reports : List HopReport) (stop : Handle) (outcome : Except Failure Handle) : Prop where
  /-- The reports are of hops that lead there. -/
  hops : ∃ hops, r.Walk t source hops stop ∧ List.Forall₂ (HopReport.IsOf t) reports hops
  /-- The first one starts at the source. -/
  starts : ∀ first ∈ reports.head?, first.origin = start
  /-- Every other one starts where the one before has ended. -/
  connects : reports.IsChain fun before after => after.origin = before.target
  /-- The last one ends where the way does. -/
  stops : t.clientId stop = .ok (HopReport.place start reports)
  /-- If a component is found, then it is where the way ends, and every segment is reported. -/
  arrives : ∀ c, outcome = .ok c →
    c = stop ∧ reports.map (·.segment) = chainSegments t.separator expression ∧
      (t.separator ≠ keywordMark → reports ≠ [])
  /-- Otherwise the segments that are reported are those in front of the first one that fails. If no
  component answers to this one, then the error names it and where it was looked for from. -/
  fails : ∀ f, outcome = .error f → ∃ segment rest,
    chainSegments t.separator expression = reports.map (·.segment) ++ segment :: rest ∧
      r.step t source stop segment expression = .error f ∧
      ∀ s a e o, f = .error (.notFound s a e o) →
        s = segment ∧ a = HopReport.place start reports ∧ e = expression ∧ o = start

/-- A chain is reported as it is gone. -/
theorem tellsPath_find (w : t.WellFormed) (hs : source < t.size) {start : String}
    (hstart : t.clientId source = .ok start) (hm : keywordMark ∈ expression.toList)
    (hsep : t.separator ∈ expression.toList) :
    ∃ reports stop,
      r.TellsPath t source expression start reports stop (r.find t source expression).outcome ∧
      (r.find t source expression).observed t =
        (reports.map HopReport.event, (r.find t source expression).outcome) := by
  have hfind : r.find t source expression =
      r.follow t source expression source (chainSegments t.separator expression) := by
    unfold find
    rw [if_neg (by simpa using holds_iff.2 hm), if_neg (by simpa using holds_iff.2 hsep),
      links_eq_chainSegments]
  obtain ⟨stop, rest, hwalk, hsegments, hends⟩ :=
    r.follow_walks t source expression source (chainSegments t.separator expression)
  rw [← hfind] at hwalk hsegments hends
  obtain ⟨reports, htold, hevents⟩ := exists_reports w (r.staysIn_find w hs expression).hops
  obtain ⟨hstarts, hconnects, hstops⟩ := hwalk.told hstart htold
  have hreported : reports.map (·.segment) = (r.find t source expression).hops.map (·.segment) := by
    rw [← List.forall₂_eq_eq_eq, List.forall₂_map_left_iff, List.forall₂_map_right_iff]
    exact htold.imp fun _ _ h => h.segment
  rw [← hreported] at hsegments
  refine ⟨reports, stop, ⟨⟨_, hwalk, htold⟩, hstarts, hconnects, hstops, fun c hc => ?_,
    fun f hf => ?_⟩, by rw [Trail.observed, hevents]⟩
  · rw [hc] at hends
    cases hends
    rw [List.append_nil] at hsegments
    refine ⟨rfl, hsegments.symm, fun hne hnil => chainSegments_ne_nil hne hm ?_⟩
    rw [hsegments, hnil, List.map_nil]
  · rw [hf] at hends
    cases hends with
    | failed hstep =>
      refine ⟨_, _, hsegments, hstep, ?_⟩
      rintro s a e o rfl
      obtain ⟨rfl, ha, rfl, ho⟩ := eq_of_step_eq_notFound hstep
      exact ⟨rfl, Except.ok.inj (ha.symm.trans hstops), rfl, Except.ok.inj (ho.symm.trans hstart)⟩

theorem component_of_check (hne : trimmed expression ≠ "")
    (hc : r.check t source (trimmed expression) = .ok ()) (hnone : trimmed expression ≠ noneKeyword)
    (hclient : r.isClientOnly t (trimmed expression) = false) :
    r.component t source expression =
      r.find t source (trimmed expression) >>= fun h => Trail.lift (.ok (some h)) := by
  rw [component]
  simp only [String.isEmpty_iff, if_neg hne, hc, Trail.lift_ok_bind, if_neg hnone, hclient,
    Bool.false_eq_true, if_false]
  rfl

theorem token_of_check (hne : trimmed expression ≠ "")
    (hc : r.check t source (trimmed expression) = .ok ())
    (hpass : r.passesThrough t (trimmed expression) = false) :
    r.token t source expression =
      r.find t source (trimmed expression) >>= fun h =>
        Trail.lift ((ofTree (t.clientId h)).map some) := by
  rw [token]
  simp only [String.isEmpty_iff, if_neg hne, hc, Trail.lift_ok_bind, hpass, Bool.false_eq_true,
    if_false]
  refine congrArg (r.find t source (trimmed expression) >>= ·) (funext fun h => ?_)
  cases ofTree (t.clientId h) <;> rfl

/-- The reports of hops and the error tell the true way. In a tree that was built, the reports of an
expression with a keyword mark and a separator tell its way from the source, and its outcome says
where this has ended. If nothing is refused and the expression is not for the client, then these are
the reports for its component and for its token, and the token is where they lead. -/
theorem reports_tell_path (hb : t.Built) (r : Resolver) (hs : source < t.size)
    (hm : keywordMark ∈ (trimmed expression).toList)
    (hsep : t.separator ∈ (trimmed expression).toList) :
    let e := trimmed expression
    let outcome := (r.find t source e).outcome
    ∃ start reports stop, t.clientId source = .ok start ∧
      r.TellsPath t source e start reports stop outcome ∧
      (r.find t source e).observed t = (reports.map HopReport.event, outcome) ∧
      (r.check t source e = .ok () → e ≠ noneKeyword → r.isClientOnly t e = false →
        (r.component t source expression).observed t =
          (reports.map HopReport.event, outcome.map some)) ∧
      (r.check t source e = .ok () → r.passesThrough t e = false →
        (r.token t source expression).observed t =
          (reports.map HopReport.event,
            outcome.map fun _ => some (HopReport.place start reports))) := by
  intro e outcome
  have w := hb.wellFormed
  have hne : e ≠ "" := by
    intro hempty
    rw [show trimmed expression = "" from hempty] at hm
    cases hm
  have hstart := w.clientId_eq hs
  obtain ⟨reports, stop, htells, hobserved⟩ := tellsPath_find w hs hstart hm hsep
  refine ⟨_, reports, stop, hstart, htells, hobserved, fun hc hnone hclient => ?_,
    fun hc hpass => ?_⟩
  · rw [component_of_check hne hc hnone hclient, observed_bind_lift, hobserved, bind_ok_eq_map]
  · rw [token_of_check hne hc hpass, observed_bind_lift, hobserved]
    cases ho : (r.find t source (trimmed expression)).outcome with
    | error f => simp only [outcome, e, ho, Except.bind, Except.map]
    | ok c =>
      obtain ⟨rfl, -, -⟩ := htells.arrives c ho
      simp only [outcome, e, ho, Except.bind, htells.stops, ofTree, Except.map]

/-- The panel in the form has no neighbour. -/
theorem reports_tell_path_twoForms :
    let t := Tree.twoForms
    let r := builtin .development
    let e := ":f: @child(0)::@next"
    let failure : Failure := .error (.notFound "@next" "f:panel" e "f:name")
    ∃ reports stop, r.TellsPath t 3 e "f:name" reports stop (.error failure) ∧
      HopReport.place "f:name" reports = "f:panel" ∧
      (r.component t 3 (" " ++ e)).observed t =
        (reports.map HopReport.event, .error failure) := by
  intro t r e failure
  have hb : t.Built := .ofOutlines ':' _
  have htrim : trimmed (" " ++ e) = e := by decide +kernel
  have hfound : (r.find t 3 e).outcome = .error failure := by decide +kernel
  obtain ⟨start, reports, stop, hstart, htells, -, hcomponent, -⟩ :=
    @reports_tell_path t 3 (" " ++ e) hb r (by decide +kernel) (by decide +kernel)
      (by decide +kernel)
  rw [htrim, hfound] at htells hcomponent
  obtain rfl : "f:name" = start := Except.ok.inj (Eq.trans (by decide +kernel) hstart)
  obtain ⟨_, _, _, _, hnames⟩ := htells.fails failure rfl
  obtain ⟨-, hplace, -, -⟩ := hnames _ _ _ _ rfl
  exact ⟨reports, stop, htells, hplace.symm,
    hcomponent (by decide +kernel) (by decide) (by decide +kernel)⟩

end Resolver

end ViewQuery.Expression
