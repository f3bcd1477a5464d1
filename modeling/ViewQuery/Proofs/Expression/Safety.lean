import ViewQuery.Expression.HopLog
import ViewQuery.Proofs.Component.Reading
import ViewQuery.Proofs.Expression.Chain

/-!
# Safety

In a tree that was built, resolving an expression that is written on one of its components reads
components of the tree only and comes to an end, whatever the expression is: it has a result or an
error, never a fault. Nor does it end in a fault because somebody listens.

* `SafeResult.bind`, `Trail.StaysIn.bind`: one computation after another;
* `Trail.StaysIn.safe`: hops between components of the tree can be reported;
* `Rule.safe_resolve`: a segment leads from a component of the tree to one;
* `Resolver.staysIn_follow`: so does a chain, which stays in the tree on its way;
* `Resolver.safe_resolution`: expressions and lists of them, for the server and for the client.
-/

namespace ViewQuery.Expression

open ViewQuery.Component (Fault Handle Tree)
open ViewQuery.Text (trimmed)

variable {α β : Type} {P : α → Prop} {Q : β → Prop} {t : Tree}

/-! ## Results without faults -/

/-- A result with a property or an error of the expression, but no fault. -/
def SafeResult (P : α → Prop) : Except Failure α → Prop
  | .ok a => P a
  | .error (.error _) => True
  | .error (.fault _) => False

theorem SafeResult.bind {x : Except Failure α} {f : α → Except Failure β} (hx : SafeResult P x)
    (hf : ∀ a, P a → SafeResult Q (f a)) : SafeResult Q (x.bind f) := by
  cases x with
  | ok a => exact hf a hx
  | error e => cases e <;> exact hx

theorem safeResult_ofTree {x : Except Fault α} (hx : ∃ a, x = .ok a ∧ P a) :
    SafeResult P (ofTree x) := by
  obtain ⟨a, rfl, ha⟩ := hx
  exact ha

namespace Trail

/-- Hops between components of a tree, and then a result with a property or an error. -/
structure StaysIn (t : Tree) (P : α → Prop) (trail : Trail α) : Prop where
  hops : ∀ hop ∈ trail.hops, hop.origin < t.size ∧ hop.target < t.size
  outcome : SafeResult P trail.outcome

/-- There is no fault, neither without a listener nor with one. -/
structure Safe (t : Tree) (P : α → Prop) (trail : Trail α) : Prop where
  outcome : SafeResult P trail.outcome
  observed : SafeResult P (trail.observed t).2

namespace StaysIn

theorem pure {a : α} (ha : P a) : StaysIn t P (pure a) :=
  ⟨fun _ hm => absurd hm List.not_mem_nil, ha⟩

theorem lift {x : Except Failure α} (hx : SafeResult P x) : StaysIn t P (Trail.lift x) :=
  ⟨fun _ hm => absurd hm List.not_mem_nil, hx⟩

/-- What a computation does after another one starts from its result. -/
theorem bind {trail : Trail α} {f : α → Trail β} (h : StaysIn t P trail)
    (hf : ∀ a, P a → StaysIn t Q (f a)) : StaysIn t Q (trail >>= f) := by
  have hres := h.outcome
  cases ho : trail.outcome with
  | ok a =>
    rw [ho] at hres
    rw [Trail.bind_of_ok ho]
    refine ⟨fun hop hm => ?_, (hf a hres).outcome⟩
    exact (List.mem_append.1 hm).elim (h.hops hop) ((hf a hres).hops hop)
  | error e =>
    rw [ho] at hres
    rw [Trail.bind_of_error ho]
    exact ⟨h.hops, by cases e <;> exact hres⟩

end StaysIn

end Trail

/-- Components of the tree have client ids, so that hops between them can be reported. -/
theorem hopEvents_snd (w : t.WellFormed) {hops : List Hop}
    (hin : ∀ hop ∈ hops, hop.origin < t.size ∧ hop.target < t.size) :
    (hopEvents t hops).2 = none := by
  induction hops with
  | nil => rfl
  | cons hop rest ih =>
    obtain ⟨ho, ht⟩ := hin hop List.mem_cons_self
    have hrest := ih fun hop' hm => hin hop' (List.mem_cons_of_mem _ hm)
    rw [hopEvents, Hop.event, w.clientId_eq ho, w.clientId_eq ht]
    exact hrest

/-- Listening to a trail that stays in the tree makes no difference for its outcome. -/
theorem Trail.StaysIn.safe (w : t.WellFormed) {trail : Trail α} (h : trail.StaysIn t P) :
    trail.Safe t P := by
  refine ⟨h.outcome, ?_⟩
  have hnone := hopEvents_snd w h.hops
  rw [Trail.observed]
  split
  · simp_all
  · exact h.outcome

/-! ## One segment -/

variable {r : Resolver} {source anchor : Handle} {segment expression : String}

theorem neighbour_lt_size (w : t.WellFormed) {side : Side} {h : Handle}
    (hn : Rule.neighbour t side anchor = some h) : h < t.size := by
  obtain ⟨p, hp, hn⟩ := Option.bind_eq_some_iff.1 hn
  obtain ⟨place, hplace, hn⟩ := Option.bind_eq_some_iff.1 hn
  refine w.lt_size_of_mem_children (p := p) ?_
  cases side with
  | previous =>
    dsimp only at hn
    split at hn
    · cases hn
    · exact List.mem_of_getElem? hn
  | next => exact List.mem_of_getElem? hn

/-- A segment leads from a component of the tree to a component of the tree, or nowhere. -/
theorem Rule.safe_resolve (w : t.WellFormed) (hs : source < t.size) (ha : anchor < t.size)
    (segment : String) (rule : Rule) :
    SafeResult (∀ h ∈ ·, h < t.size) (rule.resolve t source anchor segment) := by
  cases rule with
  | path => exact safeResult_ofTree (w.exists_findByPath ha segment)
  | this =>
    rintro h ⟨⟩
    exact ha
  | parent =>
    intro h hp
    exact Nat.lt_trans (w.parent_lt hp) ha
  | enclosing what => exact safeResult_ofTree (w.exists_find?_ancestors anchor _)
  | child =>
    rw [Rule.resolve]
    cases Rule.childIndex segment with
    | some i =>
      intro h hc
      exact w.lt_size_of_mem_children (List.mem_of_getElem? hc)
    | none =>
      rw [w.clientId_eq hs]
      exact trivial
  | sibling side => exact fun h hn => neighbour_lt_size w hn
  | all =>
    rintro h ⟨⟩
    exact w.size_pos
  | none => simp [Rule.resolve, SafeResult]
  | client => exact trivial

namespace Resolver

theorem safe_notFound (w : t.WellFormed) (hs : source < t.size) (ha : anchor < t.size) :
    SafeResult P (notFound t source anchor segment expression) := by
  rw [notFound, w.clientId_eq ha, w.clientId_eq hs]
  exact trivial

theorem safe_step (w : t.WellFormed) (hs : source < t.size) (ha : anchor < t.size) :
    SafeResult (· < t.size) (r.step t source anchor segment expression) := by
  rw [step]
  cases r.registry.find segment with
  | none => exact trivial
  | some rule =>
    refine (rule.safe_resolve w hs ha segment).bind fun found hfound => ?_
    cases found with
    | some h => exact hfound h rfl
    | none => exact safe_notFound w hs ha

/-! ## Chains and expressions -/

/-- A chain goes from component to component of the tree. -/
theorem staysIn_follow (w : t.WellFormed) (hs : source < t.size) (ha : anchor < t.size)
    (segments : List String) :
    (r.follow t source expression anchor segments).StaysIn t (· < t.size) := by
  induction segments generalizing anchor with
  | nil => exact .pure ha
  | cons segment rest ih =>
    rw [follow]
    refine (Trail.StaysIn.lift (safe_step w hs ha)).bind fun next hnext => ?_
    have hhop : (Trail.hop { segment, origin := anchor, target := next }).StaysIn t
        fun _ => True := by
      refine ⟨fun hop hm => ?_, trivial⟩
      rw [List.mem_singleton.1 hm]
      exact ⟨ha, hnext⟩
    exact hhop.bind fun _ _ => ih hnext

theorem staysIn_find (w : t.WellFormed) (hs : source < t.size) (expression : String) :
    (r.find t source expression).StaysIn t (· < t.size) := by
  rw [find]
  split
  · refine .lift ((safeResult_ofTree (w.exists_findByPath hs expression)).bind ?_)
    intro found hfound
    cases found with
    | some h => exact hfound h rfl
    | none => exact safe_notFound w hs hs
  · split
    · exact .lift (safe_step w hs hs)
    · exact staysIn_follow w hs hs _

theorem safe_check (w : t.WellFormed) (hs : source < t.size) (expression : String) :
    SafeResult (fun _ => True) (r.check t source expression) := by
  rw [check, w.clientId_eq hs]
  split
  · split <;> exact trivial
  · exact trivial

theorem staysIn_component (w : t.WellFormed) (hs : source < t.size) (expression : String) :
    (r.component t source expression).StaysIn t (∀ h ∈ ·, h < t.size) := by
  have hnone : (pure none : Trail (Option Handle)).StaysIn t (∀ h ∈ ·, h < t.size) :=
    .pure (by simp)
  rw [component]
  split
  · exact hnone
  · refine (Trail.StaysIn.lift (safe_check w hs (trimmed expression))).bind fun _ _ => ?_
    split
    · exact hnone
    · split
      · exact .lift trivial
      · refine (staysIn_find w hs (trimmed expression)).bind fun h hh => .pure ?_
        rintro _ ⟨⟩
        exact hh

/-- A token for the client: one of the expressions as it is written, or the client id of a component
of the tree. -/
def IsTokenIn (t : Tree) (expressions : List String) (token : String) : Prop :=
  token ∈ expressions.map trimmed ∨ ∃ h < t.size, t.clientId h = .ok token

theorem staysIn_token (w : t.WellFormed) (hs : source < t.size) {expressions : List String}
    (he : expression ∈ expressions) :
    (r.token t source expression).StaysIn t (∀ token ∈ ·, IsTokenIn t expressions token) := by
  rw [token]
  split
  · exact .pure (by simp)
  · refine (Trail.StaysIn.lift (safe_check w hs (trimmed expression))).bind fun _ _ => ?_
    split
    · refine .pure ?_
      rintro _ ⟨⟩
      exact .inl (List.mem_map_of_mem he)
    · refine (staysIn_find w hs (trimmed expression)).bind fun h hh => ?_
      have hid : SafeResult (t.clientId h = .ok ·) (ofTree (t.clientId h)) :=
        safeResult_ofTree ⟨_, w.clientId_eq hh, w.clientId_eq hh⟩
      refine (Trail.StaysIn.lift hid).bind fun id hid => .pure ?_
      rintro _ ⟨⟩
      exact .inr ⟨h, hh, hid⟩

/-! ## Lists -/

/-- What holds of the result of each expression holds of the results of a list of them. -/
theorem staysIn_collect {resolve : String → Trail (Option α)} {expressions : List String}
    (hr : ∀ expression ∈ expressions, (resolve expression).StaysIn t (∀ a ∈ ·, P a)) :
    (collect resolve expressions).StaysIn t (∀ a ∈ ·, P a) := by
  induction expressions with
  | nil => exact .pure (by simp)
  | cons expression rest ih =>
    obtain ⟨hfirst, hrest⟩ := List.forall_mem_cons.1 hr
    rw [collect]
    refine hfirst.bind fun result hresult => (ih hrest).bind fun results hresults => .pure ?_
    intro a ha
    rcases List.mem_append.1 ha with ha | ha
    · exact hresult a (Option.mem_toList.1 ha)
    · exact hresults a ha

theorem staysIn_components (w : t.WellFormed) (hs : source < t.size) (list : String) :
    (r.components t source list).StaysIn t (∀ h ∈ ·, h < t.size) :=
  staysIn_collect fun expression _ => staysIn_component w hs expression

/-- The text for a list is the keyword for no component or made of tokens. -/
theorem staysIn_tokens (w : t.WellFormed) (hs : source < t.size) (list : String) :
    (r.tokens t source list).StaysIn t fun text => text = noneKeyword ∨
      ∃ found, text = Text.joinWith ' ' found ∧
        ∀ token ∈ found, IsTokenIn t (splitExpressions list) token := by
  rw [tokens]
  refine (staysIn_collect fun _ he => staysIn_token w hs he).bind fun found hfound => .pure ?_
  split
  · exact .inl rfl
  · exact .inr ⟨found, rfl, hfound⟩

/-- Resolving is safe. In a tree that was built, from a component of the tree, every expression and
every list of expressions has a result or an error for the server and for the client. Every
component that is found is in the tree, and so is every one whose client id goes to the client.
Paths have a result, also with every component read on the way, and so have client ids. -/
theorem safe_resolution (hb : t.Built) (r : Resolver) (hs : source < t.size) (text : String) :
    (r.component t source text).Safe t (∀ h ∈ ·, h < t.size) ∧
      (r.components t source text).Safe t (∀ h ∈ ·, h < t.size) ∧
      (r.token t source text).Safe t (∀ token ∈ ·, IsTokenIn t [text] token) ∧
      (r.tokens t source text).Safe t (fun tokens => tokens = noneKeyword ∨
        ∃ found, tokens = Text.joinWith ' ' found ∧
          ∀ token ∈ found, IsTokenIn t (splitExpressions text) token) ∧
      (∃ found, t.findByPath source text = .ok found ∧ ∀ h ∈ found, h < t.size) ∧
      (∃ clientId, t.clientId source = .ok clientId) ∧
      ∀ anchor path, t.readPath anchor path = t.findByPath anchor path := by
  have w := hb.wellFormed
  exact ⟨(staysIn_component w hs text).safe w, (staysIn_components w hs text).safe w,
    (staysIn_token w hs (List.mem_singleton_self text)).safe w, (staysIn_tokens w hs text).safe w,
    w.exists_findByPath hs text, ⟨_, w.clientId_eq hs⟩, w.readPath_eq⟩

/-- From one form a chain leads into the other one, and a second expression to the first form. -/
theorem safe_resolution_twoForms :
    let t := Tree.twoForms
    let trail := (builtin .development).components t 3 "@form:@next:@child(0) @form"
    trail.outcome = .ok [5, 1] ∧ trail.Safe t (∀ h ∈ ·, h < t.size) := by
  have hb : Tree.twoForms.Built := .ofOutlines ':' _
  have hs : 3 < Tree.twoForms.size := by decide +kernel
  exact ⟨by decide +kernel,
    (safe_resolution hb (builtin .development) hs "@form:@next:@child(0) @form").2.1⟩

end Resolver

end ViewQuery.Expression
