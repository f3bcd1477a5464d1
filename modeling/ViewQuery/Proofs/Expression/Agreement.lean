import ViewQuery.Proofs.Expression.Safety
import ViewQuery.Proofs.Expression.TokenList

/-!
# Server and client

An expression means the same for the server and for the client: what the client gets for it is the
client id of the component that the server has for it, and where the one fails, the other one fails
in the same way. The exceptions are the expressions that go to the client as they are written, and
the keyword for no component.

* `Agree.bind`: computations that agree step by step;
* `Resolver.agree_token`: one expression;
* `Resolver.agree_collect`: the expressions of a list;
* `Resolver.server_client_agree`: expressions and lists of them.
-/

namespace ViewQuery.Expression

open ViewQuery.Component (Handle Tree)
open ViewQuery.Text (trimmed)

variable {α β γ δ : Type}

/-! ## Outcomes that agree -/

/-- Two outcomes agree: they are the same failure, or results that belong together. -/
inductive Agree (R : α → β → Prop) : Except Failure α → Except Failure β → Prop where
  | ok {a : α} {b : β} : R a b → Agree R (.ok a) (.ok b)
  | error (f : Failure) : Agree R (.error f) (.error f)

theorem Agree.bind {R : α → β → Prop} {S : γ → δ → Prop} {x : Except Failure α}
    {y : Except Failure β} {f : α → Except Failure γ} {g : β → Except Failure δ}
    (h : Agree R x y) (hf : ∀ a b, R a b → Agree S (f a) (g b)) :
    Agree S (x.bind f) (y.bind g) := by
  cases h with
  | ok hab => exact hf _ _ hab
  | error e => exact .error e

theorem Agree.bind_right {R : α → β → Prop} {S : α → γ → Prop} {x : Except Failure α}
    {y : Except Failure β} {g : β → Except Failure γ} (h : Agree R x y)
    (hg : ∀ a b, R a b → Agree S (.ok a) (g b)) : Agree S x (y.bind g) := by
  cases h with
  | ok hab => exact hg _ _ hab
  | error e => exact .error e

theorem Agree.imp {R S : α → β → Prop} {x : Except Failure α} {y : Except Failure β}
    (h : Agree R x y) (hi : ∀ a b, R a b → S a b) : Agree S x y := by
  cases h with
  | ok hab => exact .ok (hi _ _ hab)
  | error e => exact .error e

/-- An outcome agrees with itself. -/
theorem SafeResult.agree {P : α → Prop} {x : Except Failure α} (h : SafeResult P x) :
    Agree (fun a b => a = b ∧ P a) x x := by
  cases x with
  | ok a => exact .ok ⟨rfl, h⟩
  | error e => exact .error e

/-- The client knows a component under a text. -/
def KnownAs (t : Tree) (h : Handle) (id : String) : Prop := t.clientId h = .ok id

namespace Resolver

variable {r : Resolver} {t : Tree} {source : Handle} {expression : String}

/-! ## One expression -/

/-- An expression that is neither the keyword for no component nor goes to the client as it is
written: its token is the client id of its component. -/
theorem agree_token (w : t.WellFormed) (hs : source < t.size) (hne : trimmed expression ≠ "")
    (hnone : trimmed expression ≠ noneKeyword)
    (hp : r.passesThrough t (trimmed expression) = false) :
    Agree (fun found token => ∃ h id, found = some h ∧ token = some id ∧ KnownAs t h id)
      (r.component t source expression).outcome (r.token t source expression).outcome := by
  rw [outcome_component hne, outcome_token hne]
  refine (safe_check w hs _).agree.bind fun _ _ _ => ?_
  rw [if_neg hnone, isClientOnly_eq_false_of_not_passesThrough hp, hp, if_neg Bool.false_ne_true,
    if_neg Bool.false_ne_true]
  refine (staysIn_find w hs _).outcome.agree.bind ?_
  rintro h _ ⟨rfl, hh⟩
  rw [w.clientId_eq hh]
  exact .ok ⟨h, _, rfl, rfl, w.clientId_eq hh⟩

/-! ## Lists -/

/-- Results that agree for each expression agree for a list of them. -/
theorem agree_collect {R : α → β → Prop} {f : String → Trail (Option α)}
    {g : String → Trail (Option β)} {expressions : List String}
    (h : ∀ e ∈ expressions,
      Agree (fun a b => List.Forall₂ R a.toList b.toList) (f e).outcome (g e).outcome) :
    Agree (List.Forall₂ R) (collect f expressions).outcome (collect g expressions).outcome := by
  induction expressions with
  | nil => exact .ok .nil
  | cons e rest ih =>
    obtain ⟨hfirst, hrest⟩ := List.forall_mem_cons.1 h
    rw [collect, collect, Trail.outcome_bind, Trail.outcome_bind]
    refine hfirst.bind fun a b hab => ?_
    rw [Trail.outcome_bind, Trail.outcome_bind]
    exact (ih hrest).bind fun as bs hall => .ok (List.rel_append hab hall)

/-- Server and client agree. In a tree that was built, from a component of the tree, an expression
that is not blank, not the keyword for no component and does not go to the client as it is written
has the client id of its component for the client, or the same failure. For a list of such
expressions the client gets the client ids of the components in order with single spaces between
them, or the keyword for no component where there are none, or the same failure. -/
theorem server_client_agree (hb : t.Built) (r : Resolver) (hs : source < t.size) :
    (∀ expression, trimmed expression ≠ "" → trimmed expression ≠ noneKeyword →
      r.passesThrough t (trimmed expression) = false →
        Agree (fun found token => ∃ h id, found = some h ∧ token = some id ∧ KnownAs t h id)
          (r.component t source expression).outcome (r.token t source expression).outcome) ∧
      ∀ list, (∀ e ∈ splitExpressions list, e ≠ noneKeyword ∧ r.passesThrough t e = false) →
        Agree (fun found text => ∃ ids, List.Forall₂ (KnownAs t) found ids ∧
            text = if found = [] then noneKeyword else Text.joinWith ' ' ids)
          (r.components t source list).outcome (r.tokens t source list).outcome := by
  have w := hb.wellFormed
  refine ⟨fun expression => agree_token w hs, fun list hlist => ?_⟩
  have hcollect : Agree (List.Forall₂ (KnownAs t)) (r.components t source list).outcome
      (collect (r.token t source) (splitExpressions list)).outcome := by
    refine agree_collect fun e he => ?_
    obtain ⟨htrim, hne⟩ := trimmed_of_mem_splitExpressions he
    rw [← htrim] at hne
    obtain ⟨hnone, hp⟩ := hlist e he
    rw [← htrim] at hnone hp
    refine (agree_token w hs hne hnone hp).imp ?_
    rintro _ _ ⟨h, id, rfl, rfl, hid⟩
    exact .cons hid .nil
  rw [tokens, Trail.outcome_bind]
  refine hcollect.bind_right fun found ids hids => .ok ⟨ids, hids, ?_⟩
  cases hids <;> rfl

/-- A child that the form of a field does not have, for which server and client have the same error;
and from the same field the form and the other field. -/
theorem server_client_agree_twoFields :
    let r := builtin .development
    let failure : Failure :=
      .error (.notFound "@child(2)" "form" "@form:@child(2)" "form:name")
    ((r.component twoFields 2 " @form:@child(2)").outcome = .error failure ∧
        (r.token twoFields 2 " @form:@child(2)").outcome = .error failure) ∧
      (r.components twoFields 2 "@form, city").outcome = .ok [1, 3] ∧
        (r.tokens twoFields 2 "@form, city").outcome = .ok "form form:city" ∧
        ∃ ids, List.Forall₂ (KnownAs twoFields) [1, 3] ids ∧
          "form form:city" = Text.joinWith ' ' ids := by
  intro r failure
  obtain ⟨hone, hlist⟩ :=
    @server_client_agree twoFields 2 (.ofOutlines ':' _) r (by decide +kernel)
  have hcomponent : (r.component twoFields 2 " @form:@child(2)").outcome = .error failure := by
    decide +kernel
  have hcomponents : (r.components twoFields 2 "@form, city").outcome = .ok [1, 3] := by
    decide +kernel
  have htokens : (r.tokens twoFields 2 "@form, city").outcome = .ok "form form:city" := by
    decide +kernel
  have hone := hone " @form:@child(2)" (by decide) (by decide) (by decide +kernel)
  have hlist := hlist "@form, city" (by decide +kernel)
  rw [hcomponent] at hone
  rw [hcomponents, htokens] at hlist
  refine ⟨⟨hcomponent, ?_⟩, hcomponents, htokens, ?_⟩
  · generalize (r.token twoFields 2 " @form:@child(2)").outcome = token at hone
    cases hone
    rfl
  · cases hlist with
    | ok h => exact h

end Resolver

end ViewQuery.Expression
