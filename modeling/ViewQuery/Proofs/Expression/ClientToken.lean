import ViewQuery.Proofs.Component.ClientId
import ViewQuery.Proofs.Expression.Chain

/-!
# Tokens for the client

What the client gets for an expression and for a list of them, and where that is an empty text.

* `Resolver.token_eq_ok_iff`: a token is the expression itself or the client id of its component;
* `Resolver.tokens_eq_empty_iff`: a list has an empty text only where it is one expression with an
  empty token;
* `Resolver.tokens_ne_empty_iff`: when tokens are not empty.
-/

namespace ViewQuery.Expression

open ViewQuery.Component (Handle Outline Tree)
open ViewQuery.Text (isBlank trim trimmed)

/-! ## The expressions of a list -/

theorem eq_trim_of_mem_flush {piece cs : List Char} (h : piece ∈ flush cs) :
    piece = trim cs ∧ piece ≠ [] := by
  unfold flush at h
  split at h
  · cases h
  · rename_i hne
    rw [List.mem_singleton] at h
    exact ⟨h, h ▸ hne⟩

theorem exists_trim_of_mem_splitFrom {depth : Nat} {piece cs e : List Char}
    (h : e ∈ splitFrom depth piece cs) : ∃ ds, e = trim ds ∧ e ≠ [] := by
  induction cs generalizing depth piece with
  | nil => exact ⟨_, eq_trim_of_mem_flush h⟩
  | cons c cs ih =>
    rw [splitFrom] at h
    split at h
    · rcases List.mem_append.1 h with h | h
      · exact ⟨_, eq_trim_of_mem_flush h⟩
      · exact ih h
    · split at h
      · rcases List.mem_append.1 h with h | h
        · exact ⟨_, eq_trim_of_mem_flush h⟩
        · exact ih h
      · exact ih h

/-- The expressions of a list are trimmed and not blank. -/
theorem trimmed_of_mem_splitExpressions {text e : String} (h : e ∈ splitExpressions text) :
    trimmed e = e ∧ e ≠ "" := by
  obtain ⟨cs, hcs, rfl⟩ := List.mem_map.1 h
  obtain ⟨ds, rfl, hne⟩ := exists_trim_of_mem_splitFrom hcs
  constructor
  · rw [trimmed, String.toList_ofList, Text.trim_trim]
  · simpa using hne

namespace Resolver

variable {r : Resolver} {t : Tree} {source h : Handle} {expression : String}

/-- If every expression has a result, then so has the list: these results in order. -/
theorem collect_eq_ok_iff {α : Type} {resolve : String → Trail (Option α)} {es : List String}
    {results : List α} (hsome : ∀ e ∈ es, (resolve e).outcome ≠ .ok none) :
    (collect resolve es).outcome = .ok results ↔
      es.map (fun e => (resolve e).outcome) = results.map fun a => .ok (some a) := by
  induction es generalizing results with
  | nil => cases results <;> simp [collect]
  | cons e es ih =>
    have ih := fun results => @ih results fun e he => hsome e (List.mem_cons_of_mem _ he)
    have he := hsome e List.mem_cons_self
    rw [collect, Trail.outcome_bind, bind_eq_ok_iff]
    constructor
    · rintro ⟨result, hresult, hrest⟩
      rw [Trail.outcome_bind, bind_eq_ok_iff] at hrest
      obtain ⟨rest, hr, hp⟩ := hrest
      obtain ⟨a, rfl⟩ := Option.ne_none_iff_exists'.1 fun hn => he (hn ▸ hresult)
      obtain rfl : a :: rest = results := by simpa using hp
      rw [List.map_cons, List.map_cons, hresult, (ih rest).1 hr]
    · intro hm
      cases results with
      | nil => simp at hm
      | cons a rest =>
        rw [List.map_cons, List.map_cons, List.cons.injEq] at hm
        refine ⟨some a, hm.1, ?_⟩
        rw [Trail.outcome_bind, (ih rest).2 hm.2]
        rfl

/-! ## Tokens -/

/-- How a token is found, without the hops on the way. -/
theorem outcome_token (hne : trimmed expression ≠ "") :
    (r.token t source expression).outcome =
      (r.check t source (trimmed expression)).bind fun _ =>
        if r.passesThrough t (trimmed expression) then .ok (some (trimmed expression))
        else (r.find t source (trimmed expression)).outcome.bind fun h =>
          (ofTree (t.clientId h)).bind fun clientId => .ok (some clientId) := by
  rw [Resolver.token]
  simp only [String.isEmpty_iff, if_neg hne, Trail.outcome_bind, Trail.outcome_lift]
  cases hp : r.passesThrough t (trimmed expression) with
  | true => simp only [if_true, Trail.outcome_pure]
  | false =>
    simp only [Bool.false_eq_true, if_false, Trail.outcome_bind, Trail.outcome_lift,
      Trail.outcome_pure]

/-- An expression that is not blank has a token, or an error. -/
theorem token_ne_none (hne : trimmed expression ≠ "") :
    (r.token t source expression).outcome ≠ .ok none := by
  rw [outcome_token hne]
  intro h
  obtain ⟨-, h⟩ := bind_unit_eq_ok_iff.1 h
  split at h
  · cases h
  · obtain ⟨_, -, h⟩ := bind_eq_ok_iff.1 h
    obtain ⟨_, -, h⟩ := bind_eq_ok_iff.1 h
    cases h

/-- A token is the expression itself where only the client can follow it, and otherwise the client
id of the component that is found. -/
theorem token_eq_ok_iff {token : String} :
    (r.token t source expression).outcome = .ok (some token) ↔
      trimmed expression ≠ "" ∧ r.check t source (trimmed expression) = .ok () ∧
        if r.passesThrough t (trimmed expression) then trimmed expression = token
        else ∃ h, (r.find t source (trimmed expression)).outcome = .ok h ∧
          t.clientId h = .ok token := by
  by_cases hne : trimmed expression = ""
  · simp [Resolver.token, hne]
  · rw [outcome_token hne, bind_unit_eq_ok_iff, and_iff_right hne]
    split
    · rw [Except.ok.injEq, Option.some.injEq]
    · simp only [bind_eq_ok_iff, ofTree_eq_ok_iff, Except.ok.injEq, Option.some.injEq,
        exists_eq_right]

theorem isClientOnly_eq_false_of_not_passesThrough
    (h : r.passesThrough t expression = false) : r.isClientOnly t expression = false := by
  unfold passesThrough at h
  unfold isClientOnly
  cases hs : r.soleRule t expression with
  | none => rfl
  | some rule =>
    rw [hs] at h
    cases rule <;> simp_all [Rule.passesThrough, Rule.isClientOnly]

/-- The keyword for no component is not found. -/
theorem find_noneKeyword_ne_ok (stage : Stage) :
    ((builtin stage).find t source noneKeyword).outcome ≠ .ok h := by
  intro hf
  have hl := (@find_eq_ok_iff (builtin stage) t source h noneKeyword (by decide)
    (.inl (by decide))).1 hf
  exact not_leads_noneKeyword stage hl

/-- What an expression that does not go to the client as it is written has for a token: the client
id of its component. -/
theorem token_eq_ok_iff_component {stage : Stage} {token : String}
    (hp : (builtin stage).passesThrough t (trimmed expression) = false) :
    ((builtin stage).token t source expression).outcome = .ok (some token) ↔
      ∃ h, ((builtin stage).component t source expression).outcome = .ok (some h) ∧
        t.clientId h = .ok token := by
  rw [token_eq_ok_iff]
  simp only [component_eq_ok_iff, hp, isClientOnly_eq_false_of_not_passesThrough hp]
  constructor
  · rintro ⟨hne, hc, h, hf, hid⟩
    refine ⟨h, ⟨hne, hc, fun hn => ?_, trivial, hf⟩, hid⟩
    rw [hn] at hf
    exact find_noneKeyword_ne_ok stage hf
  · rintro ⟨h, ⟨hne, hc, -, -, hf⟩, hid⟩
    exact ⟨hne, hc, h, hf, hid⟩

/-! ## Empty tokens -/

/-- An expression leads to a component that has no name for the client, and does not go there as it
is written. -/
def FindsNameless (r : Resolver) (t : Tree) (source : Handle) (expression : String) : Prop :=
  r.passesThrough t (trimmed expression) = false ∧
    ∃ h, (r.component t source expression).outcome = .ok (some h) ∧ t.Nameless h

theorem token_eq_empty_iff (w : t.WellFormed) {stage : Stage} :
    ((builtin stage).token t source expression).outcome = .ok (some "") ↔
      (builtin stage).FindsNameless t source expression := by
  cases hp : (builtin stage).passesThrough t (trimmed expression) with
  | true =>
    rw [token_eq_ok_iff, FindsNameless, hp, if_pos rfl]
    simp +contextual
  | false =>
    simp only [FindsNameless, hp, token_eq_ok_iff_component hp, w.clientId_eq_empty_iff, true_and]

/-- A list has an empty text only where it is one expression with an empty token. -/
theorem tokens_eq_empty_iff {text : String} :
    (r.tokens t source text).outcome = .ok "" ↔
      ∃ e, splitExpressions text = [e] ∧ (r.token t source e).outcome = .ok (some "") := by
  have hsome : ∀ e ∈ splitExpressions text, (r.token t source e).outcome ≠ .ok none := by
    intro e he
    obtain ⟨htrim, hne⟩ := trimmed_of_mem_splitExpressions he
    exact token_ne_none (htrim.symm ▸ hne)
  have hcollect := @collect_eq_ok_iff _ (r.token t source) (splitExpressions text)
  rw [tokens, Trail.outcome_bind, bind_eq_ok_iff]
  constructor
  · rintro ⟨found, hfound, hjoin⟩
    have hone : found = [""] := by
      rw [Trail.outcome_pure, Except.ok.injEq] at hjoin
      split at hjoin
      · exact absurd hjoin (by decide)
      · rename_i hne
        rcases Text.joinWith_eq_empty_iff.1 hjoin with rfl | rfl
        · exact absurd rfl hne
        · rfl
    rw [hcollect hsome, hone, List.map_singleton, List.map_eq_singleton_iff] at hfound
    exact hfound
  · rintro ⟨e, he, ht⟩
    refine ⟨[""], ?_, rfl⟩
    rw [hcollect hsome, he, List.map_singleton, ht, List.map_singleton]

/-- When tokens are not empty: a token is empty exactly where the expression leads to a component
without a name, and a list of tokens where it is the token of one such expression. -/
theorem tokens_ne_empty_iff (hb : t.Built) (stage : Stage) (source : Handle) :
    (∀ text, ((builtin stage).tokens t source text).outcome ≠ .ok "" ↔
      ∀ e, splitExpressions text = [e] → ¬ (builtin stage).FindsNameless t source e) ∧
    ∀ e, ((builtin stage).token t source e).outcome ≠ .ok (some "") ↔
      ¬ (builtin stage).FindsNameless t source e := by
  have w := hb.wellFormed
  constructor
  · intro text
    rw [ne_eq, tokens_eq_empty_iff]
    simp only [token_eq_empty_iff w, not_exists, not_and]
  · intro e
    rw [ne_eq, token_eq_empty_iff w]

/-- The parent of a form is the root, which has no name. -/
theorem tokens_parent_of_form :
    let t := Tree.ofOutlines ':' [.mk "form" .form []]
    ((builtin .production).tokens t 1 "@parent").outcome = .ok "" ∧
      ((builtin .production).token t 1 "@parent").outcome = .ok (some "") :=
  ⟨rfl, rfl⟩

/-- The form itself has one. -/
theorem tokens_ne_empty_iff_form :
    let t := Tree.ofOutlines ':' [.mk "form" .form []]
    ((builtin .production).token t 1 "@this").outcome = .ok (some "form") ∧
      ¬ (builtin .production).FindsNameless t 1 "@this" := by
  intro t
  have ht : ((builtin .production).token t 1 "@this").outcome = .ok (some "form") := rfl
  refine ⟨ht, ((tokens_ne_empty_iff (.ofOutlines ':' _) .production 1).2 "@this").1 ?_⟩
  rw [ht]
  simp

end Resolver

end ViewQuery.Expression
