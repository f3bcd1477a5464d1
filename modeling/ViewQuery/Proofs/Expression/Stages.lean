import ViewQuery.Proofs.Expression.ClientToken

/-!
# Development and production

Resolving in development is resolving in production behind a check of the grammar. What is resolved
in development is resolved in production in the same way, and development has an error of its own
only for the first expression that breaks the grammar.

* `Resolver.breach_ne_none_iff`: which expressions break the grammar;
* `Resolver.outcome_component_eq_or_refuses`, `Resolver.outcome_token_eq_or_refuses`: an expression
  in the two stages;
* `Resolver.outcome_collect_eq_or_refuses`: a list of expressions in the two stages;
* `Resolver.development_restricts`: all that can be resolved, in the two stages.
-/

namespace ViewQuery.Expression

open ViewQuery.Component (Handle Tree)
open ViewQuery.Text (trimmed)

variable {α β : Type}

/-! ## Outcomes in two stages -/

/-- How an outcome in development may differ from the one in production: a result is a result of
production, and a failure that production does not have is a refusal. -/
structure Restricts (refused : Failure → Prop) (dev prod : Except Failure α) : Prop where
  ok : ∀ a, dev = .ok a → prod = .ok a
  error : ∀ f, dev = .error f → prod = .error f ∨ refused f

theorem Restricts.of_eq_or {refused : Failure → Prop} {dev prod : Except Failure α}
    (h : dev = prod ∨ ∃ f, dev = .error f ∧ refused f) : Restricts refused dev prod := by
  rcases h with rfl | ⟨f, rfl, hf⟩
  · exact ⟨fun _ => id, fun _ => .inl⟩
  · exact ⟨by simp, fun g hg => .inr (Except.error.inj hg ▸ hf)⟩

/-- What is made of the results does not matter. -/
theorem eq_or_bind {refused : Failure → Prop} {dev prod : Except Failure α}
    (h : dev = prod ∨ ∃ f, dev = .error f ∧ refused f) (g : α → Except Failure β) :
    dev.bind g = prod.bind g ∨ ∃ f, dev.bind g = .error f ∧ refused f := by
  rcases h with rfl | ⟨f, rfl, hf⟩
  · exact .inl rfl
  · exact .inr ⟨f, rfl, hf⟩

namespace Resolver

variable {r r' : Resolver} {t : Tree} {source anchor : Handle} {separator : Char}
  {expression : String} {f : Failure}

/-! ## The grammar -/

/-- An expression breaks the grammar of a registry: it has a keyword mark right behind a separator in
front, or it is a chain with a link that cannot be one. -/
def BreaksGrammar (registry : Registry Rule) (separator : Char) (expression : String) : Prop :=
  (∃ rest, (trimmed expression).toList = separator :: keywordMark :: rest) ∨
    2 ≤ (splitSegments separator (trimmed expression)).length ∧
      ∃ segment ∈ splitSegments separator (trimmed expression),
        ∃ rule ∈ registry.find (trimmed segment), rule.isNestable = false

theorem refusesLink_iff {segment : String} :
    r.refusesLink segment = true ↔ ∃ rule ∈ r.registry.find segment, rule.isNestable = false := by
  rw [refusesLink, Option.any_eq_true]
  simp only [Bool.not_eq_true']
  rfl

theorem breach_ne_none_iff :
    r.breach separator (trimmed expression) ≠ none ↔
      BreaksGrammar r.registry separator expression := by
  have hfront : [separator, keywordMark].isPrefixOf (trimmed expression).toList = true ↔
      ∃ rest, (trimmed expression).toList = separator :: keywordMark :: rest := by
    rw [List.isPrefixOf_iff_prefix]
    exact exists_congr fun rest => eq_comm
  rw [breach, BreaksGrammar, ← hfront]
  split
  · rename_i h
    simp [h]
  · rename_i h
    rw [or_iff_right h]
    split
    · rename_i first second rest hsegments
      rw [hsegments, ne_eq, Option.map_eq_none_iff, List.find?_eq_none, List.forall_mem_map,
        and_iff_right (by simp)]
      simp only [← refusesLink_iff, not_forall, not_not, exists_prop]
    · rename_i hsegments
      have hshort : ¬ 2 ≤ (splitSegments separator (trimmed expression)).length := by
        cases hs : splitSegments separator (trimmed expression) with
        | nil => simp
        | cons first rest =>
          cases rest with
          | nil => simp
          | cons second rest => exact absurd hs (hsegments first second rest)
      simp [hshort]

/-- The failure of an expression that is refused: it is malformed, unless there is no client id to
say so with. -/
def IsRefusal (t : Tree) (source : Handle) (expression : String) (f : Failure) : Prop :=
  (∃ origin reason, t.clientId source = .ok origin ∧
      f = .error (.malformed expression origin reason)) ∨
    ∃ fault, t.clientId source = .error fault ∧ f = .fault fault

/-- Development refuses an expression: it has a failure of its own, and breaks the grammar. -/
structure Refuses (registry : Registry Rule) (t : Tree) (source : Handle) (expression : String)
    (f : Failure) : Prop where
  isRefusal : IsRefusal t source (trimmed expression) f
  breaksGrammar : BreaksGrammar registry t.separator expression

theorem refuses_of_check_eq_error (h : r.check t source (trimmed expression) = .error f) :
    Refuses r.registry t source expression f := by
  rw [check] at h
  split at h
  · split at h
    · rename_i reason hreason
      refine ⟨?_, breach_ne_none_iff.1 (by simp [hreason])⟩
      cases hid : t.clientId source with
      | ok origin =>
        rw [hid] at h
        exact .inl ⟨origin, reason, hid, (Except.error.inj h).symm⟩
      | error fault =>
        rw [hid] at h
        exact .inr ⟨fault, hid, (Except.error.inj h).symm⟩
    · cases h
  · cases h

/-! ## One expression -/

theorem step_congr (h : r.registry = r'.registry) (t : Tree) (source anchor : Handle)
    (segment expression : String) :
    r.step t source anchor segment expression = r'.step t source anchor segment expression := by
  rw [step, step, h]

theorem follow_congr (h : r.registry = r'.registry) (t : Tree) (source : Handle)
    (expression : String) (anchor : Handle) (segments : List String) :
    r.follow t source expression anchor segments =
      r'.follow t source expression anchor segments := by
  induction segments generalizing anchor with
  | nil => rfl
  | cons segment rest ih => simp only [follow, step_congr h, ih]

/-- The stage does not matter for where an expression leads. -/
theorem find_congr (h : r.registry = r'.registry) (t : Tree) (source : Handle)
    (expression : String) : r.find t source expression = r'.find t source expression := by
  rw [find, find, step_congr h, follow_congr h]

theorem soleRule_congr (h : r.registry = r'.registry) (t : Tree) (expression : String) :
    r.soleRule t expression = r'.soleRule t expression := by
  rw [soleRule, soleRule, h]

theorem isClientOnly_congr (h : r.registry = r'.registry) (t : Tree) (expression : String) :
    r.isClientOnly t expression = r'.isClientOnly t expression := by
  rw [isClientOnly, isClientOnly, soleRule_congr h]

theorem passesThrough_congr (h : r.registry = r'.registry) (t : Tree) (expression : String) :
    r.passesThrough t expression = r'.passesThrough t expression := by
  rw [passesThrough, passesThrough, soleRule_congr h]

/-- A check does nothing, or it ends the resolution. -/
theorem bind_check_eq_or (t : Tree) (source : Handle) (expression : String)
    (x : Except Failure α) :
    ((r.check t source (trimmed expression)).bind fun _ => x) = x ∨
      ∃ f, ((r.check t source (trimmed expression)).bind fun _ => x) = .error f ∧
        Refuses r.registry t source expression f := by
  cases hc : r.check t source (trimmed expression) with
  | ok _ => exact .inl rfl
  | error f => exact .inr ⟨f, rfl, refuses_of_check_eq_error hc⟩

variable (registry : Registry Rule) (t : Tree) (source : Handle) (expression text : String)

/-- In development an expression is resolved as in production, once it is checked. -/
theorem outcome_component_development (hne : trimmed expression ≠ "") :
    (component ⟨registry, .development⟩ t source expression).outcome =
      (check ⟨registry, .development⟩ t source (trimmed expression)).bind fun _ =>
        (component ⟨registry, .production⟩ t source expression).outcome := by
  have hsame : Resolver.registry ⟨registry, .development⟩ =
      Resolver.registry ⟨registry, .production⟩ := rfl
  have hchecked := @check_of_production ⟨registry, .production⟩ rfl t source (trimmed expression)
  rw [outcome_component hne, outcome_component hne, hchecked, isClientOnly_congr hsame,
    find_congr hsame]
  simp only [ok_bind]

theorem outcome_token_development (hne : trimmed expression ≠ "") :
    (token ⟨registry, .development⟩ t source expression).outcome =
      (check ⟨registry, .development⟩ t source (trimmed expression)).bind fun _ =>
        (token ⟨registry, .production⟩ t source expression).outcome := by
  have hsame : Resolver.registry ⟨registry, .development⟩ =
      Resolver.registry ⟨registry, .production⟩ := rfl
  have hchecked := @check_of_production ⟨registry, .production⟩ rfl t source (trimmed expression)
  rw [outcome_token hne, outcome_token hne, hchecked, passesThrough_congr hsame,
    find_congr hsame]
  simp only [ok_bind]

/-- A component in development is that in production, or the expression is refused. -/
theorem outcome_component_eq_or_refuses :
    (component ⟨registry, .development⟩ t source expression).outcome =
        (component ⟨registry, .production⟩ t source expression).outcome ∨
      ∃ f, (component ⟨registry, .development⟩ t source expression).outcome = .error f ∧
        Refuses registry t source expression f := by
  by_cases hne : trimmed expression = ""
  · exact .inl (by simp [component, hne])
  · rw [outcome_component_development registry t source expression hne]
    exact bind_check_eq_or t source expression _

/-- A token in development is that in production, or the expression is refused. -/
theorem outcome_token_eq_or_refuses :
    (token ⟨registry, .development⟩ t source expression).outcome =
        (token ⟨registry, .production⟩ t source expression).outcome ∨
      ∃ f, (token ⟨registry, .development⟩ t source expression).outcome = .error f ∧
        Refuses registry t source expression f := by
  by_cases hne : trimmed expression = ""
  · exact .inl (by simp [token, hne])
  · rw [outcome_token_development registry t source expression hne]
    exact bind_check_eq_or t source expression _

/-! ## Lists -/

/-- A failure is that of the first of several expressions that have no result, and this one is
refused. -/
def RefusesFirst (resolve : String → Except Failure α) (expressions : List String) (f : Failure) :
    Prop :=
  ∃ front refused back, expressions = front ++ refused :: back ∧
    (∀ e ∈ front, ∃ a, resolve e = .ok a) ∧ resolve refused = .error f ∧
      Refuses registry t source refused f

variable {registry t source}

theorem refusesFirst_singleton {resolve : String → Except Failure α}
    (h : resolve expression = .error f) (hr : Refuses registry t source expression f) :
    RefusesFirst registry t source resolve [expression] f :=
  ⟨[], expression, [], rfl, fun _ he => absurd he List.not_mem_nil, h, hr⟩

/-- The results of a list in development are those in production, or the first expression without a
result is refused. -/
theorem outcome_collect_eq_or_refuses {dev prod : String → Trail (Option α)}
    (h : ∀ e, (dev e).outcome = (prod e).outcome ∨
      ∃ f, (dev e).outcome = .error f ∧ Refuses registry t source e f)
    (expressions : List String) :
    (collect dev expressions).outcome = (collect prod expressions).outcome ∨
      ∃ f, (collect dev expressions).outcome = .error f ∧
        RefusesFirst registry t source (fun e => (dev e).outcome) expressions f := by
  -- The first expression that is refused ends the list. One with a failure in both stages does so
  -- too, and one with a result is in front of whatever is refused among the others.
  induction expressions with
  | nil => exact .inl rfl
  | cons e rest ih =>
    rw [collect, collect, Trail.outcome_bind, Trail.outcome_bind]
    rcases h e with he | ⟨f, he, hf⟩
    · rw [← he]
      cases hr : (dev e).outcome with
      | error f => exact .inl rfl
      | ok result =>
        simp only [Except.bind, Trail.outcome_bind, Trail.outcome_pure]
        refine (eq_or_bind ih _).imp_right ?_
        rintro ⟨f, hf, front, refused, back, rfl, hfront, hrefused⟩
        exact ⟨f, hf, e :: front, refused, back, rfl,
          List.forall_mem_cons.2 ⟨⟨result, hr⟩, hfront⟩, hrefused⟩
    · rw [he]
      exact .inr ⟨f, rfl, [], e, rest, rfl, fun _ hm => absurd hm List.not_mem_nil, he, hf⟩

variable (registry t source)

/-- Development only restricts production. For one expression and for a list of them, for the server
and for the client, what is resolved in development is resolved in production in the same way. Where
development fails otherwise than production, the failure is that of the first expression of the list
that it has no result for: this one is malformed and breaks the grammar. -/
theorem development_restricts :
    let dev : Resolver := ⟨registry, .development⟩
    let prod : Resolver := ⟨registry, .production⟩
    let component := fun e => (dev.component t source e).outcome
    let token := fun e => (dev.token t source e).outcome
    Restricts (RefusesFirst registry t source component [text])
        (component text) (prod.component t source text).outcome ∧
      Restricts (RefusesFirst registry t source component (splitExpressions text))
        (dev.components t source text).outcome (prod.components t source text).outcome ∧
      Restricts (RefusesFirst registry t source token [text])
        (token text) (prod.token t source text).outcome ∧
      Restricts (RefusesFirst registry t source token (splitExpressions text))
        (dev.tokens t source text).outcome (prod.tokens t source text).outcome := by
  intro dev prod component token
  have hcomponent := outcome_component_eq_or_refuses registry t source
  have htoken := outcome_token_eq_or_refuses registry t source
  refine ⟨.of_eq_or ?_, .of_eq_or ?_, .of_eq_or ?_, .of_eq_or ?_⟩
  · exact (hcomponent text).imp_right fun h => h.imp fun f hf =>
      ⟨hf.1, refusesFirst_singleton _ hf.1 hf.2⟩
  · exact outcome_collect_eq_or_refuses hcomponent (splitExpressions text)
  · exact (htoken text).imp_right fun h => h.imp fun f hf =>
      ⟨hf.1, refusesFirst_singleton _ hf.1 hf.2⟩
  · rw [tokens, tokens, Trail.outcome_bind, Trail.outcome_bind]
    exact eq_or_bind (outcome_collect_eq_or_refuses htoken (splitExpressions text)) _

/-- The second and the third expression break the grammar. In production they lead to the root and
to the source, in development the second one is malformed. -/
theorem development_restricts_nested :
    let t := Tree.ofOutlines ':' [.mk "form" .form [.mk "name" .component []]]
    let dev := builtin .development
    let text := "@form @parent:@all,:@this"
    let failure : Failure :=
      .error (.malformed "@parent:@all" "form:name" "subexpression \"@all\" can not be nested")
    ((builtin .production).components t 2 text).outcome = .ok [1, 0, 2] ∧
      (dev.components t 2 text).outcome = .error failure ∧
      RefusesFirst .builtin t 2 (fun e => (dev.component t 2 e).outcome)
        ["@form", "@parent:@all", ":@this"] failure := by
  intro t dev text failure
  have hprod : ((builtin .production).components t 2 text).outcome = .ok [1, 0, 2] := by
    decide +kernel
  have hdev : (dev.components t 2 text).outcome = .error failure := by decide +kernel
  have hpieces : splitExpressions text = ["@form", "@parent:@all", ":@this"] := by decide
  refine ⟨hprod, hdev, ?_⟩
  rw [← hpieces]
  refine ((development_restricts .builtin t 2 text).2.1.error failure hdev).resolve_left fun h => ?_
  rw [show (components ⟨.builtin, .production⟩ t 2 text).outcome = .ok [1, 0, 2] from hprod] at h
  cases h

end Resolver

end ViewQuery.Expression
