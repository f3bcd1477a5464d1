import ViewQuery.Component.Outline
import ViewQuery.Proofs.Expression.Segments
import ViewQuery.Proofs.Outcome

/-!
# Chains

Where a chain of links leads, and that chains compose. Which component a link leads to depends on
its anchor alone: the source of an expression and its text show in errors only.

* `Resolver.follow_eq_ok_iff`: following links finds the component that they lead to;
* `Resolver.find_eq_ok_iff`: a path, a keyword and a chain all lead along their links;
* `component_append_separator`: an expression behind another one and the separator is resolved
  from the component of the first.
-/

namespace ViewQuery.Expression

open ViewQuery.Component (Handle Outline Tree)
open ViewQuery.Text (isBlank trimmed)

/-! ## One link -/

@[simp] theorem Trail.outcome_lift {α : Type} (x : Except Failure α) :
    (Trail.lift x).outcome = x := rfl

@[simp] theorem Trail.outcome_hop (h : Hop) : (Trail.hop h).outcome = .ok () := rfl

theorem ofTree_eq_ok_iff {α : Type} {x : Except Component.Fault α} {a : α} :
    ofTree x = .ok a ↔ x = .ok a := by
  cases x <;> simp [ofTree]

/-- The source of an expression shows in the errors of a rule only. -/
theorem Rule.resolve_eq_ok_congr (rule : Rule) (t : Tree) (s s' anchor : Handle) (segment : String)
    (result : Option Handle) :
    rule.resolve t s anchor segment = .ok result ↔
      rule.resolve t s' anchor segment = .ok result := by
  cases rule with
  | child =>
    cases hi : Rule.childIndex segment with
    | some i => simp [Rule.resolve, hi]
    | none =>
      simp only [Rule.resolve, hi]
      cases ofTree (t.clientId s) <;> cases ofTree (t.clientId s') <;> simp [bind, Except.bind]
  | _ => rfl

namespace Resolver

variable {r : Resolver} {t : Tree} {source anchor h : Handle} {segment expression : String}

/-- A link leads from a component to another one. -/
def LinkLeads (r : Resolver) (t : Tree) (anchor : Handle) (segment : String) (h : Handle) : Prop :=
  ∃ rule, r.registry.find segment = some rule ∧
    rule.resolve t anchor anchor segment = .ok (some h)

/-- Links lead from a component to another one, each from where the one before has led to. -/
inductive Leads (r : Resolver) (t : Tree) : Handle → List String → Handle → Prop where
  | nil (anchor : Handle) : Leads r t anchor [] anchor
  | cons {anchor next h : Handle} {segment : String} {rest : List String} :
    r.LinkLeads t anchor segment next → Leads r t next rest h → Leads r t anchor (segment :: rest) h

theorem notFound_ne_ok {α : Type} (a : α) :
    notFound t source anchor segment expression ≠ Except.ok a := by
  unfold notFound
  cases ofTree (t.clientId anchor) <;> cases ofTree (t.clientId source) <;> simp [bind, Except.bind]

/-- A step succeeds exactly when its link leads somewhere. -/
theorem step_eq_ok_iff :
    r.step t source anchor segment expression = .ok h ↔ r.LinkLeads t anchor segment h := by
  unfold step LinkLeads
  cases r.registry.find segment with
  | none => simp
  | some rule =>
    simp only [Option.some.injEq, exists_eq_left']
    rw [rule.resolve_eq_ok_congr t anchor source]
    cases rule.resolve t source anchor segment with
    | error e => simp [bind, Except.bind]
    | ok found =>
      cases found with
      | none => simpa [bind, Except.bind] using notFound_ne_ok h
      | some next => simp [bind, Except.bind]

/-! ## Several links -/

theorem leads_cons_iff {rest : List String} :
    r.Leads t anchor (segment :: rest) h ↔
      ∃ next, r.LinkLeads t anchor segment next ∧ r.Leads t next rest h := by
  constructor
  · rintro (_ | ⟨hl, hr⟩)
    exact ⟨_, hl, hr⟩
  · rintro ⟨next, hl, hr⟩
    exact .cons hl hr

theorem leads_nil_iff : r.Leads t anchor [] h ↔ anchor = h := by
  constructor
  · rintro ⟨⟩
    rfl
  · rintro rfl
    exact .nil anchor

theorem leads_singleton_iff : r.Leads t anchor [segment] h ↔ r.LinkLeads t anchor segment h := by
  simp [leads_cons_iff, leads_nil_iff]

theorem leads_append_iff {l m : List String} :
    r.Leads t anchor (l ++ m) h ↔ ∃ next, r.Leads t anchor l next ∧ r.Leads t next m h := by
  induction l generalizing anchor with
  | nil => simp [leads_nil_iff]
  | cons segment l ih =>
    simp only [List.cons_append, leads_cons_iff, ih]
    constructor
    · rintro ⟨a, ha, b, hb, hm⟩
      exact ⟨b, ⟨a, ha, hb⟩, hm⟩
    · rintro ⟨b, ⟨a, ha, hb⟩, hm⟩
      exact ⟨a, ha, b, hb, hm⟩

/-- Following links finds the component that they lead to. -/
theorem follow_eq_ok_iff {segments : List String} :
    (r.follow t source expression anchor segments).outcome = .ok h ↔
      r.Leads t anchor segments h := by
  induction segments generalizing anchor with
  | nil => simp [follow, leads_nil_iff]
  | cons segment rest ih =>
    rw [follow, leads_cons_iff, Trail.outcome_bind, bind_eq_ok_iff, Trail.outcome_lift]
    simp only [Trail.outcome_bind, Trail.outcome_hop, Except.bind, step_eq_ok_iff, ih]

/-- Links lead to one component at most. -/
theorem Leads.unique {segments : List String} {h' : Handle} (hl : r.Leads t anchor segments h)
    (hl' : r.Leads t anchor segments h') : h = h' := by
  have heq := (@follow_eq_ok_iff _ _ anchor _ _ "" _).2 hl
  rw [(@follow_eq_ok_iff _ _ anchor _ _ "" _).2 hl'] at heq
  exact (Except.ok.inj heq).symm

/-! ## One expression -/

theorem find_of_no_mark {segment : String} (h : keywordMark ∉ segment.toList) :
    r.registry.find segment = some .path :=
  Registry.find_of_head?_ne fun hh => h (List.mem_of_mem_head? hh)

/-- A link that is a path leads to the component of the path. -/
theorem linkLeads_path_iff (hf : r.registry.find segment = some .path) :
    r.LinkLeads t anchor segment h ↔ t.findByPath anchor segment = .ok (some h) := by
  unfold LinkLeads
  rw [← ofTree_eq_ok_iff]
  constructor
  · rintro ⟨rule, hr, hl⟩
    obtain rfl : Rule.path = rule := Option.some.inj (hf.symm.trans hr)
    exact hl
  · exact fun hl => ⟨.path, hf, hl⟩

theorem holds_iff {c : Char} {s : String} : holds c s = true ↔ c ∈ s.toList := by
  simp [holds]

theorem trimmed_trimmed (s : String) : trimmed (trimmed s) = trimmed s := by
  simp [trimmed, Text.trim_trim]

/-- An expression without a keyword mark is found as one path. -/
theorem find_eq_ok_iff_findByPath (hm : keywordMark ∉ expression.toList) :
    (r.find t source expression).outcome = .ok h ↔ t.findByPath source expression = .ok (some h) := by
  have hh : ¬ holds keywordMark expression = true := mt holds_iff.1 hm
  have hf : r.registry.find expression = some .path := find_of_no_mark hm
  rw [← linkLeads_path_iff hf, ← @step_eq_ok_iff _ _ source _ _ _ expression, step, hf]
  unfold find
  rw [if_pos (by simpa using hh)]
  rfl

/-- An expression with a keyword mark and a separator is found along its links. -/
theorem find_eq_ok_iff_leads (hm : keywordMark ∈ expression.toList)
    (hs : t.separator ∈ expression.toList) :
    (r.find t source expression).outcome = .ok h ↔
      r.Leads t source (links t.separator expression) h := by
  unfold find
  rw [if_neg (by simpa using holds_iff.2 hm), if_neg (by simpa using holds_iff.2 hs)]
  exact follow_eq_ok_iff

/-- A path, a keyword and a chain all lead along their links, unless the path is one of several
ids. -/
theorem find_eq_ok_iff (hne : trimmed expression ≠ "")
    (hs : keywordMark ∈ (trimmed expression).toList ∨ t.separator ∉ (trimmed expression).toList) :
    (r.find t source (trimmed expression)).outcome = .ok h ↔
      r.Leads t source (links t.separator (trimmed expression)) h := by
  have hlinks := @links_of_not_mem t.separator (trimmed expression)
  unfold find
  split
  · rename_i hm
    rw [Bool.not_eq_true', ← Bool.not_eq_true, holds_iff] at hm
    rw [hlinks (hs.resolve_left hm) (trimmed_trimmed _) hne, leads_singleton_iff,
      ← @step_eq_ok_iff _ _ source _ _ _ (trimmed expression), step, find_of_no_mark hm]
    rfl
  · split
    · rename_i hm
      rw [Bool.not_eq_true', ← Bool.not_eq_true, holds_iff] at hm
      rw [hlinks hm (trimmed_trimmed _) hne, leads_singleton_iff, Trail.outcome_lift,
        step_eq_ok_iff]
    · exact follow_eq_ok_iff

/-- How a component is found, without the hops on the way. -/
theorem outcome_component (hne : trimmed expression ≠ "") :
    (r.component t source expression).outcome =
      (r.check t source (trimmed expression)).bind fun _ =>
        if trimmed expression = noneKeyword then .ok none
        else if r.isClientOnly t (trimmed expression) then
          .error (.error (.unsupported (trimmed expression)))
        else (r.find t source (trimmed expression)).outcome.bind fun h => .ok (some h) := by
  rw [component]
  simp only [String.isEmpty_iff, if_neg hne, Trail.outcome_bind, Trail.outcome_lift]
  by_cases hn : trimmed expression = noneKeyword
  · simp only [if_pos hn, Trail.outcome_pure]
  · cases hc : r.isClientOnly t (trimmed expression) with
    | true => simp only [if_neg hn, if_true, Trail.outcome_lift]
    | false =>
      simp only [if_neg hn, Bool.false_eq_true, if_false, Trail.outcome_bind, Trail.outcome_pure]

/-- An expression has a component exactly when it passes the checks, is found, and is neither blank
nor one of those that mean no component of the server. -/
theorem component_eq_ok_iff :
    (r.component t source expression).outcome = .ok (some h) ↔
      trimmed expression ≠ "" ∧ r.check t source (trimmed expression) = .ok () ∧
        trimmed expression ≠ noneKeyword ∧ r.isClientOnly t (trimmed expression) = false ∧
        (r.find t source (trimmed expression)).outcome = .ok h := by
  by_cases hne : trimmed expression = ""
  · simp [component, hne]
  · rw [outcome_component hne, bind_unit_eq_ok_iff, and_iff_right hne]
    by_cases hn : trimmed expression = noneKeyword
    · simp [hn]
    · cases hc : r.isClientOnly t (trimmed expression) with
      | true => simp [hn]
      | false => simp [hn, bind_eq_ok_iff]

/-- In production nothing is checked. -/
theorem check_of_production (hp : r.stage = .production) (t : Tree) (source : Handle)
    (expression : String) : r.check t source expression = .ok () := by
  rw [check, if_neg (by simp [hp])]

theorem not_leads_of_find_eq_none {rest : List String} (hf : r.registry.find segment = none) :
    ¬ r.Leads t anchor (segment :: rest) h := by
  rw [leads_cons_iff]
  rintro ⟨next, ⟨rule, hr, -⟩, -⟩
  simp [hf] at hr

theorem not_leads_of_client (hf : r.registry.find segment = some .client) :
    ¬ r.Leads t anchor [segment] h := by
  rw [leads_singleton_iff]
  rintro ⟨rule, hr, hl⟩
  obtain rfl : Rule.client = rule := Option.some.inj (hf.symm.trans hr)
  simp [Rule.resolve] at hl

/-- An expression for the client only is one link, and leads nowhere. -/
theorem isClientOnly_eq_false_of_leads (hs : UsableSeparator t.separator)
    (hl : r.Leads t source (links t.separator expression) h) :
    r.isClientOnly t expression = false := by
  cases hc : r.isClientOnly t expression with
  | false => rfl
  | true =>
    obtain ⟨rule, hr, hcl⟩ : ∃ rule, r.soleRule t expression = some rule ∧
        rule.isClientOnly = true := by
      simpa [isClientOnly, Option.any_eq_true] using hc
    obtain rfl : rule = .client := by
      cases rule <;> simp_all [Rule.isClientOnly]
    unfold soleRule at hr
    split at hr
    · rename_i segment hseg
      have hne : trimmed segment ≠ "" := by
        intro he
        rw [he] at hr
        simp [Registry.find] at hr
      rw [links_of_sole hs hseg, nonEmpty, List.filter_cons_of_pos (by simpa using hne)] at hl
      exact absurd hl (not_leads_of_client hr)
    · cases hr

theorem not_linkLeads_noneKeyword (stage : Stage) :
    ¬ (builtin stage).LinkLeads t anchor noneKeyword h := by
  rintro ⟨rule, hf, hr⟩
  obtain rfl : Rule.none = rule := Option.some.inj (Eq.trans (by rfl) hf)
  simp [Rule.resolve] at hr

/-- The keyword for no component leads nowhere, also where the separator is one of its
characters. -/
theorem not_leads_noneKeyword (stage : Stage) :
    ¬ (builtin stage).Leads t source (links t.separator noneKeyword) h := by
  by_cases hm : t.separator ∈ noneKeyword.toList
  · have hcut : t.separator = '@' ∨ t.separator = 'n' ∨ t.separator = 'o' ∨ t.separator = 'n' ∨
        t.separator = 'e' := by simpa [noneKeyword] using hm
    rcases hcut with hc | hc | hc | hc | hc
    · rw [hc, show links '@' noneKeyword = [noneKeyword] from rfl, leads_singleton_iff]
      exact not_linkLeads_noneKeyword stage
    all_goals
      rw [hc]
      exact not_leads_of_find_eq_none rfl
  · rw [links_of_not_mem hm rfl (by decide), leads_singleton_iff]
    exact not_linkLeads_noneKeyword stage

/-- In production a component is where the links lead. -/
theorem component_eq_ok_iff_leads (hs : UsableSeparator t.separator)
    (he : keywordMark ∈ expression.toList ∨ t.separator ∉ expression.toList) :
    ((builtin .production).component t source expression).outcome = .ok (some h) ↔
      trimmed expression ≠ "" ∧
        (builtin .production).Leads t source (links t.separator (trimmed expression)) h := by
  have hmark : isBlank keywordMark = false := rfl
  have he' : keywordMark ∈ (trimmed expression).toList ∨
      t.separator ∉ (trimmed expression).toList := by
    rwa [Text.toList_trimmed, Text.mem_trim_iff hmark, Text.mem_trim_iff hs.not_blank]
  rw [component_eq_ok_iff]
  constructor
  · rintro ⟨hne, -, -, -, hf⟩
    exact ⟨hne, (find_eq_ok_iff hne he').1 hf⟩
  · rintro ⟨hne, hl⟩
    have hnone : trimmed expression ≠ noneKeyword := by
      intro hn
      rw [hn] at hl
      exact not_leads_noneKeyword .production hl
    exact ⟨hne, check_of_production rfl t source _, hnone, isClientOnly_eq_false_of_leads hs hl,
      (find_eq_ok_iff hne he').2 hl⟩

/-! ## Composition -/

/-- Chains compose. If an expression closes its parentheses and has a component, then what another
one leads to from there is what the two lead to together, with the separator between them. -/
theorem component_append_separator {config : Config} (hc : config.validate = .ok ()) {t : Tree}
    (ht : t.separator = config.expressions.separator) {source middle : Handle} {e₁ e₂ : String}
    (hd : depthAfterAll 0 e₁.toList = 0) (h₂ : trimmed e₂ ≠ "")
    (hr : (trimmed e₂).toList.head? ≠ some t.separator)
    (hm : keywordMark ∈ e₁.toList ∨ keywordMark ∈ e₂.toList)
    (hs₁ : keywordMark ∈ e₁.toList ∨ t.separator ∉ e₁.toList)
    (hs₂ : keywordMark ∈ e₂.toList ∨ t.separator ∉ e₂.toList)
    (h : ((builtin .production).component t source e₁).outcome = .ok (some middle)) (c : Handle) :
    ((builtin .production).component t source
        (e₁ ++ String.singleton t.separator ++ e₂)).outcome = .ok (some c) ↔
      ((builtin .production).component t middle e₂).outcome = .ok (some c) := by
  have hu : UsableSeparator t.separator := ht ▸ usableSeparator_of_validate hc
  have hj : keywordMark ∈ (e₁ ++ String.singleton t.separator ++ e₂).toList := by
    rw [String.toList_append, String.toList_append, List.mem_append, List.mem_append]
    exact hm.imp .inl id
  obtain ⟨h₁, hl⟩ := (component_eq_ok_iff_leads hu hs₁).1 h
  rw [component_eq_ok_iff_leads hu (.inl hj), component_eq_ok_iff_leads hu hs₂,
    links_append hu hd h₁ hr, leads_append_iff]
  constructor
  · rintro ⟨-, next, hn, hl'⟩
    rw [hn.unique hl] at hl'
    exact ⟨h₂, hl'⟩
  · rintro ⟨-, hl'⟩
    refine ⟨fun hb => ?_, middle, hl, hl'⟩
    rw [← Text.mem_trim_iff rfl, ← Text.toList_trimmed, hb] at hj
    simp at hj

/-- From a field, the form around it and then a field of that form. -/
theorem component_append_separator_form :
    let form := Outline.mk "form" .form [.mk "name" .component [], .mk "city" .component []]
    let t := Tree.ofOutlines ':' [form]
    ((builtin .production).component t 2 "@form").outcome = .ok (some 1) ∧
      ((builtin .production).component t 2
        ("@form" ++ String.singleton ':' ++ " city ")).outcome = .ok (some 3) :=
  ⟨rfl, (@component_append_separator default rfl _ rfl 2 1 "@form" " city " rfl (by decide)
    (by decide) (.inl (by decide)) (.inl (by decide)) (.inr (by decide)) rfl 3).2 rfl⟩

end Resolver

end ViewQuery.Expression
