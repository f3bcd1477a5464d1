import ViewQuery.Proofs.Component.Path
import ViewQuery.Proofs.Expression.Chain

/-!
# Absolute expressions

An expression that starts with the separator, and whether its component depends on the component
that it is written on. It does not where its first link is looked for from the root. Behind blank
segments, or with a keyword mark in it, the first link is looked for from the source instead.

* `StartsAtRoot`: the expressions whose first link is looked for from the root;
* `Resolver.find_eq_ok_iff_of_startsAtRoot`: these do not depend on the source;
* `Resolver.find_eq_ok_iff_leads_relative`: the others are chains from the source;
* `Resolver.component_absolute_iff`: when an absolute expression has the same component from every
  source.
-/

namespace ViewQuery.Expression

open ViewQuery.Component (Handle Tree)
open ViewQuery.Text (trimmed)

variable {separator : Char} {rest : List Char}

/-- What follows the separator in front of an expression is looked for from the root, at least its
first segment: there is no keyword mark at all, or the first segment is neither blank nor has a
keyword mark in it. -/
def StartsAtRoot (separator : Char) (rest : List Char) : Prop :=
  keywordMark ∉ rest ∨
    ∃ first ∈ (trimmedSegments separator rest).head?, first ≠ "" ∧ keywordMark ∉ first.toList

instance (separator : Char) (rest : List Char) : Decidable (StartsAtRoot separator rest) :=
  inferInstanceAs (Decidable (_ ∨ ∃ first ∈ (trimmedSegments separator rest).head?, _ ∧ _))

namespace Resolver

variable {r : Resolver} {t : Tree} {source anchor h : Handle} {expression : String}

/-- Nothing is refused in production, and nothing that keeps to the grammar. -/
theorem check_eq_ok_iff :
    r.check t source expression = .ok () ↔
      (r.stage = .development → r.breach t.separator expression = none) := by
  unfold check
  split
  · rename_i hs
    cases r.breach t.separator expression with
    | none => simp
    | some reason => cases ofTree (t.clientId source) <;> simp [hs, bind, Except.bind]
  · rename_i hs
    simp [hs]

/-- A link that starts with the separator leads to the same component from everywhere. -/
theorem linkLeads_absolute (hu : UsableSeparator t.separator) {path : String}
    (hp : path.toList = t.separator :: rest) (anchor anchor' : Handle) :
    r.LinkLeads t anchor path h ↔ r.LinkLeads t anchor' path h := by
  have hf : r.registry.find path = some .path := Registry.find_of_head?_ne (by
    rw [hp]
    simpa using hu.ne_mark)
  rw [linkLeads_path_iff hf, linkLeads_path_iff hf, Component.Tree.findByPath_of_absolute hp,
    Component.Tree.findByPath_of_absolute hp]

/-- An absolute expression is more than one segment, so that it is never left to the client. -/
theorem isClientOnly_of_absolute (hu : UsableSeparator t.separator)
    (he : expression.toList = t.separator :: rest) : r.isClientOnly t expression = false := by
  have hs : splitSegments t.separator expression =
      "" :: (segmentsFrom t.separator 0 rest).map String.ofList := by
    rw [splitSegments, he, segmentsFrom, if_pos ⟨rfl, rfl, hu.ne_open, hu.ne_close⟩, List.map_cons]
  have hsole : r.soleRule t expression = none := by
    cases hrest : segmentsFrom t.separator 0 rest with
    | nil => exact absurd hrest (segmentsFrom_ne_nil 0 rest)
    | cons first others =>
      rw [hrest] at hs
      rw [soleRule, hs]
      rfl
  rw [isClientOnly, hsole, Option.any_none]

/-- An absolute expression has a component exactly when it is not refused and is found. -/
theorem component_eq_ok_iff_of_absolute (hu : UsableSeparator t.separator)
    (he : (trimmed expression).toList = t.separator :: rest) {result : Option Handle} :
    (r.component t source expression).outcome = .ok result ↔
      (r.stage = .development → r.breach t.separator (trimmed expression) = none) ∧
        ∃ h, result = some h ∧ (r.find t source (trimmed expression)).outcome = .ok h := by
  have hne : trimmed expression ≠ "" := by
    intro h
    simp [h] at he
  have hnone : trimmed expression ≠ noneKeyword := by
    intro h
    rw [h] at he
    exact hu.ne_mark (List.cons.inj he).1.symm
  rw [outcome_component hne, bind_unit_eq_ok_iff, check_eq_ok_iff, if_neg hnone,
    isClientOnly_of_absolute hu he, if_neg Bool.false_ne_true, bind_eq_ok_iff]
  simp only [Except.ok.injEq, eq_comm, and_comm]

/-! ## From the root -/

/-- Where the first link is looked for from the root, the source does not matter. -/
theorem find_eq_ok_iff_of_startsAtRoot (hu : UsableSeparator t.separator)
    (he : expression.toList = t.separator :: rest) (hr : StartsAtRoot t.separator rest)
    (source source' : Handle) :
    (r.find t source expression).outcome = .ok h ↔
      (r.find t source' expression).outcome = .ok h := by
  by_cases hm : keywordMark ∈ expression.toList
  · have hsep : t.separator ∈ expression.toList := by simp [he]
    have hmrest : keywordMark ∈ rest := by
      rw [he] at hm
      exact (List.mem_cons.1 hm).resolve_left hu.ne_mark.symm
    obtain ⟨first, hfirst, hne, hpath⟩ := hr.resolve_left (not_not_intro hmrest)
    obtain ⟨others, hsegments⟩ := List.head?_eq_some_iff.1 hfirst
    have hlinks : links t.separator expression =
        (String.singleton t.separator ++ first) :: nonEmpty others := by
      rw [links_of_absolute he, hsegments, rooted_of_path hne hpath, nonEmpty,
        List.filter_cons_of_pos (by simp)]
      rfl
    have hrooted : (String.singleton t.separator ++ first).toList = t.separator :: first.toList := by
      simp
    rw [find_eq_ok_iff_leads hm hsep, find_eq_ok_iff_leads hm hsep, hlinks, leads_cons_iff,
      leads_cons_iff]
    simp only [linkLeads_absolute hu hrooted source source']
  · rw [find_eq_ok_iff_findByPath hm, find_eq_ok_iff_findByPath hm,
      Component.Tree.findByPath_of_absolute he, Component.Tree.findByPath_of_absolute he]

/-- Where it is not, the segments are a chain from the source. -/
theorem find_eq_ok_iff_leads_relative (he : expression.toList = t.separator :: rest)
    (hr : ¬ StartsAtRoot t.separator rest) :
    (r.find t source expression).outcome = .ok h ↔
      r.Leads t source (nonEmpty (trimmedSegments t.separator rest)) h := by
  rw [StartsAtRoot, not_or, not_not] at hr
  obtain ⟨hm, hfirst⟩ := hr
  have hmark : keywordMark ∈ expression.toList := by simp [he, hm]
  have hlinks : links t.separator expression =
      nonEmpty (trimmedSegments t.separator rest) := by
    rw [links_of_absolute he]
    cases hsegments : trimmedSegments t.separator rest with
    | nil => exact absurd hsegments (trimmedSegments_ne_nil rest)
    | cons first others =>
      rw [rooted_of_not_path]
      by_contra hnot
      rw [not_or] at hnot
      exact hfirst ⟨first, by rw [hsegments]; rfl, hnot⟩
  rw [find_eq_ok_iff_leads hmark (by simp [he]), hlinks]

/-! ## From any source -/

/-- An absolute expression has the same component from every source, or none, exactly when it starts
at the root, or is refused, or is a chain that leads from all sources to the same component. -/
theorem component_absolute_iff {config : Config} (hc : config.validate = .ok ()) {t : Tree}
    (ht : t.separator = config.expressions.separator) {expression : String} {rest : List Char}
    (he : (trimmed expression).toList = t.separator :: rest) :
    (∀ s₁ < t.size, ∀ s₂ < t.size, ∀ result,
        ((builtin .development).component t s₁ expression).outcome = .ok result ↔
          ((builtin .development).component t s₂ expression).outcome = .ok result) ↔
      StartsAtRoot t.separator rest ∨
        (builtin .development).breach t.separator (trimmed expression) ≠ none ∨
        ∀ s₁ < t.size, ∀ s₂ < t.size, ∀ h,
          (builtin .development).Leads t s₁ (nonEmpty (trimmedSegments t.separator rest)) h ↔
            (builtin .development).Leads t s₂ (nonEmpty (trimmedSegments t.separator rest)) h := by
  have hu : UsableSeparator t.separator := ht ▸ usableSeparator_of_validate hc
  simp only [component_eq_ok_iff_of_absolute hu he]
  by_cases hr : StartsAtRoot t.separator rest
  · rw [iff_true_right (.inl hr)]
    intro s₁ _ s₂ _ result
    simp only [find_eq_ok_iff_of_startsAtRoot hu he hr s₁ s₂]
  · rw [or_iff_right hr]
    simp only [find_eq_ok_iff_leads_relative he hr]
    by_cases hb : (builtin .development).breach t.separator (trimmed expression) = none
    · rw [or_iff_right (not_not_intro hb)]
      constructor
      · intro hsame s₁ h₁ s₂ h₂ h
        simpa [hb] using hsame s₁ h₁ s₂ h₂ (some h)
      · intro hsame s₁ h₁ s₂ h₂ result
        simp only [hsame s₁ h₁ s₂ h₂]
    · rw [iff_true_right (.inl hb)]
      intro s₁ _ s₂ _ result
      have hrefused : ¬ ((builtin .development).stage = .development →
          (builtin .development).breach t.separator (trimmed expression) = none) :=
        fun hnone => hb (hnone rfl)
      simp only [hrefused, false_and]

/-- A component at the top, and a form with one of the same id. -/
def sameIds : Tree :=
  .ofOutlines ':'
    [.mk "x" .component [], .mk "form" .form [.mk "x" .component [], .mk "a@b" .component []]]

/-- From the form as from the root, the child of the form. -/
theorem component_absolute_iff_sameIds :
    (trimmed " :form:@child(0)").toList = sameIds.separator :: "form:@child(0)".toList ∧
      ((builtin .development).component sameIds 0 " :form:@child(0)").outcome = .ok (some 3) ∧
      ((builtin .development).component sameIds 4 " :form:@child(0)").outcome = .ok (some 3) := by
  have hroot : ((builtin .development).component sameIds 0 " :form:@child(0)").outcome =
      .ok (some 3) := rfl
  have hsame := (@component_absolute_iff default rfl sameIds rfl " :form:@child(0)"
    "form:@child(0)".toList rfl).2 (.inl (by decide +kernel))
  exact ⟨rfl, hroot, (hsame 0 (by decide) 4 (by decide) _).1 hroot⟩

/-- Behind a blank segment a keyword and an id are looked for from the source, and so is an id with
the keyword mark in it. -/
theorem component_absolute_from_source :
    let found := fun source expression =>
      ((builtin .development).component sameIds source expression).outcome
    (found 0 "::x:@this" = .ok (some 1) ∧ found 2 "::x:@this" = .ok (some 3)) ∧
      (found 0 ": @this" = .ok (some 0) ∧ found 2 ": @this" = .ok (some 2)) ∧
      (found 0 ":a@b" = .error (.error (.notFound "a@b" "" ":a@b" "")) ∧
        found 2 ":a@b" = .ok (some 4)) :=
  ⟨⟨rfl, rfl⟩, ⟨rfl, rfl⟩, rfl, rfl⟩

end Resolver

end ViewQuery.Expression
