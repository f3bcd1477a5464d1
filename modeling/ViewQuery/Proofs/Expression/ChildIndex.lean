import ViewQuery.Proofs.Component.ClientId
import ViewQuery.Proofs.Expression.Keywords
import ViewQuery.Proofs.Expression.Navigation

/-!
# How a child is asked for

Which segments the rule for children accepts. A registry gives it every segment in which an opening
parenthesis follows the keyword. The rule reads the index up to the last closing parenthesis and no
further, so that it also accepts segments with a text behind their argument list.

* `AsksForChild`: how a segment for a child is written, with the text behind it;
* `Rule.childIndex_eq_some_iff`: the segments that have an index;
* `Rule.child_resolves_iff`: what all of them lead to, and for which of them this is right.
-/

namespace ViewQuery.Expression

open ViewQuery.Component (Handle Tree)
open ViewQuery.Number (IsIndex)
open ViewQuery.Text (isBlank)

/-- A segment asks for a child by its index: the keyword, and in parentheses the digits of the
index, with a plus sign or none and with blank characters around them. Behind the last closing
parenthesis there may be more text. -/
def AsksForChild (segment : String) (n : Nat) (behind : List Char) : Prop :=
  ∃ before sign digits after : List Char, before.all isBlank ∧ (sign = [] ∨ sign = ['+']) ∧
    IsIndex digits n ∧ after.all isBlank ∧ ')' ∉ behind ∧
      segment.toList = "@child".toList ++
        '(' :: (before ++ (sign ++ digits) ++ after ++ ')' :: behind)

/-! ## The keyword -/

/-- Among the built-in keywords only one is for children. -/
theorem eq_childKeyword_of_mem_rules {keyword : String}
    (h : (keyword, Rule.child) ∈ Registry.builtin.rules) : keyword = "@child" := by
  have hall : ∀ e ∈ Registry.builtin.rules, e.2 = Rule.child → e.1 = "@child" := by decide +kernel
  exact hall _ h rfl

/-- The segments that the built-in registry gives to the rule for children. -/
theorem find_eq_child_iff {segment : String} :
    Registry.builtin.find segment = some .child ↔
      segment = "@child" ∨ ∃ rest, segment.toList = "@child".toList ++ '(' :: rest := by
  constructor
  · intro hf
    by_cases hm : segment.toList.head? = some keywordMark
    · obtain ⟨keyword, hmem, hs⟩ := Registry.exists_serves_of_find hm hf
      obtain rfl := eq_childKeyword_of_mem_rules hmem
      rcases hs with rfl | ⟨rest, h⟩ | ⟨-, h⟩
      · exact .inl rfl
      · exact .inr ⟨rest, by simpa using h.symm⟩
      · exact absurd h (by decide)
    · rw [Registry.Registered.builtin.dispatches.find_path segment hm] at hf
      cases hf
  · rintro (rfl | ⟨rest, h⟩)
    · rfl
    · rw [Registry.find, h]
      rfl

namespace Rule

variable {t : Tree} {source anchor : Handle} {segment : String} {n : Nat} {behind : List Char}

/-! ## The index -/

theorem trim_eq_of_isIndex {before sign digits after : List Char} (hb : before.all isBlank)
    (hs : sign = [] ∨ sign = ['+']) (hd : IsIndex digits n) (ha : after.all isBlank) :
    Text.trim (before ++ (sign ++ digits) ++ after) = sign ++ digits := by
  rw [Text.trim_append_blank _ _ ha, Text.trim_blank_append _ _ hb]
  refine Text.trim_eq_self fun c hc => ?_
  rcases List.mem_append.1 hc with hc | hc
  · rcases hs with rfl | rfl
    · cases hc
    · rw [List.mem_singleton.1 hc]
      rfl
  · exact Number.isBlank_of_isDigit (hd.isDigit c hc)

/-- The segments for children that have an index. -/
theorem childIndex_eq_some_iff (hf : Registry.builtin.find segment = some .child) :
    childIndex segment = some n ↔ ∃ behind, AsksForChild segment n behind := by
  rcases find_eq_child_iff.1 hf with rfl | ⟨rest, hrest⟩
  · have hnone : childIndex "@child" = Option.none := by decide
    rw [hnone, iff_false_left (by simp)]
    rintro ⟨behind, before, sign, digits, after, -, -, -, -, -, h⟩
    exact absurd (List.append_right_eq_self.1 h.symm) (List.cons_ne_nil _ _)
  · rw [childIndex, hrest, Option.bind_eq_some_iff]
    simp only [argument_eq_some_iff (show '(' ∉ "@child".toList by decide),
      Number.readIndex_eq_some_iff]
    constructor
    · rintro ⟨inside, ⟨behind, hno, rfl⟩, sign, digits, hsign, hdigits, htrim⟩
      obtain ⟨before, after, hb, ha, hinside⟩ := Text.exists_eq_append_trim inside
      refine ⟨behind, before, sign, digits, after, hb, hsign, hdigits, ha, hno, ?_⟩
      rw [hrest, ← htrim, ← hinside]
    · rintro ⟨behind, before, sign, digits, after, hb, hsign, hdigits, ha, hno, h⟩
      rw [hrest] at h
      refine ⟨before ++ (sign ++ digits) ++ after, ⟨behind, hno, ?_⟩, sign, digits, hsign, hdigits,
        trim_eq_of_isIndex hb hsign hdigits ha⟩
      exact (List.cons.inj (List.append_cancel_left h)).2

theorem getLast?_of_asks (h : AsksForChild segment n behind) :
    segment.toList.getLast? = (')' :: behind).getLast? := by
  obtain ⟨before, sign, digits, after, -, -, -, -, -, h⟩ := h
  rw [h, ← List.cons_append, ← List.append_assoc]
  exact List.getLast?_append_of_ne_nil _ (List.cons_ne_nil _ _)

/-- Where a segment ends with a closing parenthesis, nothing stands behind the last one. -/
theorem behind_eq_nil (h : AsksForChild segment n behind)
    (hlast : segment.toList.getLast? = some ')') : behind = [] := by
  rw [getLast?_of_asks h] at hlast
  obtain ⟨-, -, -, -, -, -, -, -, hno, -⟩ := h
  rcases List.eq_nil_or_concat behind with rfl | ⟨front, c, rfl⟩
  · rfl
  · rw [List.concat_eq_append, ← List.cons_append, List.getLast?_concat] at hlast
    exact absurd (by simp [Option.some.inj hlast]) hno

/-! ## The child -/

/-- A segment is refused for its index. -/
def RefusesIndex (t : Tree) (source : Handle) (segment : String)
    (outcome : Except Failure (Option Handle)) : Prop :=
  ∃ origin, t.clientId source = .ok origin ∧
    outcome = .error (.error (.malformed segment origin childReason))

theorem resolve_child_of_asks (hf : Registry.builtin.find segment = some .child)
    (h : AsksForChild segment n behind) (t : Tree) (source anchor : Handle) :
    Rule.child.resolve t source anchor segment = .ok (t.children anchor)[n]? := by
  rw [Rule.resolve, (childIndex_eq_some_iff hf).2 ⟨behind, h⟩]

theorem refusesIndex_of_not_asks (w : t.WellFormed) (hs : source < t.size)
    (hf : Registry.builtin.find segment = some .child)
    (h : ∀ n behind, ¬ AsksForChild segment n behind) (anchor : Handle) :
    RefusesIndex t source segment (Rule.child.resolve t source anchor segment) := by
  have hnone : childIndex segment = Option.none := by
    rw [Option.eq_none_iff_forall_not_mem]
    intro n hn
    obtain ⟨behind, hasks⟩ := (childIndex_eq_some_iff hf).1 hn
    exact h n behind hasks
  refine ⟨_, w.clientId_eq hs, ?_⟩
  rw [Rule.resolve, hnone, w.clientId_eq hs]
  rfl

/-- What a segment for a child leads to. One that asks for a child by its index leads to the child
of that index, or nowhere if there is none, whatever stands behind the last closing parenthesis; any
other one is refused. So it is true of a segment that it leads to a child if it asks for one and
ends with its argument list, and is refused if not, exactly if nothing stands behind the list. -/
theorem child_resolves_iff (hb : t.Built) (hs : source < t.size) (anchor : Handle)
    (hf : Registry.builtin.find segment = some .child) :
    let outcome := Rule.child.resolve t source anchor segment
    (∀ n behind, AsksForChild segment n behind → outcome = .ok (t.children anchor)[n]?) ∧
      ((∀ n behind, ¬ AsksForChild segment n behind) → RefusesIndex t source segment outcome) ∧
      (((∀ n, AsksForChild segment n [] → outcome = .ok (t.children anchor)[n]?) ∧
          ((∀ n, ¬ AsksForChild segment n []) → RefusesIndex t source segment outcome)) ↔
        ∀ n behind, AsksForChild segment n behind → behind = []) := by
  intro outcome
  have hchild : ∀ n behind, AsksForChild segment n behind →
      outcome = .ok (t.children anchor)[n]? := fun n behind h =>
    resolve_child_of_asks hf h t source anchor
  have hrefused : (∀ n behind, ¬ AsksForChild segment n behind) →
      RefusesIndex t source segment outcome := fun h =>
    refusesIndex_of_not_asks hb.wellFormed hs hf h anchor
  refine ⟨hchild, hrefused, ?_, fun hnil => ⟨fun n h => hchild n [] h, fun h => ?_⟩⟩
  · rintro ⟨-, hnot⟩ n behind h
    by_cases hend : ∃ n', AsksForChild segment n' []
    · obtain ⟨n', hend⟩ := hend
      exact behind_eq_nil h (getLast?_of_asks hend)
    · obtain ⟨origin, -, hmalformed⟩ := hnot (not_exists.1 hend)
      cases (hchild n behind h).symm.trans hmalformed
  · refine hrefused fun n behind hasks => h n ?_
    rwa [hnil n behind hasks] at hasks

/-- A plus sign, leading zeros and blank characters around the index of a child, which is there for
the form and not for its field. -/
theorem child_resolves_iff_padded :
    let t := Tree.ofOutlines ':' [.mk "form" .form [.mk "a" .component [], .mk "b" .component []]]
    let segment := "@child( +01\t)"
    Registry.builtin.find segment = some .child ∧ AsksForChild segment 1 [] ∧
      Rule.child.resolve t 2 1 segment = .ok (some 3) ∧
      Rule.child.resolve t 2 2 segment = .ok Option.none := by
  intro t segment
  have hb : t.Built := .ofOutlines ':' _
  have hf : Registry.builtin.find segment = some .child := by decide +kernel
  have hasks : AsksForChild segment 1 [] :=
    ⟨[' '], ['+'], ['0', '1'], ['\t'], by decide, .inr rfl,
      ⟨by decide, List.all_eq_true.1 rfl, by decide, by decide⟩, by decide, by decide, by decide⟩
  exact ⟨hf, hasks, (child_resolves_iff hb (by decide +kernel) 1 hf).1 1 [] hasks,
    (child_resolves_iff hb (by decide +kernel) 2 hf).1 1 [] hasks⟩

/-- A text behind the argument list is not refused, neither as a segment nor as an expression. -/
theorem child_resolves_behind_list :
    let t := Tree.ofOutlines ':' [.mk "form" .form []]
    let segment := "@child(0)x"
    Registry.builtin.find segment = some .child ∧ (∀ n, ¬ AsksForChild segment n []) ∧
      Rule.child.resolve t 0 0 segment = .ok (some 1) ∧
      ((Resolver.builtin .development).component t 0 segment).outcome = .ok (some 1) := by
  intro t segment
  refine ⟨by decide +kernel, fun n h => ?_, by decide +kernel, by decide +kernel⟩
  have hlast : segment.toList.getLast? = some ')' := getLast?_of_asks h
  revert hlast
  decide

end Rule

end ViewQuery.Expression
