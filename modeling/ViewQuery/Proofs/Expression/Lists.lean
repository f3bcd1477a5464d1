import ViewQuery.Component.Outline
import ViewQuery.Expression.Resolver
import ViewQuery.Proofs.Expression.Pieces

/-!
# Lists made of lists

A comma behind a list whose parentheses are closed ends its last expression, so that the expressions
of two lists with a comma between them are those of the one and then those of the other. Expressions
that are joined by commas, or by blank characters, are the expressions of the list that they make.

* `Closes`: a text that ends outside of parentheses;
* `Resolver.collect_append`: what two lists of expressions are resolved to;
* `splitExpressions_intercalate`: expressions that are joined;
* `splitExpressions_append_and_join`: both of these for lists as they are written.
-/

namespace ViewQuery.Expression

open ViewQuery.Component (Handle Tree)
open ViewQuery.Text (isBlank)

/-- A text ends outside of parentheses, where closing ones without a partner do not count. -/
def Closes (text : String) : Prop := depthAfterAll 0 text.toList = 0

instance (text : String) : Decidable (Closes text) :=
  inferInstanceAs (Decidable (depthAfterAll 0 text.toList = 0))

variable {expressions : List String}

/-! ## Two lists -/

theorem splitExpressions_append_comma {a : String} (ha : Closes a) (b : String) :
    splitExpressions (a ++ "," ++ b) = splitExpressions a ++ splitExpressions b := by
  have hcut := @splitFrom_append_gap 0 ',' a.toList b.toList [] ha rfl rfl
  have hlist : (a ++ "," ++ b).toList = a.toList ++ ',' :: b.toList := by simp
  rw [splitExpressions, hlist, hcut, List.map_append, splitExpressions, splitExpressions]

namespace Resolver

/-- The results of two lists of expressions: those of the one, with its hops and its failure first,
and then those of the other. -/
theorem collect_append {α : Type} (resolve : String → Trail (Option α)) (front back : List String) :
    collect resolve (front ++ back) = (do
      let results ← collect resolve front
      let more ← collect resolve back
      return results ++ more) := by
  induction front with
  | nil => simp [collect]
  | cons expression front ih =>
    simp only [List.cons_append, collect, ih, bind_assoc, pure_bind, List.append_assoc]

theorem components_append_comma {a : String} (ha : Closes a) (b : String) (r : Resolver) (t : Tree)
    (source : Handle) :
    r.components t source (a ++ "," ++ b) = (do
      let found ← r.components t source a
      let more ← r.components t source b
      return found ++ more) := by
  rw [components, splitExpressions_append_comma ha, collect_append]
  rfl

end Resolver

/-! ## Joined expressions -/

/-- An expression is one that nothing cuts. -/
theorem splitExpressions_eq_singleton_iff {expression : String} :
    splitExpressions expression = [expression] ↔ Unbroken expression.toList := by
  constructor
  · intro h
    obtain ⟨p, hp, hexpression⟩ := List.map_eq_singleton_iff.1 h
    have hmem : p ∈ splitFrom 0 [] expression.toList := by
      rw [hp]
      exact List.mem_singleton_self p
    rw [← hexpression, String.toList_ofList]
    exact (pieces_splitFrom_zero _).unbroken p hmem
  · intro h
    rw [splitExpressions, splitFrom_of_unbroken h, List.map_singleton, String.ofList_toList]

/-- What holds of all items but the last one, and what holds of all but the first one. -/
theorem isChain_of_dropLast_of_tail {α : Type} {P Q : α → Prop} {xs : List α}
    (hp : ∀ x ∈ xs.dropLast, P x) (hq : ∀ x ∈ xs.tail, Q x) : xs.IsChain fun x y => P x ∧ Q y := by
  induction xs with
  | nil => exact .nil
  | cons x xs ih =>
    cases xs with
    | nil => exact .singleton x
    | cons y xs =>
      rw [List.dropLast_cons_cons, List.forall_mem_cons] at hp
      rw [List.tail_cons, List.forall_mem_cons] at hq
      exact .cons_cons ⟨hp.1, hq.1⟩ (ih hp.2 hq.2)

/-- Expressions that are joined by a comma or a blank character, with any blank characters behind
it, are cut again where they were joined. -/
theorem splitExpressions_intercalate {joiner : String} {c : Char} {cs : List Char}
    (hjoiner : joiner.toList = c :: cs) (hc : isGap c = true) (hcs : cs.all isBlank)
    (hone : ∀ e ∈ expressions, splitExpressions e = [e])
    (hclosed : ∀ e ∈ expressions.dropLast, Closes e)
    (hopen : ∀ e ∈ expressions.tail, c = ',' ∨ e.toList.head? ≠ some '(') :
    splitExpressions (joiner.intercalate expressions) = expressions := by
  have hu : ∀ p ∈ expressions.map String.toList, Unbroken p :=
    List.forall_mem_map.2 fun e he => splitExpressions_eq_singleton_iff.1 (hone e he)
  have hchain : (expressions.map String.toList).IsChain fun p q =>
      depthAfterAll 0 p = 0 ∧ (c = ',' ∨ q.head? ≠ some '(') :=
    (List.isChain_map _).2 (isChain_of_dropLast_of_tail hclosed hopen)
  rw [splitExpressions, String.toList_intercalate, hjoiner, splitFrom_intercalate hc hcs hu hchain,
    List.map_map]
  simp [Function.comp_def]

/-- Putting lists together and taking them apart. A list that closes, a comma and another list have
the expressions of the one and then those of the other. They have the components of the one and then
those of the other, and if the one fails, this is the failure, and the other one is not looked at.
Expressions that close, but for the last one, are those of the list that they make when they are
joined by commas, and by blank characters as well if none but the first begins with a
parenthesis. -/
theorem splitExpressions_append_and_join :
    (∀ a b, Closes a →
      splitExpressions (a ++ "," ++ b) = splitExpressions a ++ splitExpressions b ∧
        ∀ (r : Resolver) (t : Tree) (source : Handle),
          r.components t source (a ++ "," ++ b) = (do
            let found ← r.components t source a
            let more ← r.components t source b
            return found ++ more)) ∧
      ∀ expressions : List String, (∀ e ∈ expressions, splitExpressions e = [e]) →
        (∀ e ∈ expressions.dropLast, Closes e) →
          splitExpressions (",".intercalate expressions) = expressions ∧
            ∀ joiner : String, joiner ≠ "" → joiner.toList.all isBlank →
              (∀ e ∈ expressions.tail, e.toList.head? ≠ some '(') →
                splitExpressions (joiner.intercalate expressions) = expressions := by
  refine ⟨fun a b ha => ⟨splitExpressions_append_comma ha b,
    Resolver.components_append_comma ha b⟩, fun expressions hone hclosed => ⟨?_, ?_⟩⟩
  · have hcomma : ",".toList = ',' :: [] := rfl
    exact splitExpressions_intercalate hcomma rfl rfl hone hclosed fun _ _ => .inl rfl
  · intro joiner hne hblank hopen
    obtain ⟨c, cs, hjoiner⟩ := List.exists_cons_of_ne_nil (String.toList_eq_nil_iff.not.2 hne)
    rw [hjoiner, List.all_cons, Bool.and_eq_true] at hblank
    exact splitExpressions_intercalate hjoiner (isGap_of_blank hblank.1) hblank.2 hone hclosed
      fun e he => .inr (hopen e he)

/-- A closing parenthesis without a partner and blank characters at the end of the one list, and a
failure in the other one. Of the expressions that are joined, one has blank characters and a comma
in it, and the last one does not close. -/
theorem splitExpressions_append_and_join_unbalanced :
    let t := Tree.ofOutlines ':' [.mk "form" .form [.mk "name)" .component []]]
    let a := "name) @form:@parent\t"
    let expressions := ["name)", "b (c, d)", "@(.x (y"]
    splitExpressions (a ++ "," ++ "(b c) @nope") = ["name)", "@form:@parent", "(b c)", "@nope"] ∧
      ((Resolver.builtin .production).components t 2 (a ++ "," ++ "@this")).outcome =
        .ok [2, 0, 2] ∧
      ((Resolver.builtin .production).components t 2 (a ++ "," ++ "@this @nope")).outcome =
        .error (.error (.unknownKeyword "@nope" "@nope")) ∧
      splitExpressions (",".intercalate expressions) = expressions ∧
      splitExpressions ("\t\u2003".intercalate expressions) = expressions := by
  intro t a expressions
  obtain ⟨happend, hjoin⟩ := splitExpressions_append_and_join
  have ha : Closes a := by decide
  have hcomponents := fun b =>
    congrArg Trail.outcome ((happend a b ha).2 (.builtin .production) t 2)
  obtain ⟨hcomma, hblank⟩ := hjoin expressions (by decide) (by decide)
  exact ⟨(happend a "(b c) @nope" ha).1.trans (by decide),
    (hcomponents "@this").trans (by decide +kernel),
    (hcomponents "@this @nope").trans (by decide +kernel), hcomma,
    hblank "\t\u2003" (by decide) (by decide) (by decide)⟩

end ViewQuery.Expression
