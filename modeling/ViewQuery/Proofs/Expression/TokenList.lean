import ViewQuery.Proofs.Expression.ClientToken
import ViewQuery.Proofs.Expression.Pieces

/-!
# Reading the tokens of a list

The text that the client gets for a list of expressions, cut again: where the ids of the components
are plain, every token is a piece of it. An expression that goes to the client as it is written is a
piece of the list and begins with the keyword mark, and a client id has nothing in it that cuts or
opens a parenthesis.

* `isPlain_clientId`: the client ids of a tree with plain ids;
* `Resolver.standsFor_of_isToken`: a token can stand for its expression among other ones;
* `Resolver.splitExpressions_tokens`: the pieces of the text are the tokens of the expressions.
-/

namespace ViewQuery.Expression

open ViewQuery.Component (Handle Tree)
open ViewQuery.Text (isBlank trim trimmed)

/-! ## Plain texts -/

/-- A character that is not blank, no comma and no parenthesis. -/
def isPlainChar (c : Char) : Bool := !(isBlank c || c == ',' || c == '(' || c == ')')

/-- A text that is not empty and has no blank characters, no commas and no parentheses. -/
def IsPlain (text : String) : Prop := text ≠ "" ∧ text.toList.all isPlainChar = true

instance (text : String) : Decidable (IsPlain text) :=
  inferInstanceAs (Decidable (text ≠ "" ∧ text.toList.all isPlainChar = true))

theorem isPlainChar_iff {c : Char} :
    isPlainChar c = true ↔ isBlank c = false ∧ c ≠ ',' ∧ c ≠ '(' ∧ c ≠ ')' := by
  simp [isPlainChar, and_assoc]

variable {text : String}

theorem IsPlain.of_mem (h : IsPlain text) {c : Char} (hc : c ∈ text.toList) :
    isBlank c = false ∧ c ≠ ',' ∧ c ≠ '(' ∧ c ≠ ')' :=
  isPlainChar_iff.1 (List.all_eq_true.1 h.2 c hc)

theorem IsPlain.closed (h : IsPlain text) : depthAfterAll 0 text.toList = 0 := by
  have hall : ∀ c ∈ text.toList, c ≠ '(' ∧ c ≠ ')' := fun c hc => (h.of_mem hc).2.2
  generalize text.toList = cs at hall
  induction cs with
  | nil => rfl
  | cons c cs ih =>
    obtain ⟨⟨hopen, hclose⟩, hcs⟩ := List.forall_mem_cons.1 hall
    rw [depthAfterAll, List.foldl_cons, depthAfter_of_ne hopen hclose]
    exact ih hcs

theorem IsPlain.unbroken (h : IsPlain text) : Unbroken text.toList where
  ne_nil := by simpa using h.1
  trim_eq := Text.trim_eq_self fun c hc => (h.of_mem hc).1
  held x c y hxy _ := by
    have hc := h.of_mem (c := c) (by rw [hxy]; simp)
    exact ⟨hc.2.1, fun hb => absurd (hb.symm.trans hc.1) (by decide)⟩

theorem IsPlain.head_ne_open (h : IsPlain text) : text.toList.head? ≠ some '(' :=
  fun hh => (h.of_mem (List.mem_of_mem_head? hh)).2.2.1 rfl

/-- Plain texts with a usable separator between them are plain. -/
theorem isPlain_joinWith {separator : Char} (hs : UsableSeparator separator) {parts : List String}
    (hne : parts ≠ []) (hparts : ∀ part ∈ parts, IsPlain part) :
    IsPlain (Text.joinWith separator parts) := by
  constructor
  · rw [ne_eq, Text.joinWith_eq_empty_iff]
    rintro (h | rfl)
    · exact hne h
    · exact (hparts "" List.mem_cons_self).1 rfl
  · rw [List.all_eq_true]
    intro c hc
    rw [isPlainChar_iff]
    rcases Text.eq_or_mem_of_mem_joinWith hc with rfl | ⟨part, hpart, hc⟩
    · exact ⟨hs.not_blank, hs.ne_comma, hs.ne_open, hs.ne_close⟩
    · exact (hparts part hpart).of_mem hc

/-- A tree whose components have plain ids, but for the root, which has an empty one. -/
def HasPlainIds (t : Tree) : Prop :=
  ∀ h < t.size, h ≠ Tree.root → ∀ id ∈ t.idAt h, IsPlain id

theorem isPlain_clientId {t : Tree} {h : Handle} {id : String} (w : t.WellFormed)
    (hs : UsableSeparator t.separator) (hids : HasPlainIds t) (hr : h ≠ Tree.root)
    (hid : t.clientId h = .ok id) : IsPlain id := by
  rcases Nat.lt_or_ge h t.size with hh | hh
  · rw [w.clientId_eq hh, Except.ok.injEq] at hid
    rw [← hid]
    refine isPlain_joinWith hs (Tree.names_ne_nil_iff.2 hh) (w.forall_mem_names ?_ hh hr)
    intro h' hr' id' hid'
    obtain ⟨node, hnode, -⟩ := Option.map_eq_some_iff.1 hid'
    exact hids h' (Array.getElem?_eq_some_iff.1 hnode).1 hr' id' hid'
  · rw [Tree.clientId_of_size_le hh] at hid
    cases hid

namespace Resolver

variable {r : Resolver} {t : Tree} {source : Handle} {expression token : String}

/-! ## Tokens -/

/-- An expression that goes to the client as it is written begins with the keyword mark. -/
theorem head?_of_passesThrough (h : r.passesThrough t expression = true)
    (htrim : trimmed expression = expression) :
    expression.toList.head? = some keywordMark := by
  obtain ⟨rule, hsole, hrule⟩ := (Option.any_eq_true _ _).1 h
  unfold soleRule at hsole
  split at hsole
  · rename_i segment hsegment
    obtain ⟨cs, hcs, rfl⟩ := List.map_eq_singleton_iff.1 hsegment
    rw [eq_of_segmentsFrom_eq_singleton hcs, String.ofList_toList, htrim, Registry.find] at hsole
    split at hsole
    · assumption
    · obtain rfl : Rule.path = rule := Option.some.inj hsole
      cases hrule
  · cases hsole

/-- What the token of an expression is: the expression itself where only the client can follow it,
and otherwise the client id of its component. -/
def IsToken (r : Resolver) (t : Tree) (source : Handle) (expression token : String) : Prop :=
  if r.passesThrough t expression then token = expression
  else ∃ h, (r.component t source expression).outcome = .ok (some h) ∧ t.clientId h = .ok token

theorem isToken_of_token {stage : Stage} (htrim : trimmed expression = expression)
    (h : ((builtin stage).token t source expression).outcome = .ok (some token)) :
    (builtin stage).IsToken t source expression token := by
  unfold IsToken
  split
  · rename_i hp
    rw [token_eq_ok_iff, htrim, if_pos hp] at h
    exact h.2.2.symm
  · rename_i hp
    rwa [token_eq_ok_iff_component (by rw [htrim]; exact Bool.eq_false_iff.2 hp)] at h

/-- A text that can stand for a piece of a list among other pieces: it is a piece, does not begin
with a parenthesis, and closes its parentheses if the piece does. -/
structure StandsFor (token piece : String) : Prop where
  unbroken : Unbroken token.toList
  head_ne_open : token.toList.head? ≠ some '('
  closed : depthAfterAll 0 piece.toList = 0 → depthAfterAll 0 token.toList = 0

/-- In a tree with plain ids, the token of a piece can stand for it. -/
theorem standsFor_of_isToken {stage : Stage} (w : t.WellFormed) (hs : UsableSeparator t.separator)
    (hids : HasPlainIds t) (hu : Unbroken expression.toList)
    (hroot : (builtin stage).passesThrough t expression = false →
      ((builtin stage).component t source expression).outcome ≠ .ok (some Tree.root))
    (h : (builtin stage).IsToken t source expression token) : StandsFor token expression := by
  unfold IsToken at h
  split at h
  · rename_i hp
    subst h
    have htrim : trimmed token = token := by rw [trimmed, hu.trim_eq, String.ofList_toList]
    refine ⟨hu, ?_, id⟩
    rw [head?_of_passesThrough hp htrim]
    decide
  · rename_i hp
    obtain ⟨c, hc, hid⟩ := h
    have hr : c ≠ Tree.root := by
      rintro rfl
      exact hroot (Bool.eq_false_iff.2 hp) hc
    have hplain := isPlain_clientId w hs hids hr hid
    exact ⟨hplain.unbroken, hplain.head_ne_open, fun _ => hplain.closed⟩

/-! ## Lists -/

/-- The text for a list of expressions that is not empty: their tokens, joined. -/
theorem tokens_eq_ok_iff {list : String} (hne : splitExpressions list ≠ []) :
    (r.tokens t source list).outcome = .ok text ↔
      ∃ found, List.Forall₂ (fun e token => (r.token t source e).outcome = .ok (some token))
        (splitExpressions list) found ∧ Text.joinWith ' ' found = text := by
  have hsome : ∀ e ∈ splitExpressions list, (r.token t source e).outcome ≠ .ok none := by
    intro e he
    obtain ⟨htrim, hne⟩ := trimmed_of_mem_splitExpressions he
    exact token_ne_none (htrim.symm ▸ hne)
  rw [tokens, Trail.outcome_bind, bind_eq_ok_iff]
  refine exists_congr fun found => ?_
  rw [collect_eq_ok_iff hsome, ← List.forall₂_eq_eq_eq, List.forall₂_map_left_iff,
    List.forall₂_map_right_iff]
  refine and_congr_right fun hall => ?_
  have hfound : found ≠ [] := by
    rintro rfl
    exact hne (List.forall₂_nil_right_iff.1 hall)
  rw [Trail.outcome_pure, Except.ok.injEq, if_neg (by simpa using hfound)]

/-- Texts that stand for the pieces of a list are cut where they were joined. -/
theorem splitExpressions_joinWith {pieces found : List String}
    (hchain : (pieces.map String.toList).IsChain fun p _ => depthAfterAll 0 p = 0)
    (hall : List.Forall₂ (fun piece token => StandsFor token piece) pieces found) :
    splitExpressions (Text.joinWith ' ' found) = found := by
  have hu : ∀ p ∈ found.map String.toList, Unbroken p := by
    clear hchain
    induction hall with
    | nil => simp
    | cons hhead _ ih => exact List.forall_mem_cons.2 ⟨hhead.unbroken, ih⟩
  have hfound : (found.map String.toList).IsChain fun p q =>
      depthAfterAll 0 p = 0 ∧ q.head? ≠ some '(' := by
    clear hu
    induction hall with
    | nil => exact .nil
    | cons hhead hrest ih =>
      cases hrest with
      | nil => exact .singleton _
      | cons hnext _ =>
        obtain ⟨hclosed, hchain⟩ := List.isChain_cons_cons.1 hchain
        exact .cons_cons ⟨hhead.closed hclosed, hnext.head_ne_open⟩ (ih hchain)
  have hcut := @splitFrom_intercalate ' ' [] _ rfl rfl hu (hfound.imp fun _ _ h => h.imp_right .inr)
  rw [splitExpressions, Text.toList_joinWith, hcut, List.map_map]
  simp [Function.comp_def]

/-- The text that the client gets for a list, cut again: as many pieces as the list has, each of
them the expression itself where only the client can follow it, and otherwise the client id of the
component of the expression. -/
theorem splitExpressions_tokens {config : Config} (hc : config.validate = .ok ()) {t : Tree}
    (hb : t.Built) (ht : t.separator = config.expressions.separator) (hids : HasPlainIds t)
    (stage : Stage) (source : Handle) {list text : String} (hne : splitExpressions list ≠ [])
    (hroot : ∀ e ∈ splitExpressions list, (builtin stage).passesThrough t e = false →
      ((builtin stage).component t source e).outcome ≠ .ok (some Tree.root))
    (h : ((builtin stage).tokens t source list).outcome = .ok text) :
    List.Forall₂ ((builtin stage).IsToken t source) (splitExpressions list)
      (splitExpressions text) := by
  have hs : UsableSeparator t.separator := ht ▸ usableSeparator_of_validate hc
  obtain ⟨found, hfound, rfl⟩ := (tokens_eq_ok_iff hne).1 h
  have hpieces := pieces_splitFrom_zero list.toList
  have hlist : (splitExpressions list).map String.toList = splitFrom 0 [] list.toList := by
    rw [splitExpressions, List.map_map]
    simp [Function.comp_def]
  have htokens : List.Forall₂ ((builtin stage).IsToken t source) (splitExpressions list) found :=
    (List.forall₂_and_left _ _).2 ⟨fun e he => (trimmed_of_mem_splitExpressions he).1, hfound⟩
      |>.imp fun e token he => isToken_of_token he.1 he.2
  have hunbroken : ∀ e ∈ splitExpressions list, Unbroken e.toList := fun e he =>
    hpieces.unbroken _ (hlist ▸ List.mem_map_of_mem he)
  have hstands : List.Forall₂ (fun e token => StandsFor token e) (splitExpressions list) found :=
    (List.forall₂_and_left _ _).2 ⟨fun e he => And.intro (hunbroken e he) (hroot e he), htokens⟩
      |>.imp fun e token he => standsFor_of_isToken hb.wellFormed hs hids he.1.1 he.1.2 he.2
  rwa [splitExpressions_joinWith (hlist.symm ▸ hpieces.isChain_closed) hstands]

/-- Two fields of a form. -/
def twoFields : Tree :=
  .ofOutlines ':' [.mk "form" .form [.mk "name" .component [], .mk "city" .component []]]

/-- Client ids among texts for the client, with blank characters and commas in their parentheses,
the last of which are not closed. -/
theorem splitExpressions_tokens_twoFields :
    let list := " city ,@widgetVar(d, e)  @form @(.p (."
    let text := "form:city @widgetVar(d, e) form @(.p (."
    ((builtin .production).tokens twoFields 2 list).outcome = .ok text ∧
      splitExpressions list = ["city", "@widgetVar(d, e)", "@form", "@(.p (."] ∧
      List.Forall₂ ((builtin .production).IsToken twoFields 2) (splitExpressions list)
        (splitExpressions text) := by
  intro list text
  have hroot : ∀ e ∈ splitExpressions list,
      (builtin .production).passesThrough twoFields e = false →
        ((builtin .production).component twoFields 2 e).outcome ≠ .ok (some Tree.root) := by
    decide +kernel
  have hids : HasPlainIds twoFields := by
    unfold HasPlainIds
    decide +kernel
  have htokens : ((builtin .production).tokens twoFields 2 list).outcome = .ok text := by
    decide +kernel
  exact ⟨htokens, by decide, @splitExpressions_tokens default rfl twoFields (.ofOutlines ':' _) rfl
    hids .production 2 list text (by decide) hroot htokens⟩

end Resolver

end ViewQuery.Expression
