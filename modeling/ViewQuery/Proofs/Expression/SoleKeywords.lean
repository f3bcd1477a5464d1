import ViewQuery.Proofs.Component.Reading
import ViewQuery.Proofs.Expression.Absolute
import ViewQuery.Proofs.Expression.HopReports
import ViewQuery.Proofs.Expression.Joining
import ViewQuery.Proofs.Expression.Keywords
import ViewQuery.Proofs.Expression.Navigation
import ViewQuery.Proofs.Expression.Stages

/-!
# Keywords that stand alone

A keyword that is a whole expression, with an argument list or without one, under any separator that
a configuration may have. A separator does not cut within the parentheses of the argument list, but
it does within the name of the keyword, where any of the letters may be the separator. So a keyword
means what it says exactly if the separator is not a character of its name; otherwise the part of the
name in front of the separator is taken for a keyword, and there is none like it.

* `IsKeyword`: an expression that is a name with its arguments;
* `IsKeyword.splitSegments_of_uncut`, `IsKeyword.splitSegments_of_cut`: the segments of a keyword;
* `Resolver.outcome_of_uncut`, `Resolver.outcome_of_cut`: the component of a keyword;
* `SoleKeyword`: the keywords that can stand alone, with their rules;
* `Resolver.keywords_usable_iff`: under which separators the keywords mean what they say.
-/

namespace ViewQuery.Expression

open ViewQuery.Component (Handle Tree)
open ViewQuery.Text (isBlank trim trimStart trimEnd trimmed)

/-! ## Names and arguments -/

/-- The name of a keyword: a text that starts with the keyword mark, has neither another one nor a
blank character nor a parenthesis, and does not begin with any other keyword. -/
structure IsName (name : List Char) : Prop where
  head : name.head? = some keywordMark
  once : keywordMark ∉ name.tail
  plain : ∀ c ∈ name, isBlank c = false ∧ c ≠ '(' ∧ c ≠ ')'
  alone : ∀ keyword ∈ Registry.builtinRules.map (·.1), keyword.toList <+: name →
    keyword.toList = name

/-- What may stand behind the name of a keyword: nothing, or a list without parentheses in it. -/
inductive IsArguments : List Char → Prop where
  | none : IsArguments []
  | list {inside : List Char} (hopen : '(' ∉ inside) (hclose : ')' ∉ inside) :
    IsArguments ('(' :: (inside ++ [')']))

/-- An expression is the name of a keyword with arguments behind it. -/
structure IsKeyword (name : List Char) (expression : String) : Prop extends IsName name where
  arguments : ∃ arguments, IsArguments arguments ∧ expression.toList = name ++ arguments

variable {separator : Char} {cs segment name arguments front back : List Char} {expression : String}

/-- A part of a name is no keyword. -/
theorem IsName.find_eq_none (hn : IsName name) (hpart : front <+: name) (hne : front ≠ name)
    (hhead : front.head? = some keywordMark) : Registry.builtin.find (.ofList front) = none := by
  refine (Registry.Registered.builtin.dispatches.find_none _ ?_).2 fun keyword hkeyword hserves => ?_
  · rwa [String.toList_ofList]
  · have hbegins : keyword.toList <+: front := by simpa using hserves.isPrefix
    have heq : keyword.toList = name := hn.alone keyword hkeyword (hbegins.trans hpart)
    exact hne (hpart.eq_of_length_le (heq ▸ hbegins.length_le))

theorem IsKeyword.head?_eq (hk : IsKeyword name expression) :
    expression.toList.head? = some keywordMark := by
  obtain ⟨arguments, -, he⟩ := hk.arguments
  obtain ⟨letters, rfl⟩ := List.head?_eq_some_iff.1 hk.head
  rw [he]
  rfl

theorem IsKeyword.ne_empty (hk : IsKeyword name expression) : expression ≠ "" := by
  rintro rfl
  cases hk.head?_eq

theorem IsKeyword.mark_mem (hk : IsKeyword name expression) : keywordMark ∈ expression.toList :=
  List.mem_of_mem_head? hk.head?_eq

/-- No blank characters are around a keyword, though there may be some among its arguments. -/
theorem IsKeyword.trimmed_eq (hk : IsKeyword name expression) : trimmed expression = expression := by
  rw [← String.toList_inj, Text.toList_trimmed]
  obtain ⟨arguments, ha, he⟩ := hk.arguments
  rw [he]
  cases ha with
  | none =>
    rw [List.append_nil, Text.trim_eq_self fun c hc => (hk.plain c hc).1]
  | @list inside =>
    -- The ends are the keyword mark and the closing parenthesis.
    obtain ⟨letters, rfl⟩ := List.head?_eq_some_iff.1 hk.head
    have hend : isBlank ')' = false := rfl
    have hmark : isBlank keywordMark = false := rfl
    have hlast := Text.trim_append_cons hend (keywordMark :: (letters ++ '(' :: inside)) []
    rw [Text.trimStart_cons_of_not_blank hmark] at hlast
    simpa [trimEnd] using hlast

/-! ## Segments -/

theorem IsArguments.isSegmentAt (ha : IsArguments arguments) (hu : UsableSeparator separator) :
    IsSegmentAt separator 0 arguments := by
  cases ha with
  | none => exact isSegmentAt_nil separator 0
  | @list inside hopen hclose =>
    have hplain : ∀ c ∈ inside, c ≠ '(' ∧ c ≠ ')' := fun c hc =>
      ⟨fun h => hopen (h ▸ hc), fun h => hclose (h ▸ hc)⟩
    refine isSegmentAt_cons_iff.2 ⟨fun h => absurd h.symm hu.ne_open, ?_⟩
    rw [isSegmentAt_append_iff]
    refine ⟨isSegmentAt_of_plain hplain Nat.one_ne_zero, isSegmentAt_of_not_mem ?_ _⟩
    exact fun h => hu.ne_close (List.mem_singleton.1 h)

theorem IsName.depthAfterAll_eq (hn : IsName name) (depth : Nat) :
    depthAfterAll depth name = depth :=
  depthAfterAll_of_plain (fun c hc => (hn.plain c hc).2) depth

/-- A separator that is not in the name does not cut a keyword. -/
theorem IsKeyword.splitSegments_of_uncut (hk : IsKeyword name expression)
    (hu : UsableSeparator separator) (hs : separator ∉ name) :
    splitSegments separator expression = [expression] := by
  obtain ⟨arguments, ha, he⟩ := hk.arguments
  have hsegment : IsSegmentAt separator 0 (name ++ arguments) := by
    rw [isSegmentAt_append_iff, hk.depthAfterAll_eq]
    exact ⟨isSegmentAt_of_not_mem hs 0, ha.isSegmentAt hu⟩
  rw [splitSegments, he, segmentsFrom_of_isSegmentAt hsegment, List.map_singleton, ← he,
    String.ofList_toList]

/-- Nothing, or a text that begins with a character that is neither blank nor the keyword mark. -/
def BeginsPlainly (segment : List Char) : Prop :=
  ∀ c ∈ segment.head?, isBlank c = false ∧ c ≠ keywordMark

theorem find_of_beginsPlainly (h : BeginsPlainly segment) (registry : Registry Rule) :
    registry.find (trimmed (.ofList segment)) = some .path := by
  refine Registry.find_of_head?_ne ?_
  rw [Text.toList_trimmed, String.toList_ofList]
  cases segment with
  | nil => simp [trim, trimStart, trimEnd]
  | cons c rest =>
    obtain ⟨hblank, hmark⟩ := h c rfl
    rw [trim, Text.trimStart_cons_of_not_blank hblank, Text.trimEnd_cons_of_not_blank hblank]
    simpa using hmark

/-- The rest of a name is cut into texts that begin with its letters or with the argument list. -/
theorem beginsPlainly_of_mem_segmentsFrom (hu : UsableSeparator separator)
    (ha : IsArguments arguments) (hplain : ∀ c ∈ cs, isBlank c = false ∧ c ≠ '(' ∧ c ≠ ')')
    (hmark : keywordMark ∉ cs) (h : segment ∈ segmentsFrom separator 0 (cs ++ arguments)) :
    BeginsPlainly segment := by
  -- A cut leaves an empty segment in front of the rest, and any other letter begins the first one.
  induction cs generalizing segment with
  | nil =>
    rw [List.nil_append, segmentsFrom_of_isSegmentAt (ha.isSegmentAt hu)] at h
    rw [List.mem_singleton.1 h]
    cases ha with
    | none => simp [BeginsPlainly]
    | list =>
      rintro _ ⟨⟩
      decide
  | cons c cs ih =>
    obtain ⟨⟨hblank, hopen, hclose⟩, hplain⟩ := List.forall_mem_cons.1 hplain
    obtain ⟨hc, hmark⟩ := not_or.1 (mt List.mem_cons.2 hmark)
    rw [List.cons_append, segmentsFrom, depthAfter_of_ne hopen hclose] at h
    split at h
    · rcases List.mem_cons.1 h with rfl | h
      · simp [BeginsPlainly]
      · exact ih hplain hmark h
    · obtain ⟨first, rest, hrest⟩ :=
        List.exists_cons_of_ne_nil (@segmentsFrom_ne_nil separator 0 (cs ++ arguments))
      rw [hrest, consFirst] at h
      rcases List.mem_cons.1 h with rfl | h
      · rintro _ ⟨⟩
        exact ⟨hblank, Ne.symm hc⟩
      · exact ih hplain hmark (hrest ▸ List.mem_cons_of_mem first h)

/-- The keyword mark of a name is in front of each separator in it. -/
theorem IsName.marks_of_cut (hn : IsName name) (hu : UsableSeparator separator)
    (h : name = front ++ separator :: back) :
    front.head? = some keywordMark ∧ keywordMark ∉ back := by
  have hhead := hn.head
  have honce := hn.once
  rw [h] at hhead honce
  cases front with
  | nil => exact absurd (Option.some.inj hhead) hu.ne_mark
  | cons c letters =>
    refine ⟨hhead, fun hm => honce ?_⟩
    exact List.mem_append_right _ (List.mem_cons_of_mem _ hm)

/-- A separator in the name cuts a keyword there: what is in front of it starts with the keyword
mark and is no keyword, and all other segments are paths. -/
theorem IsKeyword.splitSegments_of_cut (hk : IsKeyword name expression)
    (hu : UsableSeparator separator) (h : name = front ++ separator :: back)
    (hfront : separator ∉ front) :
    ∃ second rest, splitSegments separator expression = .ofList front :: second :: rest ∧
      (trimmed (.ofList front) = .ofList front ∧ front ≠ [] ∧
        Registry.builtin.find (.ofList front) = none) ∧
      ∀ segment ∈ second :: rest, ∀ registry : Registry Rule,
        registry.find (trimmed segment) = some .path := by
  obtain ⟨arguments, ha, he⟩ := hk.arguments
  obtain ⟨hhead, hmark⟩ := hk.marks_of_cut hu h
  have hplain : ∀ c ∈ front, isBlank c = false ∧ c ≠ '(' ∧ c ≠ ')' := fun c hc =>
    hk.plain c (h ▸ List.mem_append_left _ hc)
  have hback : ∀ c ∈ back, isBlank c = false ∧ c ≠ '(' ∧ c ≠ ')' := fun c hc =>
    hk.plain c (h ▸ List.mem_append_right _ (List.mem_cons_of_mem _ hc))
  have hclosed : depthAfterAll 0 front = 0 := depthAfterAll_of_plain (fun c hc => (hplain c hc).2) 0
  have hunknown : Registry.builtin.find (.ofList front) = none :=
    hk.find_eq_none (h ▸ List.prefix_append front _) (by simp [h]) hhead
  have htrimmed : trimmed (.ofList front) = .ofList front := by
    rw [trimmed, String.toList_ofList, Text.trim_eq_self fun c hc => (hplain c hc).1]
  have hne : front ≠ [] := by
    rintro rfl
    cases hhead
  obtain ⟨second, rest, hrest⟩ :=
    List.exists_cons_of_ne_nil (@segmentsFrom_ne_nil separator 0 (back ++ arguments))
  refine ⟨.ofList second, rest.map .ofList, ?_, ⟨htrimmed, hne, hunknown⟩, ?_⟩
  · rw [splitSegments, he, h, List.append_assoc, List.cons_append,
      segmentsFrom_append hu.ne_open hu.ne_close hclosed, segmentsFrom_of_not_mem hfront, hrest]
    rfl
  · rw [← List.map_cons, ← hrest, List.forall_mem_map]
    intro segment hsegment registry
    exact find_of_beginsPlainly
      (beginsPlainly_of_mem_segmentsFrom hu ha hback hmark hsegment) registry

namespace Resolver

variable {t : Tree} {source : Handle} {stage : Stage} {rule : Rule}

/-! ## The component of a keyword -/

/-- A keyword keeps to the grammar, cut or not. -/
theorem check_of_isKeyword (hk : IsKeyword name expression) (hu : UsableSeparator t.separator)
    (stage : Stage) (source : Handle) :
    (builtin stage).check t source expression = .ok () := by
  rw [check_eq_ok_iff]
  intro _
  by_contra hbreach
  rw [← hk.trimmed_eq, ← ne_eq, breach_ne_none_iff, BreaksGrammar, hk.trimmed_eq] at hbreach
  rcases hbreach with ⟨rest, hrest⟩ | ⟨hlong, segment, hmem, rule, hrule, hnest⟩
  · have hhead := hk.head?_eq
    rw [hrest] at hhead
    exact hu.ne_mark (Option.some.inj hhead)
  · by_cases hs : t.separator ∈ name
    · obtain ⟨front, back, h, hfront⟩ := List.eq_append_cons_of_mem hs
      obtain ⟨second, rest, hsegments, ⟨htrim, -, hunknown⟩, hpaths⟩ :=
        hk.splitSegments_of_cut hu h hfront
      rw [hsegments] at hmem
      rcases List.mem_cons.1 hmem with rfl | hmem
      · rw [htrim] at hrule
        cases hunknown.symm.trans hrule
      · rw [hpaths segment hmem] at hrule
        cases hrule
        cases hnest
    · rw [hk.splitSegments_of_uncut hu hs] at hlong
      exact absurd hlong (by simp)

theorem outcome_of_isKeyword (hk : IsKeyword name expression) (hu : UsableSeparator t.separator)
    (stage : Stage) (source : Handle) :
    ((builtin stage).component t source expression).outcome =
      if expression = noneKeyword then .ok none
      else if (builtin stage).isClientOnly t expression then
        .error (.error (.unsupported expression))
      else ((builtin stage).find t source expression).outcome.map some := by
  have hne : trimmed expression ≠ "" := hk.trimmed_eq.symm ▸ hk.ne_empty
  rw [outcome_component hne, hk.trimmed_eq, check_of_isKeyword hk hu, ok_bind, bind_ok_eq_map]

/-- The keyword for no component means none under any separator. -/
theorem outcome_noneKeyword (hk : IsKeyword name noneKeyword) (hu : UsableSeparator t.separator)
    (stage : Stage) (source : Handle) :
    ((builtin stage).component t source noneKeyword).outcome = .ok none := by
  rw [outcome_of_isKeyword hk hu, if_pos rfl]

/-- A keyword that is not cut leads where its rule leads from the source. -/
theorem outcome_of_uncut (hk : IsKeyword name expression) (hu : UsableSeparator t.separator)
    (hs : t.separator ∉ name) (hnone : expression ≠ noneKeyword)
    (hf : (builtin stage).registry.find expression = some rule) (source : Handle) :
    ((builtin stage).component t source expression).outcome =
      if rule.isClientOnly then .error (.error (.unsupported expression))
      else ((builtin stage).step t source source expression expression).map some := by
  have hsegments := hk.splitSegments_of_uncut hu hs
  have hclient : (builtin stage).isClientOnly t expression = rule.isClientOnly := by
    rw [isClientOnly, soleRule, hsegments]
    simp only [hk.trimmed_eq, hf, Option.any_some]
  have hfind : ((builtin stage).find t source expression).outcome =
      (builtin stage).step t source source expression expression := by
    have hlinks : links t.separator expression = [expression] := by
      rw [links_of_sole hu hsegments, hk.trimmed_eq, nonEmpty,
        List.filter_cons_of_pos (by simpa using hk.ne_empty), List.filter_nil]
    unfold find
    rw [if_neg (by simpa using holds_iff.2 hk.mark_mem), hlinks]
    split
    · rw [Trail.outcome_lift]
    · -- The separator is among the arguments, so that this is a chain, though of one link only.
      cases hstep : (builtin stage).step t source source expression expression with
      | error f => rw [follow_cons_of_error hstep]
      | ok h =>
        rw [follow, hstep]
        rfl
  rw [outcome_of_isKeyword hk hu, if_neg hnone, hclient, hfind]

/-- A keyword that is cut within its name is not known. -/
theorem outcome_of_cut (hk : IsKeyword name expression) (hu : UsableSeparator t.separator)
    (h : name = front ++ t.separator :: back) (hfront : t.separator ∉ front)
    (hnone : expression ≠ noneKeyword) (stage : Stage) (source : Handle) :
    ((builtin stage).component t source expression).outcome =
      .error (.error (.unknownKeyword (.ofList front) expression)) := by
  obtain ⟨second, rest, hsegments, ⟨htrim, hne, hunknown⟩, -⟩ :=
    hk.splitSegments_of_cut hu h hfront
  have hclient : (builtin stage).isClientOnly t expression = false := by
    rw [isClientOnly, soleRule, hsegments]
    rfl
  have hmem : t.separator ∈ expression.toList := by
    obtain ⟨arguments, -, he⟩ := hk.arguments
    rw [he, h]
    simp
  have hrelative : expression.toList.head? ≠ some t.separator := by
    rw [hk.head?_eq]
    exact fun hc => hu.ne_mark (Option.some.inj hc).symm
  obtain ⟨others, hlinks⟩ : ∃ others, links t.separator expression = .ofList front :: others := by
    rw [links_of_relative hrelative, ← map_trimmed_splitSegments, hsegments, List.map_cons, htrim,
      nonEmpty, List.filter_cons_of_pos (by simpa using hne)]
    exact ⟨_, rfl⟩
  have hstep : (builtin stage).step t source source (.ofList front) expression =
      .error (.error (.unknownKeyword (.ofList front) expression)) := by
    have hregistry : (builtin stage).registry = Registry.builtin := rfl
    rw [step, hregistry, hunknown]
  have hfind : ((builtin stage).find t source expression).outcome =
      .error (.error (.unknownKeyword (.ofList front) expression)) := by
    unfold find
    rw [if_neg (by simpa using holds_iff.2 hk.mark_mem), if_neg (by simpa using holds_iff.2 hmem),
      hlinks, follow_cons_of_error hstep]
  rw [outcome_of_isKeyword hk hu, if_neg hnone, hclient, if_neg Bool.false_ne_true, hfind]
  rfl

end Resolver

/-! ## The keywords that can stand alone -/

/-- The keywords without arguments that lead to a component, with their rules. -/
def bareKeywords : List (String × Rule) :=
  [("@this", .this), ("@parent", .parent), ("@form", .enclosing .form),
   ("@namingcontainer", .enclosing .namingContainer), ("@composite", .enclosing .composite),
   ("@previous", .sibling .previous), ("@next", .sibling .next), ("@all", .all)]

/-- The keywords for components and the one for widgets: the name, the whole expression and the
rule. -/
inductive SoleKeyword : String → String → Rule → Prop where
  | bare {name : String} {rule : Rule} (h : (name, rule) ∈ bareKeywords) :
    SoleKeyword name name rule
  | child {n : Nat} (h : n < Number.indexBound) : SoleKeyword "@child" (childKeyword n) .child
  | widgetVar {x : String} (hopen : '(' ∉ x.toList) (hclose : ')' ∉ x.toList) :
    SoleKeyword "@widgetVar" ("@widgetVar(" ++ x ++ ")") .client

/-- The names of these keywords and the keyword for no component. -/
def soleNames : List String := noneKeyword :: "@child" :: "@widgetVar" :: bareKeywords.map (·.1)

theorem isName_of_mem {name : String} (h : name ∈ soleNames) : IsName name.toList := by
  have hhead : ∀ name ∈ soleNames, name.toList.head? = some keywordMark := by decide +kernel
  have honce : ∀ name ∈ soleNames, keywordMark ∉ name.toList.tail := by decide +kernel
  have hplain : soleNames.all fun name =>
      name.toList.all fun c => !isBlank c && c != '(' && c != ')' := by
    decide +kernel
  have halone : ∀ name ∈ soleNames, ∀ keyword ∈ Registry.builtinRules.map (·.1),
      keyword.toList <+: name.toList → keyword.toList = name.toList := by
    decide +kernel
  refine ⟨hhead name h, honce name h, fun c hc => ?_, halone name h⟩
  simpa [and_assoc] using List.all_eq_true.1 (List.all_eq_true.1 hplain name h) c hc

theorem isKeyword_noneKeyword : IsKeyword noneKeyword.toList noneKeyword :=
  ⟨isName_of_mem List.mem_cons_self, [], .none, (List.append_nil _).symm⟩

namespace SoleKeyword

variable {name expression : String} {rule : Rule} {t : Tree} {source : Handle}

theorem isKeyword (h : SoleKeyword name expression rule) : IsKeyword name.toList expression := by
  cases h with
  | bare h =>
    have hmem : name ∈ soleNames := by
      simp only [soleNames, List.mem_cons]
      exact .inr (.inr (.inr (List.mem_map_of_mem h)))
    exact ⟨isName_of_mem hmem, [], .none, (List.append_nil _).symm⟩
  | @child n h =>
    refine ⟨isName_of_mem (by decide), _, .list ?_ ?_, toList_childKeyword n⟩
    all_goals exact fun hc => absurd (Number.isDigit_of_mem_repr hc) (by decide)
  | @widgetVar x hopen hclose =>
    exact ⟨isName_of_mem (by decide), _, .list hopen hclose, by simp⟩

theorem find_eq (h : SoleKeyword name expression rule) (stage : Stage) :
    (Resolver.builtin stage).registry.find expression = some rule := by
  cases h with
  | bare h =>
    have hfind : ∀ e ∈ bareKeywords, Registry.builtin.find e.1 = some e.2 := by decide +kernel
    exact hfind _ h
  | @child n h => exact Resolver.find_childKeyword stage n
  | @widgetVar x hopen hclose =>
    have hlist : ("@widgetVar(" ++ x ++ ")").toList =
        "@widgetVar".toList ++ '(' :: (x.toList ++ [')']) := by simp
    rw [Registry.find, hlist]
    rfl

theorem ne_noneKeyword (h : SoleKeyword name expression rule) : expression ≠ noneKeyword := by
  have hno : '(' ∉ noneKeyword.toList := by decide
  cases h with
  | bare h =>
    have hne : ∀ e ∈ bareKeywords, e.1 ≠ noneKeyword := by decide
    exact hne _ h
  | @child n h =>
    intro he
    rw [← he, toList_childKeyword] at hno
    simp at hno
  | @widgetVar x hopen hclose =>
    intro he
    rw [← he] at hno
    simp at hno

/-- The rule of a keyword for components gives a component or none. -/
theorem exists_resolve (h : SoleKeyword name expression rule) (hb : t.Built) (source : Handle) :
    rule = .client ∨ ∃ found, rule.resolve t source source expression = .ok found := by
  cases h with
  | bare h =>
    have hrules : ∀ e ∈ bareKeywords, e.2 ≠ .path ∧ e.2 ≠ .child := by decide
    obtain ⟨hpath, hchild⟩ := hrules _ h
    cases rule with
    | path => exact absurd rfl hpath
    | child => exact absurd rfl hchild
    | enclosing what =>
      obtain ⟨found, hfound, -⟩ :=
        hb.wellFormed.exists_find?_ancestors source fun n => what.accepts n.kind
      exact .inr ⟨found, congrArg ofTree hfound⟩
    | client => exact .inl rfl
    | this | parent | sibling | all | none => exact .inr ⟨_, rfl⟩
  | @child n h =>
    rw [Rule.resolve, Rule.childIndex_childKeyword, if_pos h]
    exact .inr ⟨_, rfl⟩
  | widgetVar => exact .inl rfl

end SoleKeyword

namespace Resolver

variable {t : Tree} {source : Handle} {stage : Stage} {name expression : String} {rule : Rule}

/-- What a keyword is to give: the component that its rule leads to, or the failure to find one, and
for the client a refusal. -/
inductive Answers (t : Tree) (source : Handle) (expression : String) :
    Rule → Except Failure (Option Handle) → Prop where
  | found {rule : Rule} {h : Handle}
    (hr : rule.resolve t source source expression = .ok (some h)) :
    Answers t source expression rule (.ok (some h))
  | missing {rule : Rule} {id : String} (hr : rule.resolve t source source expression = .ok none)
    (hid : t.clientId source = .ok id) :
    Answers t source expression rule (.error (.error (.notFound expression id expression id)))
  | client : Answers t source expression .client (.error (.error (.unsupported expression)))

theorem Answers.eq_of_found {outcome : Except Failure (Option Handle)} {h : Handle}
    (ha : Answers t source expression rule outcome)
    (hr : rule.resolve t source source expression = .ok (some h)) : outcome = .ok (some h) := by
  cases ha with
  | found hr' => exact congrArg _ (Except.ok.inj (hr'.symm.trans hr))
  | missing hr' => cases hr'.symm.trans hr
  | client => cases hr

theorem answers_of_uncut (h : SoleKeyword name expression rule) (hb : t.Built)
    (hs : source < t.size) (hu : UsableSeparator t.separator) (hno : t.separator ∉ name.toList)
    (stage : Stage) :
    Answers t source expression rule ((builtin stage).component t source expression).outcome := by
  have hf := h.find_eq stage
  rw [outcome_of_uncut h.isKeyword hu hno h.ne_noneKeyword hf]
  rcases h.exists_resolve hb source with rfl | ⟨found, hr⟩
  · exact .client
  · have hclient : rule.isClientOnly = false := by
      cases rule with
      | client => cases hr
      | _ => rfl
    have hid := hb.wellFormed.clientId_eq hs
    rw [hclient, if_neg Bool.false_ne_true, step, hf]
    simp only [hr]
    cases found with
    | some h => exact .found hr
    | none =>
      rw [notFound, hid]
      exact .missing hr hid

theorem not_answers_unknownKeyword (keyword : String) :
    ¬ Answers t source expression rule (.error (.error (.unknownKeyword keyword expression))) := by
  rintro ⟨⟩

/-- Under the separator of an accepted configuration, a keyword that stands alone means what it says
exactly if the separator is not a character of its name, whatever its arguments are; otherwise the
part of the name in front of the separator is reported as an unknown keyword. The keyword for no
component means none in any case. -/
theorem keywords_usable_iff {config : Config} (hc : config.validate = .ok ()) (hb : t.Built)
    (ht : t.separator = config.expressions.separator) (hs : source < t.size) :
    let outcome := fun e => ((builtin config.expressions.stage).component t source e).outcome
    outcome "@none" = .ok none ∧
      (outcome "@this" = .ok (some source) ↔ t.separator ∉ "@this".toList) ∧
      (outcome "@all" = .ok (some Tree.root) ↔ t.separator ∉ "@all".toList) ∧
      ∀ name expression rule, SoleKeyword name expression rule →
        (Answers t source expression rule (outcome expression) ↔ t.separator ∉ name.toList) ∧
        ∀ front back, name.toList = front ++ t.separator :: back → t.separator ∉ front →
          outcome expression =
            .error (.error (.unknownKeyword (.ofList front) expression)) := by
  intro outcome
  have hu : UsableSeparator t.separator := ht ▸ usableSeparator_of_validate hc
  have hcut {name expression rule} (h : SoleKeyword name expression rule) {front back}
      (hname : name.toList = front ++ t.separator :: back) (hfront : t.separator ∉ front) :
      outcome expression = .error (.error (.unknownKeyword (.ofList front) expression)) :=
    outcome_of_cut h.isKeyword hu hname hfront h.ne_noneKeyword _ source
  have hiff {name expression rule} (h : SoleKeyword name expression rule) :
      Answers t source expression rule (outcome expression) ↔ t.separator ∉ name.toList := by
    refine ⟨fun ha hm => ?_, fun hno => answers_of_uncut h hb hs hu hno _⟩
    obtain ⟨front, back, hname, hfront⟩ := List.eq_append_cons_of_mem hm
    rw [hcut h hname hfront] at ha
    exact not_answers_unknownKeyword _ ha
  have hleads {name : String} {rule : Rule} {h : Handle} (hk : (name, rule) ∈ bareKeywords)
      (hr : rule.resolve t source source name = .ok (some h)) :
      outcome name = .ok (some h) ↔ t.separator ∉ name.toList := by
    rw [← hiff (.bare hk)]
    exact ⟨fun ho => ho ▸ .found hr, fun ha => ha.eq_of_found hr⟩
  have hthis : ("@this", .this) ∈ bareKeywords := by decide
  have hall : ("@all", .all) ∈ bareKeywords := by decide
  exact ⟨outcome_noneKeyword isKeyword_noneKeyword hu _ source, hleads hthis rfl,
    hleads hall rfl, fun name expression rule h => ⟨hiff h, fun front back => hcut h⟩⟩

/-- The configuration that only sets the stage and the separator. -/
def configOf (stage : Stage) (separator : Char) : Config :=
  { (default : Config) with expressions := { stage, separator } }

/-- The letter cuts the keyword for the parent, and neither the one for a child nor the one for the
source itself. -/
theorem keywords_usable_iff_letter :
    let config := configOf .development 'e'
    let t := Tree.ofOutlines 'e' [.mk "form" .form [.mk "a" .component []]]
    let outcome := fun e => ((builtin .development).component t 1 e).outcome
    config.validate = .ok () ∧ outcome "@this" = .ok (some 1) ∧
      outcome (childKeyword 0) = .ok (some 2) ∧
      outcome "@parent" = .error (.error (.unknownKeyword "@par" "@parent")) := by
  intro config t outcome
  have hc : config.validate = .ok () := by decide +kernel
  have hb : t.Built := .ofOutlines 'e' _
  obtain ⟨-, hthis, -, hkeywords⟩ := @keywords_usable_iff t 1 config hc hb rfl (by decide +kernel)
  obtain ⟨hchild, -⟩ := hkeywords _ _ _ (@SoleKeyword.child 0 (by decide))
  obtain ⟨-, hparent⟩ := hkeywords _ _ _ (@SoleKeyword.bare "@parent" .parent (by decide))
  exact ⟨hc, hthis.2 (by decide), (hchild.2 (by decide)).eq_of_found (by decide +kernel),
    hparent "@par".toList "nt".toList rfl (by decide)⟩

/-- A configuration with a letter as its separator is accepted, and a keyword with this letter is
not known. -/
theorem keywords_unusable :
    let config := configOf .production 's'
    let t := Tree.ofOutlines 's' []
    let outcome := ((builtin config.expressions.stage).component t 0 "@this").outcome
    config.validate = .ok () ∧ t.Built ∧ t.separator = config.expressions.separator ∧
      0 < t.size ∧ outcome ≠ .ok (some 0) ∧
      outcome = .error (.error (.unknownKeyword "@thi" "@this")) :=
  ⟨by decide +kernel, .ofOutlines 's' _, rfl, by decide +kernel, by decide +kernel,
    by decide +kernel⟩

end Resolver

end ViewQuery.Expression
