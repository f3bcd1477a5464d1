import Mathlib.Data.List.Induction
import ViewQuery.Expression.Registry

/-!
# Which keyword serves a segment

What a registry finds, said of the registrations it comes from. All keywords that serve a segment
are beginnings of it, so that no two of them are of the same length: the longest one is unique, in
bytes as in characters, and neither the order of the entries nor a rule for ties matters. A registry
is what has been registered last under each keyword, whatever the order of different keywords was.

* `Registry.longest_eq_some_iff`: the longest of several entries that begin the same segment;
* `Registry.Registered.rules_eq`: the entries of a registry, from its registrations;
* `Registry.dispatches_longest`: the rule of a segment and the keywords.
-/

namespace ViewQuery.Expression

namespace Registry

variable {α : Type} {r r' : Registry α} {entries entries' : List (String × α)}
  {keyword other segment : String} {rule : α}

/-! ## Serving -/

/-- A keyword serves a segment that is the keyword, or that has an argument list behind it. One that
ends with an opening parenthesis serves whatever begins with it. -/
def Serves (keyword segment : String) : Prop :=
  segment = keyword ∨ keyword.toList ++ ['('] <+: segment.toList ∨
    keyword.toList <+: segment.toList ∧ keyword.toList.getLast? = some '('

instance (keyword segment : String) : Decidable (Serves keyword segment) :=
  inferInstanceAs (Decidable (_ ∨ _ ∨ _ ∧ _))

theorem serves_iff : serves keyword.toList segment.toList = true ↔ Serves keyword segment := by
  rw [serves, Serves]
  cases hrest : Text.afterPrefix keyword.toList segment.toList with
  | none =>
    have hnot : ¬ keyword.toList <+: segment.toList := by
      rintro ⟨rest, h⟩
      simp [Text.afterPrefix_eq_some_iff.2 h.symm] at hrest
    have hne : segment ≠ keyword := fun h => hnot (h ▸ List.prefix_rfl)
    have hlong : ¬ keyword.toList ++ ['('] <+: segment.toList := fun h =>
      hnot ((List.prefix_append _ _).trans h)
    simp [hnot, hne, hlong]
  | some rest =>
    have hsegment := Text.afterPrefix_eq_some_iff.1 hrest
    have hopen : rest.head? = some '(' ↔ ['('] <+: rest := by
      rw [List.head?_eq_some_iff]
      exact exists_congr fun _ => eq_comm
    rw [← String.toList_inj, hsegment, List.prefix_append_right_inj]
    simp only [hopen, List.append_right_eq_self, List.isEmpty_iff, Bool.or_eq_true, beq_iff_eq,
      List.prefix_append, true_and, or_assoc]
    exact or_congr_right or_comm

/-- A keyword that serves a segment is the beginning of it. -/
theorem Serves.isPrefix (h : Serves keyword segment) : keyword.toList <+: segment.toList := by
  rcases h with rfl | h | h
  · exact List.prefix_rfl
  · exact (List.prefix_append _ _).trans h
  · exact h.1

/-- Of two keywords that serve a segment the shorter one begins the longer one. -/
theorem Serves.isPrefix_of_length_le (h : Serves keyword segment) (h' : Serves other segment)
    (hle : other.length ≤ keyword.length) : other.toList <+: keyword.toList :=
  List.prefix_of_prefix_length_le h'.isPrefix h.isPrefix
    (by simpa only [String.length_toList] using hle)

theorem Serves.eq_of_length (h : Serves keyword segment) (h' : Serves other segment)
    (hlength : other.length = keyword.length) : other = keyword :=
  String.toList_inj.1 <|
    (h.isPrefix_of_length_le h' (Nat.le_of_eq hlength)).eq_of_length
      (by simpa only [String.length_toList] using hlength)

theorem exists_append_of_isPrefix (h : keyword.toList <+: other.toList) :
    ∃ rest, other = keyword ++ rest := by
  obtain ⟨rest, hrest⟩ := h
  refine ⟨.ofList rest, ?_⟩
  rw [← String.toList_inj, String.toList_append, String.toList_ofList, hrest]

/-- Of two keywords that serve a segment the one with more characters has more bytes. -/
theorem Serves.utf8ByteSize_le_iff (h : Serves keyword segment) (h' : Serves other segment) :
    other.utf8ByteSize ≤ keyword.utf8ByteSize ↔ other.length ≤ keyword.length := by
  constructor
  · intro hbytes
    by_contra hlt
    obtain ⟨rest, rfl⟩ := exists_append_of_isPrefix
      (h'.isPrefix_of_length_le h (Nat.le_of_not_le hlt))
    have hrest : rest = "" := by
      rw [String.utf8ByteSize_append] at hbytes
      exact String.utf8ByteSize_eq_zero_iff.1 (by omega)
    simp [hrest] at hlt
  · intro hle
    obtain ⟨rest, rfl⟩ := exists_append_of_isPrefix (h.isPrefix_of_length_le h' hle)
    rw [String.utf8ByteSize_append]
    exact Nat.le_add_right ..

/-! ## The longest entry -/

/-- There is an entry with the most bytes in its keyword, and it is found. -/
theorem longest_spec (entries : List (String × α)) :
    (longest entries = none ∧ entries = []) ∨
      ∃ e ∈ entries, longest entries = some e ∧
        ∀ e' ∈ entries, e'.1.utf8ByteSize ≤ e.1.utf8ByteSize := by
  induction entries using List.reverseRecOn with
  | nil => exact .inl ⟨rfl, rfl⟩
  | append_singleton entries next ih =>
    right
    simp only [longest, List.foldl_append, List.foldl_cons, List.foldl_nil] at ih ⊢
    rcases ih with ⟨hnone, rfl⟩ | ⟨e, he, hsome, hmax⟩
    · exact ⟨next, by simp, by rw [hnone], by simp⟩
    · rw [hsome]
      by_cases hle : e.1.utf8ByteSize ≤ next.1.utf8ByteSize
      · refine ⟨next, by simp, if_pos hle, fun e' he' => ?_⟩
        rcases List.mem_append.1 he' with he' | he'
        · exact Nat.le_trans (hmax e' he') hle
        · exact Nat.le_of_eq (by rw [List.mem_singleton.1 he'])
      · refine ⟨e, List.mem_append_left _ he, if_neg hle, fun e' he' => ?_⟩
        rcases List.mem_append.1 he' with he' | he'
        · exact hmax e' he'
        · rw [List.mem_singleton.1 he']
          exact Nat.le_of_not_le hle

theorem longest_eq_none_iff : longest entries = none ↔ entries = [] := by
  constructor
  · intro h
    rcases longest_spec entries with ⟨-, hnil⟩ | ⟨e, -, hsome, -⟩
    · exact hnil
    · simp [h] at hsome
  · rintro rfl
    rfl

/-- Of entries that serve one segment and have each keyword once, the longest is the one that none
is longer than. -/
theorem longest_eq_some_iff {e : String × α} (hserve : ∀ e ∈ entries, Serves e.1 segment)
    (honce : ∀ e ∈ entries, ∀ e' ∈ entries, e.1 = e'.1 → e = e') :
    longest entries = some e ↔ e ∈ entries ∧ ∀ e' ∈ entries, e'.1.length ≤ e.1.length := by
  rcases longest_spec entries with ⟨hnone, rfl⟩ | ⟨l, hl, hsome, hbytes⟩
  · simp [hnone]
  · have hmax : ∀ e' ∈ entries, e'.1.length ≤ l.1.length := fun e' he' =>
      ((hserve l hl).utf8ByteSize_le_iff (hserve e' he')).1 (hbytes e' he')
    rw [hsome, Option.some.injEq]
    constructor
    · rintro rfl
      exact ⟨hl, hmax⟩
    · rintro ⟨he, hmax'⟩
      have hlength : l.1.length = e.1.length := Nat.le_antisymm (hmax' l hl) (hmax e he)
      exact honce l hl e he ((hserve e he).eq_of_length (hserve l hl) hlength)

/-! ## Entries -/

/-- The rule that has been registered last under a keyword. -/
def lastRule (entries : List (String × α)) (keyword : String) : Option α :=
  (entries.filter fun e => e.1 = keyword).getLast?.map (·.2)

theorem rules_foldl_register (r : Registry α) (entries : List (String × α)) :
    (entries.foldl (fun r e => r.register e.1 e.2) r).rules =
      entries.foldl (fun d e => Dict.insert e.1 e.2 d) r.rules := by
  induction entries generalizing r with
  | nil => rfl
  | cons e entries ih => exact ih (r.register e.1 e.2)

theorem lookup_eq_head?_filter (entries : List (String × α)) (keyword : String) :
    entries.lookup keyword = (entries.filter fun e => e.1 = keyword).head?.map (·.2) := by
  induction entries with
  | nil => rfl
  | cons e entries ih =>
    rw [Dict.lookup_cons_eq]
    by_cases hk : keyword = e.1
    · simp [hk]
    · rw [if_neg hk, List.filter_cons_of_neg (by simpa using Ne.symm hk), ih]

theorem lastRule_eq_some_iff_mem :
    (∃ rule, lastRule entries keyword = some rule) ↔ keyword ∈ entries.map (·.1) := by
  rw [← Option.isSome_iff_exists, lastRule, Option.isSome_map, List.getLast?_isSome, ne_eq,
    List.filter_eq_nil_iff]
  simp

/-- The longest keyword that has been registered and serves a segment. -/
structure IsLongest (entries : List (String × α)) (segment keyword : String) : Prop where
  registered : keyword ∈ entries.map (·.1)
  serves : Serves keyword segment
  length_le : ∀ other ∈ entries.map (·.1), Serves other segment → other.length ≤ keyword.length

theorem IsLongest.unique (h : IsLongest entries segment keyword)
    (h' : IsLongest entries segment other) : keyword = other :=
  h'.serves.eq_of_length h.serves <| Nat.le_antisymm
    (h'.length_le keyword h.registered h.serves) (h.length_le other h'.registered h'.serves)

/-- The entries that serve a segment. -/
def serving (r : Registry α) (segment : String) : List (String × α) :=
  r.rules.filter fun e => serves e.1.toList segment.toList

theorem mem_serving_iff {e : String × α} :
    e ∈ r.serving segment ↔ e ∈ r.rules ∧ Serves e.1 segment := by
  rw [serving, List.mem_filter, serves_iff]

/-! ## Registrations -/

variable [RuleLike α]

/-- How a registry comes about: what has been registered in it, from the first to the last. -/
inductive Registered : Registry α → List (String × α) → Prop where
  | empty : Registered .empty []
  | builtin : Registered (.builtinFor α) builtinEntries
  | register {r : Registry α} {entries : List (String × α)} (keyword : String) (rule : α) :
    Registered r entries → Registered (r.register keyword rule) (entries ++ [(keyword, rule)])

/-- The entries of a registry, from its registrations. -/
theorem Registered.rules_eq (h : Registered r entries) : r.rules = Dict.ofList entries := by
  induction h with
  | empty => rfl
  | builtin => exact rules_foldl_register .empty builtinEntries
  | register keyword rule _ ih =>
    rw [Registry.register, ih, Dict.ofList, Dict.ofList, List.foldl_append]
    rfl

theorem Registered.lookup_eq (h : Registered r entries) (keyword : String) :
    r.rules.lookup keyword = lastRule entries keyword := by
  rw [h.rules_eq, Dict.lookup_ofList, lookup_eq_head?_filter, List.filter_reverse,
    List.head?_reverse, lastRule]

theorem Registered.sorted (h : Registered r entries) : Dict.Sorted r.rules :=
  h.rules_eq ▸ Dict.sorted_ofList entries

theorem Registered.mem_rules_iff (h : Registered r entries) :
    (keyword, rule) ∈ r.rules ↔ lastRule entries keyword = some rule := by
  rw [Dict.mem_iff_lookup h.sorted, h.lookup_eq]

theorem Registered.mem_keywords_iff (h : Registered r entries) :
    keyword ∈ r.keywords ↔ keyword ∈ entries.map (·.1) := by
  rw [keywords, Dict.mem_keys_iff, ← lastRule_eq_some_iff_mem]
  simp only [h.lookup_eq]

/-- Registries with the same last rules are the same. -/
theorem Registered.eq_of_lastRule (h : Registered r entries) (h' : Registered r' entries')
    (hlast : ∀ keyword, lastRule entries keyword = lastRule entries' keyword) : r = r' := by
  have hrules : r.rules = r'.rules := Dict.eq_of_lookup h.sorted h'.sorted fun keyword => by
    rw [h.lookup_eq, h'.lookup_eq, hlast]
  obtain ⟨rules⟩ := r
  obtain ⟨rules'⟩ := r'
  exact congrArg Registry.mk hrules

/-! ## Dispatch -/

theorem find_of_mark (hm : segment.toList.head? = some keywordMark) :
    r.find segment = (longest (r.serving segment)).map (·.2) :=
  if_pos hm

/-- A rule that is found for a keyword is one of the entries that serve it. -/
theorem exists_serves_of_find (hm : segment.toList.head? = some keywordMark)
    (hf : r.find segment = some rule) :
    ∃ keyword, (keyword, rule) ∈ r.rules ∧ Serves keyword segment := by
  rw [find_of_mark hm] at hf
  obtain ⟨e, hlongest, rfl⟩ := Option.map_eq_some_iff.1 hf
  rcases longest_spec (r.serving segment) with ⟨hnone, -⟩ | ⟨l, hl, hsome, -⟩
  · rw [hnone] at hlongest
    cases hlongest
  · obtain rfl : l = e := Option.some.inj (hsome.symm.trans hlongest)
    exact ⟨l.1, mem_serving_iff.1 hl⟩

theorem Registered.longest_serving_iff (h : Registered r entries) :
    longest (r.serving segment) = some (keyword, rule) ↔
      IsLongest entries segment keyword ∧ lastRule entries keyword = some rule := by
  have hserve : ∀ e ∈ r.serving segment, Serves e.1 segment := fun e he =>
    (mem_serving_iff.1 he).2
  have honce : ∀ e ∈ r.serving segment, ∀ e' ∈ r.serving segment, e.1 = e'.1 → e = e' := by
    rintro ⟨k, v⟩ he ⟨k', v'⟩ he' rfl
    have hv := (Dict.mem_iff_lookup h.sorted).1 (mem_serving_iff.1 he).1
    have hv' := (Dict.mem_iff_lookup h.sorted).1 (mem_serving_iff.1 he').1
    rw [Option.some.inj (hv.symm.trans hv')]
  rw [longest_eq_some_iff hserve honce, mem_serving_iff, h.mem_rules_iff]
  constructor
  · rintro ⟨⟨hlast, hs⟩, hmax⟩
    refine ⟨⟨lastRule_eq_some_iff_mem.1 ⟨rule, hlast⟩, hs, fun other ho hos => ?_⟩, hlast⟩
    obtain ⟨rule', hlast'⟩ := lastRule_eq_some_iff_mem.2 ho
    exact hmax (other, rule') (mem_serving_iff.2 ⟨h.mem_rules_iff.2 hlast', hos⟩)
  · rintro ⟨hl, hlast⟩
    refine ⟨⟨hlast, hl.serves⟩, fun e he => ?_⟩
    obtain ⟨hmem, hs⟩ := mem_serving_iff.1 he
    exact hl.length_le e.1 (lastRule_eq_some_iff_mem.1 ⟨e.2, h.mem_rules_iff.1 hmem⟩) hs

/-- What a registry gives, told from what has been registered in it. A segment without the keyword
mark is a path, and any other one has the rule of the longest keyword that serves it, if there is
one. The keywords are those that have been registered, each once and in order. -/
structure Dispatches (r : Registry α) (entries : List (String × α)) : Prop where
  find_path : ∀ segment, segment.toList.head? ≠ some keywordMark →
    r.find segment = some (RuleLike.ofRule .path)
  find_keyword : ∀ segment, segment.toList.head? = some keywordMark → ∀ rule,
    r.find segment = some rule ↔
      ∃ keyword, IsLongest entries segment keyword ∧ lastRule entries keyword = some rule
  find_none : ∀ segment, segment.toList.head? = some keywordMark →
    (r.find segment = none ↔ ∀ keyword ∈ entries.map (·.1), ¬ Serves keyword segment)
  keywords_sorted : r.keywords.Pairwise (· < ·)
  mem_keywords : ∀ keyword, keyword ∈ r.keywords ↔ keyword ∈ entries.map (·.1)

theorem Registered.dispatches (h : Registered r entries) : Dispatches r entries where
  find_path segment hm := if_neg hm
  find_keyword segment hm rule := by
    rw [find_of_mark hm, Option.map_eq_some_iff]
    constructor
    · rintro ⟨e, hlongest, rfl⟩
      exact ⟨e.1, h.longest_serving_iff.1 hlongest⟩
    · rintro ⟨keyword, hl⟩
      exact ⟨(keyword, rule), h.longest_serving_iff.2 hl, rfl⟩
  find_none segment hm := by
    rw [find_of_mark hm, Option.map_eq_none_iff, longest_eq_none_iff,
      List.eq_nil_iff_forall_not_mem]
    constructor
    · intro hnone keyword hk hs
      obtain ⟨rule, hlast⟩ := lastRule_eq_some_iff_mem.2 hk
      exact hnone (keyword, rule) (mem_serving_iff.2 ⟨h.mem_rules_iff.2 hlast, hs⟩)
    · intro hnone e he
      obtain ⟨hmem, hs⟩ := mem_serving_iff.1 he
      exact hnone e.1 (lastRule_eq_some_iff_mem.1 ⟨e.2, h.mem_rules_iff.1 hmem⟩) hs
  keywords_sorted := List.pairwise_map.2 h.sorted
  mem_keywords _ := h.mem_keywords_iff

/-- A registry gives the rule that has been registered last under the longest keyword that serves a
segment. All keywords that serve the segment are the beginnings of this one, and no other is as
long. Two registries in which the same rules have been registered in the same order under each
keyword give the same rules and keywords, in whatever order different keywords came. -/
theorem dispatches_longest (h : Registered r entries) :
    Dispatches r entries ∧
      (∀ segment keyword, IsLongest entries segment keyword →
        (∀ other ∈ entries.map (·.1), Serves other segment → other.toList <+: keyword.toList) ∧
          ∀ other, IsLongest entries segment other → other = keyword) ∧
      ∀ r' entries', Registered r' entries' →
        (∀ keyword, (entries.filter fun e => e.1 = keyword) =
          entries'.filter fun e => e.1 = keyword) →
        (∀ segment, r.find segment = r'.find segment) ∧ r.keywords = r'.keywords := by
  refine ⟨h.dispatches, fun segment keyword hl => ⟨fun other ho hs => ?_, fun other hl' => ?_⟩,
    fun r' entries' h' hfilter => ?_⟩
  · exact hl.serves.isPrefix_of_length_le hs (hl.length_le other ho hs)
  · exact hl'.unique hl
  · have hlast : ∀ keyword, lastRule entries keyword = lastRule entries' keyword := by
      intro keyword
      rw [lastRule, lastRule, hfilter]
    obtain rfl := h.eq_of_lastRule h' hlast
    exact ⟨fun _ => rfl, rfl⟩

/-- The rules of a host that has a rule of its own, which leads to the root. -/
inductive RootOr where
  | root
  | rule (rule : Rule)
  deriving DecidableEq

instance : RuleLike RootOr where
  ofRule := .rule

/-- Two keywords serve the segment, and both have been registered twice: the one that is built in
gets another rule, before or after the longer one gets that of the host. -/
theorem dispatches_longest_child :
    let base := (builtinFor RootOr).register "@child(" (.rule .all)
    let first := (base.register "@child" (.rule .client)).register "@child(" .root
    let second := (base.register "@child(" .root).register "@child" (.rule .client)
    first.find "@child(é)" = some .root ∧ second.find "@child(é)" = some .root ∧
      (∀ segment, first.find segment = second.find segment) ∧
      second.keywords = ["@(", "@all", "@child", "@child(", "@composite", "@form",
        "@namingcontainer", "@next", "@none", "@parent", "@previous", "@this", "@widgetVar"] := by
  intro base first second
  have h : Registered first (builtinEntries ++ [("@child(", .rule .all)] ++
      [("@child", .rule .client)] ++ [("@child(", .root)]) :=
    .register "@child(" RootOr.root <| .register "@child" (RootOr.rule .client) <|
      .register "@child(" (RootOr.rule .all) .builtin
  have h' : Registered second (builtinEntries ++ [("@child(", .rule .all)] ++
      [("@child(", .root)] ++ [("@child", .rule .client)]) :=
    .register "@child" (RootOr.rule .client) <| .register "@child(" RootOr.root <|
      .register "@child(" (RootOr.rule .all) .builtin
  obtain ⟨hdispatch, -, horder⟩ := dispatches_longest h
  have hlongest : IsLongest (builtinEntries ++ [("@child(", RootOr.rule .all)] ++
      [("@child", .rule .client)] ++ [("@child(", .root)]) "@child(é)" "@child(" :=
    ⟨by decide, by decide, by decide⟩
  have hfind : first.find "@child(é)" = some .root :=
    (hdispatch.find_keyword "@child(é)" rfl .root).2 ⟨"@child(", hlongest, by decide⟩
  obtain ⟨hsame, hkeywords⟩ := horder second _ h' fun keyword => by
    rcases eq_or_ne "@child" keyword with rfl | hne
    · rfl
    · simp [List.filter_cons, hne]
  exact ⟨hfind, (hsame "@child(é)").symm.trans hfind, hsame,
    hkeywords.symm.trans (by decide +kernel)⟩

end Registry

end ViewQuery.Expression
