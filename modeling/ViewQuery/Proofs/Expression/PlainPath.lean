import ViewQuery.Proofs.Component.Reading
import ViewQuery.Proofs.Expression.Absolute
import ViewQuery.Proofs.Expression.PathLinks
import ViewQuery.Proofs.Expression.Stages

/-!
# Expressions without keywords

An expression without the keyword mark is a path, whatever separates its ids and whatever keywords
there are: all of its segments are paths, so that it keeps to the grammar, is not left to the
client, and is looked up as a whole.

* `Resolver.check_of_not_mem`: nothing is refused;
* `Resolver.outcome_find_of_found`, `Resolver.outcome_find_of_missing`: how the path is looked up;
* `Resolver.resolves_as_path`: what it is resolved to, for the server and for the client.
-/

namespace ViewQuery.Expression

open ViewQuery.Component (Handle Tree)
open ViewQuery.Text (trimmed)

namespace Resolver

variable {r : Resolver} {t : Tree} {source c : Handle} {expression id : String}

/-- Without the keyword mark, an expression keeps to the grammar. -/
theorem check_of_not_mem (hm : keywordMark ∉ expression.toList) (t : Tree) (source : Handle) :
    r.check t source (trimmed expression) = .ok () := by
  rw [check_eq_ok_iff]
  intro _
  by_contra hbreach
  rcases breach_ne_none_iff.1 hbreach with ⟨rest, hrest⟩ | ⟨-, segment, hmem, rule, hrule, hnest⟩
  · exact not_mem_trimmed hm (by simp [hrest])
  · rw [find_of_mem_splitSegments (not_mem_trimmed hm) hmem] at hrule
    obtain rfl : Rule.path = rule := Option.some.inj hrule
    cases hnest

theorem passesThrough_of_not_mem (hm : keywordMark ∉ expression.toList) :
    r.passesThrough t expression = false := by
  rw [passesThrough, Option.any_eq_false]
  intro rule hrule
  rw [soleRule_of_not_mem hm rule hrule]
  rfl

/-! ## Looking a path up -/

theorem outcome_find_of_found (hm : keywordMark ∉ expression.toList)
    (h : t.findByPath source expression = .ok (some c)) :
    (r.find t source expression).outcome = .ok c :=
  (find_eq_ok_iff_findByPath hm).2 h

theorem outcome_find_of_missing (hm : keywordMark ∉ expression.toList)
    (h : t.findByPath source expression = .ok none) (hid : t.clientId source = .ok id) :
    (r.find t source expression).outcome =
      .error (.error (.notFound expression id expression id)) := by
  have hholds : holds keywordMark expression = false := by
    rwa [← Bool.not_eq_true, holds_iff]
  rw [find, hholds, h, notFound, hid]
  rfl

/-- What an expression that is looked up is resolved to, for the server. -/
theorem outcome_component_of_not_mem (hne : trimmed expression ≠ "")
    (hm : keywordMark ∉ expression.toList) :
    (r.component t source expression).outcome =
      (r.find t source (trimmed expression)).outcome.map some := by
  rw [outcome_component hne, check_of_not_mem hm, ok_bind, if_neg (trimmed_ne_noneKeyword hm),
    isClientOnly_of_not_mem (not_mem_trimmed hm), ← bind_ok_eq_map]
  rfl

theorem outcome_token_of_not_mem (hne : trimmed expression ≠ "")
    (hm : keywordMark ∉ expression.toList) :
    (r.token t source expression).outcome =
      (r.find t source (trimmed expression)).outcome.bind fun h =>
        (ofTree (t.clientId h)).map some := by
  rw [outcome_token hne, check_of_not_mem hm, ok_bind,
    passesThrough_of_not_mem (not_mem_trimmed hm)]
  simp only [← bind_ok_eq_map]
  rfl

/-- An expression without the keyword mark is its path. Where the path leads to a component, this is
the component for the server, and its client id is the token for the client. Where it leads nowhere,
neither is found, and the error names the path for the segment and for the expression, and the
source for the anchor and for the origin. In a tree that was built, it is one of the two. -/
theorem resolves_as_path (r : Resolver) (t : Tree) (source : Handle) (hne : trimmed expression ≠ "")
    (hm : keywordMark ∉ expression.toList) :
    let path := trimmed expression
    let component := (r.component t source expression).outcome
    let token := (r.token t source expression).outcome
    (∀ c, t.findByPath source path = .ok (some c) →
        component = .ok (some c) ∧ ∀ id, t.clientId c = .ok id → token = .ok (some id)) ∧
      (∀ id, t.findByPath source path = .ok none → t.clientId source = .ok id →
        component = .error (.error (.notFound path id path id)) ∧
          token = .error (.error (.notFound path id path id))) ∧
      (t.Built → source < t.size →
        (∃ c id, t.findByPath source path = .ok (some c) ∧ t.clientId c = .ok id) ∨
          ∃ id, t.findByPath source path = .ok none ∧ t.clientId source = .ok id) := by
  intro path component token
  have hpath : keywordMark ∉ path.toList := not_mem_trimmed hm
  have hcomponent : component = (r.find t source path).outcome.map some :=
    outcome_component_of_not_mem hne hm
  have htoken : token = (r.find t source path).outcome.bind fun h =>
      (ofTree (t.clientId h)).map some := outcome_token_of_not_mem hne hm
  refine ⟨fun c hc => ⟨?_, fun id hid => ?_⟩, fun id hnone hid => ⟨?_, ?_⟩, fun hb hs => ?_⟩
  · rw [hcomponent, outcome_find_of_found hpath hc]
    rfl
  · rw [htoken, outcome_find_of_found hpath hc, ok_bind, hid]
    rfl
  · rw [hcomponent, outcome_find_of_missing hpath hnone hid]
    rfl
  · rw [htoken, outcome_find_of_missing hpath hnone hid]
    rfl
  · obtain ⟨found, hfound, hlt⟩ := hb.wellFormed.exists_findByPath hs path
    cases found with
    | some c => exact .inl ⟨c, _, hfound, hb.wellFormed.clientId_eq (hlt c rfl)⟩
    | none => exact .inr ⟨_, hfound, hb.wellFormed.clientId_eq hs⟩

/-- A blank character separates the ids, the first one of which is also a keyword, and every text is
one that goes to the client with an argument list behind it. -/
theorem resolves_as_path_blankSeparator :
    let t := Tree.ofOutlines ' ' [.mk "form" .form [.mk "a(b)" .component []]]
    let r : Resolver :=
      { registry := (Registry.builtin.register "form" .client).register "" .none,
        stage := .development }
    (r.component t 2 "\tform a(b)\u2003").outcome = .ok (some 2) ∧
      (r.token t 2 "\tform a(b)\u2003").outcome = .ok (some "form a(b)") ∧
      (r.component t 2 "form form").outcome =
        .error (.error (.notFound "form form" "form a(b)" "form form" "form a(b)")) := by
  intro t r
  have hid : t.clientId 2 = .ok "form a(b)" := by decide +kernel
  obtain ⟨hfound, -⟩ := @resolves_as_path "\tform a(b)\u2003" r t 2 (by decide) (by decide)
  obtain ⟨-, hmissing, -⟩ := @resolves_as_path "form form" r t 2 (by decide) (by decide)
  obtain ⟨hcomponent, htoken⟩ := hfound 2 (by decide +kernel)
  exact ⟨hcomponent, htoken "form a(b)" hid, (hmissing "form a(b)" (by decide +kernel) hid).1⟩

end Resolver

end ViewQuery.Expression
