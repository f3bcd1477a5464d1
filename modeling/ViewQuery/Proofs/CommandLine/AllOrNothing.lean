import ViewQuery.CommandLine.Run
import ViewQuery.Proofs.Expression.Safety
import ViewQuery.Proofs.Outcome

/-!
# All or nothing

A run that fails prints nothing: in every command, the steps that can fail come before the first one
that prints. What is printed step by step are rows, which cannot fail, and the client ids of
components that were found, which do not fail because these components are in the tree.

* `Activity.AllOrNothing.bind`: a step that prints nothing in front of others;
* `succeeds_printClientIds`: the client ids of components of a tree;
* `allOrNothing_runCommand`: the commands;
* `run_prints_all_or_nothing`: whole runs.
-/

namespace ViewQuery.CommandLine

open ViewQuery.Component (Handle Tree)
open ViewQuery.Expression (SafeResult ofTree)

namespace Activity

variable {α β : Type} {a : Activity α} {f : α → Activity β}

/-- Nothing was printed by the time of a failure. -/
def AllOrNothing (a : Activity α) : Prop := ∀ e, a.outcome = .error e → a.printed = []

/-- There was no failure. -/
def Succeeds (a : Activity α) : Prop := ∃ x, a.outcome = .ok x

theorem Succeeds.allOrNothing (h : a.Succeeds) : a.AllOrNothing := by
  obtain ⟨x, hx⟩ := h
  intro e he
  rw [hx] at he
  cases he

theorem Succeeds.bind (ha : a.Succeeds) (hf : ∀ x, a.outcome = .ok x → (f x).Succeeds) :
    (a >>= f).Succeeds := by
  obtain ⟨x, hx⟩ := ha
  rw [bind_of_ok hx]
  exact hf x hx

/-- What may fail goes in front of what prints. -/
theorem AllOrNothing.bind (ha : a.printed = [])
    (hf : ∀ x, a.outcome = .ok x → (f x).AllOrNothing) : (a >>= f).AllOrNothing := by
  cases hx : a.outcome with
  | error e =>
    rw [bind_of_error hx]
    exact fun _ _ => ha
  | ok x =>
    rw [bind_of_ok hx, ha]
    exact hf x hx

theorem succeeds_print (line : String) : (print line).Succeeds := ⟨(), rfl⟩

theorem succeeds_printAll (lines : List String) : (printAll lines).Succeeds := by
  induction lines with
  | nil => exact ⟨(), rfl⟩
  | cons line rest ih => exact (succeeds_print line).bind fun _ _ => ih

theorem eq_some_of_require {x : Option α} {e : Error} {y : α}
    (h : (require x e).outcome = .ok y) : x = some y := by
  cases x with
  | none => cases h
  | some z =>
    cases h
    rfl

end Activity

open Activity (AllOrNothing Succeeds)

variable {config : Config} {files : String → Found}

/-! ## Components -/

theorem eq_ok_of_resolved {α : Type} {outcome : Except Expression.Failure α} {x : α}
    (h : (resolved outcome).outcome = .ok x) : outcome = .ok x := mapError_eq_ok_iff.1 h

/-- Components of a tree have client ids, so that printing these does not fail halfway. -/
theorem succeeds_printClientIds {t : Tree} (w : t.WellFormed) {components : List Handle}
    (hin : ∀ h ∈ components, h < t.size) : (printClientIds t components).Succeeds := by
  induction components with
  | nil => exact ⟨(), rfl⟩
  | cons h rest ih =>
    obtain ⟨hh, hrest⟩ := List.forall_mem_cons.1 hin
    have hid : (resolved (ofTree (t.clientId h))).Succeeds := by
      rw [w.clientId_eq hh]
      exact ⟨_, rfl⟩
    exact hid.bind fun id _ => (Activity.succeeds_print id).bind fun _ _ => ih hrest

theorem built_of_treeOf? {separator : Char} {content : String} {t : Tree}
    (h : treeOf? separator content = some t) : t.Built := by
  obtain ⟨outlines, -, rfl⟩ := Option.map_eq_some_iff.1 h
  exact .ofOutlines separator outlines

theorem lt_size_of_sourceOf? {t : Tree} (w : t.WellFormed) {clientId : String} {h : Handle}
    (hs : sourceOf? t clientId = some h) : h < t.size := by
  obtain ⟨found, hfound, hlt⟩ := w.exists_findByPath w.size_pos
    (String.singleton t.separator ++ clientId)
  rw [sourceOf?, Tree.findByClientId, hfound] at hs
  exact hlt h hs

/-! ## Commands -/

/-- Expressions are all resolved before the first component is printed, and components that were
found can all be printed. -/
theorem allOrNothing_runResolve (path source expressions : String) (forClient : Bool) :
    (runResolve config files path source expressions forClient).AllOrNothing := by
  refine .bind rfl fun content _ => .bind rfl fun t ht => .bind rfl fun h hh => ?_
  have w := (built_of_treeOf? (Activity.eq_some_of_require ht)).wellFormed
  have hs := lt_size_of_sourceOf? w (Activity.eq_some_of_require hh)
  cases forClient with
  | true => exact .bind rfl fun tokens _ => (Activity.succeeds_print tokens).allOrNothing
  | false =>
    refine .bind rfl fun components hcomponents => ?_
    have hsafe := (Expression.Resolver.staysIn_components (r := .builtin config.expressions.stage)
      w hs expressions).outcome
    rw [eq_ok_of_resolved hcomponents] at hsafe
    exact (succeeds_printClientIds w hsafe).allOrNothing

/-- The request is applied before the first row is printed. -/
theorem allOrNothing_filterRows (table : Filter.Table Json) (request : Filter.Request) :
    (filterRows table request).AllOrNothing := by
  refine .bind rfl fun _ _ => .bind rfl fun _ _ => ?_
  refine ((Activity.succeeds_printAll _).bind fun _ _ => ?_).allOrNothing
  unfold remarkReply
  split
  · exact ⟨(), rfl⟩
  · exact ⟨(), rfl⟩

theorem allOrNothing_runFilter (tableId path : String) (params : List String)
    (globalValue : Option String) :
    (runFilter config files tableId path params globalValue).AllOrNothing :=
  .bind rfl fun _ _ => .bind rfl fun _ _ => .bind rfl fun _ _ => .bind rfl fun table _ =>
    .bind rfl fun request _ => allOrNothing_filterRows table request

theorem allOrNothing_runCommand (path : String) (command : Command) :
    (runCommand config files path command).AllOrNothing := by
  cases command with
  | split expressions => exact (Activity.succeeds_printAll _).allOrNothing
  | resolve tree source expressions forClient =>
    exact allOrNothing_runResolve tree source expressions forClient
  | filter table rows params globalValue =>
    exact allOrNothing_runFilter table rows params globalValue
  | config isShown => exact (Activity.succeeds_print _).allOrNothing

/-! ## Runs -/

/-- What is left of a command that prints all or nothing. -/
theorem finished_of_code_eq_one {filter : Diagnostics.LogFilter} {complaints : List String}
    {done : Activity Unit} (hdone : done.AllOrNothing)
    (h : (finished filter complaints done).code = 1) :
    (finished filter complaints done).printed = "" ∧
      ∃ e, errorLines e <:+ (finished filter complaints done).report := by
  unfold finished at h ⊢
  cases ho : done.outcome with
  | ok =>
    rw [ho] at h
    cases h
  | error e =>
    dsimp only
    rw [hdone e ho]
    exact ⟨rfl, e, List.suffix_append ..⟩

/-- A run that ends with the exit code of a failure has printed nothing, and tells of the error at
the end of its report. -/
theorem run_prints_all_or_nothing {words : List String} {logVariable : Option String}
    (h : (run words files logVariable).code = 1) :
    (run words files logVariable).printed = "" ∧
      ∃ e, errorLines e <:+ (run words files logVariable).report := by
  unfold run at h ⊢
  cases hw : Request.ofWords words with
  | misuse =>
    rw [hw] at h
    cases h
  | version =>
    rw [hw] at h
    cases h
  | help subcommand =>
    rw [hw] at h
    cases h
  | run i =>
    rw [hw] at h
    dsimp only at h ⊢
    unfold runInvocation at h ⊢
    cases hc : loadConfig files i.config with
    | error e => exact ⟨rfl, e, List.suffix_refl _⟩
    | ok config =>
      rw [hc] at h
      exact finished_of_code_eq_one (allOrNothing_runCommand i.config i.command) h

/-- Of two expressions the second one cannot be resolved. -/
theorem run_prints_all_or_nothing_second :
    let words := ["resolve", "--tree", "t.json", "--source", "form", "@this @unknown"]
    let files := Directory.find [("t.json", "[\x7b\"id\": \"form\", \"kind\": \"form\"\x7d]")]
    (run words files none).code = 1 ∧ (run words files none).printed = "" := by
  intro words files
  have h : (run words files none).code = 1 := by decide +kernel
  exact ⟨h, (run_prints_all_or_nothing h).1⟩

end ViewQuery.CommandLine
