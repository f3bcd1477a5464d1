import ViewQuery.Proofs.Filter.History

/-!
# The warning about a missing holder

A table without a holder keeps the rows that passed itself, and warns about it. It does so once in
its life, however often rows are stored in it afterwards, by requests or by its host. Clearing the
rows is not storing rows, and rows that go into a holder do not count, whatever the holder reports
on itself.

* `Operation`: what can be done to a table, its setup included;
* `Operation.warned_apply`, `Operation.warnings_notices`: what one operation does to the mark that
  the warning was given, and the warnings in what it reports;
* `Table.warned_run`, `Table.warnings_noticesOf`: the same for a run of operations;
* `warns_once`: how often a table warns, and when.
-/

namespace ViewQuery.Filter

open ViewQuery.Diagnostics (Event)

variable {R : Type}

/-! ## Warnings -/

/-- Whether a notice is the warning about a missing holder. -/
def Notice.isUnbound : Notice → Bool
  | .unbound _ => true
  | _ => false

/-- The warnings about a missing holder among what is reported. -/
def warnings (notices : List Notice) : List Event :=
  (notices.filter Notice.isUnbound).map Notice.event

@[simp] theorem warnings_nil : warnings [] = [] := rfl

theorem warnings_append (notices notices' : List Notice) :
    warnings (notices ++ notices') = warnings notices ++ warnings notices' := by
  simp [warnings]

@[simp] theorem warnings_rowMatched_append (indexes : List Nat) (notices : List Notice) :
    warnings (indexes.map .rowMatched ++ notices) = warnings notices := by
  have hnone : warnings (indexes.map .rowMatched) = [] := by
    simp [warnings, Notice.isUnbound]
  rw [warnings_append, hnone, List.nil_append]

@[simp] theorem warnings_filtered_cons (table : String) (rows matched : Nat)
    (notices : List Notice) :
    warnings (.filtered table rows matched :: notices) = warnings notices := rfl

@[simp] theorem warnings_leftToSource (table : String) : warnings [.leftToSource table] = [] := rfl

@[simp] theorem warnings_unbound (table : String) :
    warnings [.unbound table] = [(Notice.unbound table).event] := rfl

@[simp] theorem warnings_holderNotices (t : Table R) : warnings t.holderNotices = [] := by
  unfold Table.holderNotices
  split <;> rfl

theorem warnings_holderNotices_append (t : Table R) (notices : List Notice) :
    warnings (t.holderNotices ++ notices) = warnings notices := by
  rw [warnings_append, warnings_holderNotices, List.nil_append]

/-! ## Operations -/

section

variable [Row R]

/-- One thing that is done to a table in its life: a step of its use, or a change of its setup. -/
inductive Operation (R : Type) where
  | use (step : Step R)
  | addColumns (columns : List Column)
  | setLazy (isLazy : Bool)
  | setPaginated (isPaginated : Bool)
  | setGlobalSuffix (globalSuffix : String)

namespace Operation

/-- The table after an operation. -/
def apply (t : Table R) : Operation R → Table R
  | .use step => step.apply t
  | .addColumns columns => { t with columns := t.columns ++ columns }
  | .setLazy isLazy => { t with isLazy }
  | .setPaginated isPaginated => { t with isPaginated }
  | .setGlobalSuffix globalSuffix => { t with globalSuffix }

/-- What is reported in the course of an operation. -/
def notices (t : Table R) : Operation R → List Notice
  | .use (.filter request reply) => (decode t request reply).notices
  | .use (.store value) => (t.store value).2
  | .use (.hold _) => t.holderNotices
  | _ => []

/-- Whether an operation stores rows. A request does if there are rows that passed after it, since
it begins by clearing them; the host does with any rows, be they none. -/
def storesRows (t : Table R) : Operation R → Bool
  | .use (.filter request reply) => (decode t request reply).table.filteredValue.isSome
  | .use (.store value) => value.isSome
  | _ => false

/-- Whether an operation stores rows for which there is no holder. -/
def lacksHolder (t : Table R) (op : Operation R) : Bool := t.holder.isNone && op.storesRows t

/-- An operation marks a table as warned when it lacks a holder, and never takes the mark away. -/
theorem warned_apply (t : Table R) (op : Operation R) :
    (op.apply t).warned = (t.warned || op.lacksHolder t) := by
  cases op with
  | use step =>
    cases step with
    | filter request reply =>
      show (decode t request reply).table.warned = _
      simp only [lacksHolder, storesRows, filteredValue_decode]
      cases ha : t.activeFilters with
      | error e => simp [decode_of_error ha, Table.cleared_eq, Except.toOption]
      | ok active =>
        cases hl : t.isLazy with
        | true => simp [decode_of_lazy ha hl, Table.noted, Table.cleared_eq, Except.toOption]
        | false => simp [table_decode_of_eager ha hl, Except.toOption]
    | store value =>
      show (t.store value).1.warned = _
      rw [Table.store_fst]
      rfl
    | setFirst | setRowIndex | setFilters | setRows | attach | hold | poison =>
      simp [apply, Step.apply, Table.attach, lacksHolder, storesRows]
  | addColumns | setLazy | setPaginated | setGlobalSuffix => simp [apply, lacksHolder, storesRows]

/-- An operation warns when it lacks a holder and the table has not warned before. -/
theorem warnings_notices (t : Table R) (op : Operation R) :
    warnings (op.notices t) =
      if op.lacksHolder t = true ∧ t.warned = false then [(Notice.unbound t.clientId).event]
      else [] := by
  cases op with
  | use step =>
    cases step with
    | filter request reply =>
      show warnings (decode t request reply).notices = _
      simp only [lacksHolder, storesRows, filteredValue_decode]
      cases ha : t.activeFilters with
      | error e => simp [decode_of_error ha, Except.toOption]
      | ok active =>
        cases hl : t.isLazy with
        | true => simp [decode_of_lazy ha hl, warnings_holderNotices_append, Except.toOption]
        | false =>
          rw [notices_decode_of_eager ha hl, List.append_assoc, warnings_holderNotices_append,
            warnings_rowMatched_append, warnings_filtered_cons, warnings_holderNotices_append,
            apply_ite warnings, warnings_unbound, warnings_nil]
          simp [Except.toOption]
    | store value =>
      show warnings (t.store value).2 = _
      rw [Table.store_snd, warnings_holderNotices_append, apply_ite warnings, warnings_unbound,
        warnings_nil]
      simp [lacksHolder, storesRows, and_assoc]
    | setFirst | setRowIndex | setFilters | setRows | attach | hold | poison =>
      simp [notices, lacksHolder, storesRows]
  | addColumns | setLazy | setPaginated | setGlobalSuffix =>
    simp [notices, lacksHolder, storesRows]

theorem clientId_apply (t : Table R) (op : Operation R) : (op.apply t).clientId = t.clientId := by
  cases op with
  | use step =>
    have hfresh := congrArg Table.clientId (step.fresh_apply t)
    exact hfresh
  | addColumns | setLazy | setPaginated | setGlobalSuffix => rfl

end Operation

/-! ## Runs -/

namespace Table

/-- The table after a run of operations. -/
def run (t : Table R) (ops : List (Operation R)) : Table R := ops.foldl Operation.apply t

/-- What is reported in the course of a run. -/
def noticesOf (t : Table R) : List (Operation R) → List Notice
  | [] => []
  | op :: ops => op.notices t ++ (op.apply t).noticesOf ops

/-- At some point of a run, rows are stored for which there is no holder. -/
def LacksHolder (t : Table R) (ops : List (Operation R)) : Prop :=
  ∃ front op back, ops = front ++ op :: back ∧ op.lacksHolder (t.run front) = true

theorem not_lacksHolder_nil (t : Table R) : ¬ t.LacksHolder [] := by
  simp [LacksHolder]

theorem lacksHolder_cons_iff {t : Table R} {op : Operation R} {ops : List (Operation R)} :
    t.LacksHolder (op :: ops) ↔ op.lacksHolder t = true ∨ (op.apply t).LacksHolder ops := by
  constructor
  · rintro ⟨front, op', back, heq, hlacks⟩
    cases front with
    | nil =>
      obtain ⟨rfl, rfl⟩ := List.cons.inj heq
      exact .inl hlacks
    | cons first front =>
      obtain ⟨rfl, rfl⟩ := List.cons.inj heq
      exact .inr ⟨front, op', back, rfl, hlacks⟩
  · rintro (hlacks | ⟨front, op', back, rfl, hlacks⟩)
    · exact ⟨[], op, ops, rfl, hlacks⟩
    · exact ⟨op :: front, op', back, rfl, hlacks⟩

instance decidableLacksHolder (t : Table R) :
    (ops : List (Operation R)) → Decidable (t.LacksHolder ops)
  | [] => isFalse t.not_lacksHolder_nil
  | op :: ops =>
    have := decidableLacksHolder (op.apply t) ops
    decidable_of_iff _ lacksHolder_cons_iff.symm

theorem clientId_run (t : Table R) (ops : List (Operation R)) :
    (t.run ops).clientId = t.clientId := by
  induction ops generalizing t with
  | nil => rfl
  | cons op ops ih => exact (ih (op.apply t)).trans (op.clientId_apply t)

/-- After a run a table is marked as warned if it was before or if a holder was lacking. -/
theorem warned_run (t : Table R) (ops : List (Operation R)) :
    (t.run ops).warned = (t.warned || decide (t.LacksHolder ops)) := by
  induction ops generalizing t with
  | nil => simp [run, not_lacksHolder_nil]
  | cons op ops ih =>
    show ((op.apply t).run ops).warned = _
    simp only [ih, op.warned_apply, lacksHolder_cons_iff, Bool.or_assoc, Bool.decide_or,
      Bool.decide_eq_true]

/-- The warnings of a run: one, if a holder is lacking at some point and the table has not warned
before. -/
theorem warnings_noticesOf (t : Table R) (ops : List (Operation R)) :
    warnings (t.noticesOf ops) =
      if t.LacksHolder ops ∧ t.warned = false then [(Notice.unbound t.clientId).event] else [] := by
  induction ops generalizing t with
  | nil => simp [noticesOf, not_lacksHolder_nil]
  | cons op ops ih =>
    -- The operation in front warns, and then nothing later does, or it leaves the mark alone.
    simp only [noticesOf, warnings_append, op.warnings_notices, ih, op.warned_apply,
      op.clientId_apply, lacksHolder_cons_iff]
    cases op.lacksHolder t <;> cases t.warned <;> simp

end Table

/-- A table that has not warned yet warns in the course of a run exactly once if at some point rows
are stored for which there is no holder, and else never. The warning is given when this happens for
the first time: nothing before warns, and nothing after it does. -/
theorem warns_once {t : Table R} (h : t.warned = false) (ops : List (Operation R)) :
    (warnings (t.noticesOf ops)).length = (if t.LacksHolder ops then 1 else 0) ∧
      ∀ front op back, ops = front ++ op :: back → ¬ t.LacksHolder front →
        op.lacksHolder (t.run front) = true →
          warnings (t.noticesOf front) = [] ∧
          warnings (op.notices (t.run front)) = [(Notice.unbound t.clientId).event] ∧
          warnings ((op.apply (t.run front)).noticesOf back) = [] := by
  constructor
  · rw [Table.warnings_noticesOf]
    by_cases hlacks : t.LacksHolder ops <;> simp [h, hlacks]
  · intro front op back heq hfront hop
    have hwarned : (t.run front).warned = false := by
      simp [Table.warned_run, h, hfront]
    refine ⟨?_, ?_, ?_⟩
    · rw [Table.warnings_noticesOf, if_neg fun hw => hfront hw.1]
    · rw [op.warnings_notices, if_pos ⟨hop, hwarned⟩, Table.clientId_run]
    · rw [Table.warnings_noticesOf, op.warned_apply, hop, Bool.or_true, if_neg (by simp)]

/-- Neither clearing the rows nor a request for a lazy table warns; the first request that goes
through the rows does, and what comes after it, with a holder or without, does not. -/
theorem warns_once_golfAndPolo :
    let request := Request.ofList [("t:m_filter", "p")]
    let front : List (Operation Json) :=
      [.use (.store none), .setLazy true, .use (.filter request none), .setLazy false]
    let op : Operation Json := .use (.filter request none)
    let back : List (Operation Json) :=
      [.use (.store (some [])), .use (.attach { value := none }), .use (.filter request none)]
    golfAndPolo.warned = false ∧ ¬ golfAndPolo.LacksHolder front ∧
      op.lacksHolder (golfAndPolo.run front) = true ∧
      (warnings (golfAndPolo.noticesOf (front ++ op :: back))).length = 1 ∧
      warnings (op.notices (golfAndPolo.run front)) = [(Notice.unbound "t").event] := by
  intro request front op back
  have hwarned : golfAndPolo.warned = false := rfl
  have hfront : ¬ golfAndPolo.LacksHolder front := by decide +kernel
  have hop : op.lacksHolder (golfAndPolo.run front) = true := rfl
  obtain ⟨hcount, hfirst⟩ := warns_once hwarned (front ++ op :: back)
  obtain ⟨-, hwarning, -⟩ := hfirst front op back rfl hfront hop
  exact ⟨hwarned, hfront, hop, hcount.trans (if_pos ⟨front, op, back, rfl, hop⟩), hwarning⟩

end

end ViewQuery.Filter
