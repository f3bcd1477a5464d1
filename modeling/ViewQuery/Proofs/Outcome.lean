import Mathlib.Data.List.Basic
import Mathlib.Data.List.Forall2

/-!
# Computations that can fail

When a computation made of several ones gives a result: what each of them gives then.

* `bind_eq_ok_iff`: one computation after another;
* `map_eq_ok_iff`, `map_eq_error_iff`: a computation with its result turned into another one;
* `mapError_eq_ok_iff`: a computation with its failure told in another way;
* `mapM_eq_ok_iff`, `mapM_eq_error_iff`, `exists_mapM_eq_ok_iff`: one computation for each item of a
  list;
* `map_eq_map_ok_iff_forall₂`: the same, item by item.
-/

namespace ViewQuery

variable {ε α β : Type}

theorem ok_bind (a : α) (f : α → Except ε β) : (Except.ok a).bind f = f a :=
  rfl

theorem bind_ok_eq_map (f : α → β) (x : Except ε α) : (x.bind fun a => .ok (f a)) = x.map f := by
  cases x <;> rfl

theorem bind_eq_ok_iff {x : Except ε α} {f : α → Except ε β} {b : β} :
    x.bind f = .ok b ↔ ∃ a, x = .ok a ∧ f a = .ok b := by
  cases x <;> simp [Except.bind]

theorem bind_unit_eq_ok_iff {x : Except ε Unit} {f : Unit → Except ε β} {b : β} :
    x.bind f = .ok b ↔ x = .ok () ∧ f () = .ok b := by
  cases x <;> simp [Except.bind]

/-- A computation fails exactly if it gives no result. -/
theorem not_exists_eq_ok_iff {x : Except ε α} : (¬ ∃ a, x = .ok a) ↔ ∃ e, x = .error e := by
  cases x <;> simp

theorem map_eq_ok_iff {x : Except ε α} {f : α → β} {b : β} :
    x.map f = .ok b ↔ ∃ a, x = .ok a ∧ f a = b := by
  cases x <;> simp [Except.map]

theorem map_eq_error_iff {x : Except ε α} {f : α → β} {e : ε} :
    x.map f = .error e ↔ x = .error e := by
  cases x <;> simp [Except.map]

theorem mapError_eq_ok_iff {ε' : Type} {x : Except ε α} {g : ε → ε'} {a : α} :
    x.mapError g = .ok a ↔ x = .ok a := by
  cases x <;> simp [Except.mapError]

/-- Every item gives a result, and the results are in the order of the items. -/
theorem mapM_eq_ok_iff {f : α → Except ε β} {xs : List α} {ys : List β} :
    xs.mapM f = .ok ys ↔ xs.map f = ys.map Except.ok := by
  induction xs generalizing ys with
  | nil => cases ys <;> simp [pure, Except.pure]
  | cons x xs ih =>
    have hcons : (x :: xs).mapM f = .ok ys ↔
        ∃ y ys', f x = .ok y ∧ xs.mapM f = .ok ys' ∧ ys = y :: ys' := by
      rw [List.mapM_cons]
      cases f x <;> cases xs.mapM f <;> simp [bind, Except.bind, pure, Except.pure, eq_comm]
    rw [hcons]
    cases ys with
    | nil => simp
    | cons y ys => simp [ih]

theorem mapM_cons_eq_error_iff_of_ok {f : α → Except ε β} {x : α} {y : β} (hx : f x = .ok y)
    (xs : List α) (e : ε) : (x :: xs).mapM f = .error e ↔ xs.mapM f = .error e := by
  rw [List.mapM_cons, hx]
  cases xs.mapM f <;> simp [bind, Except.bind, pure, Except.pure]

/-- The first item that fails decides how all of them together fail. -/
theorem mapM_eq_error_iff {f : α → Except ε β} {xs : List α} {e : ε} :
    xs.mapM f = .error e ↔ ∃ front x back, xs = front ++ x :: back ∧
      (∀ y ∈ front, ∃ b, f y = .ok b) ∧ f x = .error e := by
  constructor
  · intro h
    induction xs with
    | nil => cases h
    | cons x xs ih =>
      cases hx : f x with
      | error e' =>
        rw [List.mapM_cons, hx] at h
        cases h
        exact ⟨[], x, xs, rfl, by simp, hx⟩
      | ok b =>
        obtain ⟨front, y, back, rfl, hfront, hy⟩ := ih ((mapM_cons_eq_error_iff_of_ok hx xs e).1 h)
        exact ⟨x :: front, y, back, rfl, List.forall_mem_cons.2 ⟨⟨b, hx⟩, hfront⟩, hy⟩
  · rintro ⟨front, x, back, rfl, hfront, hx⟩
    induction front with
    | nil =>
      rw [List.nil_append, List.mapM_cons, hx]
      rfl
    | cons y front ih =>
      obtain ⟨⟨b, hy⟩, hfront⟩ := List.forall_mem_cons.1 hfront
      exact (mapM_cons_eq_error_iff_of_ok hy _ e).2 (ih hfront)

/-- There are results exactly if every item gives one. -/
theorem exists_mapM_eq_ok_iff {f : α → Except ε β} {xs : List α} :
    (∃ ys, xs.mapM f = .ok ys) ↔ ∀ x ∈ xs, ∃ y, f x = .ok y := by
  constructor
  · rintro ⟨ys, hys⟩ x hx
    have hmem : f x ∈ ys.map Except.ok := mapM_eq_ok_iff.1 hys ▸ List.mem_map_of_mem hx
    obtain ⟨y, -, hy⟩ := List.mem_map.1 hmem
    exact ⟨y, hy.symm⟩
  · intro hall
    cases h : xs.mapM f with
    | ok ys => exact ⟨ys, rfl⟩
    | error e =>
      obtain ⟨front, x, back, rfl, -, hx⟩ := mapM_eq_error_iff.1 h
      obtain ⟨y, hy⟩ := hall x (List.mem_append_cons_self)
      rw [hx] at hy
      cases hy

theorem map_eq_map_ok_iff_forall₂ {f : α → Except ε β} {xs : List α} {ys : List β} :
    xs.map f = ys.map Except.ok ↔ List.Forall₂ (fun x y => f x = .ok y) xs ys := by
  rw [← List.forall₂_eq_eq_eq, List.forall₂_map_left_iff, List.forall₂_map_right_iff]

end ViewQuery
