import ViewQuery.Expression.Error

/-!
# Trails

A computation that resolves expressions leaves a trail: one hop for every segment of a chain that
has led from one component to another. The hops made before a failure remain.
-/

namespace ViewQuery.Expression

open ViewQuery.Component (Handle)

/-- A segment of a chain with the components that it led from and to. -/
structure Hop where
  segment : String
  origin : Handle
  target : Handle
  deriving DecidableEq, Repr

/-- The hops that were made, and how it ended. -/
structure Trail (α : Type) where
  hops : List Hop
  outcome : Except Failure α

namespace Trail

variable {α β γ : Type}

/-- An outcome without hops. -/
def lift (outcome : Except Failure α) : Trail α := { hops := [], outcome }

/-- One hop. -/
def hop (h : Hop) : Trail Unit := { hops := [h], outcome := .ok () }

/-- Go on with a result; a failure ends the trail. -/
def andThen (t : Trail α) (f : α → Trail β) : Trail β :=
  match t.outcome with
  | .ok a => { hops := t.hops ++ (f a).hops, outcome := (f a).outcome }
  | .error e => { hops := t.hops, outcome := .error e }

instance : Monad Trail where
  pure a := lift (.ok a)
  bind := andThen

theorem lift_ok_bind (a : α) (f : α → Trail β) : lift (.ok a) >>= f = f a := rfl

theorem andThen_assoc (t : Trail α) (f : α → Trail β) (g : β → Trail γ) :
    (t.andThen f).andThen g = t.andThen fun a => (f a).andThen g := by
  obtain ⟨hops, _ | a⟩ := t
  · rfl
  · cases h : (f a).outcome <;> simp [andThen, h]

theorem map_id (t : Trail α) : id <$> t = t := by
  obtain ⟨hops, _ | _⟩ := t <;> simp [Functor.map, andThen, lift]

instance : LawfulMonad Trail := .mk' Trail map_id lift_ok_bind andThen_assoc

@[simp] theorem hops_pure (a : α) : (pure a : Trail α).hops = [] := rfl

@[simp] theorem outcome_pure (a : α) : (pure a : Trail α).outcome = .ok a := rfl

theorem outcome_bind (t : Trail α) (f : α → Trail β) :
    (t >>= f).outcome = t.outcome.bind fun a => (f a).outcome := by
  obtain ⟨hops, _ | _⟩ := t <;> rfl

theorem bind_of_ok {t : Trail α} {a : α} (h : t.outcome = .ok a) (f : α → Trail β) :
    t >>= f = { hops := t.hops ++ (f a).hops, outcome := (f a).outcome } := by
  obtain ⟨hops, outcome⟩ := t
  subst h
  rfl

theorem bind_of_error {t : Trail α} {e : Failure} (h : t.outcome = .error e) (f : α → Trail β) :
    t >>= f = { hops := t.hops, outcome := .error e } := by
  obtain ⟨hops, outcome⟩ := t
  subst h
  rfl

end Trail

end ViewQuery.Expression
