import HotelBooking.Error

/-!
# Actions on a store

An action may change a state of type `σ` and comes to a value or an error. A failing
action keeps the changes made before the failure: nothing here undoes them by itself.
-/

namespace HotelBooking

abbrev Action (σ α : Type) := ExceptT ServiceError (StateM σ) α

namespace Action

variable {σ τ α β : Type}

/-- Carry out an action: what it comes to, and the state it leaves. -/
def perform (a : Action σ α) (s : σ) : Outcome α × σ :=
  a.run s

/-- Look at the state. -/
def look (f : σ → α) : Action σ α := do
  return f (← get)

/-- An action on a part of the state. -/
def within (part : σ → τ) (put : τ → σ → σ) (a : Action τ α) : Action σ α :=
  ExceptT.mk fun s =>
    let (r, t) := a.perform (part s)
    (r, put t s)

/-- The value found, or the error that says what is missing. -/
def found (what : String) (a : Action σ (Option α)) : Action σ α := do
  match ← a with
  | some x => return x
  | none => throw (.notFound what)

/-! What the parts of an action do to a state, one equation for each. -/

@[simp] theorem perform_pure (a : α) (s : σ) : (pure a : Action σ α).perform s = (.ok a, s) :=
  rfl

@[simp] theorem perform_throw (e : ServiceError) (s : σ) :
    (throw e : Action σ α).perform s = (.error e, s) :=
  rfl

@[simp] theorem perform_get (s : σ) : (get : Action σ σ).perform s = (.ok s, s) :=
  rfl

@[simp] theorem perform_modifyGet (f : σ → α × σ) (s : σ) :
    (modifyGet f : Action σ α).perform s = (.ok (f s).1, (f s).2) :=
  rfl

theorem perform_bind (a : Action σ α) (f : α → Action σ β) (s : σ) :
    (a >>= f).perform s =
      match a.perform s with
      | (.ok x, s) => (f x).perform s
      | (.error e, s) => (.error e, s) := by
  change (ExceptT.bindCont f (a.perform s).1 : StateM σ _) (a.perform s).2 = _
  rcases a.perform s with ⟨_ | _, _⟩ <;> rfl

@[simp] theorem perform_look (f : σ → α) (s : σ) : (look f).perform s = (.ok (f s), s) :=
  rfl

@[simp] theorem perform_within (part : σ → τ) (put : τ → σ → σ) (a : Action τ α) (s : σ) :
    (a.within part put).perform s = ((a.perform (part s)).1, put (a.perform (part s)).2 s) :=
  rfl

theorem perform_found (what : String) (a : Action σ (Option α)) (s : σ) :
    (a.found what).perform s =
      match a.perform s with
      | (.ok (some x), s) => (.ok x, s)
      | (.ok none, s) => (.error (.notFound what), s)
      | (.error e, s) => (.error e, s) := by
  rw [found, perform_bind]
  rcases a.perform s with ⟨_ | _ | _, _⟩ <;> rfl

end Action

end HotelBooking
