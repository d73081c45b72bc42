import HotelBooking.Proofs.Gateway.Execution

/-!
# What a program ensures

`Program.Ensures D Q p` is the condition on a start from which every run of `p` ends in
`Q`. A `Demand` says what a call, a draw and a line of the log may come to, so that one
set of rules for the operations of the gateway serves runs that nothing interrupts and
runs that others come between.

The demands in question stand in `Interference`, together with what connects them with
the steps of programs under way.
-/

namespace HotelBooking

variable {α β σ : Type}

/-- What is asked of what follows a call, a draw and a line of the log. -/
structure Demand (σ : Type) where
  call : (c : Call) → (Outcome c.Answer → σ → Prop) → σ → Prop
  draw : (Uid → σ → Prop) → σ → Prop
  write : LogLine → σ → σ
  call_mono : ∀ {c : Call} {K K' : Outcome c.Answer → σ → Prop} {s : σ},
    (∀ o s, K o s → K' o s) → call c K s → call c K' s
  draw_mono : ∀ {K K' : Uid → σ → Prop} {s : σ},
    (∀ u s, K u s → K' u s) → draw K s → draw K' s

/-- What a handler that carries a program out makes of it. -/
def Handler.demand (h : Handler σ) : Demand σ where
  call c K s := K (h.answer c s).1 (h.answer c s).2
  draw K s := K (h.draw s).1 (h.draw s).2
  write _ s := s
  call_mono weaker := weaker _ _
  draw_mono weaker := weaker _ _

namespace Program

/-- Every run that meets the demand ends in `Q`. -/
def Ensures (D : Demand σ) (Q : α → σ → Prop) : Program α → σ → Prop
  | done a, s => Q a s
  | call c next, s => D.call c (fun o s => (next o).Ensures D Q s) s
  | fresh next, s => D.draw (fun u s => (next u).Ensures D Q s) s
  | log line next, s => next.Ensures D Q (D.write line s)

variable {D : Demand σ}

theorem Ensures.mono {Q Q' : α → σ → Prop} {p : Program α} {s : σ} (h : p.Ensures D Q s)
    (weaker : ∀ a s, Q a s → Q' a s) : p.Ensures D Q' s := by
  induction p generalizing s with
  | done a => exact weaker a s h
  | call c next ih => exact D.call_mono (fun o _ later => ih o later) h
  | fresh next ih => exact D.draw_mono (fun u _ later => ih u later) h
  | log line next ih => exact ih h

theorem ensures_bind (Q : β → σ → Prop) (p : Program α) (f : α → Program β) (s : σ) :
    (p >>= f).Ensures D Q s ↔ p.Ensures D (fun a s => (f a).Ensures D Q s) s := by
  induction p generalizing s with
  | done a => rfl
  | call c next ih => simp only [call_bind, Ensures, ih]
  | fresh next ih => simp only [fresh_bind, Ensures, ih]
  | log line next ih => simp only [log_bind, Ensures, ih]

theorem ensures_ask (c : Call) (Q : Outcome c.Answer → σ → Prop) (s : σ) :
    (ask c).Ensures D Q s ↔ D.call c Q s := Iff.rfl

/-- The one run that a handler makes of a program. -/
theorem ensures_run (h : Handler σ) (Q : α → σ → Prop) (p : Program α) (s : σ) :
    p.Ensures h.demand Q s ↔ Q (p.run h s).value (p.run h s).state := by
  induction p generalizing s with
  | done a => rfl
  | call c next ih => exact ih _ _
  | fresh next ih => exact ih _ _
  | log line next ih => exact ih _

/-- The demand on a call depends on nothing but what is asked of its outcomes. -/
theorem call_congr {c : Call} {K K' : Outcome c.Answer → σ → Prop}
    (same : ∀ o s, K o s ↔ K' o s) (s : σ) : D.call c K s ↔ D.call c K' s := by
  have : K = K' := funext fun o => funext fun s => propext (same o s)
  rw [this]

end Program

/-! ## The rules of operations -/

/-- Go on with a value, or end with an error. -/
def onOk (Q : Outcome β → σ → Prop) (next : α → σ → Prop) : Outcome α → σ → Prop
  | .ok a, s => next a s
  | .error e, s => Q (.error e) s

@[simp] theorem onOk_ok {Q : Outcome β → σ → Prop} {next : α → σ → Prop} {a : α} {s : σ} :
    onOk Q next (.ok a) s = next a s := rfl

@[simp] theorem onOk_error {Q : Outcome β → σ → Prop} {next : α → σ → Prop}
    {e : ServiceError} {s : σ} : onOk Q next (.error e) s = Q (.error e) s := rfl

theorem onOk_congr {Q : Outcome β → σ → Prop} {next next' : α → σ → Prop}
    (same : ∀ a s, next a s ↔ next' a s) (o : Outcome α) (s : σ) :
    onOk Q next o s ↔ onOk Q next' o s := by
  cases o with
  | ok a => exact same a s
  | error e => rfl

namespace Operation

variable {D : Demand σ} {Q : Outcome β → σ → Prop}

/-- An operation, as the program of its outcome, ensures `Q`. -/
def Ensures (D : Demand σ) (Q : Outcome β → σ → Prop) (op : Operation β) (s : σ) : Prop :=
  Program.Ensures D Q op.run s

theorem ensures_bind (op : Operation α) (f : α → Operation β) (s : σ) :
    Ensures D Q (op >>= f) s ↔ Ensures D (onOk Q fun a s => Ensures D Q (f a) s) op s := by
  unfold Ensures
  rw [ExceptT.run_bind, Program.ensures_bind]
  suffices same : ∀ o : Outcome α, ∀ s, _ = onOk Q (fun a s => Ensures D Q (f a) s) o s from
    iff_of_eq (congrArg (Program.Ensures D · op.run s) (funext fun o => funext (same o)))
  intro o s
  cases o with
  | ok a => rfl
  | error e => rfl

@[simp] theorem ensures_pure (b : β) (s : σ) : Ensures D Q (pure b) s ↔ Q (.ok b) s := Iff.rfl

@[simp] theorem ensures_throw (e : ServiceError) (s : σ) :
    Ensures D Q (throw e) s ↔ Q (.error e) s := Iff.rfl

@[simp] theorem ensures_ofOutcome (o : Outcome β) (s : σ) :
    Ensures D Q (ofOutcome o) s ↔ Q o s := Iff.rfl

@[simp] theorem ensures_draw {Q : Outcome Uid → σ → Prop} (s : σ) :
    Ensures D Q (ExceptT.lift Program.draw) s ↔ D.draw (fun u s => Q (.ok u) s) s := Iff.rfl

@[simp] theorem ensures_ask (c : Call) (Q : Outcome c.Answer → σ → Prop) (s : σ) :
    Ensures D Q (ask c) s ↔ D.call c Q s := Iff.rfl

@[simp] theorem ensures_attempt (c : Call) (Q : Outcome (Outcome c.Answer) → σ → Prop) (s : σ) :
    Ensures D Q (attempt c) s ↔ D.call c (fun o s => Q (.ok o) s) s := Iff.rfl

theorem ensures_run (op : Operation β) (s : σ) :
    Program.Ensures D Q op.run s ↔ Ensures D Q op s := Iff.rfl

-- Otherwise elaboration runs a whole operation to see what its condition comes to.
attribute [irreducible] Ensures

theorem Ensures.mono {Q' : Outcome β → σ → Prop} {op : Operation β} {s : σ}
    (h : Ensures D Q op s) (weaker : ∀ o s, Q o s → Q' o s) : Ensures D Q' op s :=
  (ensures_run op s).mp (((ensures_run op s).mpr h).mono weaker)

/-- The one run that a handler makes of an operation. -/
theorem ensures_handled (h : Handler σ) (op : Operation β) (s : σ) :
    Ensures h.demand Q op s ↔ Q (op.run.run h s).value (op.run.run h s).state :=
  (ensures_run op s).symm.trans (Program.ensures_run h Q op.run s)

end Operation

end HotelBooking
