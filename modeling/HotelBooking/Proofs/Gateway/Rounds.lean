import HotelBooking.Gateway.Lookup
import HotelBooking.Proofs.FanOut

/-!
# Rounds of lookups

An operation looks up many things in a round, and within the bound of the round the lookups may
be in flight together. The programs of the gateway make the calls of a round one after another.
`Handler.round` lays a round out as work for the machine of the fan-out: the lookups begin in
the order of the list, are answered in that order, and suspend as often as they like. However
the machine is driven, the round comes to what the program comes to.

The machine passes errors on and never looks at them: to rename the errors of the work is to
rename those of every state.
-/

namespace HotelBooking

variable {ε ε' α β σ : Type}

/-! ## Errors of a fan-out -/

/-- The same work with its errors renamed. -/
def Work.mapError (f : ε → ε') (w : Work ε α) : Work ε' α :=
  { suspensions := w.suspensions, result := w.result.mapError f }

namespace FanOut

variable (f : ε → ε')

def InFlight.mapError (i : InFlight ε α) : InFlight ε' α :=
  { polls := i.polls, result := i.result.mapError f }

namespace State

def mapError (s : State ε α) : State ε' α :=
  { limit := s.limit, waiting := s.waiting.map (Work.mapError f),
    inFlight := s.inFlight.map (InFlight.mapError f), yielded := s.yielded,
    failure := s.failure.map f }

variable (s : State ε α)

theorem modify_poll_mapError (is : List (InFlight ε α)) (i : Nat) :
    (is.map (InFlight.mapError f)).modify i InFlight.poll =
      (is.modify i InFlight.poll).map (InFlight.mapError f) := by
  apply List.ext_getElem?
  intro j
  rw [List.getElem?_modify, List.getElem?_map, List.getElem?_map, List.getElem?_modify]
  cases is[j]? with
  | none => rfl
  | some _ => by_cases here : i = j <;> simp [here, InFlight.mapError, InFlight.poll]

theorem isOver_mapError : (s.mapError f).isOver = s.isOver := by
  simp [isOver, mapError]

theorem begun_mapError : (s.mapError f).begun = s.begun := by
  simp [begun, mapError]

theorem result_mapError : (s.mapError f).result = s.result.mapError f := by
  cases failed : s.failure <;> simp [result, mapError, failed, Except.mapError]

theorem refill_mapError : (s.mapError f).refill = s.refill.mapError f := by
  simp [refill, mapError, List.map_drop, List.map_take, Function.comp_def, begin,
    InFlight.mapError, Work.mapError]

theorem yieldForemost_mapError : (s.mapError f).yieldForemost = s.yieldForemost.mapError f := by
  cases flight : s.inFlight with
  | nil => simp [yieldForemost, mapError, flight]
  | cons i rest =>
      have flight' : (s.mapError f).inFlight = i.mapError f :: rest.map (InFlight.mapError f) := by
        simp [mapError, flight]
      cases ready : i.isReady with
      | false =>
          rw [yieldForemost_of_pending flight ready, yieldForemost_of_pending flight' ready]
      | true =>
          cases value : i.result with
          | ok a =>
              have value' : (i.mapError f).result = .ok a := by
                simp [InFlight.mapError, value, Except.mapError]
              rw [yieldForemost_of_ok flight ready value,
                yieldForemost_of_ok flight' ready value', ← refill_mapError]
              rfl
          | error e =>
              have value' : (i.mapError f).result = .error (f e) := by
                simp [InFlight.mapError, value, Except.mapError]
              rw [yieldForemost_of_error flight ready value,
                yieldForemost_of_error flight' ready value']
              rfl

theorem step_mapError (event : Event) : (s.mapError f).step event = (s.step event).mapError f := by
  cases finished : s.isOver with
  | true => rw [step_of_isOver finished, step_of_isOver ((isOver_mapError f s).trans finished)]
  | false =>
      have on : (s.mapError f).isOver = false := (isOver_mapError f s).trans finished
      cases event with
      | poll i =>
          rw [step_poll on, step_poll finished]
          simp only [mapError, modify_poll_mapError]
      | yield =>
          rw [step_yield on, step_yield finished]
          exact yieldForemost_mapError f s

/-- Machines whose errors are renamed go through the same states but for the names. -/
theorem run_mapError (schedule : List Event) :
    (s.mapError f).run schedule = (s.run schedule).mapError f := by
  induction schedule generalizing s with
  | nil => rfl
  | cons event schedule ih =>
      have first := step_mapError f s event
      have later := ih (s.step event)
      rw [← first] at later
      exact later

theorem start_mapError (concurrency : Nat) (work : List (Work ε α)) :
    start concurrency (work.map (Work.mapError f)) = (start concurrency work).mapError f := by
  rw [start, start, ← refill_mapError]
  rfl

end State

end FanOut

/-! ## One program after another -/

section Run

variable (h : Handler σ) (s : σ)

theorem Program.value_bind (p : Program α) (f : α → Program β) :
    ((p >>= f).run h s).value = ((f (p.run h s).value).run h (p.run h s).state).value := by
  induction p generalizing s with
  | done a => rfl
  | call c next ih => exact ih _ _
  | fresh next ih => exact ih _ _
  | log line next ih => exact ih s

/-- An operation goes on with the value of the one before it, where that has one. -/
theorem Operation.value_bind (op : Operation α) (f : α → Operation β) :
    ((op >>= f).run.run h s).value =
      (op.run.run h s).value.bind fun a => ((f a).run.run h (op.run.run h s).state).value := by
  rw [ExceptT.run_bind, Program.value_bind]
  cases (op.run.run h s).value <;> rfl

end Run

/-! ## Rounds -/

/-- A round of lookups as work: each lookup begins where the one before it has left the
services, and suspends as often as the number beside it says. -/
def Handler.round (h : Handler σ) (lookup : β → Operation α) :
    List (β × Nat) → σ → List (Work ServiceError α)
  | [], _ => []
  | (b, suspensions) :: items, s =>
    { suspensions, result := ((lookup b).run.run h s).value } ::
      h.round lookup items ((lookup b).run.run h s).state

section Round

variable (h : Handler σ) (s : σ)

/-- Awaited one after another, a round comes to what the lookups of an operation come to. -/
theorem loop_round (lookup : β → Operation α) (concurrency : Nat) (items : List (β × Nat)) :
    (FanOut.loop (h.round lookup items s)).1 =
      ((Operation.lookupAll concurrency (items.map Prod.fst) lookup).run.run h s).value := by
  rw [Operation.lookupAll_eq_lookupEach]
  induction items generalizing s with
  | nil => rfl
  | cons item items ih =>
      rw [Handler.round, FanOut.loop, List.map_cons, Operation.lookupEach, Operation.value_bind]
      cases ((lookup item.1).run.run h s).value with
      | error e => rfl
      | ok a =>
          dsimp only
          rw [ih, Except.bind, Operation.value_bind]
          cases (Program.run h _ _).value <;> rfl

/-- However the lookups in flight are driven, a round that is over has come to what the lookups
of the operation come to one after another. -/
theorem result_round (lookup : β → Operation α) (concurrency : Nat) (items : List (β × Nat))
    (schedule : List FanOut.Event)
    (finished : ((FanOut.State.start concurrency (h.round lookup items s)).run schedule).isOver) :
    ((FanOut.State.start concurrency (h.round lookup items s)).run schedule).result =
      ((Operation.lookupAll concurrency (items.map Prod.fst) lookup).run.run h s).value := by
  have orderly := (FanOut.State.orderly_start concurrency (h.round lookup items s)).run schedule
  rw [(orderly.result_eq finished).1, loop_round]

end Round

end HotelBooking
