import HotelBooking.Gateway.Program

/-!
# Looking up many things

A bounded fan-out over calls. Items begin while there is room among those in flight, and
results are taken in the order of the items. A call of a program has its answer before
the next call is made, so of the items in flight it is always the foremost that answers,
and the calls come in the order of the items whatever the bound.
-/

namespace HotelBooking

namespace Operation

variable {α β : Type}

/-- Make one call whose failure ends the operation. -/
def ask (c : Call) : Operation c.Answer :=
  ExceptT.mk (Program.ask c)

/-- The outcome of one call, whether it failed or not. -/
def attempt (c : Call) : Operation (Outcome c.Answer) :=
  ExceptT.lift (Program.ask c)

/-- Fail with an error, or go on with the value. -/
def ofOutcome (o : Outcome α) : Operation α :=
  ExceptT.mk (pure o)

theorem take_append_drop_length (n : Nat) (bs : List β) :
    bs.take n ++ bs.drop (bs.take n).length = bs := by
  rcases Nat.le_total n bs.length with h | h
  · rw [List.length_take_of_le h, List.take_append_drop]
  · rw [List.take_of_length_le h, List.drop_length, List.append_nil]

/-- The items that may be in flight together with those still waiting behind them. -/
def lookupFrom (room : Nat) (work : β → Operation α) :
    (inFlight waiting : List β) → Operation (List α)
  | [], [] => pure []
  | [], b :: waiting => do
    let a ← work b
    return a :: (← lookupFrom room work [] waiting)
  | b :: inFlight, waiting => do
    let a ← work b
    let begun := waiting.take (room - inFlight.length)
    return a :: (← lookupFrom room work (inFlight ++ begun) (waiting.drop begun.length))
termination_by inFlight waiting => inFlight.length + waiting.length
decreasing_by
  · simp only [List.length_nil, List.length_cons]
    omega
  · have := congrArg List.length (take_append_drop_length (room - inFlight.length) waiting)
    simp only [List.length_append, List.length_cons] at this ⊢
    omega

/-- Work on all items, at most `concurrency` of them in flight. -/
def lookupAll (concurrency : Nat) (items : List β) (work : β → Operation α) :
    Operation (List α) :=
  let room := max 1 concurrency
  lookupFrom room work (items.take room) (items.drop room)

/-- Work on the items one after another. -/
def lookupEach (work : β → Operation α) : List β → Operation (List α)
  | [] => pure []
  | b :: bs => do
    let a ← work b
    return a :: (← lookupEach work bs)

theorem lookupFrom_eq_lookupEach (room : Nat) (work : β → Operation α)
    (inFlight waiting : List β) :
    lookupFrom room work inFlight waiting = lookupEach work (inFlight ++ waiting) := by
  fun_induction lookupFrom room work inFlight waiting with
  | case1 => rfl
  | case2 b waiting ih => simp only [ih, List.nil_append, lookupEach]
  | case3 b inFlight waiting ih =>
    simp only [List.append_assoc, take_append_drop_length] at ih
    simp only [ih, List.cons_append, lookupEach]

/-- The bound on items in flight changes neither the calls nor what they come to. -/
theorem lookupAll_eq_lookupEach (concurrency : Nat) (items : List β)
    (work : β → Operation α) : lookupAll concurrency items work = lookupEach work items := by
  simp [lookupAll, lookupFrom_eq_lookupEach]

end Operation

end HotelBooking
