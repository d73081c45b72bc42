import HotelBooking.FanOut
import Mathlib.Algebra.BigOperators.Group.List.Basic
import Mathlib.Algebra.GroupWithZero.Nat
import Mathlib.Data.List.Infix

/-!
# A bounded fan-out gives what the loop gives

Whatever the bound and however the items in flight are polled: the items begun are the first
ones of the list, at most as many of them as the bound allows have not been yielded, and what
the work comes to in the end is what a loop over the items comes to.

The invariant behind this is one equation. The values yielded, the failure, what the items in
flight will come to and what the waiting ones will come to are, in this order, what the items
of the list come to. Termination rests on a count of the polls and yields that are left, which
every event that has an effect makes smaller by one.
-/

namespace HotelBooking.FanOut

variable {ε α : Type} {work : List (Work ε α)} {concurrency : Nat}

/-! ## The loop -/

theorem loop_of_ok {values : List α} (ok : work.map Work.result = values.map .ok) :
    loop work = (.ok values, values.length) := by
  induction values generalizing work with
  | nil =>
      rw [List.map_eq_nil_iff.mp ok]
      rfl
  | cons a values ih =>
      obtain ⟨w, rest, rfl, first, others⟩ := List.map_eq_cons_iff.mp ok
      simp only [loop, first, ih others]
      rfl

/-- The loop ends with the first failure, and begins nothing behind it. -/
theorem loop_of_error {values : List α} {e : ε} {later : List (Except ε α)}
    (failing : work.map Work.result = values.map .ok ++ .error e :: later) :
    loop work = (.error e, values.length + 1) := by
  induction values generalizing work with
  | nil =>
      obtain ⟨w, rest, rfl, first, -⟩ := List.map_eq_cons_iff.mp failing
      simp only [loop, first]
      rfl
  | cons a values ih =>
      obtain ⟨w, rest, rfl, first, others⟩ := List.map_eq_cons_iff.mp failing
      simp only [loop, first, ih others]
      rfl

namespace State

variable {s : State ε α} {event : Event}

/-! ## What is kept at every moment -/

/-- What the items begun come to, in order: the values yielded, the failure that ended the work,
and the results that those in flight have or will have. -/
def outcomes (s : State ε α) : List (Except ε α) :=
  s.yielded.map .ok ++ s.failure.toList.map .error ++ s.inFlight.map InFlight.result

theorem length_outcomes (s : State ε α) : s.outcomes.length = s.begun := by
  cases failed : s.failure with
  | none => simp [outcomes, begun, failed]
  | some e =>
      simp only [outcomes, begun, failed, List.length_append, List.length_map, Option.toList_some,
        List.length_singleton, Option.isSome_some, if_true]
      omega

/-- The work is done in the order of the list and within the bound. -/
structure Orderly (concurrency : Nat) (work : List (Work ε α)) (s : State ε α) : Prop where
  limit : s.limit = max 1 concurrency
  results : work.map Work.result = s.outcomes ++ s.waiting.map Work.result
  behind : s.waiting <:+ work
  room : s.inFlight.length + s.failure.toList.length ≤ s.limit
  /-- As long as the work goes on, nothing waits unless something is in flight. -/
  refilled : s.failure = none → s.inFlight = [] → s.waiting = []

theorem outcomes_refill (s : State ε α) (on : s.failure = none) :
    s.refill.outcomes =
      s.outcomes ++ (s.waiting.take (s.limit - s.inFlight.length)).map Work.result := by
  simp [outcomes, refill, on, Function.comp_def, begin]

/-- Beginning items up to the bound restores what is kept. -/
theorem orderly_refill (limit : s.limit = max 1 concurrency)
    (results : work.map Work.result = s.outcomes ++ s.waiting.map Work.result)
    (behind : s.waiting <:+ work) (room : s.inFlight.length ≤ s.limit) (on : s.failure = none) :
    s.refill.Orderly concurrency work where
  limit := limit
  results := by
    rw [outcomes_refill s on, results, List.append_assoc, refill, ← List.map_append,
      List.take_append_drop]
  behind := (List.drop_suffix _ _).trans behind
  room := by
    simp only [refill, on, List.length_append, List.length_map, List.length_take,
      Option.toList_none, List.length_nil]
    omega
  refilled := by
    intro _ empty
    obtain ⟨none_left, none_begun⟩ := List.append_eq_nil_iff.mp empty
    have taken := List.map_eq_nil_iff.mp none_begun
    rw [none_left, limit, List.length_nil, List.take_eq_nil_iff] at taken
    rcases taken with absurd_bound | none_waiting
    · omega
    · simp [refill, none_waiting]

theorem orderly_start (concurrency : Nat) (work : List (Work ε α)) :
    (start concurrency work).Orderly concurrency work :=
  orderly_refill rfl rfl List.suffix_rfl (Nat.zero_le _) rfl

theorem isOver_eq_false (s : State ε α) :
    s.isOver = false ↔ s.failure = none ∧ (s.waiting ≠ [] ∨ s.inFlight ≠ []) := by
  rw [isOver, Bool.or_eq_false_iff, Bool.and_eq_false_iff, Option.isSome_eq_false_iff,
    Option.isNone_iff_eq_none, List.isEmpty_eq_false_iff, List.isEmpty_eq_false_iff]

theorem step_of_isOver (finished : s.isOver = true) : s.step event = s := by
  simp [step, finished]

theorem step_poll (on : s.isOver = false) (i : Nat) :
    s.step (.poll i) = { s with inFlight := s.inFlight.modify i InFlight.poll } := by
  simp [step, on]

theorem step_yield (on : s.isOver = false) : s.step .yield = s.yieldForemost := by
  simp [step, on]

theorem map_result_modify (i : Nat) (fs : List (InFlight ε α)) :
    (fs.modify i InFlight.poll).map InFlight.result = fs.map InFlight.result := by
  induction fs generalizing i with
  | nil => simp
  | cons f fs ih =>
      cases i with
      | zero => rfl
      | succ i => simp [List.modify_succ_cons, ih]

theorem Orderly.poll (h : s.Orderly concurrency work) (i : Nat) :
    Orderly concurrency work { s with inFlight := s.inFlight.modify i InFlight.poll } where
  limit := h.limit
  results := by
    simp only [outcomes, map_result_modify]
    exact h.results
  behind := h.behind
  room := by
    simp only [List.length_modify]
    exact h.room
  refilled on empty := by
    apply h.refilled on
    rw [← List.length_eq_zero_iff] at empty ⊢
    rwa [List.length_modify] at empty

section Yield

variable {f : InFlight ε α} {rest : List (InFlight ε α)} (flight : s.inFlight = f :: rest)
include flight

theorem yieldForemost_of_pending (pending : f.isReady = false) : s.yieldForemost = s := by
  simp [yieldForemost, flight, pending]

theorem yieldForemost_of_ok (ready : f.isReady = true) {a : α} (value : f.result = .ok a) :
    s.yieldForemost = refill { s with inFlight := rest, yielded := s.yielded ++ [a] } := by
  simp [yieldForemost, flight, ready, value]

theorem yieldForemost_of_error (ready : f.isReady = true) {e : ε} (value : f.result = .error e) :
    s.yieldForemost = { s with inFlight := rest, failure := some e } := by
  simp [yieldForemost, flight, ready, value]

end Yield

theorem Orderly.yieldForemost (h : s.Orderly concurrency work) (on : s.failure = none) :
    s.yieldForemost.Orderly concurrency work := by
  cases flight : s.inFlight with
  | nil => rwa [State.yieldForemost, flight]
  | cons f rest =>
      have results := h.results
      have room := h.room
      simp only [outcomes, on, flight, List.map_cons] at results
      rw [on, flight, List.length_cons] at room
      cases ready : f.isReady with
      | false => rwa [yieldForemost_of_pending flight ready]
      | true =>
          cases value : f.result with
          | ok a =>
              rw [yieldForemost_of_ok flight ready value]
              refine orderly_refill h.limit ?_ h.behind (by simp at room ⊢; omega) on
              simp [results, outcomes, on, value]
          | error e =>
              rw [yieldForemost_of_error flight ready value]
              constructor
              · exact h.limit
              · simp [results, outcomes, value]
              · exact h.behind
              · simpa using room
              · nofun

/-- What is kept by one event. -/
theorem Orderly.step (h : s.Orderly concurrency work) (event : Event) :
    (s.step event).Orderly concurrency work := by
  cases finished : s.isOver with
  | true => rwa [step_of_isOver finished]
  | false =>
      cases event with
      | poll i =>
          rw [step_poll finished]
          exact h.poll i
      | yield =>
          rw [step_yield finished]
          exact h.yieldForemost ((isOver_eq_false s).mp finished).1

/-- What is kept by a whole schedule. -/
theorem Orderly.run (h : s.Orderly concurrency work) (schedule : List Event) :
    (s.run schedule).Orderly concurrency work := by
  induction schedule generalizing s with
  | nil => exact h
  | cons event schedule ih => exact ih (h.step event)

/-! ## What it says -/

section Orderly

variable (h : s.Orderly concurrency work)
include h

/-- The items begun are the first ones of the list. -/
theorem Orderly.begun_append : ∃ front, front.length = s.begun ∧ work = front ++ s.waiting ∧
    front.map Work.result = s.outcomes := by
  obtain ⟨front, whole⟩ := h.behind
  have results := h.results
  rw [← whole, List.map_append, List.append_cancel_right_eq] at results
  refine ⟨front, ?_, whole.symm, results⟩
  rw [← length_outcomes, ← results, List.length_map]

theorem Orderly.begun_le : s.begun ≤ s.yielded.length + max 1 concurrency := by
  have room := h.room
  rw [h.limit] at room
  rw [← length_outcomes]
  simp only [outcomes, List.length_append, List.length_map]
  omega

/-- No value behind the first failure is yielded. -/
theorem Orderly.yielded_le {values : List α} {e : ε} {later : List (Except ε α)}
    (failing : work.map Work.result = values.map .ok ++ .error e :: later) :
    s.yielded.length ≤ values.length := by
  by_contra beyond
  have results := h.results
  rw [failing, outcomes, List.append_assoc, List.append_assoc] at results
  have there := congrArg (·[values.length]?) results
  simp [List.getElem?_append_left, List.length_map, not_le.mp beyond] at there

/-- Once it is over, the work has come to what the loop comes to. -/
theorem Orderly.result_eq (finished : s.isOver = true) :
    s.result = (loop work).1 ∧ s.yielded.length + s.failure.toList.length = (loop work).2 := by
  have results := h.results
  cases failed : s.failure with
  | some e =>
      simp only [outcomes, failed, Option.toList_some, List.map_cons, List.map_nil,
        List.append_assoc, List.cons_append, List.nil_append] at results
      rw [loop_of_error results]
      simp [State.result, failed]
  | none =>
      simp only [isOver, failed, Option.isSome_none, Bool.false_or, Bool.and_eq_true,
        List.isEmpty_iff] at finished
      simp only [outcomes, failed, finished, Option.toList_none, List.map_nil, List.append_nil]
        at results
      rw [loop_of_ok results]
      simp [State.result, failed]

/-- With room for one item, nothing is in flight any more once the work is over. -/
theorem Orderly.begun_of_single (single : concurrency ≤ 1) (finished : s.isOver = true) :
    s.begun = s.yielded.length + s.failure.toList.length := by
  have room := h.room
  rw [h.limit] at room
  have landed : s.inFlight = [] := by
    cases failed : s.failure with
    | some e =>
        rw [failed, Option.toList_some, List.length_singleton] at room
        exact List.length_eq_zero_iff.mp (by omega)
    | none =>
        simp only [isOver, failed, Option.isSome_none, Bool.false_or, Bool.and_eq_true,
          List.isEmpty_iff] at finished
        exact finished.2
  rw [← length_outcomes]
  simp [outcomes, landed]

end Orderly

/-! ## The work comes to an end -/

/-- An event that has an effect: an item in flight without a result is polled, or the result of
the foremost item is taken. -/
def Progresses (s : State ε α) : Event → Prop
  | .poll i => ∃ f, s.inFlight[i]? = some f ∧ f.isReady = false
  | .yield => ∃ f rest, s.inFlight = f :: rest ∧ f.isReady = true

/-- A schedule of events each of which has an effect. -/
def Diligent (s : State ε α) : List Event → Prop
  | [] => True
  | event :: schedule =>
    s.isOver = false ∧ s.Progresses event ∧ (s.step event).Diligent schedule

/-- The polls and yields that are left. -/
def remaining (s : State ε α) : Nat :=
  (s.waiting.map fun w => w.suspensions + 2).sum + (s.inFlight.map fun f => f.polls + 1).sum

theorem remaining_refill (s : State ε α) : s.refill.remaining = s.remaining := by
  have split := congrArg (fun ws => (ws.map fun w : Work ε α => w.suspensions + 2).sum)
    (List.take_append_drop (s.limit - s.inFlight.length) s.waiting)
  simp only [List.map_append, List.sum_append] at split
  simp only [remaining, refill, List.map_append, List.sum_append, List.map_map, Function.comp_def,
    begin, Nat.add_assoc, Nat.reduceAdd] at split ⊢
  omega

theorem remaining_start (concurrency : Nat) (work : List (Work ε α)) :
    (start concurrency work).remaining = turns work := by
  rw [start, remaining_refill, turns, ← List.foldl_map, ← List.sum_eq_foldl]
  simp [remaining]

theorem sum_polls_modify {fs : List (InFlight ε α)} {i : Nat} {f : InFlight ε α}
    (there : fs[i]? = some f) (unready : f.isReady = false) :
    ((fs.modify i InFlight.poll).map fun f => f.polls + 1).sum + 1 =
      (fs.map fun f => f.polls + 1).sum := by
  have pos : f.polls ≠ 0 := by simpa [InFlight.isReady] using unready
  induction fs generalizing i with
  | nil => simp at there
  | cons g fs ih =>
      cases i with
      | zero =>
          cases there
          simp only [List.modify_zero_cons, List.map_cons, List.sum_cons, InFlight.poll]
          omega
      | succ i =>
          have := ih there
          simp only [List.modify_succ_cons, List.map_cons, List.sum_cons]
          omega

/-- An event with an effect leaves one poll or yield less. -/
theorem remaining_step (on : s.isOver = false) (progresses : s.Progresses event) :
    (s.step event).remaining + 1 = s.remaining := by
  cases event with
  | poll i =>
      obtain ⟨f, there, unready⟩ := progresses
      have := sum_polls_modify there unready
      simp only [step_poll on, remaining]
      omega
  | yield =>
      obtain ⟨f, rest, flight, ready⟩ := progresses
      have done : f.polls = 0 := by simpa [InFlight.isReady] using ready
      rw [step_yield on]
      cases value : f.result with
      | ok a =>
          rw [yieldForemost_of_ok flight ready value, remaining_refill]
          simp only [remaining, flight, done, List.map_cons, List.sum_cons]
          omega
      | error e =>
          rw [yieldForemost_of_error flight ready value]
          simp only [remaining, flight, done, List.map_cons, List.sum_cons]
          omega

theorem Diligent.length_le {schedule : List Event} (diligent : s.Diligent schedule) :
    schedule.length ≤ s.remaining := by
  induction schedule generalizing s with
  | nil => exact Nat.zero_le _
  | cons event schedule ih =>
      obtain ⟨on, progresses, rest⟩ := diligent
      have := remaining_step on progresses
      have := ih rest
      rw [List.length_cons]
      omega

/-- Work that is not over can go on, and does so when all items in flight are polled in turn. -/
theorem Orderly.onward (h : s.Orderly concurrency work) (on : s.isOver = false) :
    ∃ event later, s.turn = event :: later ∧ s.Progresses event := by
  obtain ⟨going, left⟩ := (isOver_eq_false s).mp on
  cases flight : s.inFlight with
  | nil =>
      have := h.refilled going flight
      simp [flight, this] at left
  | cons f rest =>
      cases ready : f.isReady with
      | true => exact ⟨.yield, [], by simp [turn, flight, ready], f, rest, flight, ready⟩
      | false =>
          refine ⟨.poll 0, (List.range rest.length).map (Event.poll ∘ Nat.succ), ?_, f,
            by rw [flight]; rfl, ready⟩
          simp [turn, flight, ready, List.range_succ_eq_map]

/-- A poll of an item that has its result, or of none, changes nothing. -/
theorem modify_poll_of_forall {fs : List (InFlight ε α)} {i : Nat}
    (ready : ∀ f, fs[i]? = some f → f.isReady = true) : fs.modify i InFlight.poll = fs := by
  induction fs generalizing i with
  | nil => simp
  | cons f fs ih =>
      cases i with
      | zero =>
          obtain ⟨polls, result⟩ := f
          have done : polls = 0 := by simpa [InFlight.isReady] using ready _ rfl
          rw [done]
          rfl
      | succ i => rw [List.modify_succ_cons, ih ready]

theorem step_of_not_progresses (on : s.isOver = false) (idle : ¬ s.Progresses event) :
    s.step event = s := by
  cases event with
  | poll i =>
      rw [step_poll on, modify_poll_of_forall]
      intro f there
      by_contra unready
      exact idle ⟨f, there, Bool.eq_false_iff.mpr unready⟩
  | yield =>
      rw [step_yield on]
      cases flight : s.inFlight with
      | nil => rw [yieldForemost, flight]
      | cons f rest =>
          apply yieldForemost_of_pending flight
          exact Bool.eq_false_iff.mpr fun ready => idle ⟨f, rest, flight, ready⟩

/-- No event leaves more to do. -/
theorem remaining_step_le (s : State ε α) (event : Event) :
    (s.step event).remaining ≤ s.remaining := by
  cases finished : s.isOver with
  | true => rw [step_of_isOver finished]
  | false =>
      by_cases progresses : s.Progresses event
      · exact Nat.le_of_succ_le (remaining_step finished progresses).le
      · rw [step_of_not_progresses finished progresses]

theorem remaining_run_le (s : State ε α) (schedule : List Event) :
    (s.run schedule).remaining ≤ s.remaining := by
  induction schedule generalizing s with
  | nil => exact le_rfl
  | cons event schedule ih => exact (ih (s.step event)).trans (s.remaining_step_le event)

/-- Turns are one of the schedules, and with enough of them the work is over. -/
theorem Orderly.drive (h : s.Orderly concurrency work) {fuel : Nat} (enough : s.remaining ≤ fuel) :
    (s.drive fuel).Orderly concurrency work ∧ (s.drive fuel).isOver = true := by
  induction fuel generalizing s with
  | zero =>
      refine ⟨h, ?_⟩
      by_contra on
      rw [State.drive, Bool.not_eq_true] at on
      obtain ⟨event, -, -, progresses⟩ := h.onward on
      have := remaining_step on progresses
      omega
  | succ fuel ih =>
      cases finished : s.isOver with
      | true => simp [State.drive, finished, h]
      | false =>
          obtain ⟨event, later, turn, progresses⟩ := h.onward finished
          have first := remaining_step finished progresses
          have rest := (s.step event).remaining_run_le later
          simp only [State.drive, finished, Bool.false_eq_true, if_false]
          apply ih (h.run s.turn)
          rw [turn]
          change ((s.step event).run later).remaining ≤ fuel
          omega

end State

open State

theorem collect_eq_loop (concurrency : Nat) (work : List (Work ε α)) :
    collect concurrency work = (loop work).1 := by
  rw [collect]
  split_ifs
  · rfl
  · obtain ⟨orderly, finished⟩ :=
      (orderly_start concurrency work).drive (remaining_start concurrency work).le
    exact (orderly.result_eq finished).1

/-- Whatever the bound and however the items in flight are polled, the work comes to the values
of all items in order, or to the first failure in that order, as it does one item at a time. -/
theorem collects_in_order (concurrency : Nat) (work : List (Work ε α)) :
    collect concurrency work = collect 1 work ∧
    (∀ values : List α, work.map Work.result = values.map .ok → collect 1 work = .ok values) ∧
    (∀ (values : List α) e later, work.map Work.result = values.map .ok ++ .error e :: later →
      collect 1 work = .error e ∧ (loop work).2 = values.length + 1) ∧
    (∀ schedule, (start concurrency work).Diligent schedule → schedule.length ≤ turns work) ∧
    ∀ schedule s, (start concurrency work).run schedule = s →
      (∃ front, front.length = s.begun ∧ work = front ++ s.waiting ∧
        front.map Work.result = s.outcomes) ∧
      s.begun ≤ s.yielded.length + max 1 concurrency ∧
      (∀ (values : List α) e later, work.map Work.result = values.map .ok ++ .error e :: later →
        s.begun ≤ values.length + max 1 concurrency) ∧
      (s.isOver = false → ∃ event, s.Progresses event) ∧
      (s.isOver = true →
        s.result = collect 1 work ∧ (concurrency ≤ 1 → s.begun = (loop work).2)) := by
  refine ⟨?_, ?_, ?_, ?_, ?_⟩
  · rw [collect_eq_loop, collect_eq_loop]
  · intro values ok
    rw [collect_eq_loop, loop_of_ok ok]
  · intro values e later failing
    rw [collect_eq_loop, loop_of_error failing]
    exact ⟨rfl, rfl⟩
  · intro schedule diligent
    exact diligent.length_le.trans (remaining_start concurrency work).le
  · rintro schedule s rfl
    have orderly := (orderly_start concurrency work).run schedule
    refine ⟨orderly.begun_append, orderly.begun_le, ?_, ?_, ?_⟩
    · intro values e later failing
      have := orderly.yielded_le failing
      have := orderly.begun_le
      omega
    · intro on
      obtain ⟨event, -, -, progresses⟩ := orderly.onward on
      exact ⟨event, progresses⟩
    · intro finished
      obtain ⟨result, count⟩ := orderly.result_eq finished
      rw [collect_eq_loop]
      exact ⟨result, fun single => (orderly.begun_of_single single finished).trans count⟩

/-- The failure of the item that comes first counts, also when another one is met earlier. -/
example : collect 3 [⟨3, .ok 1⟩, ⟨2, .error "slow"⟩, ⟨0, .error "quick"⟩] = .error "slow" := rfl

end HotelBooking.FanOut
