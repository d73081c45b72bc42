import HotelBooking.Error

/-!
# Bounded fan-out

Work on the items of a list, a bounded number of them in flight at a time. Items begin in
the order of the list and give up their results in that order: the results of later
items wait for those of earlier ones, and the first failure in the order of the list ends
the whole.

The machine below makes that precise. In flight are the items begun whose results have
not been yielded. An item in flight is polled, any number of times and in any order among
the others, until it has its result; when the foremost item has one it is yielded, and
waiting items begin until the bound is reached again. A schedule is a list of such events.
`collect` follows one schedule to its end, polling all items in flight in turn; where the
bound leaves room for one item only, it is a loop over the items instead.
-/

namespace HotelBooking

/-- Work on one item: how often it suspends, and what it comes to. -/
structure Work (ε α : Type) where
  suspensions : Nat
  result : Except ε α
  deriving Inhabited

namespace FanOut

variable {ε α : Type}

/-- An item in flight, with the polls it still needs. -/
structure InFlight (ε α : Type) where
  polls : Nat
  result : Except ε α

def begin (w : Work ε α) : InFlight ε α :=
  { polls := w.suspensions + 1, result := w.result }

def InFlight.poll (f : InFlight ε α) : InFlight ε α :=
  { f with polls := f.polls - 1 }

def InFlight.isReady (f : InFlight ε α) : Bool :=
  f.polls = 0

structure State (ε α : Type) where
  /-- The bound on items in flight, at least one. -/
  limit : Nat
  waiting : List (Work ε α)
  inFlight : List (InFlight ε α)
  /-- The results yielded, in order. -/
  yielded : List α
  /-- The failure that ended the work. -/
  failure : Option ε

namespace State

/-- Begin waiting items up to the bound. -/
def refill (s : State ε α) : State ε α :=
  let room := s.limit - s.inFlight.length
  { s with
    waiting := s.waiting.drop room
    inFlight := s.inFlight ++ (s.waiting.take room).map FanOut.begin }

/-- The state in which the first items have begun. -/
def start (concurrency : Nat) (work : List (Work ε α)) : State ε α :=
  refill { limit := max 1 concurrency, waiting := work, inFlight := [], yielded := [],
           failure := none }

/-- The number of items begun so far. -/
def begun (s : State ε α) : Nat :=
  s.yielded.length + s.inFlight.length + (if s.failure.isSome then 1 else 0)

def isOver (s : State ε α) : Bool :=
  s.failure.isSome || (s.waiting.isEmpty && s.inFlight.isEmpty)

end State

/-- Something that happens while the work is under way. -/
inductive Event where
  /-- An item in flight, given by its position, is polled. -/
  | poll (position : Nat)
  /-- The result of the foremost item is taken. -/
  | yield
  deriving DecidableEq

namespace State

def yieldForemost (s : State ε α) : State ε α :=
  match s.inFlight with
  | [] => s
  | f :: rest =>
    if !f.isReady then s
    else
      match f.result with
      | .ok a => refill { s with inFlight := rest, yielded := s.yielded ++ [a] }
      | .error e => { s with inFlight := rest, failure := some e }

/-- The state after an event; nothing happens any more once the work is over. -/
def step (s : State ε α) (event : Event) : State ε α :=
  if s.isOver then s
  else
    match event with
    | .poll i => { s with inFlight := s.inFlight.modify i InFlight.poll }
    | .yield => s.yieldForemost

/-- The state after a schedule. -/
def run (s : State ε α) (schedule : List Event) : State ε α :=
  schedule.foldl step s

/-- What the work came to, once it is over. -/
def result (s : State ε α) : Except ε (List α) :=
  match s.failure with
  | some e => .error e
  | none => .ok s.yielded

/-- What is done next when all items in flight are polled in turn. -/
def turn (s : State ε α) : List Event :=
  match s.inFlight with
  | [] => []
  | f :: _ =>
    if f.isReady then [.yield] else (List.range s.inFlight.length).map Event.poll

/-- Follow turns to the end of the work; the fuel bounds their number. -/
def drive : Nat → State ε α → State ε α
  | 0, s => s
  | fuel + 1, s => if s.isOver then s else drive fuel (s.run s.turn)

end State

/-- The turns that the work takes at most: its polls and its yields. -/
def turns (work : List (Work ε α)) : Nat :=
  work.foldl (fun n w => n + (w.suspensions + 2)) 0

/-- The final state of the work. -/
def final (concurrency : Nat) (work : List (Work ε α)) : State ε α :=
  (State.start concurrency work).drive (turns work)

/-- Await one item after another, up to the first that fails: what the items came to, and how
many of them began. -/
def loop : List (Work ε α) → Except ε (List α) × Nat
  | [] => (.ok [], 0)
  | w :: rest =>
    match w.result with
    | .ok a => ((loop rest).1.map (a :: ·), (loop rest).2 + 1)
    | .error e => (.error e, 1)

/-- The results of all items in order, or the first failure in that order. -/
def collect (concurrency : Nat) (work : List (Work ε α)) : Except ε (List α) :=
  if concurrency ≤ 1 then (loop work).1 else (final concurrency work).result

end FanOut

end HotelBooking
