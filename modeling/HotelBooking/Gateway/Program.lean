import HotelBooking.Error
import HotelBooking.Gateway.Call
import HotelBooking.Saga

/-!
# Programs of calls

An operation of the gateway is a program: it makes calls to the services one after
another and goes on according to their outcomes, draws fresh identifiers, and writes
lines to a log. A program holds no state and does not say who answers its calls. A
`Handler` does, and `run` carries a program out with one. What an operation does under
failing, lying or interleaved services is thus a question about its handlers.
-/

namespace HotelBooking

/-- A line of the log that a failing saga writes. -/
inductive LogLine where
  | stepFailed (saga : String) (error : ServiceError)
  | stepsLeft (saga : String) (steps : List String)
  | compensated (saga step : String) (undo : Compensation)
  | compensationFailed (saga step : String) (undo : Compensation) (error : ServiceError)
  deriving DecidableEq, Inhabited

namespace LogLine

/-- A list of names in brackets, each in quotation marks. -/
def nameList (names : List String) : String :=
  "[" ++ String.intercalate ", " (names.map fun n => "\"" ++ n ++ "\"") ++ "]"

/-- The level, the message and the further fields of a line. -/
def entries : LogLine → List (String × String)
  | stepFailed saga error =>
    [("level", "ERROR"), ("message", "Saga step failed"), ("saga", saga),
      ("error", error.message)]
  | stepsLeft saga steps =>
    [("level", "WARN"), ("message", "Saga aborted, completed steps left in place"),
      ("saga", saga), ("steps", nameList steps)]
  | compensated saga step undo =>
    [("level", "INFO"), ("message", "Compensated: " ++ undo.description), ("saga", saga),
      ("step", step)]
  | compensationFailed saga step undo error =>
    [("level", "ERROR"), ("message", "Compensation failed: " ++ undo.description),
      ("saga", saga), ("step", step), ("error", error.message)]

end LogLine

inductive Program (α : Type) where
  | done (a : α)
  | call (c : Call) (next : Outcome c.Answer → Program α)
  | fresh (next : Uid → Program α)
  | log (line : LogLine) (next : Program α)

namespace Program

variable {α β σ : Type}

protected def bind : Program α → (α → Program β) → Program β
  | done a, f => f a
  | call c next, f => call c fun o => (next o).bind f
  | fresh next, f => fresh fun u => (next u).bind f
  | log line next, f => log line (next.bind f)

instance : Monad Program where
  pure := done
  bind := Program.bind

@[simp] theorem pure_eq (a : α) : (pure a : Program α) = done a := rfl

@[simp] theorem done_bind (a : α) (f : α → Program β) : done a >>= f = f a := rfl

@[simp] theorem call_bind (c : Call) (next : Outcome c.Answer → Program α)
    (f : α → Program β) : call c next >>= f = call c fun o => next o >>= f := rfl

@[simp] theorem fresh_bind (next : Uid → Program α) (f : α → Program β) :
    fresh next >>= f = fresh fun u => next u >>= f := rfl

@[simp] theorem log_bind (line : LogLine) (next : Program α) (f : α → Program β) :
    log line next >>= f = log line (next >>= f) := rfl

/-- Make one call. -/
def ask (c : Call) : Program (Outcome c.Answer) :=
  call c done

/-- Draw an identifier. -/
def draw : Program Uid :=
  fresh done

/-- Write a line. -/
def write (line : LogLine) : Program Unit :=
  log line (done ())

end Program

/-- A program that may end in an error. -/
abbrev Operation := ExceptT ServiceError Program

/-- Whoever answers the calls of a program and supplies its identifiers. -/
structure Handler (σ : Type) where
  answer : (c : Call) → σ → Outcome c.Answer × σ
  draw : σ → Uid × σ

/-- What a program came to: its value, the lines it wrote, and the state it left. -/
structure Finished (σ α : Type) where
  value : α
  log : List LogLine
  state : σ

namespace Program

variable {α σ : Type}

/-- Carry a program out. -/
def run (h : Handler σ) : Program α → σ → Finished σ α
  | done a, s => ⟨a, [], s⟩
  | call c next, s =>
    let (o, s) := h.answer c s
    (next o).run h s
  | fresh next, s =>
    let (u, s) := h.draw s
    (next u).run h s
  | log line next, s =>
    let r := next.run h s
    { r with log := line :: r.log }

end Program

end HotelBooking
