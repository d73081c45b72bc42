import HotelBooking.Payment
import HotelBooking.Reservation

/-!
# Sagas

A write over several services is a saga: each completed step is recorded together with
the action that takes it back. A failing saga either leaves its steps in place or is
unwound, the latest step first.
-/

namespace HotelBooking

/-- The action that takes a completed step back. -/
inductive Compensation where
  /-- Mark a new payment as canceled. -/
  | cancelPayment (p : Payment)
  /-- Mark a new reservation as canceled. -/
  | cancelReservation (r : Reservation)
  /-- Put a reservation back as it was. -/
  | restoreReservation (r : Reservation)
  /-- Put a payment back as it was. -/
  | restorePayment (p : Payment)
  deriving DecidableEq, Inhabited

namespace Compensation

def description : Compensation → String
  | cancelPayment p => "cancel payment " ++ p.uid.toText
  | cancelReservation r => "cancel reservation " ++ r.uid.toText
  | restoreReservation r => "restore reservation " ++ r.uid.toText ++ " to " ++ r.status.word
  | restorePayment p => "restore payment " ++ p.uid.toText ++ " to " ++ p.status.word

end Compensation

structure SagaStep where
  name : String
  undo : Compensation
  deriving DecidableEq, Inhabited

/-- The record of a saga: its name and the completed steps in order. -/
structure Saga where
  name : String
  steps : List SagaStep := []
  deriving DecidableEq, Inhabited

namespace Saga

/-- Record a completed step. -/
def record (s : Saga) (name : String) (undo : Compensation) : Saga :=
  { s with steps := s.steps ++ [⟨name, undo⟩] }

def isEmpty (s : Saga) : Bool :=
  s.steps.isEmpty

def stepNames (s : Saga) : List String :=
  s.steps.map SagaStep.name

/-- The completed steps, the latest first. -/
def unwindOrder (s : Saga) : List SagaStep :=
  s.steps.reverse

/-- A saga that books a stay. -/
def booking : Saga := { name := "create_reservation" }

/-- A saga that cancels a stay. -/
def cancellation : Saga := { name := "cancel_reservation" }

end Saga

end HotelBooking
