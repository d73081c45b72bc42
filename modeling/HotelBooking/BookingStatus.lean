import HotelBooking.Json.Wire

/-!
# The status of a booking

A reservation and the payment behind it are each either paid or canceled.
-/

namespace HotelBooking

inductive BookingStatus where
  | paid
  | canceled
  deriving DecidableEq, Inhabited

namespace BookingStatus

/-- The word for a status, on the wire, in tables and in messages alike. -/
def word : BookingStatus → String
  | paid => "PAID"
  | canceled => "CANCELED"

def ofWord? (w : String) : Option BookingStatus :=
  if w = "PAID" then some paid else if w = "CANCELED" then some canceled else none

@[simp] theorem ofWord?_word (s : BookingStatus) : ofWord? s.word = some s := by
  cases s <;> rfl

/-- The complaint about a text that is no status. -/
def unknown (w : String) : String :=
  "unknown booking status: " ++ w

instance : Wire BookingStatus where
  toJson s := .string s.word
  read := Draft.readWord ofWord?

end BookingStatus

end HotelBooking
