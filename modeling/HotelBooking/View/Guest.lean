import HotelBooking.Loyalty
import HotelBooking.View.Booking

/-!
# What guests see of themselves

The loyalty summary of a guest, which is all zeros for one without a record, and that
summary together with the guest's bookings.
-/

namespace HotelBooking

open Draft (Field)

structure LoyaltySummary where
  status : Option Tier
  discount : Int32
  reservationCount : Int32
  deriving DecidableEq, Inhabited

namespace LoyaltySummary

/-- The summary of a guest without a record. -/
def zero : LoyaltySummary :=
  { status := none, discount := 0, reservationCount := 0 }

def ofLoyalty (l : Loyalty) : LoyaltySummary :=
  { status := some l.status, discount := l.discount, reservationCount := l.reservationCount }

def fields : List Field :=
  [.of (Option Tier) "status" .optional, .of Int32 "discount", .of Int32 "reservationCount"]

instance : Wire LoyaltySummary where
  toJson l := .object [
    ("status", Wire.toJson l.status), ("discount", Wire.toJson l.discount),
    ("reservationCount", Wire.toJson l.reservationCount)]
  read d := do
    let r ← d.readRecord fields
    return {
      status := ← r.getD "status" none
      discount := ← r.get "discount"
      reservationCount := ← r.get "reservationCount" }

end LoyaltySummary

structure GuestSummary where
  reservations : List BookingView
  loyalty : LoyaltySummary
  deriving DecidableEq, Inhabited

namespace GuestSummary

def fields : List Field :=
  [.of (List BookingView) "reservations", .of LoyaltySummary "loyalty"]

instance : Wire GuestSummary where
  toJson g := .object [
    ("reservations", Wire.toJson g.reservations), ("loyalty", Wire.toJson g.loyalty)]
  read d := do
    let r ← d.readRecord fields
    return { reservations := ← r.get "reservations", loyalty := ← r.get "loyalty" }

end GuestSummary

end HotelBooking
