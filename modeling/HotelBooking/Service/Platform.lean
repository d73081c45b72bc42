import HotelBooking.Service.Loyalty
import HotelBooking.Service.Payment
import HotelBooking.Service.Reservation
import HotelBooking.Store.Memory

/-!
# The three services over stores in memory

`Stores` is everything that the services remember.
-/

namespace HotelBooking

structure Stores where
  reservation : ReservationStore := {}
  payment : Table Payment := {}
  loyalty : Table Loyalty := {}
  deriving Inhabited, DecidableEq

namespace Memory

def reservationService : ReservationService ReservationStore :=
  { hotels, reservations }

def paymentService : PaymentService (Table Payment) :=
  { payments }

def loyaltyService : LoyaltyService (Table Loyalty) :=
  { loyalty }

end Memory

namespace Stores

variable {α : Type}

def onReservation (a : Action ReservationStore α) : Action Stores α :=
  a.within Stores.reservation fun t s => { s with reservation := t }

def onPayment (a : Action (Table Payment) α) : Action Stores α :=
  a.within Stores.payment fun t s => { s with payment := t }

def onLoyalty (a : Action (Table Loyalty) α) : Action Stores α :=
  a.within Stores.loyalty fun t s => { s with loyalty := t }

end Stores

end HotelBooking
