import HotelBooking.Hotel
import HotelBooking.Loyalty
import HotelBooking.Payment
import HotelBooking.Reservation
import HotelBooking.Store.Action

/-!
# Repositories

What the services need of the tables that hold their rows, whatever holds the tables.
Inserting gives a row its number and returns it; updating finds the row by its key and
returns nothing when there is none. Pages of the catalogue are counted from 1.
-/

namespace HotelBooking

structure HotelRepository (σ : Type) where
  page : Int64 → Int64 → Action σ (List Hotel)
  count : Action σ Int64
  byId : Int32 → Action σ (Option Hotel)
  byUid : Uid → Action σ (Option Hotel)

structure ReservationRepository (σ : Type) where
  ofUser : String → Action σ (List Reservation)
  byUid : Uid → Action σ (Option Reservation)
  insert : Reservation → Action σ Reservation
  update : Reservation → Action σ (Option Reservation)

structure PaymentRepository (σ : Type) where
  byUid : Uid → Action σ (Option Payment)
  insert : Payment → Action σ Payment
  update : Payment → Action σ (Option Payment)

structure LoyaltyRepository (σ : Type) where
  ofUser : String → Action σ (Option Loyalty)
  insert : Loyalty → Action σ Loyalty
  update : Loyalty → Action σ (Option Loyalty)

namespace ServiceError

def invalidPage (page size : Int64) : ServiceError :=
  .invalidParameters
    ("invalid page " ++ Decimal.ofInt page.toInt ++ " / size " ++ Decimal.ofInt size.toInt)

def pageOutOfRange (page size : Int64) : ServiceError :=
  .invalidParameters ("page " ++ Decimal.ofInt page.toInt ++ " of size " ++
    Decimal.ofInt size.toInt ++ " is out of range")

end ServiceError

/-- The number of rows before a page, when page and offset are in range. -/
def pageOffset (page size : Int64) : Outcome Int64 :=
  if page ≤ 0 ∨ size ≤ 0 then .error (.invalidPage page size)
  else
    match int64? ((page.toInt - 1) * size.toInt) with
    | some offset => .ok offset
    | none => .error (.pageOutOfRange page size)

end HotelBooking
