import HotelBooking.Store.Repository
import HotelBooking.Text.Blank

/-!
# The reservation service

The catalogue of hotels and the reservations. A reservation is stored only for a named
guest and for dates in order; one that comes without an identifier is given a fresh one.
-/

namespace HotelBooking

namespace ServiceError

def pageNotPositive (page size : Int64) : ServiceError :=
  .invalidParameters ("page and size must be positive, got page=" ++
    Decimal.ofInt page.toInt ++ " size=" ++ Decimal.ofInt size.toInt)

def datesReversed (startDate endDate : Date) : ServiceError :=
  .invalidParameters
    ("start date " ++ startDate.toText ++ " is after end date " ++ endDate.toText)

end ServiceError

/-- How errors name the things that services look for. -/
def Hotel.idLabel (id : Int32) : String := "hotel with id " ++ Decimal.ofInt id.toInt

def Hotel.uidLabel (uid : Uid) : String := "hotel " ++ uid.toText

def Reservation.label (uid : Uid) : String := "reservation " ++ uid.toText

structure ReservationService (σ : Type) where
  hotels : HotelRepository σ
  reservations : ReservationRepository σ

namespace ReservationService

variable {σ : Type}

def hotelPage (s : ReservationService σ) (page size : Int64) : Action σ HotelPage := do
  if page ≤ 0 ∨ size ≤ 0 then throw (.pageNotPositive page size)
  let items ← s.hotels.page page size
  let totalElements ← s.hotels.count
  return { page, pageSize := size, totalElements, items }

def hotelById (s : ReservationService σ) (id : Int32) : Action σ Hotel :=
  (s.hotels.byId id).found (Hotel.idLabel id)

def hotelByUid (s : ReservationService σ) (uid : Uid) : Action σ Hotel :=
  (s.hotels.byUid uid).found (Hotel.uidLabel uid)

/-- The reservations of a user; one that is unknown has none. -/
def ofUser (s : ReservationService σ) (username : String) : Action σ (List Reservation) :=
  s.reservations.ofUser username

def byUid (s : ReservationService σ) (uid : Uid) : Action σ Reservation :=
  (s.reservations.byUid uid).found (Reservation.label uid)

/-- Store a new reservation. -/
def create (s : ReservationService σ) (fresh : Uid) (r : Reservation) :
    Action σ Reservation := do
  if Text.isBlankText r.username then throw .usernameRequired
  if ¬ r.startDate ≤ r.endDate then throw (.datesReversed r.startDate r.endDate)
  s.reservations.insert (if r.uid.isNil then { r with uid := fresh } else r)

def update (s : ReservationService σ) (r : Reservation) : Action σ Reservation :=
  (s.reservations.update r).found (Reservation.label r.uid)

end ReservationService

end HotelBooking
