import HotelBooking.Store.Repository
import HotelBooking.Store.Table

/-!
# Stores in memory

Each service keeps its rows in memory here: the reservation service the catalogue and
the reservations, the others one table each. The catalogue is sorted by number, and
hotels of one number keep the order in which they were given.
-/

namespace HotelBooking

/-- The catalogue of these hotels. -/
def catalogue (hotels : List Hotel) : List Hotel :=
  hotels.mergeSort fun a b => a.id ≤ b.id

/-- The identifier of the hotel that an empty catalogue is given. -/
def demoHotelUid : Uid :=
  .ofNat 0x049161bbbadd4fa89d9087c9a82b0668

/-- The hotel that an empty catalogue is given. -/
def demoHotel : Hotel :=
  { id := 1, uid := demoHotelUid, name := "Ararat Park Hyatt Moscow", country := "Россия",
    city := "Москва", address := "Неглинная ул., 4", stars := 5, price := 10000 }

/-- What the reservation service stores. -/
structure ReservationStore where
  hotels : List Hotel := [demoHotel]
  reservations : Table Reservation := {}
  deriving Inhabited, DecidableEq

namespace Memory

/-- The hotels of a page. -/
def pageOf (hotels : List Hotel) (page size : Int64) : Outcome (List Hotel) := do
  let offset ← pageOffset page size
  return (hotels.drop offset.toInt.toNat).take size.toInt.toNat

def hotels : HotelRepository ReservationStore where
  page page size := do
    match pageOf (← get).hotels page size with
    | .ok found => return found
    | .error e => throw e
  count := Action.look fun s => Int64.ofNat s.hotels.length
  byId id := Action.look fun s => s.hotels.find? (·.id == id)
  byUid uid := Action.look fun s => s.hotels.find? (·.uid == uid)

/-- An action on the table of reservations alone. -/
def onReservations {α : Type} (a : Action (Table Reservation) α) :
    Action ReservationStore α :=
  a.within ReservationStore.reservations fun t s => { s with reservations := t }

def reservations : ReservationRepository ReservationStore where
  ofUser username := Action.look fun s => s.reservations.rows.filter (·.username == username)
  byUid uid := onReservations (Table.lookup (·.uid == uid))
  insert r := onReservations <|
    Table.insertUnless (·.uid == r.uid) ("duplicate reservation uid " ++ r.uid.toText)
      fun id => { r with id }
  update r := onReservations <|
    Table.updateFirst (·.uid == r.uid) fun stored => { r with id := stored.id }

def payments : PaymentRepository (Table Payment) where
  byUid uid := Table.lookup (·.uid == uid)
  insert p :=
    Table.insertUnless (·.uid == p.uid) ("duplicate payment uid " ++ p.uid.toText)
      fun id => { p with id }
  update p := Table.updateFirst (·.uid == p.uid) fun stored =>
    { stored with status := p.status, price := p.price }

def loyalty : LoyaltyRepository (Table Loyalty) where
  ofUser username := Table.lookup (·.username == username)
  insert l :=
    Table.insertUnless (·.username == l.username) ("duplicate loyalty username " ++ l.username)
      fun id => { l with id }
  update l := Table.updateFirst (·.username == l.username) fun stored =>
    { stored with reservationCount := l.reservationCount, status := l.status,
                  discount := l.discount }

end Memory

end HotelBooking
