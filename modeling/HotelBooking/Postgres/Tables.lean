import HotelBooking.Postgres.Session
import HotelBooking.Store.Repository

/-!
# The tables of the services

The repositories over a database. A row is first read column by column and then made an
entity, where a status has to be one of the known words; the number of a hotel that is
null reads as 0, and so do its stars.
-/

namespace HotelBooking.Postgres

/-! ## Hotels -/

def hotelColumns : List String :=
  ["id", "hotel_uid", "name", "country", "city", "address", "stars", "price"]

def readHotel (r : Row) : Outcome Hotel := do
  return {
    id := ← r.column "id" Value.int32?
    uid := ← r.column "hotel_uid" Value.uid?
    name := ← r.column "name" Value.text?
    country := ← r.column "country" Value.text?
    city := ← r.column "city" Value.text?
    address := ← r.column "address" Value.text?
    stars := (← r.nullable "stars" Value.int32?).getD 0
    price := ← r.column "price" Value.int32? }

def hotels : HotelRepository Session where
  page page size := do
    let offset ← settled (pageOffset page size)
    fetchAll (.slice hotelColumns "hotels" "id" size offset) readHotel pure
  count := fetchOne (.count "hotels") (fun r => r.first Value.int64?) pure
  byId id :=
    fetchOptional (.select hotelColumns "hotels" ("id", .int id.toInt) none) readHotel pure
  byUid uid :=
    fetchOptional (.select hotelColumns "hotels" ("hotel_uid", .uid uid) none) readHotel pure

/-! ## Reservations -/

/-- A row of the reservation table, its status still a text. -/
structure ReservationRow where
  reservation : Reservation
  status : String

def reservationColumns : List String :=
  ["id", "reservation_uid", "username", "payment_uid", "hotel_id", "status", "start_date",
    "end_date"]

def readReservation (r : Row) : Outcome ReservationRow := do
  let id ← r.column "id" Value.int32?
  let uid ← r.column "reservation_uid" Value.uid?
  let username ← r.column "username" Value.text?
  let paymentUid ← r.column "payment_uid" Value.uid?
  let hotelId := (← r.nullable "hotel_id" Value.int32?).getD 0
  let status ← r.column "status" Value.text?
  let startDate ← r.column "start_date" Value.date?
  let endDate ← r.column "end_date" Value.date?
  return {
    reservation :=
      { id, uid, username, paymentUid, hotelId, status := .paid, startDate, endDate }
    status }

def bookingStatus (w : String) : Outcome BookingStatus :=
  match BookingStatus.ofWord? w with
  | some s => .ok s
  | none => .error (.storage (BookingStatus.unknown w))

def convertReservation (r : ReservationRow) : Outcome Reservation := do
  return { r.reservation with status := ← bookingStatus r.status }

/-- The columns of a reservation that an update may change. -/
def reservationValues (r : Reservation) : Row :=
  [("username", .text r.username), ("payment_uid", .uid r.paymentUid),
    ("hotel_id", .int r.hotelId.toInt), ("status", .text r.status.word),
    ("start_date", .date r.startDate), ("end_date", .date r.endDate)]

def reservationKey (uid : Uid) : String × Value := ("reservation_uid", .uid uid)

def reservations : ReservationRepository Session where
  ofUser username :=
    fetchAll (.select reservationColumns "reservation" ("username", .text username) (some "id"))
      readReservation convertReservation
  byUid uid :=
    fetchOptional (.select reservationColumns "reservation" (reservationKey uid) none)
      readReservation convertReservation
  insert r :=
    fetchOne (.insert "reservation" (reservationKey r.uid :: reservationValues r)
      reservationColumns) readReservation convertReservation
  update r :=
    fetchOptional (.update "reservation" (reservationKey r.uid) (reservationValues r)
      reservationColumns) readReservation convertReservation

/-! ## Payments -/

/-- A row of the payment table, its status still a text. -/
structure PaymentRow where
  payment : Payment
  status : String

def paymentColumns : List String := ["id", "payment_uid", "status", "price"]

def readPayment (r : Row) : Outcome PaymentRow := do
  let id ← r.column "id" Value.int32?
  let uid ← r.column "payment_uid" Value.uid?
  let status ← r.column "status" Value.text?
  let price ← r.column "price" Value.int32?
  return { payment := { id, uid, status := .paid, price }, status }

def convertPayment (r : PaymentRow) : Outcome Payment := do
  return { r.payment with status := ← bookingStatus r.status }

/-- The columns of a payment that an update may change. -/
def paymentValues (p : Payment) : Row :=
  [("status", .text p.status.word), ("price", .int p.price.toInt)]

def paymentKey (uid : Uid) : String × Value := ("payment_uid", .uid uid)

def payments : PaymentRepository Session where
  byUid uid :=
    fetchOptional (.select paymentColumns "payment" (paymentKey uid) none) readPayment
      convertPayment
  insert p :=
    fetchOne (.insert "payment" (paymentKey p.uid :: paymentValues p) paymentColumns) readPayment
      convertPayment
  update p :=
    fetchOptional (.update "payment" (paymentKey p.uid) (paymentValues p) paymentColumns)
      readPayment convertPayment

/-! ## Loyalty -/

/-- A row of the loyalty table, its status still a text. -/
structure LoyaltyRow where
  loyalty : Loyalty
  status : String

def loyaltyColumns : List String :=
  ["id", "username", "reservation_count", "status", "discount"]

def readLoyalty (r : Row) : Outcome LoyaltyRow := do
  let id ← r.column "id" Value.int32?
  let username ← r.column "username" Value.text?
  let reservationCount ← r.column "reservation_count" Value.int32?
  let status ← r.column "status" Value.text?
  let discount ← r.column "discount" Value.int32?
  return { loyalty := { id, username, reservationCount, status := .bronze, discount }, status }

def tier (w : String) : Outcome Tier :=
  match Tier.ofWord? w with
  | some t => .ok t
  | none => .error (.storage (Tier.unknown w))

def convertLoyalty (r : LoyaltyRow) : Outcome Loyalty := do
  return { r.loyalty with status := ← tier r.status }

/-- The columns of a loyalty record that an update may change. -/
def loyaltyValues (l : Loyalty) : Row :=
  [("reservation_count", .int l.reservationCount.toInt), ("status", .text l.status.word),
    ("discount", .int l.discount.toInt)]

def loyaltyKey (username : String) : String × Value := ("username", .text username)

def loyalty : LoyaltyRepository Session where
  ofUser username :=
    fetchOptional (.select loyaltyColumns "loyalty" (loyaltyKey username) none) readLoyalty
      convertLoyalty
  insert l :=
    fetchOne (.insert "loyalty" (loyaltyKey l.username :: loyaltyValues l) loyaltyColumns)
      readLoyalty convertLoyalty
  update l :=
    fetchOptional (.update "loyalty" (loyaltyKey l.username) (loyaltyValues l) loyaltyColumns)
      readLoyalty convertLoyalty

end HotelBooking.Postgres
