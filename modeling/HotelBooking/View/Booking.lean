import HotelBooking.Hotel
import HotelBooking.Payment
import HotelBooking.Reservation

/-!
# Bookings as guests ask for them and see them

A booking request holds its fields as typed, so that a wrong one can be named in a
report; a receipt answers it. A booking view joins a reservation with its hotel and its
payment.
-/

namespace HotelBooking

open Draft (Field)

/-- The body of a request to book. A field left out is the empty text. -/
structure BookingRequest where
  hotelUid : String
  startDate : String
  endDate : String
  deriving DecidableEq, Inhabited

namespace BookingRequest

def fields : List Field :=
  [.of String "hotelUid" .defaulted, .of String "startDate" .defaulted,
    .of String "endDate" .defaulted]

instance : Wire BookingRequest where
  toJson b := .object [
    ("hotelUid", Wire.toJson b.hotelUid), ("startDate", Wire.toJson b.startDate),
    ("endDate", Wire.toJson b.endDate)]
  read d := do
    let r ← d.readRecord fields
    return {
      hotelUid := ← r.getD "hotelUid" ""
      startDate := ← r.getD "startDate" ""
      endDate := ← r.getD "endDate" "" }

end BookingRequest

/-- The body of a request to charge. -/
structure ChargeRequest where
  price : Int32
  deriving DecidableEq, Inhabited

namespace ChargeRequest

def fields : List Field := [.of Int32 "price"]

instance : Wire ChargeRequest where
  toJson c := .object [("price", Wire.toJson c.price)]
  read d := do
    let r ← d.readRecord fields
    return { price := ← r.get "price" }

end ChargeRequest

structure HotelInfo where
  hotelUid : Uid
  name : String
  fullAddress : String
  stars : Int32
  deriving DecidableEq, Inhabited

namespace HotelInfo

def ofHotel (h : Hotel) : HotelInfo :=
  { hotelUid := h.uid, name := h.name, fullAddress := h.fullAddress, stars := h.stars }

def fields : List Field :=
  [.of Uid "hotelUid", .of String "name", .of String "fullAddress", .of Int32 "stars"]

instance : Wire HotelInfo where
  toJson h := .object [
    ("hotelUid", Wire.toJson h.hotelUid), ("name", Wire.toJson h.name),
    ("fullAddress", Wire.toJson h.fullAddress), ("stars", Wire.toJson h.stars)]
  read d := do
    let r ← d.readRecord fields
    return {
      hotelUid := ← r.get "hotelUid"
      name := ← r.get "name"
      fullAddress := ← r.get "fullAddress"
      stars := ← r.get "stars" }

end HotelInfo

structure PaymentInfo where
  status : BookingStatus
  price : Int32
  deriving DecidableEq, Inhabited

namespace PaymentInfo

def ofPayment (p : Payment) : PaymentInfo :=
  { status := p.status, price := p.price }

def fields : List Field := [.of BookingStatus "status", .of Int32 "price"]

instance : Wire PaymentInfo where
  toJson p := .object [("status", Wire.toJson p.status), ("price", Wire.toJson p.price)]
  read d := do
    let r ← d.readRecord fields
    return { status := ← r.get "status", price := ← r.get "price" }

end PaymentInfo

/-- A reservation joined with its hotel and its payment. -/
structure BookingView where
  reservationUid : Uid
  hotel : HotelInfo
  startDate : String
  endDate : String
  status : BookingStatus
  payment : PaymentInfo
  deriving DecidableEq, Inhabited

namespace BookingView

def assemble (r : Reservation) (h : Hotel) (p : Payment) : BookingView :=
  { reservationUid := r.uid, hotel := .ofHotel h, startDate := r.startDate.toText,
    endDate := r.endDate.toText, status := r.status, payment := .ofPayment p }

def fields : List Field :=
  [.of Uid "reservationUid", .of HotelInfo "hotel", .of String "startDate",
    .of String "endDate", .of BookingStatus "status", .of PaymentInfo "payment"]

instance : Wire BookingView where
  toJson b := .object [
    ("reservationUid", Wire.toJson b.reservationUid), ("hotel", Wire.toJson b.hotel),
    ("startDate", Wire.toJson b.startDate), ("endDate", Wire.toJson b.endDate),
    ("status", Wire.toJson b.status), ("payment", Wire.toJson b.payment)]
  read d := do
    let r ← d.readRecord fields
    return {
      reservationUid := ← r.get "reservationUid"
      hotel := ← r.get "hotel"
      startDate := ← r.get "startDate"
      endDate := ← r.get "endDate"
      status := ← r.get "status"
      payment := ← r.get "payment" }

end BookingView

/-- The answer to a booking, with the discount in percent that went into its price. -/
structure BookingReceipt where
  reservationUid : Uid
  hotelUid : Uid
  startDate : String
  endDate : String
  discount : Int32
  status : BookingStatus
  payment : PaymentInfo
  deriving DecidableEq, Inhabited

namespace BookingReceipt

def assemble (r : Reservation) (hotelUid : Uid) (discount : Int32) (p : Payment) :
    BookingReceipt :=
  { reservationUid := r.uid, hotelUid, startDate := r.startDate.toText,
    endDate := r.endDate.toText, discount, status := r.status, payment := .ofPayment p }

def fields : List Field :=
  [.of Uid "reservationUid", .of Uid "hotelUid", .of String "startDate",
    .of String "endDate", .of Int32 "discount", .of BookingStatus "status",
    .of PaymentInfo "payment"]

instance : Wire BookingReceipt where
  toJson b := .object [
    ("reservationUid", Wire.toJson b.reservationUid), ("hotelUid", Wire.toJson b.hotelUid),
    ("startDate", Wire.toJson b.startDate), ("endDate", Wire.toJson b.endDate),
    ("discount", Wire.toJson b.discount), ("status", Wire.toJson b.status),
    ("payment", Wire.toJson b.payment)]
  read d := do
    let r ← d.readRecord fields
    return {
      reservationUid := ← r.get "reservationUid"
      hotelUid := ← r.get "hotelUid"
      startDate := ← r.get "startDate"
      endDate := ← r.get "endDate"
      discount := ← r.get "discount"
      status := ← r.get "status"
      payment := ← r.get "payment" }

end BookingReceipt

end HotelBooking
