import HotelBooking.BookingStatus
import HotelBooking.Date.Text
import HotelBooking.Uid

/-!
# Reservations

A stay that a guest has booked. It names its hotel by the number in the catalogue and
its payment by identifier.
-/

namespace HotelBooking

open Draft (Field)

structure Reservation where
  id : Int32
  uid : Uid
  username : String
  paymentUid : Uid
  hotelId : Int32
  status : BookingStatus
  startDate : Date
  endDate : Date
  deriving DecidableEq, Inhabited

namespace Reservation

/-- A reservation that no table holds yet. -/
def draft (uid : Uid) (username : String) (paymentUid : Uid) (hotelId : Int32)
    (status : BookingStatus) (startDate endDate : Date) : Reservation :=
  { id := 0, uid, username, paymentUid, hotelId, status, startDate, endDate }

def isOwnedBy (r : Reservation) (username : String) : Bool :=
  r.username = username

def cancel (r : Reservation) : Reservation :=
  { r with status := .canceled }

def fields : List Field :=
  [.of Int32 "id" .defaulted, .of Uid "reservationUid", .of String "username",
    .of Uid "paymentUid", .of Int32 "hotelId", .of BookingStatus "status",
    .of Date "startDate", .of Date "endDate"]

instance : Wire Reservation where
  toJson r := .object [
    ("id", Wire.toJson r.id), ("reservationUid", Wire.toJson r.uid),
    ("username", Wire.toJson r.username), ("paymentUid", Wire.toJson r.paymentUid),
    ("hotelId", Wire.toJson r.hotelId), ("status", Wire.toJson r.status),
    ("startDate", Wire.toJson r.startDate), ("endDate", Wire.toJson r.endDate)]
  read d := do
    let r ← d.readRecord fields
    return {
      id := ← r.getD "id" 0
      uid := ← r.get "reservationUid"
      username := ← r.get "username"
      paymentUid := ← r.get "paymentUid"
      hotelId := ← r.get "hotelId"
      status := ← r.get "status"
      startDate := ← r.get "startDate"
      endDate := ← r.get "endDate" }

end Reservation

end HotelBooking
