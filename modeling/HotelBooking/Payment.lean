import HotelBooking.BookingStatus
import HotelBooking.Uid

/-!
# Payments

A charge for a stay. Payments are never taken away; canceling one changes its status.
-/

namespace HotelBooking

open Draft (Field)

structure Payment where
  id : Int32
  uid : Uid
  status : BookingStatus
  price : Int32
  deriving DecidableEq, Inhabited

namespace Payment

/-- A charge that no table holds yet. -/
def charge (uid : Uid) (price : Int32) : Payment :=
  { id := 0, uid, status := .paid, price }

def cancel (p : Payment) : Payment :=
  { p with status := .canceled }

def fields : List Field :=
  [.of Int32 "id" .defaulted, .of Uid "paymentUid", .of BookingStatus "status",
    .of Int32 "price"]

instance : Wire Payment where
  toJson p := .object [
    ("id", Wire.toJson p.id), ("paymentUid", Wire.toJson p.uid),
    ("status", Wire.toJson p.status), ("price", Wire.toJson p.price)]
  read d := do
    let r ← d.readRecord fields
    return {
      id := ← r.getD "id" 0
      uid := ← r.get "paymentUid"
      status := ← r.get "status"
      price := ← r.get "price" }

end Payment

end HotelBooking
