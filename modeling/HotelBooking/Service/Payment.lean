import HotelBooking.Store.Repository

/-!
# The payment service

Charges of amounts that are not negative.
-/

namespace HotelBooking

namespace ServiceError

def negativePrice (price : Int32) : ServiceError :=
  .invalidParameters ("negative price " ++ Decimal.ofInt price.toInt)

end ServiceError

def Payment.label (uid : Uid) : String := "payment " ++ uid.toText

structure PaymentService (σ : Type) where
  payments : PaymentRepository σ

namespace PaymentService

variable {σ : Type}

/-- Record a new charge. -/
def create (s : PaymentService σ) (fresh : Uid) (price : Int32) : Action σ Payment := do
  if price < 0 then throw (.negativePrice price)
  s.payments.insert (.charge fresh price)

def byUid (s : PaymentService σ) (uid : Uid) : Action σ Payment :=
  (s.payments.byUid uid).found (Payment.label uid)

def update (s : PaymentService σ) (p : Payment) : Action σ Payment := do
  if p.price < 0 then throw (.negativePrice p.price)
  (s.payments.update p).found (Payment.label p.uid)

end PaymentService

end HotelBooking
