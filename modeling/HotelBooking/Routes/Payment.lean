import HotelBooking.Http.Endpoint
import HotelBooking.Service.Payment
import HotelBooking.View.Booking

/-!
# The payment service over HTTP

In an update the identifier in the path counts, whatever the body says.
-/

namespace HotelBooking.Routes

open Http Handling

variable {σ : Type} (service : PaymentService σ) (fresh : Uid)

def payments : Endpoint (StateM σ) :=
  [(.post, fun r => do
    let charge ← refuse (jsonBody ChargeRequest r)
    return .json 201 (← perform (service.create fresh charge.price)))]

def payment (raw : String) : Endpoint (StateM σ) :=
  [(.get, fun _ => do
    let text ← refuse (pathText "payment_uid" raw)
    let uid ← orAnswer (uidText text)
    return .json 200 (← perform (service.byUid uid))),
   (.put, fun r => do
    let text ← refuse (pathText "payment_uid" raw)
    let uid ← orAnswer (uidText text)
    let payment ← refuse (jsonBody Payment r)
    let _ ← perform (service.update { payment with uid })
    return .empty 204)]

/-- The resources of the payment service. -/
def paymentSite : Site (StateM σ)
  | ["manage", "health"] => some health
  | ["api", "v1", "payment"] => some (payments service fresh)
  | ["api", "v1", "payment", raw] => if raw.isEmpty then none else some (payment service raw)
  | _ => none

end HotelBooking.Routes
