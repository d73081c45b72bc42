import HotelBooking.Http.Endpoint
import HotelBooking.Service.Loyalty

/-!
# The loyalty service over HTTP

A record is read and saved for the caller. Only where the caller is not named does the
name in the body count.
-/

namespace HotelBooking.Routes

open Http Handling

variable {σ : Type} (service : LoyaltyService σ)

/-- The record as the caller may save it. -/
def forCaller (caller : String) (l : Loyalty) : Loyalty :=
  if caller.isEmpty then l else { l with username := caller }

def loyalty : Endpoint (StateM σ) :=
  [(.get, fun r => do
    return .json 200 (← perform (service.ofUser (callerName r.headers)))),
   (.put, fun r => do
    let record ← refuse (jsonBody Loyalty r)
    let saved ← perform (service.save (forCaller (callerName r.headers) record))
    return .json 200 saved)]

/-- The resources of the loyalty service. -/
def loyaltySite : Site (StateM σ)
  | ["manage", "health"] => some health
  | ["api", "v1", "loyalty"] => some (loyalty service)
  | _ => none

end HotelBooking.Routes
