import HotelBooking.Gateway.Operations
import HotelBooking.Http.Endpoint

/-!
# The gateway over HTTP

Every answer may be read by pages of any origin, and every `OPTIONS` request is answered
with what such pages may send.
-/

namespace HotelBooking.Routes

open Http Handling

variable (options : GatewayOptions)

def offers : Endpoint Program :=
  [(.get, fun r => do
    let (page, size) ← refuse (pageQuery r.query)
    match ← perform (Gateway.readHotels page size) with
    | .empty => return .empty 204
    | .page p => return .json 200 p)]

def guest : Endpoint Program :=
  [(.get, fun r => do
    return .json 200 (← perform (Gateway.readGuest options (callerName r.headers))))]

def guestLoyalty : Endpoint Program :=
  [(.get, fun r => do
    return .json 200 (← perform (Gateway.readLoyalty (callerName r.headers))))]

def bookings : Endpoint Program :=
  [(.get, fun r => do
    return .json 200 (← perform (Gateway.readBookings options (callerName r.headers)))),
   (.post, fun r => do
    let request ← refuse (jsonBody BookingRequest r)
    return .json 200 (← perform (Gateway.book options (callerName r.headers) request)))]

def booking (raw : String) : Endpoint Program :=
  [(.get, fun r => do
    let text ← refuse (pathText "reservation_uid" raw)
    return .json 200 (← perform (Gateway.readBooking text (callerName r.headers)))),
   (.delete, fun r => do
    let text ← refuse (pathText "reservation_uid" raw)
    perform (Gateway.cancel options text (callerName r.headers))
    return .empty 204)]

/-- The resources of the gateway. -/
def gatewaySite : Site Program
  | ["manage", "health"] => some health
  | ["api", "v1", "hotels"] => some offers
  | ["api", "v1", "me"] => some (guest options)
  | ["api", "v1", "loyalty"] => some guestLoyalty
  | ["api", "v1", "reservations"] => some (bookings options)
  | ["api", "v1", "reservations", raw] =>
    if raw.isEmpty then none else some (booking options raw)
  | _ => none

/-- Let pages of any origin read an answer. -/
def shared (r : Response) : Response :=
  r.withHeader "access-control-allow-origin" "*"

/-- The answer to an `OPTIONS` request. -/
def preflight (r : Request) : Response :=
  let answer := (shared (.empty 200)).withHeader "access-control-allow-methods"
      "GET,POST,DELETE,OPTIONS"
    |>.withHeader "access-control-allow-headers" "content-type,user-agent,x-user-name"
  match gatewaySite options (segments r.path) with
  | some e => answer.withHeader "allow" (allowText e.methods)
  | none => answer

/-- The answer of the gateway to a request. -/
def gatewayRespond (r : Request) : Program Response :=
  if r.method = .options then return preflight options r
  else do return shared (← (gatewaySite options).respond r)

end HotelBooking.Routes
