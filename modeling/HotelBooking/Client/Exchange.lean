import HotelBooking.Gateway.Call
import HotelBooking.Http.Header
import HotelBooking.Http.Reason
import HotelBooking.Http.Target
import HotelBooking.Service.Loyalty
import HotelBooking.Service.Payment
import HotelBooking.Service.Reservation
import HotelBooking.Text.Mark
import HotelBooking.View.Booking

/-!
# Calls over HTTP

A call becomes a request to the service that it is for, and the answer of that service
becomes the outcome of the call: 404 says that the thing is missing, any other status
than success and any body that cannot be read is a failure of the service, and so is a
request that could not be sent or was not answered.
-/

namespace HotelBooking

namespace Call

open Http

/-- How errors name what a call is about. -/
def label : Call → String
  | listHotels .. => "hotel page"
  | getHotelById id => Hotel.idLabel id
  | getHotelByUid uid => Hotel.uidLabel uid
  | listReservations _ => "reservations"
  | getReservation uid => Reservation.label uid
  | createReservation _ => "new reservation"
  | updateReservation r => Reservation.label r.uid
  | createPayment _ => "new payment"
  | getPayment uid => Payment.label uid
  | updatePayment p => Payment.label p.uid
  | getLoyalty username => Loyalty.label username
  | updateLoyalty l => Loyalty.label l.username

/-- The user that a call is made for, where the service is told. -/
def onBehalfOf? : Call → Option String
  | listReservations username | getLoyalty username => some username
  | createReservation r => some r.username
  | updateLoyalty l => some l.username
  | _ => none

def method : Call → Method
  | createReservation _ | createPayment _ => .post
  | updateReservation _ | updatePayment _ | updateLoyalty _ => .put
  | _ => .get

/-- The path of a call below the root of its service's interface. -/
def resource : Call → String
  | listHotels .. => "/hotels"
  | getHotelById id => "/hotels/id/" ++ Decimal.ofInt id.toInt
  | getHotelByUid uid => "/hotels/" ++ uid.toText
  | listReservations _ | createReservation _ => "/reservations"
  | getReservation uid => "/reservations/" ++ uid.toText
  | updateReservation r => "/reservations/" ++ r.uid.toText
  | createPayment _ => "/payment"
  | getPayment uid => "/payment/" ++ uid.toText
  | updatePayment p => "/payment/" ++ p.uid.toText
  | getLoyalty _ | updateLoyalty _ => "/loyalty"

def query? : Call → Option String
  | listHotels page size =>
    some ("page=" ++ Decimal.ofInt page.toInt ++ "&size=" ++ Decimal.ofInt size.toInt)
  | _ => none

/-- The body of the request of a call. -/
def body? : Call → Option String
  | createReservation r | updateReservation r => some (Wire.toText r)
  | createPayment price => some (Wire.toText { price : ChargeRequest })
  | updatePayment p => some (Wire.toText p)
  | updateLoyalty l => some (Wire.toText l)
  | _ => none

/-- The URL in front of every resource of a service: its base without closing slashes. -/
def root (base : String) : String :=
  String.ofList (base.toList.reverse.dropWhile (· = '/')).reverse ++ "/api/v1"

/-- What the request of a call asks of a service with this base, which has to be a URL. -/
def target? (base : String) (c : Call) : Option Target := do
  let t ← Target.ofUrl? (root base ++ c.resource)
  return (c.query?.map t.withField).getD t

/-- The request of a call to a service with this base, unless base or user forbid it. -/
def request? (base : String) (c : Call) : Option Request := do
  let t ← c.target? base
  guard (c.onBehalfOf?.all isHeaderValue)
  return {
    method := c.method
    path := t.path
    query := t.query
    headers :=
      (c.onBehalfOf?.map fun u => (userHeader, u)).toList ++
        (c.body?.map fun _ => (contentType, jsonType)).toList
    body := c.body?.getD "" }

/-- The request as the service receives it. -/
def received (r : Request) : Request :=
  { r with headers := r.headers.map fun h => (h.1, arriving h.2) }

/-! ## Outcomes -/

def failed (c : Call) (message : String) : ServiceError :=
  .remote c.service.text message

/-- The request could not be sent, or no answer came. -/
def unsent (c : Call) : ServiceError :=
  c.failed (c.label ++ ": <transport>")

/-- The text of an answer, without the mark of its byte order. -/
def textOf (r : Response) : String :=
  String.ofList (Text.unmarked r.body.toList)

def rejected (c : Call) (r : Response) : ServiceError :=
  c.failed (c.label ++ " returned " ++ Decimal.ofNat r.status ++ " " ++
    reasonPhrase r.status ++ ": " ++ textOf r)

def undecodable (c : Call) : ServiceError :=
  c.failed (c.label ++ ": undecodable body: error decoding response body")

/-- The value that a successful answer carries. -/
def decode (α : Type) [Wire α] (c : Call) (r : Response) : Outcome α :=
  match Wire.ofText r.body with
  | .ok a => .ok a
  | .error _ => .error c.undecodable

/-- What a successful answer says. -/
def accept : (c : Call) → Response → Outcome c.Answer
  | c@(listHotels ..), r => decode HotelPage c r
  | c@(getHotelById _), r => decode Hotel c r
  | c@(getHotelByUid _), r => decode Hotel c r
  | c@(listReservations _), r => decode (List Reservation) c r
  | c@(getReservation _), r => decode Reservation c r
  | c@(createReservation _), r => decode Reservation c r
  | updateReservation _, _ => .ok ()
  | c@(createPayment _), r => decode Payment c r
  | c@(getPayment _), r => decode Payment c r
  | updatePayment _, _ => .ok ()
  | c@(getLoyalty _), r => decode Loyalty c r
  | c@(updateLoyalty _), r => decode Loyalty c r

/-- What it means that the service does not know the thing: a user without reservations. -/
def missing : (c : Call) → Outcome c.Answer
  | listReservations _ => .ok []
  | c => .error (.notFound c.label)

/-- The outcome of a call whose answer is this one, or never came. -/
def interpret (c : Call) : Option Response → Outcome c.Answer
  | none => .error c.unsent
  | some r =>
    if r.status = 404 then c.missing
    else if r.isSuccess then c.accept r
    else .error (c.rejected r)

end Call

end HotelBooking
