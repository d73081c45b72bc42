import HotelBooking.Http.Endpoint
import HotelBooking.Service.Reservation

/-!
# The reservation service over HTTP

In an update the identifier in the path counts, whatever the body says.
-/

namespace HotelBooking.Routes

open Http Handling

variable {σ : Type} (service : ReservationService σ) (fresh : Uid)

/-- The catalogue, page by page. -/
def hotels : Endpoint (StateM σ) :=
  [(.get, fun r => do
    let (page, size) ← refuse (pageQuery r.query)
    return .json 200 (← perform (service.hotelPage page size)))]

def hotelById (raw : String) : Endpoint (StateM σ) :=
  [(.get, fun _ => do
    let id ← refuse (pathNumber raw)
    return .json 200 (← perform (service.hotelById id)))]

def hotelByUid (raw : String) : Endpoint (StateM σ) :=
  [(.get, fun _ => do
    let text ← refuse (pathText "hotel_uid" raw)
    let uid ← orAnswer (uidText text)
    return .json 200 (← perform (service.hotelByUid uid)))]

/-- The reservations of the caller. -/
def reservations : Endpoint (StateM σ) :=
  [(.get, fun r => do
    return .json 200 (← perform (service.ofUser (callerName r.headers)))),
   (.post, fun r => do
    let reservation ← refuse (jsonBody Reservation r)
    return .json 201 (← perform (service.create fresh reservation)))]

def reservation (raw : String) : Endpoint (StateM σ) :=
  [(.get, fun _ => do
    let text ← refuse (pathText "reservation_uid" raw)
    let uid ← orAnswer (uidText text)
    return .json 200 (← perform (service.byUid uid))),
   (.put, fun r => do
    let text ← refuse (pathText "reservation_uid" raw)
    let uid ← orAnswer (uidText text)
    let reservation ← refuse (jsonBody Reservation r)
    let _ ← perform (service.update { reservation with uid })
    return .empty 204)]

/-- The resources of the reservation service. -/
def reservationSite : Site (StateM σ)
  | ["manage", "health"] => some health
  | ["api", "v1", "hotels"] => some (hotels service)
  | ["api", "v1", "hotels", raw] =>
    if raw.isEmpty then none else some (hotelByUid service raw)
  | ["api", "v1", "hotels", "id", raw] =>
    if raw.isEmpty then none else some (hotelById service raw)
  | ["api", "v1", "reservations"] => some (reservations service fresh)
  | ["api", "v1", "reservations", raw] =>
    if raw.isEmpty then none else some (reservation service raw)
  | _ => none

end HotelBooking.Routes
