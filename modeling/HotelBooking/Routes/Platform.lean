import HotelBooking.Client.Exchange
import HotelBooking.Gateway.InProcess
import HotelBooking.Routes.Loyalty
import HotelBooking.Routes.Payment
import HotelBooking.Routes.Reservation

/-!
# The services behind HTTP

The three services over stores in memory as servers, and calls that are answered by
sending requests, whatever carries these. Carrying requests to these servers unchanged
answers every call as the services themselves would, as far as errors allow it.
-/

namespace HotelBooking

open Http Routes Memory

/-- The answer of a service to a request. -/
def Stores.respond (service : ServiceName) (fresh : Uid) (r : Request) :
    StateM Stores Response := fun s =>
  match service with
  | .reservation =>
    let (answer, t) := (reservationSite reservationService fresh).respond r s.reservation
    (answer, { s with reservation := t })
  | .payment =>
    let (answer, t) := (paymentSite paymentService fresh).respond r s.payment
    (answer, { s with payment := t })
  | .loyalty =>
    let (answer, t) := (loyaltySite loyaltyService).respond r s.loyalty
    (answer, { s with loyalty := t })

namespace Call

/-- Answer a call by sending its request; `send` gives no answer when none comes. -/
def overHttp {σ : Type} (base : ServiceName → String)
    (send : ServiceName → Request → StateM σ (Option Response)) (c : Call) :
    Action σ c.Answer :=
  ExceptT.mk do
    match c.request? (base c.service) with
    | none => return .error c.unsent
    | some r => return c.interpret (← send c.service (received r))

/-- A network that carries every request to the services and every answer back. -/
def reliable (fresh : Uid) (service : ServiceName) (r : Request) :
    StateM Stores (Option Response) := do
  return some (← Stores.respond service fresh r).delivered

end Call

/-- The services answer every call over HTTP, on a network that loses nothing. -/
def Handler.overHttp (base : ServiceName → String) : Handler Backend where
  answer c b :=
    let (fresh, supply) := b.supply.draw
    let (o, stores) := (c.overHttp base (Call.reliable fresh)).perform b.stores
    (o, { stores, supply })
  draw := Handler.inProcess.draw

end HotelBooking
