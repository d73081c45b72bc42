import HotelBooking.Gateway.Lookup
import HotelBooking.Pricing.Stay
import HotelBooking.Service.Platform
import HotelBooking.StayRequest
import HotelBooking.View.Catalogue
import HotelBooking.View.Guest

/-!
# The operations of the gateway

What guests can do: look through the catalogue, see their bookings and their loyalty,
book a stay and cancel one. Booking charges, then stores the reservation, then counts it;
cancelling marks the reservation, then the payment, and then takes it off the count. Both
are sagas over stores that share no transaction: when a step fails, the completed steps
are left in place or, where that is switched on, undone in reverse order, each whatever
becomes of the others.
-/

namespace HotelBooking

structure GatewayOptions where
  /-- How many lookups may be in flight while a list of bookings is put together. -/
  fetchConcurrency : Nat := 1
  /-- Whether the completed steps of a failing saga are undone. -/
  compensateFailedSagas : Bool := false
  deriving DecidableEq, Inhabited

namespace ServiceError

def pageBelowOne (page size : Int64) : ServiceError :=
  .invalidParameters ("page and size must be at least 1, got page=" ++
    Decimal.ofInt page.toInt ++ " size=" ++ Decimal.ofInt size.toInt)

def invalidUid (text : String) : ServiceError :=
  .invalidParameters ("invalid uid: " ++ text)

def foreignReservation (uid : Uid) (username : String) : ServiceError :=
  .invalidParameters ("reservation " ++ uid.toText ++ " does not belong to " ++ username)

end ServiceError

namespace Gateway

open Operation

variable {α : Type}

/-- The trimmed name of a user, which must not be blank. -/
def requireUsername (username : String) : Outcome String :=
  let name := Text.trim username
  if name.isEmpty then .error .usernameRequired else .ok name

/-- An identifier in a path, read without the blanks around it. -/
def parseUid (text : String) : Outcome Uid :=
  match Uid.ofText? (Text.trim text) with
  | some uid => .ok uid
  | none => .error (.invalidUid text)

/-! ## Undoing steps -/

/-- The call that carries out a compensation. -/
def undoing : Compensation → Call
  | .cancelPayment p => .updatePayment p.cancel
  | .cancelReservation r => .updateReservation r.cancel
  | .restoreReservation r => .updateReservation r
  | .restorePayment p => .updatePayment p

/-- The error of an outcome, if it is one. -/
def failure? : Outcome α → Option ServiceError
  | .ok _ => none
  | .error e => some e

/-- Undo steps in the order given. -/
def undo (saga : String) : List SagaStep → Program Unit
  | [] => pure ()
  | step :: steps => do
    let outcome ← Program.ask (undoing step.undo)
    match failure? outcome with
    | none => Program.write (.compensated saga step.name step.undo)
    | some e => Program.write (.compensationFailed saga step.name step.undo e)
    undo saga steps

/-- What becomes of the completed steps of a failing saga. -/
def unwind (options : GatewayOptions) (saga : Saga) : Program Unit :=
  if saga.isEmpty then pure ()
  else if options.compensateFailedSagas then undo saga.name saga.unwindOrder
  else Program.write (.stepsLeft saga.name saga.stepNames)

/-- A step of a saga: when its call fails, the saga is unwound before the error goes on. -/
def settle (options : GatewayOptions) (saga : Saga) (c : Call) : Operation c.Answer :=
  ExceptT.mk do
    match ← Program.ask c with
    | .ok a => return .ok a
    | .error e => do
      Program.write (.stepFailed saga.name e)
      unwind options saga
      return .error e

/-! ## Looking -/

def readHotels (page size : Int64) : Operation HotelListing := do
  if page < 1 ∨ size < 1 then throw (.pageBelowOne page size)
  let listing ← ask (.listHotels page size)
  return if listing.isEmpty then .empty else .page (.ofHotelPage listing)

/-- The reservation, provided it is the user's. -/
def ownedReservation (uid : Uid) (username : String) : Operation Reservation := do
  let r ← ask (.getReservation uid)
  if r.isOwnedBy username then return r else throw (.foreignReservation uid username)

/-- Join reservations with their hotels and payments. -/
def joinViews (rs : List Reservation) (hs : List Hotel) (ps : List Payment) :
    List BookingView :=
  (rs.zip (hs.zip ps)).map fun (r, h, p) => .assemble r h p

/-- All bookings of a user. -/
def bookingViews (options : GatewayOptions) (username : String) :
    Operation (List BookingView) := do
  let reservations ← ask (.listReservations username)
  let hotels ← lookupAll options.fetchConcurrency (reservations.map Reservation.hotelId)
    fun id => ask (.getHotelById id)
  let payments ← lookupAll options.fetchConcurrency (reservations.map Reservation.paymentUid)
    fun uid => ask (.getPayment uid)
  return joinViews reservations hotels payments

/-- The loyalty record of a user, who may have none. -/
def loyalty? (username : String) : Operation (Option Loyalty) := do
  match ← attempt (.getLoyalty username) with
  | .ok l => return some l
  | .error e => if e.isNotFound then return none else throw e

def readGuest (options : GatewayOptions) (username : String) : Operation GuestSummary := do
  let username ← ofOutcome (requireUsername username)
  let reservations ← bookingViews options username
  let loyalty ← loyalty? username
  return { reservations, loyalty := (loyalty.map LoyaltySummary.ofLoyalty).getD .zero }

def readBookings (options : GatewayOptions) (username : String) :
    Operation (List BookingView) := do
  let username ← ofOutcome (requireUsername username)
  bookingViews options username

def readLoyalty (username : String) : Operation LoyaltySummary := do
  let username ← ofOutcome (requireUsername username)
  let l ← ask (.getLoyalty username)
  return .ofLoyalty l

def readBooking (uidText username : String) : Operation BookingView := do
  let username ← ofOutcome (requireUsername username)
  let uid ← ofOutcome (parseUid uidText)
  let r ← ownedReservation uid username
  let h ← ask (.getHotelById r.hotelId)
  let p ← ask (.getPayment r.paymentUid)
  return .assemble r h p

/-! ## Booking and cancelling -/

/-- Book a stay. -/
def book (options : GatewayOptions) (username : String) (request : BookingRequest) :
    Operation BookingReceipt := do
  let username ← ofOutcome (requireUsername username)
  let stay ← ofOutcome ((StayRequest.check request).mapError ServiceError.validation)
  let hotel ← ask (.getHotelByUid stay.hotelUid)
  let existing ← loyalty? username
  let discount := (existing.map Loyalty.discount).getD 0
  let loyalty := existing.getD (.newMember username)
  let price ← ofOutcome (Pricing.stayPrice stay.nights hotel.price discount)
  let payment ← ask (.createPayment price)
  let saga := Saga.booking.record "payment_created" (.cancelPayment payment)
  let uid ← ExceptT.lift Program.draw
  let draft :=
    Reservation.draft uid username payment.uid hotel.id payment.status stay.startDate stay.endDate
  let reservation ← settle options saga (.createReservation draft)
  let saga := saga.record "reservation_created" (.cancelReservation reservation)
  let _ ← settle options saga (.updateLoyalty loyalty.register)
  return .assemble reservation hotel.uid discount payment

/-- Cancel a stay. One that is canceled already is left as it is. -/
def cancel (options : GatewayOptions) (uidText username : String) : Operation Unit := do
  let username ← ofOutcome (requireUsername username)
  let uid ← ofOutcome (parseUid uidText)
  let reservation ← ownedReservation uid username
  if reservation.status = .canceled then return ()
  ask (.updateReservation reservation.cancel)
  let saga := Saga.cancellation.record "reservation_canceled" (.restoreReservation reservation)
  let payment ← settle options saga (.getPayment reservation.paymentUid)
  settle options saga (.updatePayment payment.cancel)
  let saga := saga.record "payment_canceled" (.restorePayment payment)
  let loyalty ← settle options saga (.getLoyalty username)
  let _ ← settle options saga (.updateLoyalty loyalty.release)

end Gateway

end HotelBooking
