import HotelBooking.Gateway.Program
import HotelBooking.Service.Platform

/-!
# Answering calls in process

The services over stores in memory answer the calls of the gateway directly, each call
by the operation of the same purpose, with its errors passed on.
-/

namespace HotelBooking

namespace Call

open Stores Memory

/-- What the services answer; `fresh` is the identifier that a new row may need. -/
def serve (fresh : Uid) : (c : Call) → Action Stores c.Answer
  | listHotels page size => onReservation (reservationService.hotelPage page size)
  | getHotelById id => onReservation (reservationService.hotelById id)
  | getHotelByUid uid => onReservation (reservationService.hotelByUid uid)
  | listReservations username => onReservation (reservationService.ofUser username)
  | getReservation uid => onReservation (reservationService.byUid uid)
  | createReservation r => onReservation (reservationService.create fresh r)
  | updateReservation r => onReservation do
    let _ ← reservationService.update r
  | createPayment price => onPayment (paymentService.create fresh price)
  | getPayment uid => onPayment (paymentService.byUid uid)
  | updatePayment p => onPayment do
    let _ ← paymentService.update p
  | getLoyalty username => onLoyalty (loyaltyService.ofUser username)
  | updateLoyalty l => onLoyalty (loyaltyService.save l)

end Call

/-- A mishap that befalls one call. -/
inductive Mishap (α : Type) where
  /-- The call fails before it reaches the service. -/
  | lost (error : ServiceError)
  /-- The service is called, but its answer, unless it is an error itself, is lost. -/
  | unanswered (error : ServiceError)
  /-- An answer is made up, and the service is not called. -/
  | forged (answer : α)
  deriving Inhabited

namespace Mishap

variable {α σ : Type}

/-- A call under a mishap. -/
def befall (mishap : Mishap α) (a : Action σ α) : Action σ α :=
  match mishap with
  | lost e => throw e
  | unanswered e => do
    let _ ← a
    throw e
  | forged answer => return answer

end Mishap

/-- The services in one process, and the identifiers that they and the gateway draw. -/
structure Backend where
  stores : Stores
  supply : Uid.Supply

/-- The services answer every call, and no mishap befalls any. -/
def Handler.inProcess : Handler Backend where
  answer c b :=
    let (fresh, supply) := b.supply.draw
    let (o, stores) := (c.serve fresh).perform b.stores
    (o, { stores, supply })
  draw b :=
    let (uid, supply) := b.supply.draw
    (uid, { b with supply })

end HotelBooking
