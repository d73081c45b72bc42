import HotelBooking.Hotel
import HotelBooking.Loyalty
import HotelBooking.Payment
import HotelBooking.Reservation

/-!
# Calls to the services

Everything the gateway may ask of the three services, with the type of the answer to
each call. Whoever answers a call says that a thing is missing by a `notFound` error and
reports every other failure otherwise; the gateway relies on nothing else.
-/

namespace HotelBooking

inductive ServiceName where
  | reservation
  | payment
  | loyalty
  deriving DecidableEq, Inhabited

namespace ServiceName

def text : ServiceName → String
  | reservation => "reservation"
  | payment => "payment"
  | loyalty => "loyalty"

end ServiceName

inductive Call where
  | listHotels (page size : Int64)
  | getHotelById (id : Int32)
  | getHotelByUid (uid : Uid)
  /-- The reservations of a user; one that is unknown has none. -/
  | listReservations (username : String)
  | getReservation (uid : Uid)
  | createReservation (r : Reservation)
  | updateReservation (r : Reservation)
  /-- Charge a price; the payment in the answer is paid. -/
  | createPayment (price : Int32)
  | getPayment (uid : Uid)
  | updatePayment (p : Payment)
  | getLoyalty (username : String)
  /-- Create or replace the record of a user. -/
  | updateLoyalty (l : Loyalty)
  deriving DecidableEq, Inhabited

namespace Call

/-- The type of the answer to a call. -/
abbrev Answer : Call → Type
  | listHotels .. => HotelPage
  | getHotelById _ | getHotelByUid _ => Hotel
  | listReservations _ => List Reservation
  | getReservation _ | createReservation _ => Reservation
  | updateReservation _ | updatePayment _ => Unit
  | createPayment _ | getPayment _ => Payment
  | getLoyalty _ | updateLoyalty _ => Loyalty

/-- The service that a call is for. -/
def service : Call → ServiceName
  | listHotels .. | getHotelById _ | getHotelByUid _ | listReservations _ | getReservation _
  | createReservation _ | updateReservation _ => .reservation
  | createPayment _ | getPayment _ | updatePayment _ => .payment
  | getLoyalty _ | updateLoyalty _ => .loyalty

/-- Whether a call can change what a service stores. -/
def isMutating : Call → Bool
  | createReservation _ | updateReservation _ | createPayment _ | updatePayment _
  | updateLoyalty _ => true
  | _ => false

end Call

end HotelBooking
