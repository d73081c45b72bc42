import HotelBooking.Date.Text
import HotelBooking.Error
import HotelBooking.Text.Blank
import HotelBooking.View.Booking

/-!
# Checking a booking request

A stay request is a booking request whose fields have been read. Every broken rule gives
one entry of the report: the hotel's identifier and the two dates are read on their own,
and where both dates are there, they must be in order.
-/

namespace HotelBooking

structure StayRequest where
  hotelUid : Uid
  startDate : Date
  endDate : Date
  deriving DecidableEq, Inhabited

namespace StayRequest

def nights (s : StayRequest) : Int :=
  s.startDate.nightsUntil s.endDate

/-- The report without entries. -/
def blankReport : ValidationReport :=
  { message := "invalid reservation request data", errors := [] }

def invalidUid (field : String) : FieldError := ⟨field, "invalid uid"⟩

def invalidDate (field : String) : FieldError := ⟨field, "invalid date format"⟩

def invalidPeriod : FieldError := ⟨"startDate", "invalid date period"⟩

/-- An entry for a field that could not be read. -/
def missing {α : Type} (value : Option α) (entry : FieldError) : List FieldError :=
  if value.isNone then [entry] else []

/-- An entry for dates that are both there and not in order. -/
def misordered (startDate endDate : Option Date) : List FieldError :=
  match startDate, endDate with
  | some start, some stop => if start ≤ stop then [] else [invalidPeriod]
  | _, _ => []

/-- Read a booking request, or say which rules it breaks. -/
def check (request : BookingRequest) : Except ValidationReport StayRequest :=
  let hotelUid := Uid.ofText? (Text.trim request.hotelUid)
  let startDate := Date.ofText? .tight (Text.trim request.startDate)
  let endDate := Date.ofText? .tight (Text.trim request.endDate)
  let errors := missing hotelUid (invalidUid "hotelUid") ++
    missing startDate (invalidDate "startDate") ++ missing endDate (invalidDate "endDate") ++
    misordered startDate endDate
  match hotelUid, startDate, endDate, errors with
  | some hotelUid, some startDate, some endDate, [] => .ok { hotelUid, startDate, endDate }
  | _, _, _, _ => .error { blankReport with errors }

end StayRequest

end HotelBooking
