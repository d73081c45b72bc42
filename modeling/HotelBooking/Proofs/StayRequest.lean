import HotelBooking.StayRequest

/-!
# Checked requests

What a request that passes its check is known to be.
-/

namespace HotelBooking

namespace StayRequest

variable {request : BookingRequest} {stay : StayRequest}

/-- A stay that passed the check does not end before it begins. -/
theorem ordered_of_check (passed : check request = .ok stay) : stay.startDate ≤ stay.endDate := by
  simp only [check] at passed
  split at passed
  · rename_i hotelUid startDate endDate _ foundStart foundEnd noErrors
    cases passed
    rw [foundStart, foundEnd] at noErrors
    by_cases ordered : startDate ≤ endDate
    · exact ordered
    · simp [misordered, ordered] at noErrors
  · cases passed

end StayRequest

end HotelBooking
