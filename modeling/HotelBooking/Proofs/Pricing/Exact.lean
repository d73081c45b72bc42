import HotelBooking.Pricing.Stay
import HotelBooking.Proofs.Date.Calendar
import HotelBooking.Proofs.StayRequest
import HotelBooking.Proofs.Text.Width
import Mathlib.Tactic.Linarith

/-!
# What a stay comes to

The nights of a stay that passed its check are not negative, and they are so few that with any
price of 32 bits they come to an amount of 64 bits. So its price fails in one way only, when the
amount that is left of it does not fit into 32 bits.
-/

namespace HotelBooking.Pricing

variable {nights : Int} {nightlyPrice discount price : Int32}

/-- What is to be paid, before it has to fit into 32 bits. -/
def total (nights : Int) (nightlyPrice discount : Int32) : Int :=
  if 0 < discount then discounted (nights * nightlyPrice.toInt) discount
  else nights * nightlyPrice.toInt

theorem total_of_discount_le_zero (none : discount ≤ 0) :
    total nights nightlyPrice discount = nights * nightlyPrice.toInt := by
  rw [total, if_neg]
  rw [Int32.le_iff_toInt_le] at none
  rw [Int32.lt_iff_toInt_lt]
  omega

/-- Fewer than `2 ^ 28` nights at any price come to an amount of 64 bits. -/
theorem amount_fits (nonneg : 0 ≤ nights) (few : nights < 2 ^ 28) (nightlyPrice : Int32) :
    Int64.minValue.toInt ≤ nights * nightlyPrice.toInt ∧
      nights * nightlyPrice.toInt ≤ Int64.maxValue.toInt := by
  have low : -2 ^ 31 ≤ nightlyPrice.toInt := nightlyPrice.le_toInt
  have high : nightlyPrice.toInt < 2 ^ 31 := nightlyPrice.toInt_lt
  rw [Int64.toInt_minValue, Int64.toInt_maxValue]
  constructor <;> nlinarith

/-- There is a price, or it is out of range, where the amount is one of 64 bits. -/
theorem stayPrice_of_amount (nonneg : 0 ≤ nights)
    (amount : Int64.minValue.toInt ≤ nights * nightlyPrice.toInt ∧
      nights * nightlyPrice.toInt ≤ Int64.maxValue.toInt) :
    stayPrice nights nightlyPrice discount =
      match int32? (total nights nightlyPrice discount) with
      | some price => .ok price
      | none => .error (.priceOutOfRange (total nights nightlyPrice discount)) := by
  have fits : ¬ (int64? (nights * nightlyPrice.toInt)).isNone := by
    rwa [Option.isNone_iff_eq_none, int64?_eq_none_iff, not_not]
  rw [stayPrice, if_neg (by omega)]
  exact if_neg fits

/-- There is a price, or it is out of range. -/
theorem stayPrice_eq (nonneg : 0 ≤ nights) (few : nights < 2 ^ 28) :
    stayPrice nights nightlyPrice discount =
      match int32? (total nights nightlyPrice discount) with
      | some price => .ok price
      | none => .error (.priceOutOfRange (total nights nightlyPrice discount)) :=
  stayPrice_of_amount nonneg (amount_fits nonneg few nightlyPrice)

theorem stayPrice_eq_ok_iff (nonneg : 0 ≤ nights) (few : nights < 2 ^ 28) :
    stayPrice nights nightlyPrice discount = .ok price ↔
      price.toInt = total nights nightlyPrice discount := by
  rw [stayPrice_eq nonneg few, ← int32?_eq_some_iff]
  cases int32? (total nights nightlyPrice discount) <;> simp

theorem stayPrice_eq_error_iff (nonneg : 0 ≤ nights) (few : nights < 2 ^ 28) {e : ServiceError} :
    stayPrice nights nightlyPrice discount = .error e ↔
      ¬ (Int32.minValue.toInt ≤ total nights nightlyPrice discount ∧
        total nights nightlyPrice discount ≤ Int32.maxValue.toInt) ∧
      e = .priceOutOfRange (total nights nightlyPrice discount) := by
  rw [stayPrice_eq nonneg few, ← int32?_eq_none_iff]
  cases int32? (total nights nightlyPrice discount) <;> simp [eq_comm]

theorem exists_stayPrice_iff (nonneg : 0 ≤ nights) (few : nights < 2 ^ 28) :
    (∃ price, stayPrice nights nightlyPrice discount = .ok price) ↔
      Int32.minValue.toInt ≤ total nights nightlyPrice discount ∧
        total nights nightlyPrice discount ≤ Int32.maxValue.toInt := by
  constructor
  · rintro ⟨price, priced⟩
    rw [← (stayPrice_eq_ok_iff nonneg few).mp priced]
    exact ⟨price.minValue_le_toInt, price.toInt_le⟩
  · intro range
    cases priced : stayPrice nights nightlyPrice discount with
    | ok price => exact ⟨price, rfl⟩
    | error e => exact absurd range ((stayPrice_eq_error_iff nonneg few).mp priced).1

/-! ## Errors are told apart by their texts -/

theorem priceOutOfRange_ne_negativeStay (amount nights : Int) :
    ServiceError.priceOutOfRange amount ≠ .negativeStay nights := by
  intro same
  have text := congrArg (fun t => t.toList.head?) (ServiceError.invalidParameters.inj same)
  simp at text

theorem priceOutOfRange_ne_priceOverflow (amount : Int) :
    ServiceError.priceOutOfRange amount ≠ .priceOverflow := by
  intro same
  have text := congrArg (fun t => t.toList.reverse.head?) (ServiceError.invalidParameters.inj same)
  simp at text

theorem stayPrice_ne_negativeStay (nonneg : 0 ≤ nights) (few : nights < 2 ^ 28) (nights' : Int) :
    stayPrice nights nightlyPrice discount ≠ .error (.negativeStay nights') := by
  intro failed
  obtain ⟨-, named⟩ := (stayPrice_eq_error_iff nonneg few).mp failed
  exact priceOutOfRange_ne_negativeStay _ nights' named.symm

theorem stayPrice_ne_priceOverflow (nonneg : 0 ≤ nights) (few : nights < 2 ^ 28) :
    stayPrice nights nightlyPrice discount ≠ .error .priceOverflow := by
  intro failed
  obtain ⟨-, named⟩ := (stayPrice_eq_error_iff nonneg few).mp failed
  exact priceOutOfRange_ne_priceOverflow _ named.symm

end HotelBooking.Pricing

namespace HotelBooking.StayRequest

variable {request : BookingRequest} {stay : StayRequest}

theorem nights_nonneg_of_check (passed : check request = .ok stay) : 0 ≤ stay.nights :=
  Date.nightsUntil_nonneg (ordered_of_check passed)

theorem nights_lt (stay : StayRequest) : stay.nights < 2 ^ 28 :=
  stay.startDate.nightsUntil_lt stay.endDate

end HotelBooking.StayRequest
