import HotelBooking.Text.Decimal

/-!
# Integers of 32 and 64 bits

An integer becomes one of limited width exactly when it is in the range, and is not changed by it.
-/

namespace HotelBooking

variable {n : Int}

theorem int32?_eq_some_iff {k : Int32} : int32? n = some k ↔ k.toInt = n := by
  constructor
  · intro made
    rw [int32?] at made
    split at made
    · rename_i range
      rw [Int32.toInt_minValue, Int32.toInt_maxValue] at range
      cases made
      exact Int32.toInt_ofInt_of_le (by omega) (by omega)
    · cases made
  · rintro rfl
    exact int32?_toInt k

theorem int32?_eq_none_iff :
    int32? n = none ↔ ¬ (Int32.minValue.toInt ≤ n ∧ n ≤ Int32.maxValue.toInt) := by
  rw [int32?]
  split <;> simp_all

theorem int64?_eq_some_iff {k : Int64} : int64? n = some k ↔ k.toInt = n := by
  constructor
  · intro made
    rw [int64?] at made
    split at made
    · rename_i range
      rw [Int64.toInt_minValue, Int64.toInt_maxValue] at range
      cases made
      exact Int64.toInt_ofInt_of_le (by omega) (by omega)
    · cases made
  · rintro rfl
    exact int64?_toInt k

theorem int64?_eq_none_iff :
    int64? n = none ↔ ¬ (Int64.minValue.toInt ≤ n ∧ n ≤ Int64.maxValue.toInt) := by
  rw [int64?]
  split <;> simp_all

end HotelBooking
