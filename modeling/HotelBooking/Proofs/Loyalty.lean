import HotelBooking.Loyalty

/-!
# Counting for loyalty

What registering and releasing a reservation do to the count of a record, as whole numbers.
Counts are 32-bit numbers: registering adds one below the largest of them, and releasing
takes one away above the smallest. Neither leaves a count below none.
-/

namespace HotelBooking

namespace Loyalty

variable {l : Loyalty}

/-- Tier and discount are those of the count. -/
def Tiered (l : Loyalty) : Prop :=
  l.status = Tier.forCount l.reservationCount ∧ l.discount = l.status.discount

theorem max_zero_of_nonneg {n : Int32} (h : 0 ≤ n.toInt) : max n 0 = n := by
  have ordered : (0 : Int32) ≤ n := Int32.le_iff_toInt_le.mpr h
  rcases Int32.lt_or_eq_of_le ordered with below | rfl
  · exact if_neg fun reversed => Int32.lt_irrefl (Int32.lt_of_lt_of_le below reversed)
  · rfl

theorem toInt_max_zero (n : Int32) : (max n 0).toInt = max n.toInt 0 := by
  by_cases below : n ≤ 0
  · have : n.toInt ≤ 0 := Int32.le_iff_toInt_le.mp below
    rw [show max n 0 = 0 from if_pos below, Int.max_eq_right this]
    rfl
  · have : 0 ≤ n.toInt := by
      have := Int32.lt_iff_toInt_lt.mp (Int32.not_le.mp below)
      exact Int.le_of_lt this
    rw [max_zero_of_nonneg this, Int.max_eq_left this]

@[simp] theorem username_recompute (l : Loyalty) : l.recompute.username = l.username := rfl

@[simp] theorem username_register (l : Loyalty) : l.register.username = l.username := rfl

@[simp] theorem username_release (l : Loyalty) : l.release.username = l.username := rfl

@[simp] theorem username_newMember (name : String) : (newMember name).username = name := rfl

theorem tiered_recompute (l : Loyalty) : l.recompute.Tiered := ⟨rfl, rfl⟩

/-- The tiers with their limits and discounts. -/
theorem Tiered.eq_of_count (h : l.Tiered) :
    (l.status, l.discount) =
      if l.reservationCount.toInt ≤ 10 then (.bronze, 5)
      else if l.reservationCount.toInt ≤ 20 then (.silver, 7)
      else (.gold, 10) := by
  obtain ⟨status, discount⟩ := h
  have gold : 20 < l.reservationCount ↔ 20 < l.reservationCount.toInt := Int32.lt_iff_toInt_lt
  have silver : 10 < l.reservationCount ↔ 10 < l.reservationCount.toInt := Int32.lt_iff_toInt_lt
  rw [discount, status, Tier.forCount]
  simp only [gold, silver]
  by_cases many : 20 < l.reservationCount.toInt
  · rw [if_pos many, if_neg (by omega), if_neg (by omega)]
    rfl
  by_cases some_more : 10 < l.reservationCount.toInt
  · rw [if_neg many, if_pos some_more, if_neg (by omega), if_pos (by omega)]
    rfl
  · rw [if_neg many, if_neg some_more, if_pos (by omega)]
    rfl

theorem toInt_count_recompute (l : Loyalty) :
    l.recompute.reservationCount.toInt = max l.reservationCount.toInt 0 :=
  toInt_max_zero l.reservationCount

theorem recompute_recompute (l : Loyalty) : l.recompute.recompute = l.recompute := by
  have nonneg : 0 ≤ l.recompute.reservationCount.toInt := by
    rw [toInt_count_recompute]
    exact Int.le_max_right ..
  rw [recompute, max_zero_of_nonneg nonneg]
  rfl

@[simp] theorem recompute_register (l : Loyalty) : l.register.recompute = l.register :=
  recompute_recompute _

@[simp] theorem recompute_release (l : Loyalty) : l.release.recompute = l.release :=
  recompute_recompute _

/-- Short of the largest count, registering adds one, and to none where a count is negative. -/
theorem toInt_count_register_of_lt (small : l.reservationCount.toInt < Int32.maxValue.toInt) :
    l.register.reservationCount.toInt = max (l.reservationCount.toInt + 1) 0 := by
  have top : Int32.maxValue.toInt = 2147483647 := rfl
  have low := l.reservationCount.le_toInt
  have sum : (l.reservationCount + 1).toInt = l.reservationCount.toInt + 1 := by
    rw [Int32.toInt_add]
    exact Int.bmod_eq_of_le (by simp; omega) (by simp; omega)
  refine (toInt_count_recompute _).trans ?_
  rw [sum]

theorem toInt_count_register (nonneg : 0 ≤ l.reservationCount.toInt)
    (small : l.reservationCount.toInt < Int32.maxValue.toInt) :
    l.register.reservationCount.toInt = l.reservationCount.toInt + 1 := by
  rw [toInt_count_register_of_lt small]
  omega

/-- Above the smallest count, releasing takes one away, though it leaves none at least. -/
theorem toInt_count_release_of_gt (large : Int32.minValue.toInt < l.reservationCount.toInt) :
    l.release.reservationCount.toInt = max (l.reservationCount.toInt - 1) 0 := by
  have bottom : Int32.minValue.toInt = -2147483648 := rfl
  have high := l.reservationCount.toInt_lt
  have difference : (l.reservationCount - 1).toInt = l.reservationCount.toInt - 1 := by
    rw [Int32.toInt_sub]
    exact Int.bmod_eq_of_le (by simp; omega) (by simp; omega)
  refine (toInt_count_recompute _).trans ?_
  rw [difference]

theorem toInt_count_release_of_nonneg (nonneg : 0 ≤ l.reservationCount.toInt) :
    l.release.reservationCount.toInt = max (l.reservationCount.toInt - 1) 0 := by
  have bottom : Int32.minValue.toInt = -2147483648 := rfl
  exact toInt_count_release_of_gt (by omega)

theorem toInt_count_release (some_left : 0 < l.reservationCount.toInt) :
    l.release.reservationCount.toInt = l.reservationCount.toInt - 1 := by
  rw [toInt_count_release_of_nonneg (Int.le_of_lt some_left)]
  omega

end Loyalty

end HotelBooking
