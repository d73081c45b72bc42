import HotelBooking.Loyalty
import HotelBooking.Proofs.Binary64.Rounding
import HotelBooking.Proofs.Pricing.Exact

/-!
# Discounted prices

What is left of an amount after the discount of a tier is computed in binary64, with an error far
below the hundredth part of a unit. So it is rounded as the exact share is wherever that is not
half-way between two integers. Half-way, the discounts of 5 and 10 percent still give the exact
share, since the error of the factor is less than half the last bit of any product with it. The
factor for 7 percent is too far off for that, and some shares half-way are rounded down.
-/

namespace HotelBooking.Pricing

open Binary64

variable {raw : Int} {tier : Tier} {x y : ℚ} {hundredths e : ℤ}

/-! ## Rounding what is nearly a number of hundredths -/

/-- The rounded value of a number of hundredths. -/
theorem isRoundedAway_hundredths (nonneg : 0 ≤ hundredths) :
    IsRoundedAway (hundredths / 100 : ℚ) e ↔ (hundredths + 50) / 100 = e := by
  have floor : ⌊(hundredths / 100 : ℚ) + 1 / 2⌋ = (hundredths + 50) / 100 := by
    have joined : (hundredths / 100 : ℚ) + 1 / 2 = ((hundredths + 50 : ℤ) : ℚ) / (100 : ℕ) := by
      push_cast
      ring
    rw [joined, Int.floor_div_natCast, Int.floor_intCast]
    rfl
  have nonneg : 0 ≤ (hundredths / 100 : ℚ) := by
    have : (0 : ℚ) ≤ hundredths := by exact_mod_cast nonneg
    positivity
  rw [isRoundedAway_iff_of_nonneg nonneg, floor]

/-- A number that differs by less than a hundredth is rounded the same or, half-way, down. -/
theorem roundHalfAway_of_near (nonneg : 0 ≤ y) (near : |y - hundredths / 100| < 1 / 100) :
    roundHalfAway y = (hundredths + 50) / 100 ∨
      hundredths % 100 = 50 ∧ roundHalfAway y = (hundredths + 50) / 100 - 1 := by
  obtain ⟨low, high⟩ := abs_lt.mp near
  have low : (hundredths : ℚ) - 1 < 100 * y := by linarith
  have high : 100 * y < (hundredths : ℚ) + 1 := by linarith
  rw [roundHalfAway, if_pos nonneg]
  change ⌊y + 1 / 2⌋ = _ ∨ _ ∧ ⌊y + 1 / 2⌋ = _
  have below := Int.floor_le (y + 1 / 2)
  have above := Int.lt_floor_add_one (y + 1 / 2)
  generalize ⌊y + 1 / 2⌋ = n at below above ⊢
  have low : hundredths - 1 < 100 * n + 50 := by
    have : (hundredths : ℚ) - 1 < 100 * n + 50 := by linarith
    exact_mod_cast this
  have high : 100 * n - 50 < hundredths + 1 := by
    have : (100 : ℚ) * n - 50 < hundredths + 1 := by linarith
    exact_mod_cast this
  omega

/-! ## The factor of a discount -/

theorem toInt_discount (tier : Tier) : tier.discount.toInt =
    match tier with
    | .bronze => 5
    | .silver => 7
    | .gold => 10 := by
  cases tier <;> rfl

theorem remaining_eq (tier : Tier) : remaining tier.discount =
    match tier with
    | .bronze => 8556839292003942 / 2 ^ 53
    | .silver => 8376695306909122 / 2 ^ 53
    | .gold => 8106479329266893 / 2 ^ 53 := by
  cases tier <;> decide +kernel

theorem remaining_bounds (tier : Tier) :
    0 < remaining tier.discount ∧ remaining tier.discount ≤ 1 := by
  rw [remaining_eq]
  cases tier <;> norm_num

/-- The factor is within the last bit of what it stands for. -/
theorem abs_remaining_sub_le (tier : Tier) :
    |remaining tier.discount - (100 - tier.discount.toInt) / 100| ≤ 1 / 2 ^ 53 := by
  rw [remaining_eq, toInt_discount, abs_le]
  cases tier <;> norm_num

/-- But for 7 percent it is nearer than half the last bit of any product with it. -/
theorem abs_remaining_sub_lt (other : tier ≠ .silver) :
    |remaining tier.discount - (100 - tier.discount.toInt) / 100| * 2 ^ 54 <
      remaining tier.discount := by
  rw [← lt_div_iff₀ (by norm_num), remaining_eq, toInt_discount, abs_lt]
  cases tier with
  | silver => exact absurd rfl other
  | _ => norm_num

/-! ## What is left of an amount -/

/-- What a tier leaves of an amount, exactly, in hundredths. -/
def exactHundredths (raw : Int) (tier : Tier) : Int :=
  raw * (100 - tier.discount.toInt)

/-- What a tier leaves of an amount, rounded. -/
def roundedShare (raw : Int) (tier : Tier) : Int :=
  (exactHundredths raw tier + 50) / 100

theorem exactHundredths_eq (raw : Int) (tier : Tier) : exactHundredths raw tier =
    match tier with
    | .bronze => raw * 95
    | .silver => raw * 93
    | .gold => raw * 90 := by
  rw [exactHundredths, toInt_discount]
  cases tier <;> rfl

theorem exactHundredths_nonneg (nonneg : 0 ≤ raw) (tier : Tier) :
    0 ≤ exactHundredths raw tier := by
  rw [exactHundredths_eq]
  cases tier <;> simp only <;> omega

theorem roundedShare_nonneg (nonneg : 0 ≤ raw) (tier : Tier) : 0 ≤ roundedShare raw tier := by
  have := exactHundredths_nonneg nonneg tier
  rw [roundedShare]
  omega

theorem roundedShare_le (nonneg : 0 ≤ raw) (tier : Tier) : roundedShare raw tier ≤ raw := by
  rw [roundedShare, exactHundredths_eq]
  cases tier <;> simp only <;> omega

theorem roundedShare_pos (pos : 0 < raw) (tier : Tier) : 0 < roundedShare raw tier := by
  rw [roundedShare, exactHundredths_eq]
  cases tier <;> simp only <;> omega

/-- A share is at least nine tenths of its amount. -/
theorem lt_of_roundedShare_lt (few : roundedShare raw tier < 2 ^ 31) : raw < 2 ^ 32 := by
  rw [roundedShare, exactHundredths_eq] at few
  cases tier <;> simp only at few <;> omega

/-- The product with the factor, before it is rounded. -/
theorem abs_product_sub_eq (nonneg : 0 ≤ raw) (tier : Tier) :
    |raw * remaining tier.discount - exactHundredths raw tier / 100| =
      raw * |remaining tier.discount - (100 - tier.discount.toInt) / 100| := by
  have nonneg : (0 : ℚ) ≤ raw := by exact_mod_cast nonneg
  rw [← abs_of_nonneg nonneg, ← abs_mul, abs_of_nonneg nonneg, exactHundredths]
  congr 1
  push_cast
  ring

theorem product_eq (few : |(raw : ℚ)| ≤ 2 ^ 53) (tier : Tier) :
    mul (nearest raw) (remaining tier.discount) = nearest (raw * remaining tier.discount) := by
  rw [mul, nearest_intCast few]

theorem abs_nearest_product_sub_lt (pos : 0 < raw) (few : raw < 2 ^ 32) (tier : Tier) :
    |nearest (raw * remaining tier.discount) - exactHundredths raw tier / 100| < 1 / 100 := by
  obtain ⟨factor_pos, factor_le⟩ := remaining_bounds tier
  have pos' : (0 : ℚ) < raw := by exact_mod_cast pos
  have few' : (raw : ℚ) < 2 ^ 32 := by exact_mod_cast few
  have product_pos : (0 : ℚ) < raw * remaining tier.discount := mul_pos pos' factor_pos
  have product_le : raw * remaining tier.discount ≤ raw := mul_le_of_le_one_right pos'.le factor_le
  have last := unit_mul_le product_pos.ne'
  rw [abs_of_pos product_pos] at last
  have rounded := abs_nearest_sub_le (raw * remaining tier.discount)
  have computed : |raw * remaining tier.discount - exactHundredths raw tier / 100| ≤
      raw * (1 / 2 ^ 53) := by
    rw [abs_product_sub_eq pos.le]
    exact mul_le_mul_of_nonneg_left (abs_remaining_sub_le tier) pos'.le
  calc |nearest (raw * remaining tier.discount) - exactHundredths raw tier / 100|
      ≤ |nearest (raw * remaining tier.discount) - raw * remaining tier.discount| +
          |raw * remaining tier.discount - exactHundredths raw tier / 100| := abs_sub_le _ _ _
    _ < 1 / 100 := by linarith

/-- Half-way between two integers the product is the exact share, but for 7 percent. -/
theorem nearest_product_eq (pos : 0 < raw) (few : raw < 2 ^ 32) (other : tier ≠ .silver)
    (half : exactHundredths raw tier % 100 = 50) :
    nearest (raw * remaining tier.discount) = exactHundredths raw tier / 100 := by
  obtain ⟨factor_pos, factor_le⟩ := remaining_bounds tier
  have pos' : (0 : ℚ) < raw := by exact_mod_cast pos
  have few' : (raw : ℚ) < 2 ^ 32 := by exact_mod_cast few
  have product_pos : (0 : ℚ) < raw * remaining tier.discount := mul_pos pos' factor_pos
  have product_le : raw * remaining tier.discount ≤ raw := mul_le_of_le_one_right pos'.le factor_le
  obtain ⟨m, halves⟩ : ∃ m : ℤ, exactHundredths raw tier = 50 * m :=
    ⟨exactHundredths raw tier / 50, by omega⟩
  have share : (exactHundredths raw tier / 100 : ℚ) = m * 2 ^ (-1 : ℤ) := by
    rw [halves]
    push_cast
    norm_num
    ring
  have coarse : exponent (raw * remaining tier.discount) - 52 ≤ -1 := by
    have := exponent_lt (k := 32) product_pos.ne' (by
      rw [abs_of_pos product_pos]
      exact_mod_cast product_le.trans_lt few')
    omega
  rw [share]
  refine nearest_eq_of_near coarse ?_
  rw [← share, abs_product_sub_eq pos.le]
  have factor := mul_lt_mul_of_pos_left (abs_remaining_sub_lt other) pos'
  have last := lt_unit_mul product_pos.ne'
  rw [abs_of_pos product_pos] at last
  linarith

/-- The computed share is rounded as the exact one is, but for 7 percent half-way, where it may
be rounded down. -/
theorem roundHalfAway_product (nonneg : 0 ≤ raw) (few : raw < 2 ^ 32) (tier : Tier) :
    roundHalfAway (nearest (raw * remaining tier.discount)) = roundedShare raw tier ∨
      (tier = .silver ∧ raw % 100 = 50) ∧
        roundHalfAway (nearest (raw * remaining tier.discount)) = roundedShare raw tier - 1 := by
  rcases eq_or_lt_of_le nonneg with rfl | pos
  · left
    rw [Int.cast_zero, zero_mul, nearest_zero, roundedShare, exactHundredths, Int.zero_mul]
    decide +kernel
  have near := abs_nearest_product_sub_lt pos few tier
  have computed_nonneg : 0 ≤ nearest (raw * remaining tier.discount) := by
    have : 50 ≤ exactHundredths raw tier := by
      rw [exactHundredths_eq]
      cases tier <;> simp only <;> omega
    have : (50 : ℚ) ≤ exactHundredths raw tier := by exact_mod_cast this
    linarith [(abs_lt.mp near).1]
  rcases roundHalfAway_of_near computed_nonneg near with same | ⟨half, down⟩
  · exact .inl same
  by_cases silver : tier = .silver
  · subst silver
    rw [exactHundredths_eq] at half
    exact .inr ⟨⟨rfl, by simp only at half; omega⟩, down⟩
  · left
    rw [nearest_product_eq pos few silver half, roundHalfAway_eq_iff,
      isRoundedAway_hundredths (exactHundredths_nonneg nonneg tier), roundedShare]

/-! ## The price -/

variable {nights : Int} {nightlyPrice : Int32}

theorem total_of_tier (tier : Tier) (nonneg : 0 ≤ nights * nightlyPrice.toInt)
    (few : nights * nightlyPrice.toInt < 2 ^ 32) :
    total nights nightlyPrice tier.discount =
      clamp64 (roundHalfAway (nearest ((nights * nightlyPrice.toInt : ℤ) *
        remaining tier.discount))) := by
  have some_discount : 0 < tier.discount := by cases tier <;> decide
  have bits : |((nights * nightlyPrice.toInt : ℤ) : ℚ)| ≤ 2 ^ 53 := by
    have few : ((nights * nightlyPrice.toInt : ℤ) : ℚ) < 2 ^ 32 := by exact_mod_cast few
    rw [abs_of_nonneg (by exact_mod_cast nonneg)]
    linarith
  rw [total, if_pos some_discount, discounted, ← product_eq bits]

/-- A share of 32 bits is the price, or one more than the price. -/
theorem exists_stayPrice_of_tier (tier : Tier) (stay : 0 ≤ nights)
    (nonneg : 0 ≤ nights * nightlyPrice.toInt)
    (few : roundedShare (nights * nightlyPrice.toInt) tier < 2 ^ 31) :
    ∃ price, stayPrice nights nightlyPrice tier.discount = .ok price ∧
      (price.toInt = roundedShare (nights * nightlyPrice.toInt) tier ∨
        (tier = .silver ∧ nights * nightlyPrice.toInt % 100 = 50) ∧
          price.toInt = roundedShare (nights * nightlyPrice.toInt) tier - 1) := by
  have amount := lt_of_roundedShare_lt few
  have total := total_of_tier tier nonneg amount
  have computed := roundHalfAway_product nonneg amount tier
  have share_nonneg := roundedShare_nonneg nonneg tier
  have fits : Int64.minValue.toInt ≤ nights * nightlyPrice.toInt ∧
      nights * nightlyPrice.toInt ≤ Int64.maxValue.toInt := by
    rw [Int64.toInt_minValue, Int64.toInt_maxValue]
    omega
  rw [stayPrice_of_amount stay fits, total]
  generalize roundHalfAway (nearest ((nights * nightlyPrice.toInt : ℤ) *
    remaining tier.discount)) = rounded at computed ⊢
  have range : Int32.minValue.toInt ≤ clamp64 rounded ∧ clamp64 rounded ≤ Int32.maxValue.toInt ∧
      clamp64 rounded = rounded := by
    rw [clamp64, Int64.toInt_minValue, Int64.toInt_maxValue, Int32.toInt_minValue,
      Int32.toInt_maxValue]
    omega
  obtain ⟨low, high, unclamped⟩ := range
  cases made : int32? (clamp64 rounded) with
  | none => exact absurd ⟨low, high⟩ (int32?_eq_none_iff.mp made)
  | some price =>
      refine ⟨price, rfl, ?_⟩
      rw [int32?_eq_some_iff.mp made, unclamped]
      exact computed

/-- With the discount of a tier the price of a stay whose amount is not negative is the exact
share of that amount, rounded with halves away from zero, where that is a number of 32 bits. Only
with 7 percent and an amount that leaves 50 when divided by 100 it may be one less. -/
theorem discounted_prices_rounded (tier : Tier) (nights : Int) (nightlyPrice : Int32) (e : Int)
    (nonneg : 0 ≤ nights * nightlyPrice.toInt)
    (rounded : IsRoundedAway
      (((nights * nightlyPrice.toInt * (100 - tier.discount.toInt) : ℤ) : ℚ) / 100) e)
    (fits : e ≤ Int32.maxValue.toInt) :
    let raw := nights * nightlyPrice.toInt
    (nights < 0 →
      stayPrice nights nightlyPrice tier.discount = .error (.negativeStay nights)) ∧
    (0 ≤ nights → ∃ price, stayPrice nights nightlyPrice tier.discount = .ok price ∧
      (¬ (tier.discount = 7 ∧ raw % 100 = 50) → price.toInt = e) ∧
      (price.toInt = e ∨ price.toInt = e - 1) ∧ 0 ≤ price.toInt ∧ price.toInt ≤ raw) := by
  dsimp only
  refine ⟨fun negative => if_pos negative, fun stay => ?_⟩
  have share : roundedShare (nights * nightlyPrice.toInt) tier = e :=
    (isRoundedAway_hundredths (exactHundredths_nonneg nonneg tier)).mp rounded
  rw [Int32.toInt_maxValue] at fits
  have share_nonneg := roundedShare_nonneg nonneg tier
  have share_le := roundedShare_le nonneg tier
  obtain ⟨price, priced, exactly | ⟨⟨silver, half⟩, less⟩⟩ :=
    exists_stayPrice_of_tier tier stay nonneg (by omega)
  · exact ⟨price, priced, fun _ => by omega, by omega, by omega, by omega⟩
  · have pos : 0 < roundedShare (nights * nightlyPrice.toInt) tier :=
      roundedShare_pos (by omega) tier
    refine ⟨price, priced, fun regular => ?_, by omega, by omega, by omega⟩
    exact absurd ⟨silver ▸ rfl, half⟩ regular

/-- At 250 less 7 percent the share is 232.5, which the price falls short of by that half. -/
theorem silver_rounded_down :
    0 ≤ (1 : Int) * (250 : Int32).toInt ∧
      IsRoundedAway (((1 * (250 : Int32).toInt * (100 - Tier.silver.discount.toInt) : ℤ) : ℚ) / 100)
        233 ∧ (233 : Int) ≤ Int32.maxValue.toInt ∧ ∃ price : Int32,
        stayPrice 1 250 Tier.silver.discount = .ok price ∧ price.toInt = 232 ∧
          (price.toInt = 233 ∨ price.toInt = 233 - 1) ∧ 0 ≤ price.toInt ∧ price.toInt ≤ 250 := by
  have nonneg : 0 ≤ (1 : Int) * (250 : Int32).toInt := by decide
  have share : IsRoundedAway
      (((1 * (250 : Int32).toInt * (100 - Tier.silver.discount.toInt) : ℤ) : ℚ) / 100) 233 := by
    rw [← roundHalfAway_eq_iff]
    decide +kernel
  have fits : (233 : Int) ≤ Int32.maxValue.toInt := by decide
  have computed : stayPrice 1 250 Tier.silver.discount = .ok 232 := by decide +kernel
  obtain ⟨-, priced⟩ := discounted_prices_rounded .silver 1 250 233 nonneg share fits
  obtain ⟨price, made, -, near, low, high⟩ := priced (by decide)
  cases computed.symm.trans made
  exact ⟨nonneg, share, fits, 232, computed, rfl, near, low, high⟩

end HotelBooking.Pricing
