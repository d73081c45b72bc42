import HotelBooking.Binary64.Rounding
import Mathlib.Algebra.Order.Field.Power
import Mathlib.Data.Rat.Floor
import Mathlib.Tactic.Linarith
import Mathlib.Tactic.NormNum
import Mathlib.Tactic.Ring

/-!
# How far rounding goes

Rounding to an integer moves a number by one half at most, and rounding to binary64 by half the
weight of its last bit, which is between the 53rd and the 52nd part of two of the number. A
number that has 53 bits, and any other that is nearer to it than half that weight, is rounded
to it. No other number of 53 bits is nearer to the one that is rounded.
-/

namespace HotelBooking.Binary64

variable {q x : ℚ} {n : ℤ}

/-! ## To integers -/

theorem roundHalfEven_cases (q : ℚ) :
    roundHalfEven q = ⌊q⌋ ∧ q - ⌊q⌋ ≤ 1 / 2 ∨ roundHalfEven q = ⌊q⌋ + 1 ∧ 1 / 2 ≤ q - ⌊q⌋ := by
  have below : q.floor = ⌊q⌋ := rfl
  unfold roundHalfEven
  simp only [below]
  split_ifs with low high even
  · exact .inl ⟨rfl, low.le⟩
  · exact .inr ⟨rfl, high.le⟩
  · exact .inl ⟨rfl, not_lt.mp high⟩
  · exact .inr ⟨rfl, not_lt.mp low⟩

theorem abs_roundHalfEven_sub_le (q : ℚ) : |roundHalfEven q - q| ≤ 1 / 2 := by
  have below := Int.floor_le q
  have above := Int.lt_floor_add_one q
  rw [abs_le]
  rcases roundHalfEven_cases q with ⟨chosen, near⟩ | ⟨chosen, near⟩ <;> rw [chosen] <;>
    push_cast <;> constructor <;> linarith

theorem roundHalfEven_eq_of_near (near : |q - n| < 1 / 2) : roundHalfEven q = n := by
  have moved := abs_roundHalfEven_sub_le q
  rw [abs_lt] at near
  rw [abs_le] at moved
  have less : ((roundHalfEven q - n : ℤ) : ℚ) < 1 := by
    push_cast
    linarith
  have more : (-1 : ℚ) < ((roundHalfEven q - n : ℤ) : ℚ) := by
    push_cast
    linarith
  have less : roundHalfEven q - n < 1 := by exact_mod_cast less
  have more : -1 < roundHalfEven q - n := by exact_mod_cast more
  omega

/-- No integer is nearer. -/
theorem abs_roundHalfEven_sub_le_abs (q : ℚ) (n : ℤ) : |roundHalfEven q - q| ≤ |n - q| := by
  by_cases same : n = roundHalfEven q
  · rw [same]
  have apart : (1 : ℚ) ≤ |((n - roundHalfEven q : ℤ) : ℚ)| := by
    exact_mod_cast Int.one_le_abs (sub_ne_zero.mpr same)
  have moved := abs_roundHalfEven_sub_le q
  have triangle := abs_sub_le (n : ℚ) q (roundHalfEven q)
  rw [abs_sub_comm q] at triangle
  push_cast at apart
  linarith

/-- The nearest integer, which for halves is the one further from zero. -/
structure IsRoundedAway (x : ℚ) (n : ℤ) : Prop where
  near : |x - n| ≤ 1 / 2
  away : |x - n| = 1 / 2 → |x| ≤ |(n : ℚ)|

theorem isRoundedAway_neg : IsRoundedAway (-x) (-n) ↔ IsRoundedAway x n := by
  have distance : |-x - ((-n : ℤ) : ℚ)| = |x - n| := by
    rw [← abs_neg (x - n)]
    push_cast
    ring_nf
  have size : |((-n : ℤ) : ℚ)| = |(n : ℚ)| := by
    push_cast
    exact abs_neg _
  constructor
  · rintro ⟨near, away⟩
    rw [distance] at near away
    rw [size, abs_neg] at away
    exact ⟨near, away⟩
  · rintro ⟨near, away⟩
    rw [← distance] at near away
    rw [← size, ← abs_neg x] at away
    exact ⟨near, away⟩

theorem isRoundedAway_iff_of_nonneg (nonneg : 0 ≤ x) : IsRoundedAway x n ↔ ⌊x + 1 / 2⌋ = n := by
  rw [Int.floor_eq_iff]
  constructor
  · rintro ⟨near, away⟩
    obtain ⟨low, high⟩ := abs_le.mp near
    refine ⟨by linarith, lt_of_le_of_ne (by linarith) fun half => ?_⟩
    -- At the half below `x` the integer would have to be further from zero than `x`.
    have distance : x - n = 1 / 2 := by linarith
    have natural : 0 ≤ n := by
      have : (-1 : ℚ) < n := by linarith
      have : -1 < n := by exact_mod_cast this
      omega
    have further := away (by rw [distance]; norm_num)
    rw [abs_of_nonneg nonneg, abs_of_nonneg (by exact_mod_cast natural)] at further
    linarith
  · rintro ⟨low, high⟩
    refine ⟨abs_le.mpr ⟨by linarith, by linarith⟩, fun half => ?_⟩
    have distance : x - n = -(1 / 2) := by
      rcases (abs_eq (by norm_num)).mp half with above | below
      · linarith
      · exact below
    have further : x ≤ n := by linarith
    rwa [abs_of_nonneg nonneg, abs_of_nonneg (nonneg.trans further)]

theorem roundHalfAway_eq_iff : roundHalfAway x = n ↔ IsRoundedAway x n := by
  unfold roundHalfAway
  split_ifs with nonneg
  · exact (isRoundedAway_iff_of_nonneg nonneg).symm
  · have positive : 0 ≤ -x := by linarith
    rw [← isRoundedAway_neg, isRoundedAway_iff_of_nonneg positive, neg_eq_iff_eq_neg]
    rfl

/-! ## The weight of the last bit -/

/-- Numerator and denominator tell the exponent up to one. -/
theorem abs_bounds (nonzero : q ≠ 0) :
    (2 : ℚ) ^ ((q.num.natAbs.log2 : ℤ) - q.den.log2 - 1) ≤ |q| ∧
      |q| < (2 : ℚ) ^ ((q.num.natAbs.log2 : ℤ) - q.den.log2 + 1) := by
  have num_ne : q.num.natAbs ≠ 0 := Int.natAbs_ne_zero.mpr (Rat.num_ne_zero.mpr nonzero)
  have num_low : (2 : ℚ) ^ q.num.natAbs.log2 ≤ q.num.natAbs := by
    exact_mod_cast Nat.log2_self_le num_ne
  have num_high : (q.num.natAbs : ℚ) < 2 ^ (q.num.natAbs.log2 + 1) := by
    exact_mod_cast Nat.lt_log2_self
  have den_low : (2 : ℚ) ^ q.den.log2 ≤ q.den := by
    exact_mod_cast Nat.log2_self_le q.den_nz
  have den_high : (q.den : ℚ) < 2 ^ (q.den.log2 + 1) := by
    exact_mod_cast Nat.lt_log2_self
  have value : |q| = q.num.natAbs / q.den := by
    rw [Rat.abs_def, Rat.divInt_eq_div, Int.cast_natCast, Int.cast_natCast]
  have den_pos : (0 : ℚ) < q.den := by exact_mod_cast q.den_pos
  have den_power : (0 : ℚ) < 2 ^ q.den.log2 := by positivity
  rw [value]
  constructor
  · rw [le_div_iff₀ den_pos]
    calc (2 : ℚ) ^ ((q.num.natAbs.log2 : ℤ) - q.den.log2 - 1) * q.den
        ≤ 2 ^ ((q.num.natAbs.log2 : ℤ) - q.den.log2 - 1) * 2 ^ (q.den.log2 + 1) := by gcongr
      _ = 2 ^ q.num.natAbs.log2 := by
          rw [← zpow_natCast, ← zpow_natCast, ← zpow_add₀ (by norm_num)]
          congr 1
          push_cast
          ring
      _ ≤ q.num.natAbs := num_low
  · rw [div_lt_iff₀ den_pos]
    calc (q.num.natAbs : ℚ) < 2 ^ (q.num.natAbs.log2 + 1) := num_high
      _ = 2 ^ ((q.num.natAbs.log2 : ℤ) - q.den.log2 + 1) * 2 ^ q.den.log2 := by
          rw [← zpow_natCast, ← zpow_natCast, ← zpow_add₀ (by norm_num)]
          congr 1
          push_cast
          ring
      _ ≤ 2 ^ ((q.num.natAbs.log2 : ℤ) - q.den.log2 + 1) * q.den := by gcongr

/-- The exponent is that of the leading bit. -/
theorem exponent_spec (nonzero : q ≠ 0) :
    (2 : ℚ) ^ exponent q ≤ |q| ∧ |q| < (2 : ℚ) ^ (exponent q + 1) := by
  have size : (if 0 ≤ q then q else -q) = |q| := by
    split_ifs with nonneg
    · exact (abs_of_nonneg nonneg).symm
    · exact (abs_of_neg (not_le.mp nonneg)).symm
  obtain ⟨low, high⟩ := abs_bounds nonzero
  unfold exponent
  simp only [size]
  split_ifs with reached
  · exact ⟨reached, high⟩
  · refine ⟨low, ?_⟩
    rw [sub_add_cancel]
    exact not_le.mp reached

theorem unit_pos (q : ℚ) : 0 < unit q := zpow_pos (by norm_num) _

theorem unit_mul (q : ℚ) : unit q * 2 ^ 52 = (2 : ℚ) ^ exponent q := by
  have power : unit q = (2 : ℚ) ^ (exponent q - 52) := rfl
  rw [power, ← zpow_natCast, ← zpow_add₀ (by norm_num)]
  congr 1
  push_cast
  ring

theorem unit_mul_le (nonzero : q ≠ 0) : unit q * 2 ^ 52 ≤ |q| := by
  rw [unit_mul]
  exact (exponent_spec nonzero).1

theorem lt_unit_mul (nonzero : q ≠ 0) : |q| < unit q * 2 ^ 53 := by
  have next : unit q * 2 ^ 53 = (2 : ℚ) ^ (exponent q + 1) := by
    rw [zpow_add_one₀ (by norm_num), ← unit_mul]
    ring
  rw [next]
  exact (exponent_spec nonzero).2

/-- A number below a power of two has no finer last bit than one for which that is the next. -/
theorem exponent_lt {k : ℤ} (nonzero : q ≠ 0) (below : |q| < 2 ^ k) : exponent q < k :=
  (zpow_lt_zpow_iff_right₀ (by norm_num)).mp ((exponent_spec nonzero).1.trans_lt below)

/-! ## To binary64 -/

theorem nearest_eq (q : ℚ) : nearest q = roundHalfEven (q / unit q) * unit q := by
  unfold nearest
  split_ifs with zero
  · subst zero
    rw [zero_div, roundHalfEven_eq_of_near (n := 0) (by norm_num)]
    norm_num
  · rfl

@[simp] theorem nearest_zero : nearest 0 = 0 := if_pos rfl

theorem abs_nearest_sub_le (q : ℚ) : |nearest q - q| ≤ unit q / 2 := by
  have pos := unit_pos q
  have whole : nearest q - q = (roundHalfEven (q / unit q) - q / unit q) * unit q := by
    rw [nearest_eq]
    field_simp
  rw [whole, abs_mul, abs_of_pos pos]
  have near := abs_roundHalfEven_sub_le (q / unit q)
  nlinarith

/-- Rounding moves a number by less than the number itself. -/
theorem abs_nearest_sub_le_self (q : ℚ) : |nearest q - q| ≤ |q| := by
  by_cases zero : q = 0
  · simp [zero]
  · have pos := unit_pos q
    have near := abs_nearest_sub_le q
    have last := unit_mul_le zero
    linarith

theorem nearest_nonneg (nonneg : 0 ≤ q) : 0 ≤ nearest q := by
  have near := (abs_le.mp (abs_nearest_sub_le_self q)).1
  rw [abs_of_nonneg nonneg] at near
  linarith

theorem nearest_le_double (nonneg : 0 ≤ q) : nearest q ≤ 2 * q := by
  have near := (abs_le.mp (abs_nearest_sub_le_self q)).2
  rw [abs_of_nonneg nonneg] at near
  linarith

/-- A multiple of a power of two that is not finer than the last bit is a multiple of that. -/
theorem mul_two_zpow_eq (q : ℚ) (m : ℤ) (j : ℕ) :
    (m : ℚ) * 2 ^ (exponent q - 52 + j) = ((m * 2 ^ j : ℤ) : ℚ) * unit q := by
  have power : unit q = (2 : ℚ) ^ (exponent q - 52) := rfl
  rw [power, zpow_add₀ (by norm_num), zpow_natCast]
  push_cast
  ring

/-- Such a multiple is what every number is rounded to that is near enough. -/
theorem nearest_eq_of_near {m k : ℤ} (coarse : exponent q - 52 ≤ k)
    (near : |q - m * 2 ^ k| < unit q / 2) : nearest q = m * 2 ^ k := by
  have pos := unit_pos q
  obtain ⟨j, rfl⟩ := Int.le.dest coarse
  rw [mul_two_zpow_eq] at near ⊢
  rw [nearest_eq, roundHalfEven_eq_of_near (n := m * 2 ^ j)]
  have scaled : q / unit q - ((m * 2 ^ j : ℤ) : ℚ) =
      (q - ((m * 2 ^ j : ℤ) : ℚ) * unit q) / unit q := by
    field_simp
  rw [scaled, abs_div, abs_of_pos pos, div_lt_iff₀ pos]
  linarith

/-- No number of 53 bits is nearer. -/
theorem abs_nearest_sub_le_abs {m k : ℤ} (bits : |(m : ℚ)| ≤ 2 ^ 53) (q : ℚ) :
    |nearest q - q| ≤ |m * 2 ^ k - q| := by
  by_cases zero : q = 0
  · rw [zero, nearest_zero, sub_zero, abs_zero]
    exact abs_nonneg _
  have pos := unit_pos q
  have multiple (n : ℤ) : |nearest q - q| ≤ |n * unit q - q| := by
    have scaled (n : ℤ) : |n * unit q - q| = |n - q / unit q| * unit q := by
      rw [← abs_of_pos pos, ← abs_mul, abs_of_pos pos]
      congr 1
      field_simp
    rw [nearest_eq, scaled, scaled]
    exact mul_le_mul_of_nonneg_right (abs_roundHalfEven_sub_le_abs _ n) pos.le
  by_cases coarse : exponent q - 52 ≤ k
  · obtain ⟨j, rfl⟩ := Int.le.dest coarse
    rw [mul_two_zpow_eq]
    exact multiple (m * 2 ^ j)
  -- A number with a finer last bit is at most as large as the power of two below `q`, and that
  -- power, with the sign of `q`, is at least as near.
  have small : |(m : ℚ) * 2 ^ k| ≤ unit q * 2 ^ 52 := by
    rw [unit_mul, abs_mul, abs_of_pos (by positivity : (0 : ℚ) < 2 ^ k)]
    calc |(m : ℚ)| * 2 ^ k ≤ 2 ^ 53 * 2 ^ k := by gcongr
      _ = 2 ^ (53 + k) := by rw [zpow_add₀ (by norm_num)]; norm_num
      _ ≤ 2 ^ exponent q := zpow_le_zpow_right₀ (by norm_num) (by omega)
  have large := unit_mul_le zero
  have distance : |q| - |(m : ℚ) * 2 ^ k| ≤ |m * 2 ^ k - q| := by
    rw [abs_sub_comm]
    exact abs_sub_abs_le_abs_sub _ _
  obtain ⟨b, power⟩ : ∃ b : ℤ, (b : ℚ) = 2 ^ 52 := ⟨2 ^ 52, by norm_num⟩
  rcases le_total 0 q with nonneg | nonpos
  · have nearer := multiple b
    rw [abs_of_nonneg nonneg] at large distance
    rw [power, abs_of_nonpos (by linarith : 2 ^ 52 * unit q - q ≤ 0)] at nearer
    linarith
  · have nearer := multiple (-b)
    rw [abs_of_nonpos nonpos] at large distance
    rw [Int.cast_neg, power, abs_of_nonneg (by linarith : 0 ≤ -2 ^ 52 * unit q - q)] at nearer
    linarith

/-- A number of 53 bits is left as it is. -/
theorem nearest_of_bits {m k : ℤ} (bits : |(m : ℚ)| ≤ 2 ^ 53) :
    nearest (m * 2 ^ k) = m * 2 ^ k := by
  have closest := abs_nearest_sub_le_abs (k := k) bits (m * 2 ^ k)
  rw [sub_self, abs_zero] at closest
  exact sub_eq_zero.mp (abs_nonpos_iff.mp closest)

theorem nearest_intCast {m : ℤ} (bits : |(m : ℚ)| ≤ 2 ^ 53) : nearest m = m := by
  simpa using nearest_of_bits (k := 0) bits

end HotelBooking.Binary64
