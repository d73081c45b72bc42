import HotelBooking.Json.Numeral
import HotelBooking.Proofs.Binary64.Rounding
import HotelBooking.Proofs.Text.Decimal
import Mathlib.Tactic.Positivity

/-!
# Whole numbers of 64 bits

All digits of such a number fit into 64 bits, and rounding never doubles a number more than once.
So it is far from the largest binary64 number, and no reader takes it for one beyond that.
-/

namespace HotelBooking

namespace Numeral

theorem leading_append {k m d : Nat} {ds : List Nat} (h : leading k ds = (m, 0))
    (fits : 10 * m + d < UInt64.size) : leading k (ds ++ [d]) = (10 * m + d, 0) := by
  induction ds generalizing k with
  | nil =>
      cases h
      simp [leading, fits]
  | cons d' ds ih =>
      rw [leading] at h
      split_ifs at h with room
      · rw [List.cons_append, leading, if_pos room, ih h]
      · exact absurd (congrArg Prod.snd h) (Nat.succ_ne_zero _)

/-- The digits of a number that fits are all taken. -/
theorem leading_digits {n : Nat} (fits : n < UInt64.size) :
    leading 0 ((Decimal.digits n).filterMap Decimal.digit?) = (n, 0) := by
  fun_induction Decimal.digits n with
  | case1 n small => simp [Decimal.digit?_digitChar small, leading, fits]
  | case2 n large ih =>
      have last : n % 10 < 10 := Nat.mod_lt n (by decide)
      have whole : 10 * (n / 10) + n % 10 = n := Nat.div_add_mod n 10
      have front := leading_append (d := n % 10) (ih (by omega)) (by omega)
      simpa [Decimal.digit?_digitChar last, whole] using front

theorem exceedsBinary64_ofInt {n : Int} (fits : n.natAbs < UInt64.size) :
    (ofInt n).exceedsBinary64 = false := by
  have taken := leading_digits fits
  have form : (ofInt n).whole = n.natAbs ∧ (ofInt n).fraction = [] ∧ (ofInt n).exponent = none := by
    cases n <;> exact ⟨rfl, rfl, rfl⟩
  obtain ⟨whole, fraction, exponent⟩ := form
  have amount : ((n.natAbs : Nat) : Rat) < 2 ^ 64 := by exact_mod_cast fits
  have near := Binary64.nearest_le_double (q := n.natAbs) (by positivity)
  have one := Binary64.nearest_le_double (q := 1) (by decide)
  have product : Binary64.nearest n.natAbs * Binary64.nearest 1 ≤ 4 * n.natAbs := by
    calc Binary64.nearest n.natAbs * Binary64.nearest 1
        ≤ (2 * n.natAbs) * (2 * 1) :=
          mul_le_mul near one (Binary64.nearest_nonneg (by decide)) (by positivity)
      _ = 4 * n.natAbs := by ring
  have bounded : Binary64.mul (Binary64.nearest n.natAbs) (Binary64.nearest 1) < 2 ^ 1024 := by
    calc Binary64.mul (Binary64.nearest n.natAbs) (Binary64.nearest 1)
        ≤ 2 * (Binary64.nearest n.natAbs * Binary64.nearest 1) :=
          Binary64.nearest_le_double (mul_nonneg (Binary64.nearest_nonneg (by positivity))
            (Binary64.nearest_nonneg (by decide)))
      _ ≤ 2 ^ 67 := by linarith
      _ < 2 ^ 1024 := pow_lt_pow_right₀ (by decide) (by decide)
  simp only [exceedsBinary64, whole, fraction, exponent, taken, leading, List.map_nil,
    List.length_nil, Option.getD_none]
  split_ifs with zero huge
  · rfl
  · exact absurd huge (by decide)
  · exact decide_eq_false (not_le_of_gt bounded)

end Numeral

end HotelBooking
