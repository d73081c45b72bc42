import HotelBooking.Date.Basic
import Mathlib.Algebra.Order.Group.Int
import Mathlib.Order.Basic
import Mathlib.Tactic.SplitIfs

/-!
# The calendar and the count of days

The number of a day grows with the date, so that the nights from one date to a later one are
never negative. The years that dates may have leave room for fewer than `2 ^ 28` nights.
-/

namespace HotelBooking.Date

variable {year : Int} {month month' : Nat}

theorem daysInMonth_le (year : Int) (month : Nat) : daysInMonth year month ≤ 31 := by
  unfold daysInMonth
  split_ifs <;> decide

theorem daysBeforeMonth_succ (year : Int) (pos : 1 ≤ month) :
    daysBeforeMonth year (month + 1) = daysBeforeMonth year month + daysInMonth year month := by
  obtain ⟨m, rfl⟩ := Nat.exists_eq_add_of_le' pos
  simp only [daysBeforeMonth, Nat.add_sub_cancel, List.range_succ, List.foldl_append,
    List.foldl_cons, List.foldl_nil]

theorem daysBeforeMonth_mono (pos : 1 ≤ month) (le : month ≤ month') :
    daysBeforeMonth year month ≤ daysBeforeMonth year month' := by
  induction month', le using Nat.le_induction with
  | base => exact le_rfl
  | succ m le ih =>
      rw [daysBeforeMonth_succ year (pos.trans le)]
      exact ih.trans (Nat.le_add_right _ _)

/-- The twelve months make a year. -/
theorem daysBeforeMonth_end (year : Int) :
    daysBeforeMonth year 13 = if isLeap year then 366 else 365 := by
  cases leap : isLeap year <;> simp [daysBeforeMonth, List.range_succ, daysInMonth, leap]

theorem daysBeforeYear_succ (year : Int) :
    daysBeforeYear (year + 1) = daysBeforeYear year + daysBeforeMonth year 13 := by
  rw [daysBeforeMonth_end]
  simp only [daysBeforeYear, isLeap, Bool.and_eq_true, Bool.or_eq_true, decide_eq_true_eq]
  split_ifs <;> omega

theorem daysBeforeYear_mono {year' : Int} (le : year ≤ year') :
    daysBeforeYear year ≤ daysBeforeYear year' := by
  unfold daysBeforeYear
  omega

/-! ## Days of dates -/

theorem daysBeforeMonth_add_day_le (d : Date) :
    daysBeforeMonth d.year d.month + d.day ≤ daysBeforeMonth d.year (d.month + 1) := by
  obtain ⟨-, -, first, -, -, last⟩ := d.real
  rw [daysBeforeMonth_succ d.year first]
  exact Nat.add_le_add_left last _

/-- A day is not before the first day of its year. -/
theorem daysBeforeYear_le_dayNumber (d : Date) : daysBeforeYear d.year ≤ d.dayNumber := by
  obtain ⟨-, -, -, -, first, -⟩ := d.real
  unfold dayNumber
  omega

/-- A day is before the first day of the next year. -/
theorem dayNumber_lt (d : Date) : d.dayNumber < daysBeforeYear (d.year + 1) := by
  obtain ⟨-, -, -, last, -, -⟩ := d.real
  have month := d.daysBeforeMonth_add_day_le
  have year : daysBeforeMonth d.year (d.month + 1) ≤ daysBeforeMonth d.year 13 :=
    daysBeforeMonth_mono (Nat.le_add_left _ _) (by omega)
  rw [daysBeforeYear_succ]
  unfold dayNumber
  omega

/-- Calendar order, by the first of year, month and day that differs. -/
theorem le_iff (a b : Date) : a ≤ b ↔ a.year < b.year ∨
    a.year = b.year ∧ (a.month < b.month ∨ a.month = b.month ∧ a.day ≤ b.day) := by
  change le a b = true ↔ _
  simp [le]

theorem dayNumber_mono {a b : Date} (h : a ≤ b) : a.dayNumber ≤ b.dayNumber := by
  rcases (le_iff a b).mp h with years | ⟨year, months | ⟨month, days⟩⟩
  · calc
      a.dayNumber ≤ daysBeforeYear (a.year + 1) := a.dayNumber_lt.le
      _ ≤ daysBeforeYear b.year := daysBeforeYear_mono years
      _ ≤ b.dayNumber := b.daysBeforeYear_le_dayNumber
  · obtain ⟨-, -, -, -, first, -⟩ := b.real
    have upTo := a.daysBeforeMonth_add_day_le
    have behind : daysBeforeMonth a.year (a.month + 1) ≤ daysBeforeMonth a.year b.month :=
      daysBeforeMonth_mono (Nat.le_add_left _ _) months
    unfold dayNumber
    rw [← year]
    omega
  · unfold dayNumber
    rw [year, month]
    omega

theorem nightsUntil_nonneg {start stop : Date} (h : start ≤ stop) : 0 ≤ start.nightsUntil stop :=
  Int.sub_nonneg.mpr (dayNumber_mono h)

/-- No two dates are farther apart. -/
theorem nightsUntil_lt (start stop : Date) : start.nightsUntil stop < 2 ^ 28 := by
  obtain ⟨first, -⟩ := start.real
  obtain ⟨-, last, -⟩ := stop.real
  have low := (daysBeforeYear_mono first).trans start.daysBeforeYear_le_dayNumber
  have high := stop.dayNumber_lt.trans_le (daysBeforeYear_mono (Int.add_le_add_right last 1))
  have span : daysBeforeYear (maxYear + 1) - daysBeforeYear minYear < 2 ^ 28 := by decide
  unfold nightsUntil
  omega

end HotelBooking.Date
