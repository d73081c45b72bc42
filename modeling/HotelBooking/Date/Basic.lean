/-!
# Calendar dates

Dates of the proleptic Gregorian calendar, which has a year 0, in the years -262143 to
262142. A date is a year, a month and a day that exist together; the order is that of
the calendar, and `dayNumber` counts days from the first of the year 0, so that the
distance of two dates is a subtraction.
-/

namespace HotelBooking

namespace Date

def isLeap (year : Int) : Bool :=
  year % 4 = 0 && (year % 100 ≠ 0 || year % 400 = 0)

/-- The number of days of a month, numbered from 1. -/
def daysInMonth (year : Int) (month : Nat) : Nat :=
  if month = 2 then (if isLeap year then 29 else 28)
  else if month = 4 ∨ month = 6 ∨ month = 9 ∨ month = 11 then 30
  else 31

def minYear : Int := -262143

def maxYear : Int := 262142

/-- Whether year, month and day make a date. -/
def Exists (year : Int) (month day : Nat) : Prop :=
  minYear ≤ year ∧ year ≤ maxYear ∧ 1 ≤ month ∧ month ≤ 12 ∧ 1 ≤ day ∧
    day ≤ daysInMonth year month

instance (year : Int) (month day : Nat) : Decidable (Exists year month day) :=
  inferInstanceAs (Decidable (_ ∧ _))

end Date

structure Date where
  year : Int
  month : Nat
  day : Nat
  real : Date.Exists year month day
  deriving DecidableEq

namespace Date

instance : Inhabited Date := ⟨⟨0, 1, 1, by decide⟩⟩

/-- The date of these numbers, when there is one. -/
def of? (year : Int) (month day : Nat) : Option Date :=
  if h : Exists year month day then some ⟨year, month, day, h⟩ else none

@[simp] theorem of?_eq_some (d : Date) : of? d.year d.month d.day = some d := by
  simp [of?, d.real]

/-- Calendar order. -/
def le (a b : Date) : Bool :=
  a.year < b.year ||
    (a.year = b.year && (a.month < b.month || (a.month = b.month && a.day ≤ b.day)))

instance : LE Date := ⟨fun a b => le a b⟩

instance (a b : Date) : Decidable (a ≤ b) :=
  inferInstanceAs (Decidable (le a b = true))

/-- The days from the first of the year 0 to the first of `year`. -/
def daysBeforeYear (year : Int) : Int :=
  365 * year + (year - 1) / 4 - (year - 1) / 100 + (year - 1) / 400 + 1

/-- The days of a year before one of its months. -/
def daysBeforeMonth (year : Int) (month : Nat) : Nat :=
  (List.range (month - 1)).foldl (fun days i => days + daysInMonth year (i + 1)) 0

/-- The days from the first of the year 0. -/
def dayNumber (d : Date) : Int :=
  daysBeforeYear d.year + daysBeforeMonth d.year d.month + (d.day - 1)

/-- The nights between two dates, negative when the first is the later one. -/
def nightsUntil (start stop : Date) : Int :=
  stop.dayNumber - start.dayNumber

end Date

end HotelBooking
