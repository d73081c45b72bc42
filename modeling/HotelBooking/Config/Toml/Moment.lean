import HotelBooking.Date.Basic
import HotelBooking.Text.Decimal
import HotelBooking.Text.Reader

/-!
# Dates and times in TOML

A date, a time of day, or both with or without an offset. A time may do without its
seconds, and seconds may have a fraction. Settings know no type for moments, so they are
read as their text in one spelling: a capital letter between date and time, a fraction of
nine places at most without zeros at its end, though never empty, and `Z` for any letter
that says there is no offset.
-/

namespace HotelBooking.Config.Toml.Moment

/-- A number of exactly `n` digits. -/
def digits (n : Nat) : Reader Nat := fun cs =>
  if (cs.take n).length = n then (Decimal.value? (cs.take n)).map fun d => (d, cs.drop n)
  else none

def day : Reader (List Char) := do
  let year ← digits 4
  Reader.char '-'
  let month ← digits 2
  Reader.char '-'
  let d ← digits 2
  guard (1 ≤ month ∧ month ≤ 12 ∧ 1 ≤ d ∧ d ≤ Date.daysInMonth year month)
  return Decimal.padded 4 year ++ '-' :: Decimal.padded 2 month ++ '-' :: Decimal.padded 2 d

/-- A number of two digits up to `limit`, as it is written. -/
def twoDigits (limit : Nat) : Reader (List Char) := do
  let n ← digits 2
  guard (n ≤ limit)
  return Decimal.padded 2 n

/-- The digits of a fraction that are kept. -/
def fraction : Reader (List Char) := do
  Reader.char '.'
  let ds ← Reader.span Decimal.isDigit
  guard !ds.isEmpty
  let kept := ((ds.take 9).reverse.dropWhile (· = '0')).reverse
  return '.' :: if kept.isEmpty then ['0'] else kept

/-- The seconds of a time, which a leap second makes sixty. -/
def seconds : Reader (List Char) := do
  Reader.char ':'
  let second ← twoDigits 60
  let rest ← optional fraction
  return ':' :: second ++ rest.getD []

def clock : Reader (List Char) := do
  let hour ← twoDigits 23
  Reader.char ':'
  let minute ← twoDigits 59
  let rest ← optional seconds
  return hour ++ ':' :: minute ++ rest.getD []

/-- An offset of nothing is ahead, never behind. -/
def offset : Reader (List Char) := do
  match ← Reader.span fun c => c = 'Z' || c = 'z' || c = '+' || c = '-' with
  | ['Z'] | ['z'] => return ['Z']
  | [sign] =>
    let hours ← twoDigits 23
    Reader.char ':'
    let minutes ← twoDigits 59
    let zero := (hours ++ minutes).all (· = '0')
    return (if zero then '+' else sign) :: hours ++ ':' :: minutes
  | _ => failure

/-- The mark between a date and a time. -/
def mark : Reader Unit :=
  Reader.char 'T' <|> Reader.char 't' <|> Reader.char ' '

/-- The part of a moment behind its date. -/
def afterDay : Reader (List Char) := do
  mark
  let time ← clock
  let zone ← optional offset
  return 'T' :: time ++ zone.getD []

def dated : Reader (List Char) := do
  let date ← day
  let time ← optional afterDay
  return date ++ time.getD []

/-- The text of a moment in its one spelling. -/
def read? (s : String) : Option String :=
  (Reader.whole? (dated <|> clock) s).map String.ofList

end HotelBooking.Config.Toml.Moment
