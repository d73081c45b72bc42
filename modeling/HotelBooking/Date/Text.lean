import HotelBooking.Date.Basic
import HotelBooking.Json.Wire
import HotelBooking.Text.Blank

/-!
# The text of dates

A date is written `YYYY-MM-DD`; a year outside 0 to 9999 has its sign and at least four
digits. Reading is more liberal: a year with a sign may have any number of digits and one
without up to four, month and day may have one digit or two, and blanks may stand before
each number. The spaced layout, which records on the wire are read in, also allows blanks
before each hyphen and at the end.
-/

namespace HotelBooking

namespace Date

def yearChars (year : Int) : List Char :=
  match year with
  | .ofNat n => if n ≤ 9999 then Decimal.padded 4 n else '+' :: Decimal.padded 4 n
  | .negSucc n => '-' :: Decimal.padded 4 (n + 1)

def chars (d : Date) : List Char :=
  yearChars d.year ++ '-' :: Decimal.padded 2 d.month ++ '-' :: Decimal.padded 2 d.day

/-- The text of a date. -/
def toText (d : Date) : String :=
  String.ofList d.chars

/-- Where blanks may stand. -/
inductive Layout where
  /-- Before the numbers. -/
  | tight
  /-- Before the numbers, before the hyphens, and at the end. -/
  | spaced
  deriving DecidableEq

def skipBlanks (cs : List Char) : List Char :=
  cs.dropWhile Text.isBlank

namespace Layout

/-- The text behind the blanks that the layout allows before a hyphen and at the end. -/
def skip : Layout → List Char → List Char
  | .tight, cs => cs
  | .spaced, cs => skipBlanks cs

/-- The text behind a hyphen. -/
def hyphen? (layout : Layout) (cs : List Char) : Option (List Char) :=
  match layout.skip cs with
  | '-' :: rest => some rest
  | _ => none

end Layout

/-- The number that the digits at the front write, all of them. -/
def unlimited? (cs : List Char) : Option (Nat × List Char) :=
  (Decimal.value? (cs.takeWhile Decimal.isDigit)).map fun n => (n, cs.dropWhile Decimal.isDigit)

/-- The number that at most `width` digits at the front write. -/
def limited? (width : Nat) (cs : List Char) : Option (Nat × List Char) :=
  let ds := (cs.take width).takeWhile Decimal.isDigit
  (Decimal.value? ds).map fun n => (n, cs.drop ds.length)

def year? (cs : List Char) : Option (Int × List Char) :=
  match skipBlanks cs with
  | '-' :: cs => (unlimited? cs).map fun (n, rest) => (-(n : Int), rest)
  | '+' :: cs => (unlimited? cs).map fun (n, rest) => ((n : Int), rest)
  | cs => (limited? 4 cs).map fun (n, rest) => ((n : Int), rest)

def ofChars? (layout : Layout) (cs : List Char) : Option Date := do
  let (year, cs) ← year? cs
  let cs ← layout.hyphen? cs
  let (month, cs) ← limited? 2 (skipBlanks cs)
  let cs ← layout.hyphen? cs
  let (day, cs) ← limited? 2 (skipBlanks cs)
  if (layout.skip cs).isEmpty then of? year month day else none

def ofText? (layout : Layout) (s : String) : Option Date :=
  ofChars? layout s.toList

instance : Wire Date where
  toJson d := .string d.toText
  read := Draft.readText (ofText? .spaced)

end Date

end HotelBooking
