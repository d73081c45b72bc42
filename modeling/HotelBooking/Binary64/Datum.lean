import HotelBooking.Binary64.Rounding
import HotelBooking.Text.Decimal

/-!
# Binary64 numbers as text

A number is read by rounding the exact value of its numeral once. It is written with the
fewest digits that are read as the same number, the nearest of them to it, and always
positionally: however large or small a number is, its text has no exponent.
-/

namespace HotelBooking.Binary64

inductive Datum where
  | nan
  | infinite (negative : Bool)
  /-- A zero has a sign too. -/
  | finite (negative : Bool) (magnitude : Rat)
  deriving DecidableEq, Inhabited

/-- The weight of the last bit, which is never finer than that of the smallest number. -/
def boundedUnit (q : Rat) : Rat :=
  (2 : Rat) ^ max (exponent q - 52) (-1074)

/-- The nearest number to a magnitude, unless that is too large. -/
def round? (q : Rat) : Option Rat :=
  let r := if q = 0 then 0 else roundHalfEven (q / boundedUnit q) * boundedUnit q
  if r < (2 : Rat) ^ (1024 : Int) then some r else none

/--
The number nearest to `m * 10 ^ e`. The count of its digits decides where they are far
from the ends of the range, so that a huge exponent is never raised to.
-/
def ofDecimal? (negative : Bool) (m : Nat) (e : Int) : Option Datum :=
  let size := (Decimal.digits m).length + e
  if m = 0 ∨ size < -400 then some (.finite negative 0)
  else if 400 < size then none
  else (round? (m * (10 : Rat) ^ e)).map (.finite negative)

/-! ## Fewest digits -/

/-- The power of ten of the leading digit of a positive number. -/
def decimalExponent (v : Rat) : Int :=
  let guess : Int := (Decimal.digits v.num.natAbs).length - (Decimal.digits v.den).length
  if (10 : Rat) ^ guess ≤ v then guess else guess - 1

/-- The nearer of the two neighbours of `v` among the multiples of `scale` that read as `v`. -/
def neighbour? (v scale : Rat) : Option Nat :=
  let below := (v / scale).floor
  let reads (n : Int) : Bool := round? (n * scale) == some v
  let nearBelow := v - below * scale < (below + 1) * scale - v
  let chosen : Option Int :=
    if reads below && (nearBelow || !reads (below + 1)) then some below
    else if reads (below + 1) then some (below + 1)
    else none
  chosen.map Int.toNat

/--
The shortest decimal that reads as a positive number: its digits and their exponent. The
search begins one place above the leading digit, where a number just below a power of ten
finds that power.
-/
def shortest (v : Rat) : Nat × Int :=
  let found := (List.range 18).findSome? fun n : Nat =>
    let e := decimalExponent v + 1 - n
    (neighbour? v ((10 : Rat) ^ e)).map fun m => (m, e)
  found.getD (0, 0)

/-- The decimal `m * 10 ^ e` written out. -/
def positional (m : Nat) (e : Int) : List Char :=
  if 0 ≤ e then Decimal.digits (m * Nat.pow 10 e.toNat)
  else
    let places := (-e).toNat
    let ds := Decimal.padded (places + 1) m
    ds.take (ds.length - places) ++ '.' :: ds.drop (ds.length - places)

namespace Datum

/-- The text of a number. -/
def text : Datum → String
  | nan => "NaN"
  | infinite negative => if negative then "-inf" else "inf"
  | finite negative v =>
    let digits :=
      if v = 0 then ['0']
      else
        let (m, e) := shortest v
        positional m e
    String.ofList ((if negative then ['-'] else []) ++ digits)

def isZero : Datum → Bool
  | finite _ v => v == 0
  | _ => false

/-- The nearest whole number from 0 to `limit`, halves going up. -/
def clamp (limit : Nat) : Datum → Nat
  | nan | infinite true | finite true _ => 0
  | infinite false => limit
  | finite false v => min (roundHalfAway v).toNat limit

end Datum

end HotelBooking.Binary64
