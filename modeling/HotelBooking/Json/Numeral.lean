import HotelBooking.Binary64.Rounding
import HotelBooking.Text.Decimal

/-!
# JSON numerals

A numeral is kept as it is written: sign, whole part, fraction and exponent. Whole
numbers of a fixed width are read from it exactly, so no amount ever passes through
a floating point number. A numeral with a fraction or an exponent is not a whole
number even where its value is one, and neither is `-0`.
-/

namespace HotelBooking

/-- A decimal numeral: `whole.fraction` with its digits, times ten to the `exponent`. -/
structure Numeral where
  negative : Bool
  whole : Nat
  fraction : List (Fin 10)
  exponent : Option Int
  deriving DecidableEq, Inhabited

namespace Numeral

/-- The numeral that an integer is written as. -/
def ofInt : Int → Numeral
  | .ofNat n => ⟨false, n, [], none⟩
  | .negSucc n => ⟨true, n + 1, [], none⟩

/-- The integer that a numeral writes, when it writes one. -/
def toInt? : Numeral → Option Int
  | ⟨false, n, [], none⟩ => some n
  | ⟨true, 0, [], none⟩ => none
  | ⟨true, n + 1, [], none⟩ => some (.negSucc n)
  | _ => none

@[simp] theorem toInt?_ofInt (n : Int) : (ofInt n).toInt? = some n := by
  cases n <;> rfl

def fractionChars (ds : List (Fin 10)) : List Char :=
  if ds.isEmpty then [] else '.' :: ds.map fun d : Fin 10 => Decimal.digitChar d.val

def exponentChars : Option Int → List Char
  | none => []
  | some e => 'e' :: Decimal.signed e

/-- The text of a numeral. -/
def chars (n : Numeral) : List Char :=
  (if n.negative then ['-'] else []) ++ Decimal.digits n.whole ++ fractionChars n.fraction ++
    exponentChars n.exponent

/-! ## As binary64 numbers

A numeral that is no whole number of 64 bits is read as a binary64 number in three steps,
each of which rounds: as many of its digits as fit into 64 bits are taken, the number that
they make is rounded, and so is its product with a power of ten, itself rounded before.
So a numeral near the largest number may lie beyond it although its exact value does not.
-/

/-- Go on from a number by the digits that fit into 64 bits, and count the others. -/
def leading (n : Nat) : List Nat → Nat × Nat
  | [] => (n, 0)
  | d :: ds => if 10 * n + d < UInt64.size then leading (10 * n + d) ds else (n, ds.length + 1)

/-- Whether the numeral is read as a number beyond the largest binary64 number. -/
def exceedsBinary64 (n : Numeral) : Bool :=
  let (whole, left) := leading 0 ((Decimal.digits n.whole).filterMap Decimal.digit?)
  let (m, leftBehind) := leading whole (n.fraction.map Fin.val)
  let e := n.exponent.getD 0 + left - (n.fraction.length - leftBehind : Nat)
  if m = 0 ∨ e < 0 then false
  else if 308 < e then true
  else (2 : Rat) ^ (1024 : Int) ≤
    Binary64.mul (Binary64.nearest m) (Binary64.nearest ((10 : Rat) ^ e))

end Numeral

end HotelBooking
