/-!
# Rounding to binary64

The arithmetic of 64-bit floating point numbers, done on rationals: an operation is the
exact one followed by `nearest`, the rounding to fifty-three significant bits with ties
to the even neighbour. Prices stay far from the ends of the exponent range, so exponents
are not bounded here.
-/

namespace HotelBooking.Binary64

/-- The nearest integer, a tie going to the even one. -/
def roundHalfEven (q : Rat) : Int :=
  let below := q.floor
  let rest := q - below
  if rest < 1 / 2 then below
  else if 1 / 2 < rest then below + 1
  else if below % 2 = 0 then below
  else below + 1

/-- The nearest integer, a tie going away from zero. -/
def roundHalfAway (q : Rat) : Int :=
  if 0 ≤ q then (q + 1 / 2).floor else -(-q + 1 / 2).floor

/-- The exponent of the leading bit of a number that is not zero. -/
def exponent (q : Rat) : Int :=
  let guess : Int := q.num.natAbs.log2 - q.den.log2
  if (2 : Rat) ^ guess ≤ (if 0 ≤ q then q else -q) then guess else guess - 1

/-- The weight of the last of the fifty-three bits. -/
def unit (q : Rat) : Rat :=
  (2 : Rat) ^ (exponent q - 52)

/-- The binary64 number nearest to `q`. -/
def nearest (q : Rat) : Rat :=
  if q = 0 then 0 else roundHalfEven (q / unit q) * unit q

def sub (a b : Rat) : Rat := nearest (a - b)

def mul (a b : Rat) : Rat := nearest (a * b)

def div (a b : Rat) : Rat := nearest (a / b)

end HotelBooking.Binary64
