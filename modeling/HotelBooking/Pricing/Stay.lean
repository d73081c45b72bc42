import HotelBooking.Error
import HotelBooking.Binary64.Rounding

/-!
# The price of a stay

The nightly price times the nights, less the discount of the guest. A discount is taken
off in binary64 arithmetic, and the result is rounded with halves away from zero; without
one the product is the price. A price has to fit into 32 bits.
-/

namespace HotelBooking

namespace ServiceError

def negativeStay (nights : Int) : ServiceError :=
  .invalidParameters ("negative stay length: " ++ Decimal.ofInt nights ++ " nights")

def priceOverflow : ServiceError :=
  .invalidParameters "stay price overflows"

def priceOutOfRange (total : Int) : ServiceError :=
  .invalidParameters ("stay price " ++ Decimal.ofInt total ++ " out of range")

end ServiceError

namespace Pricing

/-- The nearest 64-bit integer. -/
def clamp64 (n : Int) : Int :=
  max Int64.minValue.toInt (min n Int64.maxValue.toInt)

/-- The part of a price that a discount in percent leaves. -/
def remaining (discount : Int32) : Rat :=
  Binary64.sub 1 (Binary64.div discount.toInt 100)

/-- The amount `raw` less a discount in percent. -/
def discounted (raw : Int) (discount : Int32) : Int :=
  clamp64 (Binary64.roundHalfAway (Binary64.mul (Binary64.nearest raw) (remaining discount)))

/-- The price of a stay. -/
def stayPrice (nights : Int) (nightlyPrice discount : Int32) : Outcome Int32 :=
  if nights < 0 then .error (.negativeStay nights)
  else
    let raw := nights * nightlyPrice.toInt
    if (int64? raw).isNone then .error .priceOverflow
    else
      let total := if 0 < discount then discounted raw discount else raw
      match int32? total with
      | some price => .ok price
      | none => .error (.priceOutOfRange total)

end Pricing

end HotelBooking
