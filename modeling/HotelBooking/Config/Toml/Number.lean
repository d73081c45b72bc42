import HotelBooking.Config.Value
import HotelBooking.Text.Percent

/-!
# Numbers in TOML

Whole numbers are decimal, or hexadecimal, octal or binary behind a mark; the others have
a fraction, an exponent or a name. An underscore may stand between two digits. A whole
number has to fit into 64 bits, and any other into the range of binary64 numbers.
-/

namespace HotelBooking.Config.Toml

open Binary64 (Datum)

/-- The value of digits to some base, in groups of at least one digit. -/
def grouped? (base : Nat) (cs : List Char) : Option (List Nat) := do
  let groups := Text.splitOn '_' cs
  if groups.any List.isEmpty then none
  else
    groups.flatten.mapM fun c => do
      let d ← Hex.value? c
      if d.val < base then some d.val else none

def ofDigits (base : Nat) (ds : List Nat) : Nat :=
  ds.foldl (fun n d => base * n + d) 0

/-- The sign at the front of a number. -/
def signed (cs : List Char) : Bool × List Char :=
  match cs with
  | '-' :: ds => (true, ds)
  | '+' :: ds => (false, ds)
  | ds => (false, ds)

/-- The digits of a whole part, where a zero has to be the only digit. -/
def wholePart? (cs : List Char) : Option (List Nat) :=
  match cs with
  | '0' :: _ :: _ => none
  | _ => grouped? 10 cs

def integer? (cs : List Char) : Option Int := do
  let n : Int ← match cs with
    | '0' :: 'x' :: ds => do pure (ofDigits 16 (← grouped? 16 ds) : Int)
    | '0' :: 'o' :: ds => do pure (ofDigits 8 (← grouped? 8 ds) : Int)
    | '0' :: 'b' :: ds => do pure (ofDigits 2 (← grouped? 2 ds) : Int)
    | _ => do
      let (negative, ds) := signed cs
      let n : Int := ofDigits 10 (← wholePart? ds)
      pure (if negative then -n else n)
  return (← int64? n).toInt

/-- The exponent of a number, which is zero where none is written. -/
def exponentPart? : Option (List Char) → Option Int
  | none => some 0
  | some cs => do
    let (negative, ds) := signed cs
    let n : Int := ofDigits 10 (← grouped? 10 ds)
    return if negative then -n else n

def fractionPart? : Option (List Char) → Option (List Nat)
  | none => some []
  | some cs => grouped? 10 cs

/-- A number with a fraction, an exponent or a name. -/
def float? (cs : List Char) : Option Datum := do
  let (negative, cs) := signed cs
  match cs with
  | ['n', 'a', 'n'] => return .nan
  | ['i', 'n', 'f'] => return .infinite negative
  | _ =>
    let (mantissa, exponent) := Text.cutAt 'e' (cs.map fun c => if c = 'E' then 'e' else c)
    let (whole, fraction) := Text.cutAt '.' mantissa
    if fraction.isNone ∧ exponent.isNone then none
    else
      let ws ← wholePart? whole
      let fs ← fractionPart? fraction
      let e ← exponentPart? exponent
      Binary64.ofDecimal? negative (ofDigits 10 (ws ++ fs)) (e - fs.length)

end HotelBooking.Config.Toml
