/-!
# Hexadecimal digits

Digits are read in either case. Identifiers and escapes in strings are written in lower
case, escapes of bytes in upper case.
-/

namespace HotelBooking.Hex

def lower (d : Fin 16) : Char :=
  if d < 10 then Char.ofNat (48 + d) else Char.ofNat (87 + d)

def upper (d : Fin 16) : Char :=
  if d < 10 then Char.ofNat (48 + d) else Char.ofNat (55 + d)

def value? (c : Char) : Option (Fin 16) :=
  let n := c.toNat
  if 48 ≤ n ∧ n ≤ 57 then some (Fin.ofNat 16 (n - 48))
  else if 97 ≤ n ∧ n ≤ 102 then some (Fin.ofNat 16 (n - 87))
  else if 65 ≤ n ∧ n ≤ 70 then some (Fin.ofNat 16 (n - 55))
  else none

theorem value?_lower : ∀ d : Fin 16, value? (lower d) = some d := by
  decide

/-- The number that digits stand for, all of them. -/
def number? (cs : List Char) : Option Nat :=
  (cs.mapM value?).map fun ds => ds.foldl (fun n d => 16 * n + d.val) 0

/-- The last digit of a number. -/
def last (n : Nat) : Fin 16 :=
  Fin.ofNat 16 n

/-- The last `width` digits of a number, each written by `digit`. -/
def padded (digit : Fin 16 → Char) (width n : Nat) : List Char :=
  (List.range width).map fun i => digit (last (n >>> (4 * (width - 1 - i))))

end HotelBooking.Hex
