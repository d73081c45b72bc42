/-!
# Decimal numerals

Whole numbers written in decimal digits and read back. Reading takes ASCII digits
only, allows leading zeros and, for integers, one sign of either kind; writing
gives no leading zero and a sign only to negative numbers.

`Decimal.value?_digits` is the round trip on which every format with numbers in it
rests.
-/

namespace HotelBooking.Decimal

/-- The digit `d` as a character. -/
def digitChar (d : Nat) : Char :=
  Char.ofNat (48 + d)

/-- The value of an ASCII digit. -/
def digit? (c : Char) : Option Nat :=
  if 48 ≤ c.toNat ∧ c.toNat ≤ 57 then some (c.toNat - 48) else none

def isDigit (c : Char) : Bool :=
  (digit? c).isSome

theorem toNat_digitChar {d : Nat} (h : d < 10) : (digitChar d).toNat = 48 + d := by
  have : ∀ d : Fin 10, (digitChar d).toNat = 48 + d.val := by decide
  exact this ⟨d, h⟩

theorem digit?_digitChar {d : Nat} (h : d < 10) : digit? (digitChar d) = some d := by
  simp [digit?, toNat_digitChar h]
  omega

/-- The digits of `n`, the leading one not zero unless `n` is. -/
def digits (n : Nat) : List Char :=
  if n < 10 then [digitChar n] else digits (n / 10) ++ [digitChar (n % 10)]

/-- Append digits to a number already read. -/
def valueFrom? (acc : Nat) : List Char → Option Nat
  | [] => some acc
  | c :: cs => (digit? c).bind fun d => valueFrom? (10 * acc + d) cs

/-- The number that a nonempty list of digits stands for. -/
def value? : List Char → Option Nat
  | [] => none
  | cs => valueFrom? 0 cs

theorem valueFrom?_append (acc : Nat) (xs ys : List Char) :
    valueFrom? acc (xs ++ ys) = (valueFrom? acc xs).bind (valueFrom? · ys) := by
  induction xs generalizing acc with
  | nil => rfl
  | cons c xs ih => cases h : digit? c <;> simp [valueFrom?, h, ih]

theorem valueFrom?_digits (n : Nat) : valueFrom? 0 (digits n) = some n := by
  fun_induction digits n with
  | case1 n h => simp [valueFrom?, digit?_digitChar h]
  | case2 n h ih =>
    have : n % 10 < 10 := by omega
    simp [valueFrom?_append, ih, valueFrom?, digit?_digitChar this]
    omega

theorem digits_ne_nil (n : Nat) : digits n ≠ [] := by
  unfold digits
  split <;> simp

theorem value?_digits (n : Nat) : value? (digits n) = some n := by
  have := valueFrom?_digits n
  have hne := digits_ne_nil n
  cases h : digits n with
  | nil => exact absurd h hne
  | cons c cs => rw [← this, h]; rfl

/-- An integer with its sign, which only negative numbers carry. -/
def signed (n : Int) : List Char :=
  match n with
  | .ofNat n => digits n
  | .negSucc n => '-' :: digits (n + 1)

/-- An integer with an optional sign of either kind. -/
def signedValue? : List Char → Option Int
  | '-' :: cs => (value? cs).map fun n => -(n : Int)
  | '+' :: cs => (value? cs).map fun n => (n : Int)
  | cs => (value? cs).map fun n => (n : Int)

/-- The text of an integer. -/
def ofInt (n : Int) : String :=
  String.ofList (signed n)

/-- The text of a natural number. -/
def ofNat (n : Nat) : String :=
  String.ofList (digits n)

/-- The integer that `s` stands for, when it is an optionally signed run of digits. -/
def toInt? (s : String) : Option Int :=
  signedValue? s.toList

/-- `digits n`, filled up with leading zeros to `width` characters. -/
def padded (width n : Nat) : List Char :=
  List.replicate (width - (digits n).length) '0' ++ digits n

end HotelBooking.Decimal

namespace HotelBooking

/-- The 32-bit integer of this value, when there is one. -/
def int32? (n : Int) : Option Int32 :=
  if Int32.minValue.toInt ≤ n ∧ n ≤ Int32.maxValue.toInt then some (Int32.ofInt n) else none

/-- The 64-bit integer of this value, when there is one. -/
def int64? (n : Int) : Option Int64 :=
  if Int64.minValue.toInt ≤ n ∧ n ≤ Int64.maxValue.toInt then some (Int64.ofInt n) else none

theorem int32?_toInt (n : Int32) : int32? n.toInt = some n := by
  rw [int32?, if_pos ⟨n.minValue_le_toInt, n.toInt_le⟩, Int32.ofInt_toInt]

theorem int64?_toInt (n : Int64) : int64? n.toInt = some n := by
  rw [int64?, if_pos ⟨n.minValue_le_toInt, n.toInt_le⟩, Int64.ofInt_toInt]

end HotelBooking
