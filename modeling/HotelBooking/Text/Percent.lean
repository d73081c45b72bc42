import HotelBooking.Text.Hex
import HotelBooking.Text.Utf8

/-!
# Percent-encoding

A byte is written as a percent sign and two hexadecimal digits. A percent sign that no
two digits follow stands for itself. Form-encoded text writes a blank as a plus sign
besides.
-/

namespace HotelBooking.Text

namespace Percent

/-- The symbols of a text, each escape one byte. -/
def symbols : List Char → List Symbol
  | '%' :: a :: b :: cs =>
    match Hex.number? [a, b] with
    | some n => .byte n :: symbols cs
    | none => .char '%' :: symbols (a :: b :: cs)
  | c :: cs => .char c :: symbols cs
  | [] => []

/-- The text with its escapes read, provided they make characters. -/
def decode? (s : String) : Option String :=
  (Symbol.strict? (symbols s.toList)).map String.ofList

/-- The text of a part of a form. -/
def decodeForm (cs : List Char) : String :=
  String.ofList (Symbol.lossy (symbols (cs.map fun c => if c = '+' then ' ' else c)))

/-- The escapes of the bytes of a character. -/
def escape (c : Char) : List Char :=
  (String.utf8EncodeChar c).flatMap fun b => '%' :: Hex.padded Hex.upper 2 b.toNat

/-- Escape the characters that may not stand where they are. -/
def encode (isUnsafe : Char → Bool) (cs : List Char) : List Char :=
  cs.flatMap fun c => if isUnsafe c then escape c else [c]

theorem encode_of_forall {isUnsafe : Char → Bool} {cs : List Char}
    (h : ∀ c ∈ cs, isUnsafe c = false) : encode isUnsafe cs = cs := by
  induction cs with
  | nil => rfl
  | cons c cs ih =>
    have hc : isUnsafe c = false := h c (by simp)
    have hcs : encode isUnsafe cs = cs := ih fun d hd => h d (by simp [hd])
    rw [encode] at hcs
    simp [encode, hc, hcs]

end Percent

/-- The parts of a text between occurrences of a character. -/
def splitOn (sep : Char) : List Char → List (List Char)
  | [] => [[]]
  | c :: cs =>
    if c = sep then [] :: splitOn sep cs
    else
      match splitOn sep cs with
      | [] => [[c]]
      | p :: ps => (c :: p) :: ps

/-- The text before the first occurrence of a character, and what stands behind it. -/
def cutAt (sep : Char) (cs : List Char) : List Char × Option (List Char) :=
  match cs.dropWhile (· ≠ sep) with
  | [] => (cs, none)
  | _ :: rest => (cs.takeWhile (· ≠ sep), some rest)

/-- The names and values of a form-encoded text. Empty parts are passed over. -/
def formFields (s : String) : List (String × String) :=
  ((splitOn '&' s.toList).filter fun p => !p.isEmpty).map fun p =>
    let (name, value) := cutAt '=' p
    (Percent.decodeForm name, Percent.decodeForm (value.getD []))

end HotelBooking.Text
