/-!
# Blank characters

The characters with the Unicode property `White_Space`, and the removal of such
characters at the ends of a text. User names, identifiers and dates that callers
type are compared only after this removal.

Everything is defined on lists of characters, so that a text is trimmed by
dropping a run at each end; `trim` is the same operation on strings.
-/

namespace HotelBooking.Text

/-- The twenty-five characters of the property `White_Space`. -/
def isBlank (c : Char) : Bool :=
  let n := c.toNat
  (0x09 ≤ n && n ≤ 0x0D) || n == 0x20 || n == 0x85 || n == 0xA0 || n == 0x1680 ||
    (0x2000 ≤ n && n ≤ 0x200A) || n == 0x2028 || n == 0x2029 || n == 0x202F ||
    n == 0x205F || n == 0x3000

/-- Drop the longest runs of characters satisfying `p` at both ends. -/
def stripBoth (p : Char → Bool) (cs : List Char) : List Char :=
  ((cs.dropWhile p).reverse.dropWhile p).reverse

/-- Remove the blanks at both ends. -/
def trim (s : String) : String :=
  String.ofList (stripBoth isBlank s.toList)

@[simp] theorem toList_trim (s : String) : (trim s).toList = stripBoth isBlank s.toList := by
  simp [trim]

/-- Whether nothing is left of `s` once its blanks are trimmed. -/
def isBlankText (s : String) : Bool :=
  (trim s).isEmpty

end HotelBooking.Text
