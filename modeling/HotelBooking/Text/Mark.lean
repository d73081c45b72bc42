/-!
# The mark of byte order

A text may begin with the character U+FEFF, which tells the order of its bytes to whoever
reads these. It is not part of what the text says.
-/

namespace HotelBooking.Text

def byteOrderMark : Char := '\uFEFF'

/-- A text without one mark at its front. -/
def unmarked (cs : List Char) : List Char :=
  if cs.head? = some byteOrderMark then cs.drop 1 else cs

end HotelBooking.Text
