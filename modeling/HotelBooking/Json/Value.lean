import HotelBooking.Json.Numeral
import HotelBooking.Text.Hex

/-!
# JSON values and their text

The value type keeps the members of an object in order. The text of a value has no
blanks; in a string only the quotation mark, the backslash and the control characters
are escaped, the latter by their short escape where JSON has one.
-/

namespace HotelBooking

inductive Json where
  | null
  | bool (b : Bool)
  | number (n : Numeral)
  | string (s : String)
  | array (items : List Json)
  | object (members : List (String × Json))
  deriving Inhabited

namespace Json

def ofInt (n : Int) : Json :=
  .number (.ofInt n)

/-- The escape of a control character that has no short one. -/
def unicodeEscape (n : Nat) : List Char :=
  '\\' :: 'u' :: Hex.padded Hex.lower 4 n

/-- A character as it stands inside a string. -/
def escape (c : Char) : List Char :=
  if c = '"' then ['\\', '"']
  else if c = '\\' then ['\\', '\\']
  else if c.toNat = 8 then ['\\', 'b']
  else if c.toNat = 12 then ['\\', 'f']
  else if c = '\n' then ['\\', 'n']
  else if c = '\r' then ['\\', 'r']
  else if c = '\t' then ['\\', 't']
  else if c.toNat < 32 then unicodeEscape c.toNat
  else [c]

/-- The text of a string with its quotation marks. -/
def stringChars (s : String) : List Char :=
  '"' :: s.toList.flatMap escape ++ ['"']

mutual

/-- The text of a value. -/
def chars : Json → List Char
  | .null => ['n', 'u', 'l', 'l']
  | .bool true => ['t', 'r', 'u', 'e']
  | .bool false => ['f', 'a', 'l', 's', 'e']
  | .number n => n.chars
  | .string s => stringChars s
  | .array [] => ['[', ']']
  | .array (v :: vs) => '[' :: v.chars ++ moreItems vs
  | .object [] => ['\x7b', '\x7d']
  | .object (m :: ms) => '\x7b' :: memberChars m ++ moreMembers ms

/-- The items after the first, each behind a comma, and the end of the array. -/
def moreItems : List Json → List Char
  | [] => [']']
  | v :: vs => ',' :: v.chars ++ moreItems vs

def memberChars : String × Json → List Char
  | (k, v) => stringChars k ++ ':' :: v.chars

/-- The members after the first, each behind a comma, and the end of the object. -/
def moreMembers : List (String × Json) → List Char
  | [] => ['\x7d']
  | m :: ms => ',' :: memberChars m ++ moreMembers ms

end

/-- The text of a value, as it is sent. -/
def render (v : Json) : String :=
  String.ofList v.chars

end Json

end HotelBooking
