import HotelBooking.Json.Wire
import HotelBooking.Text.Hex

/-!
# Unique identifiers

Hotels, reservations and payments are named by 128-bit identifiers, kept here as their
thirty-two hexadecimal digits. Their text is the digits in lower case, in groups of
8, 4, 4, 4 and 12 parted by hyphens. Four forms are read, in either case: that one,
the digits alone, the grouped form in braces, and the grouped form behind `urn:uuid:`.

New identifiers are drawn from a `Supply`, a stream of them of which some are used up.
-/

namespace HotelBooking

structure Uid where
  digits : List (Fin 16)
  length_digits : digits.length = 32
  deriving DecidableEq

namespace Uid

/-- The identifier of all zeros, which stands for none. -/
def nil : Uid :=
  ⟨List.replicate 32 (Hex.last 0), List.length_replicate⟩

instance : Inhabited Uid := ⟨nil⟩

def isNil (u : Uid) : Bool :=
  u = nil

/-- The value of a run of hexadecimal digits, provided there are thirty-two. -/
def ofHex? (cs : List Char) : Option Uid := do
  let ds ← cs.mapM Hex.value?
  if h : ds.length = 32 then some ⟨ds, h⟩ else none

/-- The sizes of the groups that hyphens part. -/
def groups : List Nat := [8, 4, 4, 4, 12]

/-- Put hyphens between groups of the given sizes. -/
def hyphenate : List Nat → List Char → List Char
  | [], _ => []
  | [n], cs => cs.take n
  | n :: m :: ns, cs => cs.take n ++ '-' :: hyphenate (m :: ns) (cs.drop n)

/-- Take away the hyphens between groups of the given sizes. -/
def unhyphenate? : List Nat → List Char → Option (List Char)
  | [], cs => if cs.isEmpty then some [] else none
  | [n], cs => if cs.length = n then some cs else none
  | n :: m :: ns, cs =>
    match cs.drop n with
    | '-' :: rest => (unhyphenate? (m :: ns) rest).map (cs.take n ++ ·)
    | _ => none

def chars (u : Uid) : List Char :=
  hyphenate groups (u.digits.map Hex.lower)

/-- The text of an identifier. -/
def toText (u : Uid) : String :=
  String.ofList u.chars

/-- The grouped form. -/
def ofGrouped? (cs : List Char) : Option Uid :=
  (unhyphenate? groups cs).bind ofHex?

/-- The scheme in front of the grouped form. -/
def scheme : List Char := "urn:uuid:".toList

/-- Any of the four forms. -/
def ofChars? (cs : List Char) : Option Uid :=
  if cs.length = 32 then ofHex? cs
  else if cs.length = 38 ∧ cs.head? = some '\x7b' ∧ cs.getLast? = some '\x7d' then
    ofGrouped? (cs.drop 1).dropLast
  else if cs.length = 45 ∧ (cs.take 9).map Char.toLower = scheme then ofGrouped? (cs.drop 9)
  else ofGrouped? cs

def ofText? (s : String) : Option Uid :=
  ofChars? s.toList

/-- The identifier whose digits write `n` in base sixteen, modulo `16 ^ 32`. -/
def ofNat (n : Nat) : Uid :=
  ⟨(List.range 32).map fun i => Hex.last (n >>> (4 * (31 - i))),
    (List.length_map _).trans List.length_range⟩

instance : Wire Uid where
  toJson u := .string u.toText
  read := Draft.readText ofText?

/-- A stream of identifiers, of which the first `drawn` are used up. -/
structure Supply where
  stream : Nat → Uid
  drawn : Nat := 0

namespace Supply

instance : Inhabited Supply := ⟨{ stream := ofNat }⟩

/-- The next identifier and what is left of the supply. -/
def draw (s : Supply) : Uid × Supply :=
  (s.stream s.drawn, { s with drawn := s.drawn + 1 })

end Supply

end Uid

end HotelBooking
