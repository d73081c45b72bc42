import HotelBooking.Json.Wire

/-!
# Loyalty

A guest's tier follows the number of reservations that are not canceled, and the
discount in percent follows the tier. A record carries all three, so every change of the
count goes through `Loyalty.recompute`.
-/

namespace HotelBooking

open Draft (Field)

inductive Tier where
  | bronze
  | silver
  | gold
  deriving DecidableEq, Inhabited

namespace Tier

/-- Silver begins at 11 reservations and gold at 21. -/
def forCount (count : Int32) : Tier :=
  if 20 < count then gold else if 10 < count then silver else bronze

/-- The discount in percent. -/
def discount : Tier → Int32
  | bronze => 5
  | silver => 7
  | gold => 10

def rank : Tier → Nat
  | bronze => 0
  | silver => 1
  | gold => 2

instance : Ord Tier := ⟨fun a b => compare a.rank b.rank⟩

def word : Tier → String
  | bronze => "BRONZE"
  | silver => "SILVER"
  | gold => "GOLD"

def ofWord? (w : String) : Option Tier :=
  if w = "BRONZE" then some bronze
  else if w = "SILVER" then some silver
  else if w = "GOLD" then some gold
  else none

@[simp] theorem ofWord?_word (t : Tier) : ofWord? t.word = some t := by
  cases t <;> rfl

/-- The complaint about a text that is no tier. -/
def unknown (w : String) : String :=
  "unknown loyalty status: " ++ w

instance : Wire Tier where
  toJson t := .string t.word
  read := Draft.readWord ofWord?

end Tier

/-- The loyalty record of a guest. -/
structure Loyalty where
  id : Int32
  username : String
  reservationCount : Int32
  status : Tier
  discount : Int32
  deriving DecidableEq, Inhabited

namespace Loyalty

/-- Raise a negative count to zero and let tier and discount follow. -/
def recompute (l : Loyalty) : Loyalty :=
  let count := max l.reservationCount 0
  let tier := Tier.forCount count
  { l with reservationCount := count, status := tier, discount := tier.discount }

/-- The record of a guest without reservations. -/
def newMember (username : String) : Loyalty :=
  recompute { id := 0, username, reservationCount := 0, status := .bronze, discount := 0 }

/-- Count one more reservation. -/
def register (l : Loyalty) : Loyalty :=
  recompute { l with reservationCount := l.reservationCount + 1 }

/-- Count one reservation less, though never less than none. -/
def release (l : Loyalty) : Loyalty :=
  recompute { l with reservationCount := l.reservationCount - 1 }

def fields : List Field :=
  [.of Int32 "id" .defaulted, .of String "username", .of Int32 "reservationCount",
    .of Tier "status", .of Int32 "discount"]

instance : Wire Loyalty where
  toJson l := .object [
    ("id", Wire.toJson l.id), ("username", Wire.toJson l.username),
    ("reservationCount", Wire.toJson l.reservationCount), ("status", Wire.toJson l.status),
    ("discount", Wire.toJson l.discount)]
  read d := do
    let r ← d.readRecord fields
    return {
      id := ← r.getD "id" 0
      username := ← r.get "username"
      reservationCount := ← r.get "reservationCount"
      status := ← r.get "status"
      discount := ← r.get "discount" }

end Loyalty

end HotelBooking
