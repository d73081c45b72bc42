import HotelBooking.Store.Repository
import HotelBooking.Text.Blank

/-!
# The loyalty service

One record for each guest. Saving creates or replaces it, and tier and discount always
follow the count, whatever the caller sent.
-/

namespace HotelBooking

def Loyalty.label (username : String) : String := "loyalty of " ++ username

structure LoyaltyService (σ : Type) where
  loyalty : LoyaltyRepository σ

namespace LoyaltyService

variable {σ : Type}

def ofUser (s : LoyaltyService σ) (username : String) : Action σ Loyalty :=
  (s.loyalty.ofUser username).found (Loyalty.label username)

def save (s : LoyaltyService σ) (l : Loyalty) : Action σ Loyalty := do
  if Text.isBlankText l.username then throw .usernameRequired
  let l := l.recompute
  match ← s.loyalty.update l with
  | some saved => return saved
  | none => s.loyalty.insert l

end LoyaltyService

end HotelBooking
