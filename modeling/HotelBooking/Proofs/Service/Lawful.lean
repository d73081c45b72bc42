import HotelBooking.Proofs.Loyalty
import HotelBooking.Proofs.Service.Serving
import HotelBooking.Proofs.Store.Guests

/-!
# Lawful calls

What an operation may ask of the services on behalf of a guest. It lists and saves under
the name of that guest alone. It changes a row only by restating what is stored, and only
if the row is the guest's. It stores a reservation under identifiers drawn for it, with a
payment and a hotel that are there. Operations that act for nobody only look through the
catalogue.

`Platform.Respects` is what is left after such a call: nothing is lost, what is pending
elsewhere stays so, and other guests find their rows as they were.
-/

namespace HotelBooking

/-- The identifier of a payment belongs to a guest, or to the operation at hand, for which
it was drawn, as long as no reservation mentions it. -/
def Stores.Belongs (guest : Option String) (own : List Uid) (s : Stores) (u : Uid) : Prop :=
  (∃ r ∈ s.reservations, guest = some r.username ∧ r.paymentUid = u) ∨ u ∈ own ∧ s.Unmentioned u

/-- A payment that belongs to one is pending nowhere else. -/
theorem Stores.Belongs.ne {s : Stores} {guest : Option String} {own : List Uid} {u u' : Uid}
    (h : s.Belongs guest own u) (others : u' ∉ own) (pending : s.Unmentioned u') : u' ≠ u := by
  rintro rfl
  rcases h with ⟨r, member, -, refers⟩ | ⟨mine, -⟩
  · exact (pending r member).2 refers
  · exact others mine

/-- A payment that belongs to one guest is not another's. -/
theorem Stores.Belongs.paymentUid_ne {s : Stores} {guest : Option String} {own : List Uid} {u : Uid}
    {name : String} (h : s.Belongs guest own u) (unshared : s.Unshared) (other : guest ≠ some name)
    {r : Reservation} (member : r ∈ s.reservationsOf name) : r.paymentUid ≠ u := by
  obtain ⟨stored, rfl⟩ := Stores.mem_reservationsOf.mp member
  intro same
  rcases h with ⟨r', member', owned, refers⟩ | ⟨-, pending⟩
  · have : r = r' := List.inj_on_of_nodup_map unshared stored member' (same.trans refers.symm)
    exact other (this ▸ owned)
  · exact (pending r stored).2 same

/-- What an operation for a guest may ask, with the identifiers drawn for it so far. -/
def Call.Lawful (guest : Option String) (own : List Uid) (w : Platform) : Call → Prop
  | listHotels .. | getHotelById _ | getHotelByUid _ | getReservation _ | createPayment _ => True
  | listReservations name | getLoyalty name => guest = some name
  | createReservation r =>
    guest = some r.username ∧
      (r.uid ∈ own ∧ r.uid ∈ w.used ∧ w.stores.Unmentioned r.uid) ∧
      (r.paymentUid ∈ own ∧ w.stores.Unmentioned r.paymentUid) ∧
      Founded w.stores.hotels r (w.stores.payment? r.paymentUid)
  | updateReservation r =>
    guest = some r.username ∧
      ∃ stored, w.stores.reservation? r.uid = some stored ∧ stored.Restated r
  | getPayment uid => w.stores.Belongs guest own uid
  | updatePayment p =>
    w.stores.Belongs guest own p.uid ∧
      ∃ stored, w.stores.payment? p.uid = some stored ∧ stored.Restated p
  | updateLoyalty l => guest = some l.username

namespace Platform

/-- What an operation for a guest leaves, with the identifiers drawn for it so far. -/
structure Respects (guest : Option String) (own : List Uid) (w w' : Platform) : Prop where
  known : w'.Known
  lasts : w.Lasts w'
  pending : ∀ u ∈ w.used, u ∉ own → w.stores.Unmentioned u →
    w'.stores.Unmentioned u ∧ w'.stores.payment? u = w.stores.payment? u
  others : w.stores.Unshared → ∀ name, guest ≠ some name → w.stores.Untouched name w'.stores

variable {guest : Option String} {own : List Uid} {w : Platform} {used : List Uid}
  (known : w.Known) (kept : ∀ u ∈ w.used, u ∈ used)

include known kept

theorem Respects.same : Respects guest own w ⟨w.stores, used⟩ where
  known := known.same kept
  lasts := .same kept
  pending _ _ _ before := ⟨before, rfl⟩
  others _ name _ := .refl name w.stores

theorem Respects.addPayment {p : Payment} (unused : p.uid ∉ w.used) (taken : p.uid ∈ used) :
    Respects guest own w ⟨w.stores.addPayment p, used⟩ where
  known := known.addPayment kept taken
  lasts := .addPayment kept p
  pending _ member _ before :=
    ⟨before, Stores.payment?_addPayment_of_ne (ne_of_mem_of_not_mem member unused)⟩
  others _ _ _ := .addPayment (known.unknown unused)

theorem Respects.putPayment {p stored : Payment} (owned : w.stores.Belongs guest own p.uid)
    (found : w.stores.payment? p.uid = some stored) (same : stored.Restated p) :
    Respects guest own w ⟨w.stores.putPayment p, used⟩ where
  known := known.putPayment kept p
  lasts := .putPayment kept found same
  pending _ _ others before :=
    ⟨before, Stores.payment?_putPayment_of_ne (owned.ne others before)⟩
  others unshared _ other := .putPayment fun _ member => owned.paymentUid_ne unshared other member

theorem Respects.addReservation {r : Reservation} (owner : guest = some r.username)
    (drawn : r.uid ∈ own ∨ r.uid ∉ w.used) (taken : r.uid ∈ used)
    (charge : r.paymentUid ∈ own ∧ w.stores.Unmentioned r.paymentUid)
    (rests : Founded w.stores.hotels r (w.stores.payment? r.paymentUid)) :
    Respects guest own w ⟨w.stores.addReservation r, used⟩ where
  known := known.addReservation kept taken rests.1
  lasts := .addReservation kept rests fun r' member => (charge.2 r' member).2
  pending u member others before := by
    refine ⟨before.addReservation ?_ ?_, rfl⟩
    · rintro rfl
      rcases drawn with mine | unused
      · exact others mine
      · exact unused member
    · rintro rfl
      exact others charge.1
  others _ name other := by
    apply Stores.Untouched.addReservation
    rintro rfl
    exact other owner

theorem Respects.putReservation {r stored : Reservation} (owner : guest = some r.username)
    (found : w.stores.reservation? r.uid = some stored) (same : stored.Restated r) :
    Respects guest own w ⟨w.stores.putReservation r, used⟩ where
  known := known.putReservation kept found same.paymentUid
  lasts := .putReservation kept found same
  pending _ _ _ before := ⟨before.putReservation found same, rfl⟩
  others _ name other := by
    apply Stores.Untouched.putReservation found same
    rintro rfl
    exact other owner

theorem Respects.saveLoyalty {l : Loyalty} (owner : guest = some l.username) :
    Respects guest own w ⟨w.stores.saveLoyalty l, used⟩ where
  known := known.saveLoyalty kept l
  lasts := .saveLoyalty kept l
  pending _ _ _ before := ⟨before, rfl⟩
  others _ name other := by
    apply Stores.Untouched.saveLoyalty
    rintro rfl
    exact other owner

end Platform

open Platform in
/-- After a lawful call nothing is lost, and nobody else is touched. -/
theorem Call.Lawful.respects {c : Call} {guest : Option String} {own : List Uid} {w : Platform}
    (h : c.Lawful guest own w) (known : w.Known) {fresh : Uid} (unused : fresh ∉ w.used) :
    w.Respects guest own ⟨(c.served fresh w.stores).2, fresh :: w.used⟩ := by
  have kept : ∀ u ∈ w.used, u ∈ fresh :: w.used := fun _ member => List.mem_cons_of_mem _ member
  cases writes : c.isMutating with
  | false =>
      rw [Call.served_reading fresh w.stores writes]
      exact .same known kept
  | true =>
      cases c with
      | createReservation r =>
          obtain ⟨owner, ⟨mine, drawn, -⟩, charge, rests⟩ := h
          rcases Call.refused_or_reserved fresh w.stores r with ⟨e, refused⟩ | ⟨stored, -⟩
          · rw [refused]
            exact .same known kept
          · rw [stored]
            unfold Call.identified
            split
            · exact .addReservation known kept owner (.inr unused) List.mem_cons_self charge rests
            · exact .addReservation known kept owner (.inl mine) (kept _ drawn) charge rests
      | updateReservation r =>
          obtain ⟨owner, stored, found, same⟩ := h
          rw [Call.served_updateReservation]
          exact .putReservation known kept owner found same
      | createPayment price =>
          rcases Call.refused_or_charged fresh w.stores price with ⟨e, refused⟩ | ⟨stored, -⟩
          · rw [refused]
            exact .same known kept
          · rw [stored]
            exact .addPayment known kept unused List.mem_cons_self
      | updatePayment p =>
          obtain ⟨owned, stored, found, same⟩ := h
          rw [Call.served_updatePayment]
          split_ifs
          · exact .same known kept
          · exact .putPayment known kept owned found same
      | updateLoyalty l =>
          rw [Call.served_updateLoyalty]
          split_ifs
          · exact .same known kept
          · have owner := h.trans (congrArg some (Loyalty.username_recompute l).symm)
            exact .saveLoyalty known kept owner
      | _ => cases writes

end HotelBooking
