import HotelBooking.Proofs.Store.Changes
import Mathlib.Data.List.Nodup

/-!
# Reservations and their payments

`Paired A` says of every stored reservation how it stands to the payment it refers to. All
that is proved about charges is of this form, each time with an `A` of its own.

A saga changes one reservation and its payment in separate calls, and between them the two
need not fit. `Apart u A` says nothing about the reservation whose payment is `u`. It is kept by
every change of that one pair, and where reservations do not share payments, looking at
the pair once at the end gives `Paired A` back.
-/

namespace HotelBooking

namespace Stores

variable {s : Stores} {A B : Reservation → Option Payment → Prop} {u : Uid}

/-- Every reservation stands in `A` to the payment it refers to, if there is one. -/
def Paired (A : Reservation → Option Payment → Prop) (s : Stores) : Prop :=
  ∀ r ∈ s.reservations, A r (s.payment? r.paymentUid)

/-- No two reservations refer to the same payment. -/
def Unshared (s : Stores) : Prop :=
  (s.reservations.map Reservation.paymentUid).Nodup

instance (s : Stores) : Decidable s.Unshared :=
  inferInstanceAs (Decidable (List.Nodup _))

/-- `A` for reservations with other payments than `u`. -/
def Apart (u : Uid) (A : Reservation → Option Payment → Prop) (r : Reservation)
    (p : Option Payment) : Prop :=
  r.paymentUid ≠ u → A r p

theorem Paired.apart (h : s.Paired A) (u : Uid) : s.Paired (Apart u A) :=
  fun r member _ => h r member

/-- The pair left out, looked at on its own. -/
theorem Paired.join {r : Reservation} (h : s.Paired (Apart u A)) (unshared : s.Unshared)
    (member : r ∈ s.reservations) (refers : r.paymentUid = u) (here : A r (s.payment? u)) :
    s.Paired A := by
  intro r' member'
  by_cases same : r'.paymentUid = u
  · rw [List.inj_on_of_nodup_map unshared member' member (same.trans refers.symm), refers]
    exact here
  · exact h r' member' same

/-- A payment that no reservation refers to is no pair to be looked at. -/
theorem Paired.of_unreferenced (h : s.Paired (Apart u A))
    (unreferenced : ∀ r ∈ s.reservations, r.paymentUid ≠ u) : s.Paired A :=
  fun r member => h r member (unreferenced r member)

/-! ## Changes of payments -/

theorem Paired.addPayment {p : Payment} (h : s.Paired A) (unknown : p.uid ∉ s.uids) :
    (s.addPayment p).Paired A := by
  intro r member
  have other : p.uid ≠ r.paymentUid := (paymentUid_ne unknown member).symm
  have same : (s.addPayment p).payment? r.paymentUid = s.payment? r.paymentUid := by
    simp [payment?, List.find?_append, newPayment, other]
  rw [same]
  exact h r member

theorem Paired.putPayment {p : Payment} (h : s.Paired (Apart p.uid A)) :
    (s.putPayment p).Paired (Apart p.uid A) := by
  intro r member other
  rw [payment?_putPayment_of_ne other]
  exact h r member other

@[simp] theorem unshared_addPayment (p : Payment) : (s.addPayment p).Unshared ↔ s.Unshared :=
  Iff.rfl

@[simp] theorem unshared_putPayment (p : Payment) : (s.putPayment p).Unshared ↔ s.Unshared :=
  Iff.rfl

/-! ## Changes of reservations -/

theorem Paired.addReservation {r : Reservation} (h : s.Paired A)
    (here : A (s.newReservation r) (s.payment? r.paymentUid)) : (s.addReservation r).Paired A := by
  intro r' member
  rcases List.mem_append.mp member with old | new
  · exact h r' old
  · cases List.mem_singleton.mp new
    exact here

theorem Paired.putReservation {r : Reservation} (h : s.Paired A)
    (here : ∀ stored, s.reservation? r.uid = some stored →
      A { r with id := stored.id } (s.payment? r.paymentUid)) : (s.putReservation r).Paired A := by
  intro r' member
  rcases Table.mem_replaceFirst member with old | ⟨stored, found, rfl⟩
  · exact h r' old
  · exact here stored found

theorem Unshared.addReservation {r : Reservation} (h : s.Unshared)
    (unreferenced : ∀ r' ∈ s.reservations, r'.paymentUid ≠ r.paymentUid) :
    (s.addReservation r).Unshared := by
  unfold Unshared at h ⊢
  rw [reservations_addReservation, List.map_append, List.nodup_append]
  refine ⟨h, List.nodup_singleton _, ?_⟩
  rintro _ old _ new rfl
  obtain ⟨r', member, same⟩ := List.mem_map.mp old
  exact unreferenced r' member (same.trans (List.mem_singleton.mp new))

theorem Unshared.putReservation {r : Reservation} (h : s.Unshared)
    (same : ∀ stored, s.reservation? r.uid = some stored → r.paymentUid = stored.paymentUid) :
    (s.putReservation r).Unshared := by
  unfold Unshared at h ⊢
  rwa [paymentUids_putReservation same]

/-- A reservation and its payment are changed one after the other. -/
theorem Paired.putReservation_putPayment {r stored : Reservation} {p charge : Payment}
    (h : s.Paired A) (unshared : s.Unshared) (found : s.reservation? r.uid = some stored)
    (same : r.paymentUid = stored.paymentUid) (uid : p.uid = r.paymentUid)
    (charged : s.payment? p.uid = some charge)
    (here : A { r with id := stored.id }
      (some { charge with status := p.status, price := p.price })) :
    ((s.putReservation r).putPayment p).Paired A := by
  have row : (s.putReservation r).reservation? r.uid = some { r with id := stored.id } := by
    rw [reservation?_putReservation_self, found]
    rfl
  have apart : (s.putReservation r).Paired (Apart p.uid A) :=
    (h.apart p.uid).putReservation fun _ _ other => (other uid.symm).elim
  have alone : (s.putReservation r).Unshared := by
    apply unshared.putReservation
    intro stored' found'
    cases found.symm.trans found'
    exact same
  refine apart.putPayment.join alone (mem_of_reservation? row) uid.symm ?_
  rw [payment?_putPayment_self, payment?_putReservation, charged]
  exact here

/-! ## Loyalty records -/

@[simp] theorem paired_saveLoyalty (l : Loyalty) : (s.saveLoyalty l).Paired A ↔ s.Paired A :=
  Iff.rfl

@[simp] theorem unshared_saveLoyalty (l : Loyalty) : (s.saveLoyalty l).Unshared ↔ s.Unshared :=
  Iff.rfl

end Stores

end HotelBooking
