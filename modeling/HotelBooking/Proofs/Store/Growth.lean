import HotelBooking.Proofs.Gateway.Execution
import HotelBooking.Proofs.Store.Pairing

/-!
# What lasts

No reservation and no payment is ever lost, and of neither does anything but the status
ever change. `Platform.Grows` says so of two moments, row by row, so that whatever was
looked up at the first is found again at the second. The catalogue does not change at
all.

`Founded` is what a reservation rests on: a stored payment and a hotel of the catalogue.
`Platform.Lasts` adds to growth that reservations go on being founded and go on having
payments of their own, if they were at first. It is proved of every change that the
services make, provided that a row is only put in the place of one that it restates.
-/

namespace HotelBooking

namespace Reservation

/-- The same reservation, but for its status. -/
abbrev Restated : Reservation → Reservation → Prop := Rows.Alike fun r => { r with status := .paid }

variable {r r' : Reservation}

theorem restated_cancel (r : Reservation) : Restated r r.cancel := rfl

theorem Restated.eq (h : Restated r r') : r' = { r with status := r'.status } := by
  cases r
  cases r'
  simpa [Rows.Alike] using h

theorem Restated.uid (h : Restated r r') : r'.uid = r.uid := h.column Reservation.uid fun _ => rfl

theorem Restated.username (h : Restated r r') : r'.username = r.username :=
  h.column Reservation.username fun _ => rfl

theorem Restated.paymentUid (h : Restated r r') : r'.paymentUid = r.paymentUid :=
  h.column Reservation.paymentUid fun _ => rfl

theorem Restated.hotelId (h : Restated r r') : r'.hotelId = r.hotelId :=
  h.column Reservation.hotelId fun _ => rfl

theorem Restated.startDate (h : Restated r r') : r'.startDate = r.startDate :=
  h.column Reservation.startDate fun _ => rfl

theorem Restated.endDate (h : Restated r r') : r'.endDate = r.endDate :=
  h.column Reservation.endDate fun _ => rfl

end Reservation

namespace Payment

/-- The same payment, but for its status. -/
abbrev Restated : Payment → Payment → Prop := Rows.Alike fun p => { p with status := .paid }

variable {p p' : Payment}

theorem restated_cancel (p : Payment) : Restated p p.cancel := rfl

theorem Restated.eq (h : Restated p p') : p' = { p with status := p'.status } := by
  cases p
  cases p'
  simpa [Rows.Alike] using h

theorem Restated.uid (h : Restated p p') : p'.uid = p.uid := h.column Payment.uid fun _ => rfl

theorem Restated.price (h : Restated p p') : p'.price = p.price :=
  h.column Payment.price fun _ => rfl

end Payment

namespace Stores

variable {s : Stores}

/-- The catalogue. -/
def hotels (s : Stores) : List Hotel := s.reservation.hotels

/-- A payment stays one that is found when another is changed. -/
theorem isSome_payment?_putPayment {p : Payment} {uid : Uid}
    (found : (s.payment? uid).isSome) : ((s.putPayment p).payment? uid).isSome := by
  by_cases same : uid = p.uid
  · rw [same] at found ⊢
    rwa [payment?_putPayment_self, Option.isSome_map]
  · rwa [payment?_putPayment_of_ne same]

/-- The other payments are found as they were when one is added. -/
theorem payment?_addPayment_of_ne {p : Payment} {uid : Uid} (other : uid ≠ p.uid) :
    (s.addPayment p).payment? uid = s.payment? uid := by
  simp [payment?, List.find?_append, newPayment, other.symm]

/-- A payment stays one that is found when another is added. -/
theorem isSome_payment?_addPayment {p : Payment} {uid : Uid}
    (found : (s.payment? uid).isSome) : ((s.addPayment p).payment? uid).isSome := by
  obtain ⟨q, there⟩ := Option.isSome_iff_exists.mp found
  exact Option.isSome_iff_exists.mpr ⟨q, payment?_addPayment there⟩

end Stores

/-- A reservation has a stored payment and a hotel of the catalogue. -/
def Founded (hotels : List Hotel) (r : Reservation) (p : Option Payment) : Prop :=
  p.isSome ∧ ∃ h ∈ hotels, h.id = r.hotelId

namespace Platform

/-- No row is lost, and none changes but in its status. -/
structure Grows (w w' : Platform) : Prop where
  reservations :
    Rows.Evolves Reservation.Restated w.stores.reservations w'.stores.reservations
  payments : Rows.Evolves Payment.Restated w.stores.payments w'.stores.payments
  hotels : w'.stores.hotels = w.stores.hotels
  used : ∀ u ∈ w.used, u ∈ w'.used

/-- The platform grows, and reservations stay founded and do not come to share payments. -/
structure Lasts (w w' : Platform) : Prop extends Grows w w' where
  founded : w.stores.Paired (Founded w.stores.hotels) →
    w'.stores.Paired (Founded w'.stores.hotels)
  unshared : w.stores.Unshared → w'.stores.Unshared

theorem Grows.refl (w : Platform) : w.Grows w where
  reservations := .refl (Rows.Alike.refl _) _
  payments := .refl (Rows.Alike.refl _) _
  hotels := rfl
  used _ member := member

variable {w w' w'' : Platform} {uid : Uid}

theorem Grows.trans (first : w.Grows w') (second : w'.Grows w'') : w.Grows w'' where
  reservations := first.reservations.trans Rows.Alike.trans second.reservations
  payments := first.payments.trans Rows.Alike.trans second.payments
  hotels := second.hotels.trans first.hotels
  used u member := second.used u (first.used u member)

theorem Grows.reservation? (h : w.Grows w') {r : Reservation}
    (found : w.stores.reservation? uid = some r) :
    ∃ r', w'.stores.reservation? uid = some r' ∧ r.Restated r' :=
  h.reservations.find? Reservation.Restated.uid found

theorem Grows.payment? (h : w.Grows w') {p : Payment}
    (found : w.stores.payment? uid = some p) :
    ∃ p', w'.stores.payment? uid = some p' ∧ p.Restated p' :=
  h.payments.find? Payment.Restated.uid found

theorem Lasts.refl (w : Platform) : w.Lasts w where
  toGrows := .refl w
  founded h := h
  unshared h := h

theorem Lasts.trans (first : w.Lasts w') (second : w'.Lasts w'') : w.Lasts w'' where
  toGrows := first.toGrows.trans second.toGrows
  founded h := second.founded (first.founded h)
  unshared h := second.unshared (first.unshared h)

/-! ## What each change keeps -/

variable {used : List Uid} (kept : ∀ u ∈ w.used, u ∈ used)

section Known

variable (known : w.Known)

include kept known

theorem Known.same : Known ⟨w.stores, used⟩ :=
  known.grow kept fun _ member => .inl member

theorem Known.addPayment {p : Payment} (taken : p.uid ∈ used) :
    Known ⟨w.stores.addPayment p, used⟩ := by
  apply known.grow kept
  intro uid member
  rcases Stores.mem_uids_addPayment.mp member with old | rfl
  · exact .inl old
  · exact .inr taken

theorem Known.putPayment (p : Payment) : Known ⟨w.stores.putPayment p, used⟩ := by
  apply known.grow kept
  intro uid member
  rw [Stores.uids_putPayment] at member
  exact .inl member

/-- A reservation is added under a taken identifier, and its payment is there. -/
theorem Known.addReservation {r : Reservation} (drawn : r.uid ∈ used)
    (stored : (w.stores.payment? r.paymentUid).isSome) :
    Known ⟨w.stores.addReservation r, used⟩ := by
  apply known.grow kept
  intro uid member
  rcases Stores.mem_uids_addReservation.mp member with old | rfl | rfl
  · exact .inl old
  · exact .inr drawn
  · obtain ⟨p, found⟩ := Option.isSome_iff_exists.mp stored
    rw [← Stores.uid_of_payment? found]
    exact .inl (List.mem_append_right _ (List.mem_map_of_mem (Stores.mem_of_payment? found)))

theorem Known.putReservation {r stored : Reservation}
    (found : w.stores.reservation? r.uid = some stored)
    (refers : r.paymentUid = stored.paymentUid) :
    Known ⟨w.stores.putReservation r, used⟩ := by
  apply known.grow kept
  intro uid member
  rw [Stores.uids_putReservation] at member
  · exact .inl member
  · intro stored' found'
    cases found.symm.trans found'
    exact refers

theorem Known.saveLoyalty (l : Loyalty) : Known ⟨w.stores.saveLoyalty l, used⟩ :=
  known.grow kept fun _ member => .inl member

end Known

include kept

theorem Lasts.same : w.Lasts ⟨w.stores, used⟩ where
  toGrows := { Grows.refl w with used := kept }
  founded h := h
  unshared h := h

theorem Lasts.addPayment (p : Payment) : w.Lasts ⟨w.stores.addPayment p, used⟩ where
  toGrows := { Grows.refl w with payments := .append (Rows.Alike.refl _) _ _, used := kept }
  founded h r member := (h r member).imp_left Stores.isSome_payment?_addPayment
  unshared h := h

/-- A payment is put in the place of one that it restates. -/
theorem Lasts.putPayment {p stored : Payment} (found : w.stores.payment? p.uid = some stored)
    (same : stored.Restated p) : w.Lasts ⟨w.stores.putPayment p, used⟩ where
  reservations := .refl (Rows.Alike.refl _) _
  payments := by
    refine .replaceFirst (Rows.Alike.refl _) fun stored' found' => ?_
    cases found.symm.trans found'
    rw [same.price]
    rfl
  hotels := rfl
  used := kept
  founded h r member := (h r member).imp_left Stores.isSome_payment?_putPayment
  unshared h := h

/-- A reservation is added whose payment and hotel are there, and whose payment no other
reservation refers to. -/
theorem Lasts.addReservation {r : Reservation}
    (rests : Founded w.stores.hotels r (w.stores.payment? r.paymentUid))
    (unreferenced : ∀ r' ∈ w.stores.reservations, r'.paymentUid ≠ r.paymentUid) :
    w.Lasts ⟨w.stores.addReservation r, used⟩ where
  toGrows :=
    { Grows.refl w with reservations := .append (Rows.Alike.refl _) _ _, used := kept }
  founded h := h.addReservation rests
  unshared h := h.addReservation unreferenced

/-- A reservation is put in the place of one that it restates. -/
theorem Lasts.putReservation {r stored : Reservation}
    (found : w.stores.reservation? r.uid = some stored) (same : stored.Restated r) :
    w.Lasts ⟨w.stores.putReservation r, used⟩ where
  reservations := by
    refine .replaceFirst (Rows.Alike.refl _) fun stored' found' => ?_
    cases found.symm.trans found'
    rw [same.eq]
    rfl
  payments := .refl (Rows.Alike.refl _) _
  hotels := rfl
  used := kept
  founded h := by
    apply h.putReservation
    intro stored' found'
    cases found.symm.trans found'
    have rests := h stored (Stores.mem_of_reservation? found)
    rw [← same.paymentUid, Founded, ← same.hotelId] at rests
    exact rests
  unshared h := by
    apply h.putReservation
    intro stored' found'
    cases found.symm.trans found'
    exact same.paymentUid

theorem Lasts.saveLoyalty (l : Loyalty) : w.Lasts ⟨w.stores.saveLoyalty l, used⟩ where
  toGrows := { Grows.refl w with used := kept }
  founded h := h
  unshared h := h

end Platform

end HotelBooking
