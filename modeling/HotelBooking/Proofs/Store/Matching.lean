import HotelBooking.Proofs.Store.Pairing

/-!
# Payments of canceled reservations

A canceled reservation should have a canceled payment. `Matched loose` asks that of every
reservation but the loose ones. A cancellation that stops between its two writes makes one
reservation loose; canceling the payment, in whatever order and by whichever operation,
makes it fit again.
-/

namespace HotelBooking

namespace Stores

/-- If the reservation is canceled, so is its payment, unless the reservation is loose. -/
def Matched (loose : Reservation → Prop) (r : Reservation) (p : Option Payment) : Prop :=
  ∃ q, p = some q ∧ (r.status = .canceled → q.status = .canceled ∨ loose r)

variable {s : Stores} {loose loose' : Reservation → Prop}

theorem Paired.loosen (h : s.Paired (Matched loose)) (weaker : ∀ r, loose r → loose' r) :
    s.Paired (Matched loose') := by
  intro r member
  obtain ⟨q, found, fits⟩ := h r member
  exact ⟨q, found, fun canceled => (fits canceled).imp_right (weaker r)⟩

/-- Another payment changes nothing for reservations that have theirs. -/
theorem Paired.addPayment_matched (h : s.Paired (Matched loose)) (p : Payment) :
    (s.addPayment p).Paired (Matched loose) := by
  intro r member
  obtain ⟨q, found, fits⟩ := h r member
  exact ⟨q, payment?_addPayment found, fits⟩

/-- Where a payment is canceled, no reservation that refers to it need be loose. -/
theorem Paired.cancelPayment {p : Payment} (h : s.Paired (Matched loose'))
    (fewer : ∀ r, loose' r → loose r ∨ r.paymentUid = p.uid) :
    (s.putPayment p.cancel).Paired (Matched loose) := by
  intro r member
  obtain ⟨q, found, fits⟩ := h r member
  by_cases here : r.paymentUid = p.cancel.uid
  · rw [here] at found ⊢
    rw [payment?_putPayment_self, found]
    exact ⟨_, rfl, fun _ => .inl rfl⟩
  · rw [payment?_putPayment_of_ne here]
    refine ⟨q, found, ?_⟩
    intro canceled
    rcases fits canceled with void | excused
    · exact .inl void
    · exact .inr ((fewer r excused).resolve_right here)

/-- A reservation is canceled before its payment is. -/
theorem Paired.cancelReservation {r : Reservation} {p : Payment}
    (h : s.Paired (Matched loose)) (charge : s.payment? r.paymentUid = some p) :
    (s.putReservation r.cancel).Paired
      (Matched fun r' => loose r' ∨ r'.uid = r.uid ∧ r'.paymentUid = r.paymentUid) :=
  (h.loosen fun _ => .inl).putReservation fun _ _ => ⟨p, charge, fun _ => .inr (.inr ⟨rfl, rfl⟩)⟩

/-- Once its payment is canceled as well, nothing is loose that was not before. -/
theorem Paired.cancelBoth {r : Reservation} {p : Payment} (h : s.Paired (Matched loose))
    (charge : s.payment? r.paymentUid = some p) (uid : p.uid = r.paymentUid) :
    ((s.putReservation r.cancel).putPayment p.cancel).Paired (Matched loose) := by
  apply (h.cancelReservation charge).cancelPayment
  rintro r' (old | ⟨-, refers⟩)
  · exact .inl old
  · exact .inr (refers.trans uid.symm)

end Stores

end HotelBooking
