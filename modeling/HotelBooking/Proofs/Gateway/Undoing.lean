import HotelBooking.Proofs.Gateway.Interference
import HotelBooking.Proofs.Gateway.Outline

/-!
# What undoing leaves

What the compensations of a failing saga do to the stores when none of them fails: a
cancellation leaves no trace, and of a booking what was added stays, canceled. Each compensation is
accepted by its service, because the step that it undoes was, and writes back the row that
the step found.
-/

namespace HotelBooking

/-- Calls may be lost on the way forward, and nothing else goes wrong. -/
def Faults.Mild (faults : Faults) : Prop :=
  ∀ log c m, faults log c m → ¬ Undoing log ∧ m.IsLoss

theorem Faults.Mild.honest {faults : Faults} (mild : faults.Mild) : faults.Honest :=
  fun log c m permitted => (mild log c m permitted).2.isFailure

namespace Gateway

variable {faults : Faults} {options : GatewayOptions} {s : Moment} {w : Stores}
  {p : Payment} {r : Reservation}

/-- Nothing taken since this moment was given back, and the stores are these. -/
def Leaves (s : Moment) (stores : Stores) (_ : Unit) (s' : Moment) : Prop :=
  (∀ uid ∈ s.platform.used, uid ∈ s'.platform.used) ∧ s'.stores = stores

/-- A step is undone; nothing interferes with that. -/
theorem undo_mild (mild : faults.Mild) {saga : String} {step : SagaStep} {steps : List SagaStep}
    {Q : Unit → Moment → Prop} {stores : Stores} (begun : Undoing s.log)
    (effect : ∀ fresh, ((undoing step.undo).served fresh s.stores).2 = stores)
    (next : ∀ s', (∀ uid ∈ s.platform.used, uid ∈ s'.platform.used) → Undoing s'.log →
      s'.stores = stores → (undo saga steps).Ensures (Terms.alone.demand faults) Q s') :
    (undo saga (step :: steps)).Ensures (Terms.alone.demand faults) Q s := by
  rw [ensures_undo_cons]
  apply alone_call mild.honest
  · intro fresh _
    exact next _ (s.leads_past fresh _).used (begun.append _) (effect fresh)
  · intro fresh _ e permitted
    exact absurd begun (mild _ _ _ permitted).1
  · intro fresh _ e permitted
    exact absurd begun (mild _ _ _ permitted).1

section Undoing

variable (mild : faults.Mild) (on : options.compensateFailedSagas = true) (begun : Undoing s.log)

include mild on begun

/-! ## Booking -/

section Booking

variable (unknown : w.payment? p.uid = none) (price : ¬ p.price < 0)

include unknown price

/-- Of a booking that ends after its charge the charge is left, canceled. -/
theorem unwind_paymentCreated (stores : s.stores = w.addPayment p) :
    (unwind options (paymentCreated (w.newPayment p))).Ensures (Terms.alone.demand faults)
      (Leaves s (w.addPayment p.cancel)) s := by
  have discharged (f : Uid) :
      ((Call.updatePayment (w.newPayment p).cancel).served f s.stores).2 =
        w.addPayment p.cancel := by
    rw [Call.stores_updatePayment f s.stores (p := (w.newPayment p).cancel) price, stores,
      Stores.putPayment_addPayment unknown]
  rw [ensures_unwind_compensating on rfl]
  refine undo_mild mild begun discharged ?_
  intro s₁ kept₁ _ stores₁
  exact ⟨kept₁, stores₁⟩

/-- Both steps of a booking are undone, the reservation first. -/
theorem unwind_reservationCreated (new : w.reservation? r.uid = none)
    (stores : s.stores = (w.addPayment p).addReservation r) :
    (unwind options (reservationCreated (w.newPayment p)
      ((w.addPayment p).newReservation r))).Ensures (Terms.alone.demand faults)
      (Leaves s ((w.addPayment p.cancel).addReservation r.cancel)) s := by
  have canceled (f : Uid) : ((Call.updateReservation
      ((w.addPayment p).newReservation r).cancel).served f s.stores).2 =
        (w.addPayment p).addReservation r.cancel := by
    rw [Call.served_updateReservation, stores]
    exact Stores.putReservation_addReservation (s := w.addPayment p) new
  rw [ensures_unwind_compensating on rfl]
  refine undo_mild mild begun canceled ?_
  intro s₁ kept₁ begun₁ stores₁
  have discharged (f : Uid) :
      ((Call.updatePayment (w.newPayment p).cancel).served f s₁.stores).2 =
        (w.addPayment p.cancel).addReservation r.cancel := by
    rw [Call.stores_updatePayment f s₁.stores (p := (w.newPayment p).cancel) price, stores₁,
      ← Stores.putPayment_addPayment unknown]
    rfl
  refine undo_mild mild begun₁ discharged ?_
  intro s₂ kept₂ _ stores₂
  exact ⟨fun uid member => kept₂ uid (kept₁ uid member), stores₂⟩

end Booking

/-! ## Cancelling -/

section Cancelling

variable (found : w.reservation? r.uid = some r)

include found

/-- A cancellation that ends after its first step is undone. -/
theorem unwind_reservationCanceled (stores : s.stores = w.putReservation r.cancel) :
    (unwind options (reservationCanceled r)).Ensures (Terms.alone.demand faults)
      (Leaves s w) s := by
  have restored (f : Uid) : ((Call.updateReservation r).served f s.stores).2 = w := by
    rw [Call.served_updateReservation, stores]
    exact Stores.putReservation_restore found rfl
  rw [ensures_unwind_compensating on rfl]
  refine undo_mild mild begun restored ?_
  intro s₁ kept₁ _ stores₁
  exact ⟨kept₁, stores₁⟩

/-- Both steps of a cancellation are undone, the payment first. -/
theorem unwind_paymentCanceled (charge : w.payment? p.uid = some p) (price : ¬ p.price < 0)
    (stores : s.stores = (w.putReservation r.cancel).putPayment p.cancel) :
    (unwind options (paymentCanceled r p)).Ensures (Terms.alone.demand faults)
      (Leaves s w) s := by
  have recharged (f : Uid) : ((Call.updatePayment p).served f s.stores).2 =
      w.putReservation r.cancel := by
    rw [Call.stores_updatePayment f s.stores price, stores]
    exact Stores.putPayment_restore (s := w.putReservation r.cancel) charge rfl
  rw [ensures_unwind_compensating on rfl]
  refine undo_mild mild begun recharged ?_
  intro s₁ kept₁ begun₁ stores₁
  have restored (f : Uid) : ((Call.updateReservation r).served f s₁.stores).2 = w := by
    rw [Call.served_updateReservation, stores₁]
    exact Stores.putReservation_restore found rfl
  refine undo_mild mild begun₁ restored ?_
  intro s₂ kept₂ _ stores₂
  exact ⟨fun uid member => kept₂ uid (kept₁ uid member), stores₂⟩

end Cancelling

end Undoing

end Gateway

end HotelBooking
