import HotelBooking.Proofs.Gateway.Outline
import HotelBooking.Proofs.Gateway.Session
import HotelBooking.Proofs.Store.Charges

/-!
# Paid stays where failing sagas are undone

Undoing a saga takes charges back, and a reservation that stays paid may lose its charge by
it. A saga knows only of the steps that were answered, so it undoes too little where the answer
to a step is lost; and it goes on undoing where one step cannot be undone. `Exposes u` are
the four mishaps by which that can cost a reservation the payment `u`. Whatever else
befalls the calls, and whatever befalls those of other reservations, does not.
-/

namespace HotelBooking

/-- The mishaps by which a paid reservation can lose its payment. -/
def Exposes (u : Uid) (log : List LogLine) : (c : Call) → Mishap c.Answer → Prop
  -- A reservation is stored and not known of, while its charge is taken back.
  | .createReservation d, m => d.paymentUid = u ∧ m.IsUnanswered
  -- A booked reservation cannot be undone, while its charge is taken back.
  | .updateReservation r, m =>
    r.paymentUid = u ∧ Undoing log ∧ r.status = .canceled ∧ m.IsLoss
  -- A charge is canceled and not known to be, or cannot be restored, while its reservation is.
  | .updatePayment p, m =>
    p.uid = u ∧ if Undoing log then p.status = .paid ∧ m.IsLoss else m.IsUnanswered
  | _, _ => False

instance (u : Uid) (log : List LogLine) : (c : Call) → (m : Mishap c.Answer) →
    Decidable (Exposes u log c m)
  | .createReservation _, _ => inferInstanceAs (Decidable (_ ∧ _))
  | .updateReservation _, _ => inferInstanceAs (Decidable (_ ∧ _ ∧ _ ∧ _))
  | .updatePayment _, _ => inferInstanceAs (Decidable (_ ∧ ite _ _ _))
  | .listHotels .., _ | .getHotelById _, _ | .getHotelByUid _, _ | .listReservations _, _
  | .getReservation _, _ | .createPayment _, _ | .getPayment _, _ | .getLoyalty _, _
  | .updateLoyalty _, _ => inferInstanceAs (Decidable False)

/-- Any call may fail, before or after it takes effect, but not so as to expose the payment. -/
def Sparing (u : Uid) : Faults := fun log c m => m.IsFailure ∧ ¬ Exposes u log c m

instance (u : Uid) (log : List LogLine) (c : Call) (m : Mishap c.Answer) :
    Decidable (Sparing u log c m) :=
  inferInstanceAs (Decidable (m.IsFailure ∧ ¬ Exposes u log c m))

/-- What is asked of a program that runs alone and is spared. -/
abbrev Sparing.demand (u : Uid) : Demand Moment := Terms.alone.demand (Sparing u)

/-- A paid reservation that refers to this payment has it, and it is paid. -/
def Covered (u : Uid) (r : Reservation) (p : Option Payment) : Prop :=
  r.paymentUid = u → Charged r p

variable {u : Uid}

theorem covered_elsewhere {r : Reservation} (other : r.paymentUid ≠ u) (p : Option Payment) :
    Covered u r p :=
  fun same => absurd same other

theorem lenient_covered : Lenient (Covered u) where
  canceled canceled _ := lenient_charged.canceled canceled
  paid paid _ := lenient_charged.paid paid

section Exposes

variable {log : List LogLine} {p : Payment} (uid : p.uid = u) (e : ServiceError)

include uid

theorem exposes_unrestored (begun : Undoing log) (paid : p.status = .paid) :
    Exposes u log (.updatePayment p) (.lost e) := by
  refine ⟨uid, ?_⟩
  rw [if_pos begun]
  exact ⟨paid, e, rfl⟩

theorem exposes_unanswered (forward : ¬ Undoing log) :
    Exposes u log (.updatePayment p) (.unanswered e) := by
  refine ⟨uid, ?_⟩
  rw [if_neg forward]
  exact ⟨e, rfl⟩

end Exposes

/-- However a program ends, paid reservations have this payment. -/
abbrev StaysBacked (u : Uid) {α : Type} (_ : α) (s : Moment) : Prop :=
  s.platform.Backed (Covered u)

theorem Sparing.honest : (Sparing u).Honest := fun _ _ _ permitted => permitted.1

/-- A call that only reads. -/
theorem Sparing.look {c : Call} {K : Outcome c.Answer → Moment → Prop} {s : Moment}
    (reading : c.isMutating = false)
    (served : ∀ fresh, K (c.served fresh s.stores).1 (s.past fresh s.stores))
    (failed : ∀ e fresh, K (.error e) (s.past fresh s.stores)) :
    (Sparing.demand u).call c K s := by
  have idle (fresh : Uid) := Call.served_reading fresh s.stores reading
  apply alone_call honest
  · intro f _
    rw [idle]
    exact served f
  · intro f _ e _
    exact failed e f
  · intro f _ e _ e'
    rw [idle]
    exact failed e' f

/-- Steps that write nothing expose nothing. -/
theorem Sparing.backed_after {s s' : Moment} (h : s.platform.Backed (Covered u))
    (leads : s.Leads s') (stores : s'.stores = s.stores) : s'.platform.Backed (Covered u) := by
  have kept : Platform.Backed (Covered u) ⟨s.stores, s'.platform.used⟩ := h.same leads.used
  rw [← stores] at kept
  exact kept

theorem Sparing.backed_look (c : Call) (s : Moment) (reading : c.isMutating = false)
    (h : s.platform.Backed (Covered u)) : (demand u).call c (StaysBacked u) s := by
  apply alone_reading reading honest
  intro s' leads stores
  exact backed_after h leads stores

namespace Gateway

open Operation Platform

variable {options : GatewayOptions} {w : Platform} {log : List LogLine} {own : List Uid}
  {r : Reservation} {p : Payment}

/-! ## Undoing steps -/

/-- A step is undone, whether or not that is known, or the call that undoes it is lost. -/
theorem undo_sparing {saga : String} {step : SagaStep} {steps : List SagaStep}
    {Q : Unit → Moment → Prop} {stores : Uid → Stores} (begun : Undoing log)
    (effect : ∀ fresh, ((undoing step.undo).served fresh w.stores).2 = stores fresh)
    (effective : ∀ fresh log own, Undoing log →
      (undo saga steps).Ensures (Sparing.demand u) Q
        ⟨⟨stores fresh, fresh :: w.used⟩, log, own⟩)
    (lost : ∀ e, ¬ Exposes u log (undoing step.undo) (.lost e) → ∀ fresh log own, Undoing log →
      (undo saga steps).Ensures (Sparing.demand u) Q
        ⟨⟨w.stores, fresh :: w.used⟩, log, own⟩) :
    (undo saga (step :: steps)).Ensures (Sparing.demand u) Q ⟨w, log, own⟩ := by
  rw [ensures_undo_cons]
  apply alone_call Sparing.honest
  · intro f _
    rw [effect]
    exact effective f _ _ (begun.append _)
  · intro f _ e permitted
    exact lost e permitted.2 f _ _ (begun.append _)
  · intro f _ e _ e'
    rw [effect]
    exact effective f _ _ (begun.append _)

/-- The last step undone is a charge that nobody depends on. -/
theorem undo_cancelPayment_backed {saga name : String} (h : w.Backed (Covered u))
    (begun : Undoing log)
    (after : ∀ used, (∀ x ∈ w.used, x ∈ used) →
      Backed (Covered u) ⟨w.stores.putPayment p.cancel, used⟩) :
    (undo saga [⟨name, .cancelPayment p⟩]).Ensures (Sparing.demand u)
      (StaysBacked u) ⟨w, log, own⟩ := by
  refine undo_sparing begun (fun f => rfl) ?_ ?_
  · intro f log own _
    change Backed _ ⟨((Call.updatePayment p.cancel).served f w.stores).2, _⟩
    rw [Call.served_updatePayment]
    split_ifs
    · exact h.same (kept_taken w f)
    · exact after _ (kept_taken w f)
  · intro e _ f log own _
    exact h.same (kept_taken w f)

section Restoring

variable {stored : Reservation} (h : w.Backed (Covered u)) (begun : Undoing log)
  (row : w.stores.reservation? r.uid = some stored) (refers : r.paymentUid = stored.paymentUid)

include h begun row refers

/-- The last step undone is the cancellation of a reservation that has its charge. -/
theorem undo_restoreReservation_backed {saga name : String}
    (covered : Covered u r (w.stores.payment? r.paymentUid)) :
    (undo saga [⟨name, .restoreReservation r⟩]).Ensures (Sparing.demand u)
      (StaysBacked u) ⟨w, log, own⟩ := by
  refine undo_sparing begun (fun f => rfl) ?_ ?_
  · intro f log own _
    change Backed _ ⟨((Call.updateReservation r).served f w.stores).2, _⟩
    rw [Call.served_updateReservation]
    exact h.putReservation (kept_taken w f) row refers covered
  · intro e _ f log own _
    exact h.same (kept_taken w f)

/-- Both steps of a cancellation are undone, the payment first. -/
theorem undo_restorePayment_backed {saga name name' : String} {charge : Payment}
    (canceled : stored.status = .canceled) (uid : p.uid = r.paymentUid) (price : ¬ p.price < 0)
    (found : w.stores.payment? p.uid = some charge) (covered : Covered u r (some p)) :
    (undo saga [⟨name, .restorePayment p⟩, ⟨name', .restoreReservation r⟩]).Ensures
      (Sparing.demand u) (StaysBacked u) ⟨w, log, own⟩ := by
  refine undo_sparing begun (fun f => Call.stores_updatePayment f w.stores price) ?_ ?_
  · intro f log' own' begun'
    have kept := h.putPayment (kept_taken w f) (Stores.mem_of_reservation? row)
      (refers.symm.trans uid.symm) fun _ => lenient_covered.canceled canceled
    apply undo_restoreReservation_backed kept begun' row refers
    intro same paid
    obtain ⟨q, own_row, status⟩ := covered same paid
    cases own_row
    change ∃ q, (w.stores.putPayment p).payment? r.paymentUid = some q ∧ _
    rw [← uid, Stores.payment?_putPayment_self, found]
    exact ⟨_, rfl, status⟩
  · intro e spared f log' own' begun'
    apply undo_restoreReservation_backed (h.same (kept_taken w f)) begun' row refers
    intro same paid
    -- It was paid, and a call that pays it again is not lost.
    obtain ⟨q, own_row, status⟩ := covered same paid
    cases own_row
    exact absurd (exposes_unrestored (uid.trans same) e begun status) spared

end Restoring

/-- Whatever becomes of a call that saves a record, it saves a record or does nothing. -/
theorem updateLoyalty_sparing {K : Outcome Loyalty → Moment → Prop} {l : Loyalty}
    (next : ∀ stores, stores = w.stores ∨ (∃ l, stores = w.stores.saveLoyalty l) →
      ∀ o fresh, K o ⟨⟨stores, fresh :: w.used⟩, log, fresh :: own⟩) :
    (Sparing.demand u).call (.updateLoyalty l) K ⟨w, log, own⟩ := by
  have effect (f : Uid) : ((Call.updateLoyalty l).served f w.stores).2 = w.stores ∨
      ∃ l', ((Call.updateLoyalty l).served f w.stores).2 = w.stores.saveLoyalty l' := by
    rw [Call.served_updateLoyalty]
    split_ifs
    · exact .inl rfl
    · exact .inr ⟨_, rfl⟩
  apply alone_call Sparing.honest
  · intro f _
    exact next _ (effect f) _ f
  · intro f _ e _
    exact next _ (.inl rfl) _ f
  · intro f _ e _ e'
    exact next _ (effect f) _ f

/-! ## Cancelling -/

section Cancelling

variable (on : options.compensateFailedSagas = true) (h : w.Backed (Covered u))

section Suspended

variable (row : w.stores.reservation? r.uid = some r.cancel)

include on h row

/-- A cancellation fails after its first step. -/
theorem reservationCanceled_backed {α : Type} {next : α → Moment → Prop} {e : ServiceError}
    (covered : Covered u r (w.stores.payment? r.paymentUid)) :
    orUnwind (Sparing.demand u) options (reservationCanceled r)
      (StaysBacked u : Outcome Unit → Moment → Prop) next (.error e) ⟨w, log, own⟩ := by
  apply (ensures_unwind_compensating on rfl _ _).mpr
  exact undo_restoreReservation_backed h (undoing_stepFailed log _ e) row rfl covered

section Voided

variable {charge : Payment} (uid : p.uid = r.paymentUid) (price : ¬ p.price < 0)
  (found : w.stores.payment? p.uid = some charge) (covered : Covered u r (some p))

include uid price found covered

/-- A cancellation fails after both steps. -/
theorem paymentCanceled_backed {α : Type} {next : α → Moment → Prop} {e : ServiceError} :
    orUnwind (Sparing.demand u) options (paymentCanceled r p)
      (StaysBacked u : Outcome Unit → Moment → Prop) next (.error e) ⟨w, log, own⟩ := by
  apply (ensures_unwind_compensating on rfl _ _).mpr
  exact undo_restorePayment_backed h (undoing_stepFailed log _ e) row rfl rfl uid price found
    covered

theorem releaseStay_backed {name : String} :
    (releaseStay options name r p).Ensures (Sparing.demand u)
      (StaysBacked u) ⟨w, log, own⟩ := by
  rw [ensures_releaseStay]
  have h₁ (f : Uid) := h.same (kept_taken w f)
  apply Sparing.look rfl
  · intro f
    cases (Call.served f w.stores (.getLoyalty name)).1 with
    | error e => exact paymentCanceled_backed on (h₁ f) row uid price found covered
    | ok l =>
        apply updateLoyalty_sparing
        intro stores effect o f₂
        obtain ⟨kept, row₂, found₂⟩ : Backed (Covered u) ⟨stores, f₂ :: f :: w.used⟩ ∧
            stores.reservation? r.uid = some r.cancel ∧ stores.payment? p.uid = some charge := by
          rcases effect with rfl | ⟨l', rfl⟩
          · exact ⟨(h₁ f).same (kept_taken _ f₂), row, found⟩
          · exact ⟨(h₁ f).saveLoyalty (kept_taken _ f₂) l', row, found⟩
        cases o with
        | ok saved => exact kept
        | error e => exact paymentCanceled_backed on kept row₂ uid price found₂ covered
  · intro e f
    exact paymentCanceled_backed on (h₁ f) row uid price found covered

end Voided

variable (forward : ¬ Undoing log) (covered : Covered u r (w.stores.payment? r.paymentUid))

include forward covered

/-- The payment of the canceled reservation is known, and canceled too. -/
theorem voidCharge_backed {name : String} (found : w.stores.payment? r.paymentUid = some p) :
    (voidCharge options name r p).Ensures (Sparing.demand u)
      (StaysBacked u) ⟨w, log, own⟩ := by
  have uid : p.uid = r.paymentUid := Stores.uid_of_payment? found
  have charge : w.stores.payment? p.cancel.uid = some p := uid ▸ found
  have kept (f : Uid) := h.same (kept_taken w f)
  have voided (f : Uid) := h.putPayment (p := p.cancel) (kept_taken w f)
    (Stores.mem_of_reservation? row) uid.symm fun _ => lenient_covered.canceled rfl
  rw [ensures_voidCharge]
  apply alone_call Sparing.honest
  · intro f _
    by_cases price : p.price < 0
    · rw [Call.served_updatePayment, if_pos (c := p.cancel.price < 0) price]
      exact reservationCanceled_backed on (kept f) row covered
    · rw [Call.served_updatePayment_of_found (p := p.cancel) f _ price charge]
      exact releaseStay_backed on (voided f) row uid price (Stores.payment?_cancel charge)
        (found ▸ covered)
  · intro f _ e _
    exact reservationCanceled_backed on (kept f) row covered
  · intro f _ e permitted e'
    have other : r.paymentUid ≠ u := fun same =>
      permitted.2 (exposes_unanswered (p := p.cancel) (uid.trans same) e forward)
    rw [Call.served_updatePayment]
    split_ifs
    · exact reservationCanceled_backed on (kept f) row covered
    · exact reservationCanceled_backed on (voided f) row (covered_elsewhere other _)

/-- The reservation is canceled, and its payment follows. -/
theorem cancelCharge_backed {name : String} :
    (cancelCharge options name r).Ensures (Sparing.demand u)
      (StaysBacked u) ⟨w, log, own⟩ := by
  rw [ensures_cancelCharge]
  have h₁ (f : Uid) := h.same (kept_taken w f)
  apply Sparing.look rfl
  · intro f
    rw [Call.served_getPayment]
    cases found : w.stores.payment? r.paymentUid with
    | none => exact reservationCanceled_backed on (h₁ f) row covered
    | some p => exact voidCharge_backed on (h₁ f) row forward covered found
  · intro e f
    exact reservationCanceled_backed on (h₁ f) row covered

end Suspended

include on h in
theorem cancelOwned_backed {name : String} (forward : ¬ Undoing log)
    (found : w.stores.reservation? r.uid = some r) :
    (cancelOwned options name r).Ensures (Sparing.demand u)
      (StaysBacked u) ⟨w, log, own⟩ := by
  rw [ensures_cancelOwned]
  split_ifs
  · exact h
  have canceled (f : Uid) := h.putReservation (r := r.cancel) (kept_taken w f) found rfl
    (lenient_covered.canceled rfl)
  apply alone_call Sparing.honest
  · intro f _
    rw [Call.served_updateReservation_of_found (r := r.cancel) f _ found]
    exact cancelCharge_backed on (canceled f) (Stores.reservation?_cancel found) forward
      (h.charged r (Stores.mem_of_reservation? found))
  · intro f _ e _
    exact h.same (kept_taken w f)
  · intro f _ e _ e'
    rw [Call.served_updateReservation_of_found (r := r.cancel) f _ found]
    exact canceled f

include on h in
theorem cancel_backed {uidText username : String} (forward : ¬ Undoing log) :
    (cancel options uidText username).Ensures (Sparing.demand u)
      (StaysBacked u) ⟨w, log, own⟩ := by
  refine ensures_cancel_of_owned (fun r s => s.stores.reservation? r.uid = some r)
    (J := fun s => s.platform.Backed (Covered u) ∧ ¬ Undoing s.log) ?_ ?_ ?_ ⟨h, forward⟩
  · rintro uid s ⟨h, forward⟩
    apply alone_getReservation Sparing.honest
    intro s' leads stores
    rw [leads.log]
    exact ⟨Sparing.backed_after h leads stores, forward⟩
  · rintro e s ⟨h, -⟩
    exact h
  · rintro name r s _ _ _ ⟨h, forward⟩ found
    exact cancelOwned_backed on h forward found

end Cancelling

/-! ## Booking -/

section Booking

variable (on : options.compensateFailedSagas = true) (h : w.Backed (Covered u))

section Charged

variable (after : ∀ used, (∀ x ∈ w.used, x ∈ used) →
  Backed (Covered u) ⟨w.stores.putPayment p.cancel, used⟩)

include on h after in
/-- A booking fails after its charge, which nobody depends on. -/
theorem paymentCreated_backed {α : Type} {next : α → Moment → Prop} {e : ServiceError} :
    orUnwind (Sparing.demand u) options (paymentCreated p)
      (StaysBacked u : Outcome BookingReceipt → Moment → Prop) next (.error e)
      ⟨w, log, own⟩ := by
  apply (ensures_unwind_compensating on rfl _ _).mpr
  exact undo_cancelPayment_backed h (undoing_stepFailed log _ e) after

end Charged

section Reserved

variable (found : w.stores.reservation? r.uid = some r) (refers : r.paymentUid = p.uid)

include on h found refers

/-- A booking fails after its reservation. -/
theorem reservationCreated_backed {α : Type} {next : α → Moment → Prop} {e : ServiceError} :
    orUnwind (Sparing.demand u) options (reservationCreated p r)
      (StaysBacked u : Outcome BookingReceipt → Moment → Prop) next (.error e)
      ⟨w, log, own⟩ := by
  have canceled (f : Uid) := h.putReservation (r := r.cancel) (kept_taken w f) found rfl
    (lenient_covered.canceled rfl)
  have effect (f : Uid) := congrArg Prod.snd (Call.served_updateReservation f w.stores r.cancel)
  apply (ensures_unwind_compensating on rfl _ _).mpr
  refine undo_sparing (undoing_stepFailed log _ e) effect ?_ ?_
  · intro f log' own' begun
    apply undo_cancelPayment_backed (canceled f) begun
    intro used kept
    have member := Stores.mem_of_reservation? (Stores.reservation?_cancel found)
    exact (canceled f).putPayment kept member refers fun _ => lenient_covered.canceled rfl
  · -- The reservation stays paid, so it is not the one in question.
    intro e' spared f log' own' begun
    have other : r.paymentUid ≠ u := fun same =>
      spared ⟨same, undoing_stepFailed log _ e, rfl, e', rfl⟩
    apply undo_cancelPayment_backed (h.same (kept_taken w f)) begun
    intro used kept
    exact (h.same (kept_taken w f)).putPayment kept (Stores.mem_of_reservation? found) refers
      (covered_elsewhere other)

/-- Both rows of a booking are stored, and it is counted. -/
theorem countStay_backed {hotel : Hotel} {discount : Int32} {l : Loyalty} :
    (countStay options hotel discount l p r).Ensures (Sparing.demand u)
      (StaysBacked u) ⟨w, log, own⟩ := by
  rw [ensures_countStay]
  apply updateLoyalty_sparing
  intro stores effect o f
  obtain ⟨kept, found₁⟩ :
      Backed (Covered u) ⟨stores, f :: w.used⟩ ∧ stores.reservation? r.uid = some r := by
    rcases effect with rfl | ⟨l', rfl⟩
    · exact ⟨h.same (kept_taken w f), found⟩
    · exact ⟨h.saveLoyalty (kept_taken w f) l', found⟩
  cases o with
  | ok saved => exact kept
  | error e => exact reservationCreated_backed on kept found₁ refers

end Reserved

include on h in
/-- From where a charge is stored that no reservation refers to yet. -/
theorem reserve_backed {name : String} {stay : StayRequest} {hotel : Hotel} {discount : Int32}
    {l : Loyalty} {uid : Uid} (unspent : w.Unspent p.uid) (drawn : uid ∈ w.used) :
    (reserve options name stay hotel discount l p uid).Ensures (Sparing.demand u)
      (StaysBacked u) ⟨w, log, own⟩ := by
  have unreferenced (f : Uid) (used : List Uid) (kept : ∀ x ∈ f :: w.used, x ∈ used) :=
    (h.same (kept_taken w f)).putPayment_of_unreferenced (p := p.cancel) kept unspent.unreferenced
  have failed (f : Uid) (e : ServiceError) (next : Reservation → Moment → Prop) :
      orUnwind (Sparing.demand u) options (paymentCreated p)
        (StaysBacked u : Outcome BookingReceipt → Moment → Prop) next (.error e)
        ⟨⟨w.stores, f :: w.used⟩, log, f :: own⟩ :=
    paymentCreated_backed on (h.same (kept_taken w f)) (unreferenced f)
  have added (f : Uid) : Backed (Covered u)
      ⟨w.stores.addReservation (Call.identified f (draftFor uid name stay hotel p)),
        f :: w.used⟩ := by
    apply h.addReservation (kept_taken w f) lenient_covered
    · rw [Call.paymentUid_identified]
      exact unspent
    · exact Call.uid_identified (kept_taken w f _ drawn) List.mem_cons_self
  rw [ensures_reserve]
  apply alone_call Sparing.honest
  · intro f _
    rcases Call.refused_or_reserved f w.stores (draftFor uid name stay hotel p) with
      ⟨e, refused⟩ | ⟨stored, found⟩
    · rw [refused]
      exact failed f e _
    · rw [stored]
      exact countStay_backed on (added f) found Call.paymentUid_identified
  · intro f _ e _
    exact failed f e _
  · intro f _ e permitted e'
    rcases Call.refused_or_reserved f w.stores (draftFor uid name stay hotel p) with
      ⟨_, refused⟩ | ⟨stored, found⟩
    · rw [refused]
      exact failed f e' _
    · -- It is stored unnoticed, so it is not the one in question.
      have other : p.uid ≠ u := fun same => permitted.2 ⟨same, e, rfl⟩
      rw [stored]
      apply paymentCreated_backed on (added f)
      intro used kept
      exact (added f).putPayment kept (Stores.mem_of_reservation? found) Call.paymentUid_identified
        (covered_elsewhere (Call.paymentUid_identified.trans_ne other))

include on h

theorem bookPriced_backed {name : String} {stay : StayRequest} {hotel : Hotel}
    {discount price : Int32} {l : Loyalty} :
    (bookPriced options name stay hotel discount l price).Ensures (Sparing.demand u)
      (StaysBacked u) ⟨w, log, own⟩ := by
  have h₁ (f : Uid) := h.same (kept_taken w f)
  have charged (f : Uid) (unused : f ∉ w.used) := h.addPayment (p := .charge f price)
    (kept_taken w f) (h.known.unknown unused) List.mem_cons_self
  rw [ensures_bookPriced]
  apply alone_call Sparing.honest
  · intro f unused
    rcases Call.refused_or_charged f w.stores price with ⟨e, refused⟩ | ⟨stored, -⟩
    · rw [refused]
      exact h₁ f
    · rw [stored]
      rintro _ rfl uid unused₂
      have unspent : Unspent f ⟨w.stores.addPayment (.charge f price), uid :: f :: w.used⟩ :=
        Unspent.new (p := .charge f price) (h.known.unknown unused) rfl
      refine ⟨trivial, reserve_backed on ((charged f unused).same (kept_taken _ uid)) unspent ?_⟩
      exact List.mem_cons_self
  · intro f _ e _
    exact h₁ f
  · intro f unused e _ e'
    rcases Call.refused_or_charged f w.stores price with ⟨_, refused⟩ | ⟨stored, -⟩
    · rw [refused]
      exact h₁ f
    · rw [stored]
      exact charged f unused

theorem book_backed {username : String} {request : BookingRequest} :
    (book options username request).Ensures (Sparing.demand u) (StaysBacked u) ⟨w, log, own⟩ :=
  ensures_book_of_priced Sparing.backed_look (fun _ _ h => h)
    (fun _ _ _ _ _ _ _ h => bookPriced_backed on h) h

end Booking

end Gateway

/-- Where failing sagas are undone, a paid reservation has a paid payment after every request,
unless a mishap exposed that payment. -/
theorem Session.charged_unless_exposed {options : GatewayOptions}
    (on : options.compensateFailedSagas = true) {s : Stores}
    (charged : ∀ r ∈ s.reservations, r.status = .paid →
      ∃ p, s.payment? r.paymentUid = some p ∧ p.status = .paid)
    (unshared : (s.reservations.map Reservation.paymentUid).Nodup) {u : Uid}
    {entries : List Entry} {w : Platform}
    (session : Session options (Sparing u) (.start s) entries w) :
    ∀ r ∈ w.stores.reservations, r.paymentUid = u → r.status = .paid →
      ∃ p, w.stores.payment? u = some p ∧ p.status = .paid := by
  have initially : (Platform.start s).Backed (Covered u) :=
    ⟨Platform.known_start s, fun r member _ paid => charged r member paid, unshared⟩
  have backed : w.Backed (Covered u) := by
    apply session.invariant (fun _ w => w.Backed (Covered u)) initially
    intro _ w r h
    have forward : ¬ Undoing [] := by
      rintro ⟨line, member, -⟩
      cases member
    exact r.ensures_of_writes (Q := fun _ _ => StaysBacked u ()) (s := ⟨w, [], []⟩)
      Sparing.backed_look (fun _ _ _ h => h) (fun _ _ => Gateway.book_backed on h)
      (fun _ _ => Gateway.cancel_backed on h forward) h
  rintro r member rfl paid
  exact backed.charged r member rfl paid

/-- Steps of one booking are undone although answers are lost, while another booking loses its
payment. -/
theorem charged_beside_exposed :
    let options : GatewayOptions := { compensateFailedSagas := true }
    ∃ entries w, Session options (Sparing (.ofNat 3)) (.start {}) entries w ∧
      w.stores.reservations.map Reservation.status = [.paid, .paid] ∧
      w.stores.payments.map Payment.status = [.paid, .canceled] ∧
      ∀ r ∈ w.stores.reservations, r.paymentUid = .ofNat 3 → r.status = .paid →
        ∃ p, w.stores.payment? (.ofNat 3) = some p ∧ p.status = .paid := by
  intro options
  obtain ⟨entries, w, session, statuses⟩ := Session.exists_of_rehearseAll options
    (Sparing (.ofNat 3))
    [(.book "ada" weekend, smoothly 1 6),
      (.cancel (Uid.ofNat 4).toText "ada",
        smoothly 7 3 ++ [losing 10] ++ smoothly 11 1 ++ [unanswering 12] ++ smoothly 13 1),
      (.book "bob" weekend, smoothly 21 4 ++ [unanswering 25] ++ smoothly 26 3)]
    (.start {}) (fun _ w => w.stores.reservations.map Reservation.status = [.paid, .paid] ∧
      w.stores.payments.map Payment.status = [.paid, .canceled]) (by decide +kernel)
  obtain ⟨reservations, payments⟩ := of_decide_eq_true statuses
  exact ⟨entries, w, session, reservations, payments,
    Session.charged_unless_exposed (s := {}) rfl (fun _ member => nomatch member) List.nodup_nil
      session⟩

/-- Each of the four mishaps leaves a paid reservation whose payment is canceled: the answer
to storing it is lost; it cannot be undone; the answer to canceling its payment is lost; its
payment cannot be restored. -/
theorem uncharged_where_exposed :
    let options : GatewayOptions := { compensateFailedSagas := true }
    let uncharged (plan : List (GuestRequest × List Cue)) : Prop :=
      ∃ entries w, rehearseAll options Failing plan (.start {}) [] = some (entries, w) ∧
        Session options Failing (.start {}) entries w ∧
        w.stores.reservations.map Reservation.status = [.paid] ∧
        w.stores.payments.map Payment.status = [.canceled]
    uncharged [(.book "ada" weekend, smoothly 1 4 ++ [unanswering 5] ++ smoothly 6 3)] ∧
    uncharged [(.book "ada" weekend,
      smoothly 1 5 ++ [losing 6] ++ smoothly 7 1 ++ [losing 8] ++ smoothly 9 3)] ∧
    uncharged [(.book "ada" weekend, smoothly 1 6), (.cancel (Uid.ofNat 4).toText "ada",
      smoothly 7 3 ++ [unanswering 10] ++ smoothly 11 3)] ∧
    uncharged [(.book "ada" weekend, smoothly 1 6), (.cancel (Uid.ofNat 4).toText "ada",
      smoothly 7 4 ++ [losing 11] ++ smoothly 12 1 ++ [losing 13] ++ smoothly 14 3)] := by
  intro options uncharged
  have rehearsed (plan : List (GuestRequest × List Cue))
      (passed : (rehearseAll options Failing plan (.start {}) []).any fun after =>
        after.2.stores.reservations.map Reservation.status = [.paid] ∧
        after.2.stores.payments.map Payment.status = [.canceled]) : uncharged plan := by
    obtain ⟨⟨entries, w⟩, h, statuses⟩ := (Option.any_eq_true _ _).mp passed
    exact ⟨entries, w, h, Session.nil.rehearsed h, of_decide_eq_true statuses⟩
  refine ⟨rehearsed _ ?_, rehearsed _ ?_, rehearsed _ ?_, rehearsed _ ?_⟩
  all_goals decide +kernel

end HotelBooking
