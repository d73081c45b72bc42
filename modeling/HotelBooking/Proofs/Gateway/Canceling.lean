import HotelBooking.Proofs.Gateway.Outline
import HotelBooking.Proofs.Gateway.Session
import HotelBooking.Proofs.Store.Matching

/-!
# Cancellations that report success

A cancellation of a reservation that is canceled already reports success and looks no
further. Whether the payment is canceled too is then up to the operations before it. Each
that may have left a canceled reservation with a charge says so in its log: `Entry.Strands`
are the lines in question. Where calls are lost but never carried out unnoticed, nothing
else keeps a reported success from being a whole one.
-/

namespace HotelBooking

namespace Losing

/-- What is asked of a program that runs alone and may lose calls. -/
abbrev demand : Demand Moment := Terms.alone.demand Losing

variable {c : Call} {K : Outcome c.Answer → Moment → Prop} {s : Moment}

theorem honest : Losing.Honest := fun _ _ _ loss => loss.isFailure

/-- A call is answered by its service, or lost. -/
theorem call
    (served : ∀ fresh s', s'.log = s.log → s'.stores = (c.served fresh s.stores).2 →
      K (c.served fresh s.stores).1 s')
    (lost : ∀ e s', s'.log = s.log → s'.stores = s.stores → K (.error e) s') :
    Losing.demand.call c K s := by
  apply alone_call honest
  · intro fresh _
    exact served fresh _ rfl rfl
  · intro fresh _ e _
    exact lost e _ rfl rfl
  · rintro fresh _ e ⟨_, impossible⟩
    cases impossible

/-- A call that only reads. -/
theorem look (reading : c.isMutating = false)
    (served : ∀ fresh s', s'.log = s.log → s'.stores = s.stores →
      K (c.served fresh s.stores).1 s')
    (lost : ∀ e s', s'.log = s.log → s'.stores = s.stores → K (.error e) s') :
    Losing.demand.call c K s := by
  refine call ?_ lost
  intro fresh s' log stores
  rw [Call.served_reading fresh s.stores reading] at stores
  exact served fresh s' log stores

end Losing

/-- The lines say that a step was undone. -/
def Undone (log : List LogLine) (undo : Compensation) : Prop :=
  ∃ saga step, .compensated saga step undo ∈ log

/-- The lines say that a step could not be undone. -/
def NotUndone (log : List LogLine) (undo : Compensation) : Prop :=
  ∃ saga step e, .compensationFailed saga step undo e ∈ log

/-- The lines of a request say that it left the reservation canceled and did not cancel its
payment. -/
inductive Entry.Strands (e : Entry) (r : Reservation) : Prop
  /-- A cancellation left its first step in place, and that only. -/
  | left {uidText username : String} (request : e.request = .cancel uidText username)
      (uid : Gateway.parseUid uidText = .ok r.uid)
      (line : .stepsLeft "cancel_reservation" ["reservation_canceled"] ∈ e.log)
  /-- The first step of a cancellation could not be undone, and it was the only one or the
  other was undone. -/
  | unrestored {r' : Reservation} (uid : r'.uid = r.uid)
      (kept : NotUndone e.log (.restoreReservation r'))
      (recharged : ∀ p, ¬ NotUndone e.log (.restorePayment p))
  /-- Of a booking the reservation was undone, and the charge could not be. -/
  | charged {r' : Reservation} {p : Payment} (uid : r'.uid = r.uid)
      (refers : r.paymentUid = p.uid) (canceled : Undone e.log (.cancelReservation r'))
      (kept : NotUndone e.log (.cancelPayment p))

namespace Gateway

open Operation Stores

variable {options : GatewayOptions} {loose : Reservation → Prop} {s : Moment}

/-- Canceled reservations have canceled payments, but for those that were loose before and
those that the request stranded. -/
def Tied (loose : Reservation → Prop) (r : GuestRequest) (o : Outcome r.Answer)
    (s : Moment) : Prop :=
  s.stores.Paired (Matched fun x => loose x ∨ Entry.Strands ⟨r, o, s.log⟩ x)

theorem tied_of_paired {r : GuestRequest} {o : Outcome r.Answer}
    (h : s.stores.Paired (Matched loose)) : Tied loose r o s :=
  h.loosen fun _ => .inl

/-- A saga fails, and what becomes of its steps remains. -/
theorem failed_of_unwind {α β : Type} {saga : Saga} {Q : Outcome β → Moment → Prop}
    {next : α → Moment → Prop} {e : ServiceError}
    (h : ∀ s', s'.log = s.log ++ [.stepFailed saga.name e] → s'.stores = s.stores →
      (unwind options saga).Ensures Losing.demand (fun _ => Q (.error e)) s') :
    orUnwind Losing.demand options saga Q next (.error e) s :=
  h _ rfl rfl

/-- A step is undone, or the call that undoes it is lost. -/
theorem undo_losing {saga : String} {step : SagaStep} {steps : List SagaStep}
    {Q : Unit → Moment → Prop} {o : Outcome (undoing step.undo).Answer} {stores : Stores}
    (effect : ∀ fresh, (undoing step.undo).served fresh s.stores = (o, stores))
    (served : ∀ s', s'.log = s.log ++ [undoneLine saga step o] → s'.stores = stores →
      (undo saga steps).Ensures Losing.demand Q s')
    (lost : ∀ e s', s'.log = s.log ++ [.compensationFailed saga step.name step.undo e] →
      s'.stores = s.stores → (undo saga steps).Ensures Losing.demand Q s') :
    (undo saga (step :: steps)).Ensures Losing.demand Q s := by
  rw [ensures_undo_cons]
  apply Losing.call
  · intro fresh s' log stores'
    rw [effect] at stores' ⊢
    exact served _ (by rw [← log]; rfl) stores'
  · intro e s' log stores'
    exact lost e _ (by rw [← log]; rfl) stores'

/-! ## Cancelling -/

/-- What a cancellation comes to. -/
structure Cancels (loose : Reservation → Prop) (uidText username : String) (o : Outcome Unit)
    (s : Moment) : Prop where
  tied : Tied loose (.cancel uidText username) o s
  canceled : o = .ok () → ∃ uid r p, parseUid uidText = .ok uid ∧
    s.stores.reservation? uid = some r ∧ r.status = .canceled ∧
    s.stores.payment? r.paymentUid = some p ∧ (p.status = .canceled ∨ loose r)

section Cancelling

variable {uidText username name : String} {w : Stores} {r : Reservation} {p : Payment}

theorem Cancels.failed {e : ServiceError} (h : Tied loose (.cancel uidText username) (.error e) s) :
    Cancels loose uidText username (.error e) s :=
  ⟨h, fun impossible => nomatch impossible⟩

variable (h : w.Paired (Matched loose)) (parsed : parseUid uidText = .ok r.uid)
  (found : w.reservation? r.uid = some r) (charge : w.payment? r.paymentUid = some p)
  (start : s.log = [])

include h found charge in
/-- The canceled reservation is restored, and if it is not, the log says so. -/
theorem restoreReservation_tied {request : GuestRequest} {o : Outcome request.Answer}
    {saga name : String} (recharged : ∀ p, ¬ NotUndone s.log (.restorePayment p))
    (stores : s.stores = w.putReservation r.cancel) :
    (undo saga [⟨name, .restoreReservation r⟩]).Ensures Losing.demand
      (fun _ => Tied loose request o) s := by
  have restored (f : Uid) : (Call.updateReservation r).served f s.stores = (.ok (), w) := by
    rw [stores, Call.served_updateReservation_of_found f _ (Stores.reservation?_cancel found)]
    exact congrArg _ (Stores.putReservation_restore found rfl)
  refine undo_losing restored ?_ ?_
  · intro s₁ _ stores₁
    exact tied_of_paired (stores₁ ▸ h)
  · intro e₁ s₁ log₁ stores₁
    have pending := h.cancelReservation charge
    rw [← stores, ← stores₁] at pending
    apply pending.loosen
    rintro x (old | ⟨uid, -⟩)
    · exact .inl old
    · refine .inr (.unrestored uid.symm ?_ ?_)
      · exact ⟨saga, name, e₁, log₁ ▸ List.mem_append_right _ List.mem_cons_self⟩
      · rintro p ⟨saga', name', e', member⟩
        rw [log₁] at member
        rcases List.mem_append.mp member with earlier | last
        · exact recharged p ⟨saga', name', e', earlier⟩
        · cases List.mem_singleton.mp last

include h parsed found charge start in
/-- A cancellation fails after its first step. -/
theorem reservationCanceled_failed {α : Type} {next : α → Moment → Prop} {e : ServiceError}
    (stores : s.stores = w.putReservation r.cancel) :
    orUnwind Losing.demand options (reservationCanceled r)
      (Cancels loose uidText username) next (.error e) s := by
  refine failed_of_unwind fun s₁ log₁ stores₁ => Program.Ensures.mono ?_ fun _ _ => Cancels.failed
  have stores₁ := stores₁.trans stores
  by_cases on : options.compensateFailedSagas
  · rw [ensures_unwind_compensating on rfl]
    refine restoreReservation_tied h found charge ?_ stores₁
    rintro p ⟨_, _, _, member⟩
    simp [log₁, start] at member
  · rw [ensures_unwind_leaving (Bool.eq_false_iff.mpr on) rfl]
    have pending := h.cancelReservation charge
    rw [← stores₁] at pending
    apply pending.loosen
    rintro x (old | ⟨uid, -⟩)
    · exact .inl old
    · exact .inr (.left rfl (uid ▸ parsed) (List.mem_append_right _ List.mem_cons_self))

include h found charge start in
/-- A cancellation fails after both steps. -/
theorem paymentCanceled_failed {α : Type} {next : α → Moment → Prop} {e : ServiceError}
    (uid : p.uid = r.paymentUid) (price : ¬ p.price < 0)
    (stores : s.stores = (w.putReservation r.cancel).putPayment p.cancel) :
    orUnwind Losing.demand options (paymentCanceled r p)
      (Cancels loose uidText username) next (.error e) s := by
  refine failed_of_unwind fun s₁ log₁ stores₁ => Program.Ensures.mono ?_ fun _ _ => Cancels.failed
  have stores₁ := stores₁.trans stores
  have both : s₁.stores.Paired (Matched loose) := by
    rw [stores₁]
    exact h.cancelBoth charge uid
  by_cases on : options.compensateFailedSagas
  · have own : (w.putReservation r.cancel).payment? p.uid = some p := uid ▸ charge
    have recharged (f : Uid) : (Call.updatePayment p).served f s₁.stores =
        (.ok (), w.putReservation r.cancel) := by
      rw [stores₁, Call.served_updatePayment_of_found f _ price (Stores.payment?_cancel own)]
      exact congrArg _ (Stores.putPayment_restore own rfl)
    rw [ensures_unwind_compensating on rfl]
    refine undo_losing recharged ?_ ?_
    · -- The payment is restored, and all is as after the first step.
      intro s₂ log₂ stores₂
      refine restoreReservation_tied h found charge ?_ stores₂
      rintro p ⟨_, _, _, member⟩
      simp [log₂, log₁, start, undoneLine, failure?] at member
    · -- The payment stays canceled, whatever becomes of the reservation.
      intro e₂ s₂ log₂ stores₂
      have restored (f : Uid) : (Call.updateReservation r).served f s₂.stores =
          (.ok (), w.putPayment p.cancel) := by
        have row : (w.putPayment p.cancel).reservation? r.uid = some r := found
        rw [stores₂, stores₁, Stores.putPayment_putReservation,
          Call.served_updateReservation_of_found f _ (Stores.reservation?_cancel row)]
        exact congrArg _ (Stores.putReservation_restore row rfl)
      refine undo_losing restored ?_ ?_
      · intro s₃ _ stores₃
        apply tied_of_paired
        rw [stores₃]
        exact h.cancelPayment fun _ => .inl
      · intro e₃ s₃ _ stores₃
        exact tied_of_paired (stores₃ ▸ stores₂ ▸ both)
  · rw [ensures_unwind_leaving (Bool.eq_false_iff.mpr on) rfl]
    exact tied_of_paired both

include h parsed found charge in
/-- A cancellation is complete, whichever record was saved last. -/
theorem canceled_cancels {l : Loyalty} (uid : p.uid = r.paymentUid)
    (stores : s.stores = ((w.putReservation r.cancel).putPayment p.cancel).saveLoyalty l) :
    Cancels loose uidText username (.ok ()) s := by
  have settled := h.cancelBoth charge uid
  rw [← uid] at charge
  have own : s.stores.payment? p.uid = some p.cancel := by
    rw [stores]
    exact Stores.payment?_cancel (s := w.putReservation r.cancel) charge
  have row : s.stores.reservation? r.uid = some r.cancel := by
    rw [stores]
    exact Stores.reservation?_cancel found
  refine ⟨tied_of_paired (stores ▸ settled), fun _ => ?_⟩
  exact ⟨r.uid, r.cancel, p.cancel, parsed, row, rfl, uid ▸ own, .inl rfl⟩

include h parsed found charge start in
/-- Both rows are canceled, and the stay no longer counts. -/
theorem releaseStay_cancels (uid : p.uid = r.paymentUid) (price : ¬ p.price < 0)
    (stores : s.stores = (w.putReservation r.cancel).putPayment p.cancel) :
    (releaseStay options name r p).Ensures Losing.demand
      (Cancels loose uidText username) s := by
  rw [ensures_releaseStay]
  apply Losing.look rfl
  · intro f s₁ log₁ stores₁
    have start₁ := log₁.trans start
    have stores₁ := stores₁.trans stores
    cases (Call.served f s.stores (.getLoyalty name)).1 with
    | error e => exact paymentCanceled_failed h found charge start₁ uid price stores₁
    | ok l =>
        apply Losing.call
        · intro f₂ s₂ log₂ stores₂
          rw [Call.served_updateLoyalty, stores₁] at stores₂ ⊢
          split_ifs at stores₂ ⊢
          · exact paymentCanceled_failed h found charge (log₂.trans start₁) uid price stores₂
          · exact canceled_cancels h parsed found charge uid stores₂
        · intro e s₂ log₂ stores₂
          exact paymentCanceled_failed h found charge (log₂.trans start₁) uid price
            (stores₂.trans stores₁)
  · intro e s₁ log₁ stores₁
    exact paymentCanceled_failed h found charge (log₁.trans start) uid price (stores₁.trans stores)

include h parsed found charge start in
/-- The reservation is canceled, and its payment follows. -/
theorem cancelCharge_cancels (stores : s.stores = w.putReservation r.cancel) :
    (cancelCharge options name r).Ensures Losing.demand
      (Cancels loose uidText username) s := by
  have uid : p.uid = r.paymentUid := Stores.uid_of_payment? charge
  rw [ensures_cancelCharge]
  apply Losing.look rfl
  · intro f s₁ log₁ stores₁
    have start₁ := log₁.trans start
    have stores₁ := stores₁.trans stores
    rw [Call.served_getPayment, stores, Stores.payment?_putReservation, charge]
    change Operation.Ensures _ _ (voidCharge options name r p) s₁
    rw [ensures_voidCharge]
    apply Losing.call
    · intro f₂ s₂ log₂ stores₂
      rw [stores₁] at stores₂ ⊢
      by_cases price : p.price < 0
      · rw [Call.served_updatePayment, if_pos (c := p.cancel.price < 0) price] at stores₂ ⊢
        exact reservationCanceled_failed h parsed found charge (log₂.trans start₁) stores₂
      · have row : (w.putReservation r.cancel).payment? p.cancel.uid = some p := uid ▸ charge
        rw [Call.served_updatePayment_of_found (p := p.cancel) f₂ _ price row] at stores₂ ⊢
        exact releaseStay_cancels h parsed found charge (log₂.trans start₁) uid price stores₂
    · intro e s₂ log₂ stores₂
      exact reservationCanceled_failed h parsed found charge (log₂.trans start₁)
        (stores₂.trans stores₁)
  · intro e s₁ log₁ stores₁
    exact reservationCanceled_failed h parsed found charge (log₁.trans start) (stores₁.trans stores)

include h parsed found start in
theorem cancelOwned_cancels (stores : s.stores = w) :
    (cancelOwned options name r).Ensures Losing.demand
      (Cancels loose uidText username) s := by
  obtain ⟨p, charge, fits⟩ := h r (Stores.mem_of_reservation? found)
  rw [ensures_cancelOwned]
  split_ifs with canceled
  · -- It was canceled before, and that is all that is looked at.
    refine ⟨tied_of_paired (stores ▸ h), fun _ => ⟨r.uid, r, p, parsed, ?_⟩⟩
    rw [stores]
    exact ⟨found, canceled, charge, fits canceled⟩
  apply Losing.call
  · intro f s₁ log₁ stores₁
    rw [stores, Call.served_updateReservation_of_found (r := r.cancel) f w found] at stores₁ ⊢
    exact cancelCharge_cancels h parsed found charge (log₁.trans start) stores₁
  · intro e s₁ _ stores₁
    exact .failed (tied_of_paired (stores₁ ▸ stores ▸ h))

end Cancelling

theorem cancel_cancels {uidText username : String} (h : s.stores.Paired (Matched loose))
    (start : s.log = []) :
    (cancel options uidText username).Ensures Losing.demand
      (Cancels loose uidText username) s := by
  refine ensures_cancel_of_owned (fun r s => s.stores.reservation? r.uid = some r)
    (J := fun s => s.stores.Paired (Matched loose) ∧ s.log = []) ?_ ?_ ?_ ⟨h, start⟩
  · rintro uid s ⟨h, start⟩
    apply alone_getReservation Losing.honest
    intro s' leads stores
    exact ⟨stores ▸ h, leads.log.trans start⟩
  · rintro e s ⟨h, -⟩
    exact .failed (tied_of_paired h)
  · rintro name r s _ parsed _ ⟨h, start⟩ found
    exact cancelOwned_cancels h parsed found start rfl

/-! ## Booking -/

section Booking

variable {username : String} {request : BookingRequest} {w : Stores} {p : Payment}
  (h : w.Paired (Matched loose)) (own : w.payment? p.uid = some p) (price : ¬ p.price < 0)
  (stores : s.stores = w)

include h own price stores in
/-- The charge of a booking is canceled, or it stays; no canceled reservation depends on it. -/
theorem cancelPayment_tied {saga name : String} {o : Outcome BookingReceipt} :
    (undo saga [⟨name, .cancelPayment p⟩]).Ensures Losing.demand
      (fun _ => Tied loose (.book username request) o) s := by
  have discharged (f : Uid) : (Call.updatePayment p.cancel).served f s.stores =
      (.ok (), w.putPayment p.cancel) := by
    rw [stores, Call.served_updatePayment_of_found (p := p.cancel) f w price own]
  refine undo_losing discharged ?_ ?_
  · intro s₁ _ stores₁
    apply tied_of_paired
    rw [stores₁]
    exact h.cancelPayment fun _ => .inl
  · intro e₁ s₁ _ stores₁
    exact tied_of_paired (stores₁ ▸ stores ▸ h)

include h own price stores in
/-- A booking fails after its charge. -/
theorem paymentCreated_failed {α : Type} {next : α → Moment → Prop} {e : ServiceError} :
    orUnwind Losing.demand options (paymentCreated p)
      (Tied loose (.book username request)) next (.error e) s := by
  apply failed_of_unwind
  intro s₁ log₁ stores₁
  have stores₁ := stores₁.trans stores
  by_cases on : options.compensateFailedSagas
  · rw [ensures_unwind_compensating on rfl]
    exact cancelPayment_tied h own price stores₁
  · rw [ensures_unwind_leaving (Bool.eq_false_iff.mpr on) rfl]
    exact tied_of_paired (stores₁ ▸ h)

include h own price stores in
/-- A booking fails after its reservation. -/
theorem reservationCreated_failed {α : Type} {next : α → Moment → Prop} {e : ServiceError}
    {r : Reservation} (found : w.reservation? r.uid = some r) (refers : r.paymentUid = p.uid) :
    orUnwind Losing.demand options (reservationCreated p r)
      (Tied loose (.book username request)) next (.error e) s := by
  apply failed_of_unwind
  intro s₁ log₁ stores₁
  have stores₁ := stores₁.trans stores
  by_cases on : options.compensateFailedSagas
  · have canceled (f : Uid) : (Call.updateReservation r.cancel).served f s₁.stores =
        (.ok (), w.putReservation r.cancel) := by
      rw [stores₁, Call.served_updateReservation_of_found (r := r.cancel) f w found]
    have pending := h.cancelReservation (r := r) (refers ▸ own)
    rw [ensures_unwind_compensating on rfl]
    refine undo_losing canceled ?_ ?_
    · intro s₂ log₂ stores₂
      have own₂ : (w.putReservation r.cancel).payment? p.cancel.uid = some p := own
      have discharged (f : Uid) : (Call.updatePayment p.cancel).served f s₂.stores =
          (.ok (), (w.putReservation r.cancel).putPayment p.cancel) := by
        rw [stores₂, Call.served_updatePayment_of_found (p := p.cancel) f _ price own₂]
      refine undo_losing discharged ?_ ?_
      · intro s₃ _ stores₃
        apply tied_of_paired
        rw [stores₃]
        exact h.cancelBoth (refers ▸ own) refers.symm
      · -- The reservation stays canceled and its charge does not, which the lines say.
        intro e₃ s₃ log₃ stores₃
        have undone : Undone s₃.log (.cancelReservation r) := ⟨_, _, log₃ ▸
          List.mem_append_left _ (log₂ ▸ List.mem_append_right _ List.mem_cons_self)⟩
        have kept : NotUndone s₃.log (.cancelPayment p) :=
          ⟨_, _, e₃, log₃ ▸ List.mem_append_right _ List.mem_cons_self⟩
        rw [← stores₂, ← stores₃] at pending
        apply pending.loosen
        rintro x (old | ⟨uid, same⟩)
        · exact .inl old
        · exact .inr (.charged uid.symm (same.trans refers) undone kept)
    · intro e₂ s₂ log₂ stores₂
      exact cancelPayment_tied h own price (stores₂.trans stores₁)
  · rw [ensures_unwind_leaving (Bool.eq_false_iff.mpr on) rfl]
    exact tied_of_paired (stores₁ ▸ h)

include h own price stores in
/-- Booking from where both rows are stored. -/
theorem countStay_tied {hotel : Hotel} {discount : Int32} {l : Loyalty} {r : Reservation}
    (found : w.reservation? r.uid = some r) (refers : r.paymentUid = p.uid) :
    (countStay options hotel discount l p r).Ensures Losing.demand
      (Tied loose (.book username request)) s := by
  rw [ensures_countStay]
  apply Losing.call
  · intro f s₁ _ stores₁
    rw [Call.served_updateLoyalty, stores] at stores₁ ⊢
    split_ifs at stores₁ ⊢
    · exact reservationCreated_failed h own price stores₁ found refers
    · exact tied_of_paired (stores₁ ▸ h)
  · intro e s₁ _ stores₁
    exact reservationCreated_failed h own price (stores₁.trans stores) found refers

include h own price stores in
/-- Booking from where the charge is stored. -/
theorem reserve_tied {name : String} {stay : StayRequest} {hotel : Hotel} {discount : Int32}
    {l : Loyalty} {uid : Uid} (paid : p.status = .paid) :
    (reserve options name stay hotel discount l p uid).Ensures Losing.demand
      (Tied loose (.book username request)) s := by
  rw [ensures_reserve]
  apply Losing.call
  · intro f s₁ _ stores₁
    rw [stores] at stores₁ ⊢
    rcases Call.refused_or_reserved f w (draftFor uid name stay hotel p) with
      ⟨e, refused⟩ | ⟨stored, found⟩
    · rw [refused] at stores₁ ⊢
      exact paymentCreated_failed h own price stores₁
    · rw [stored] at stores₁ ⊢
      have refers : (Call.identified f (draftFor uid name stay hotel p)).paymentUid = p.uid :=
        Call.paymentUid_identified
      have paired : (w.addReservation (Call.identified f (draftFor uid name stay hotel p))).Paired
          (Matched loose) := by
        refine h.addReservation ⟨p, refers.symm ▸ own, fun canceled => ?_⟩
        cases canceled.symm.trans (Call.status_identified.trans paid)
      exact countStay_tied paired own price stores₁ found refers
  · intro e s₁ _ stores₁
    exact paymentCreated_failed h own price (stores₁.trans stores)

end Booking

theorem bookPriced_tied {username name : String} {request : BookingRequest} {stay : StayRequest}
    {hotel : Hotel} {discount price : Int32} {l : Loyalty} (h : s.stores.Paired (Matched loose)) :
    (bookPriced options name stay hotel discount l price).Ensures Losing.demand
      (Tied loose (.book username request)) s := by
  rw [ensures_bookPriced]
  apply Losing.call
  · intro f s₁ _ stores₁
    rcases Call.refused_or_charged f s.stores price with ⟨e, refused⟩ | ⟨stored, negative, own⟩
    · rw [refused] at stores₁ ⊢
      exact tied_of_paired (stores₁ ▸ h)
    · rw [stored] at stores₁ ⊢
      apply alone_draw
      intro uid _ s₂ _ _ stores₂
      exact reserve_tied (p := s.stores.newPayment (.charge f price)) (h.addPayment_matched _) own
        negative (stores₂.trans stores₁) rfl
  · intro e s₁ _ stores₁
    exact tied_of_paired (stores₁ ▸ h)

/-- Reading changes no stores. -/
theorem paired_look (c : Call) (s : Moment) (reading : c.isMutating = false)
    (h : s.stores.Paired (Matched loose)) :
    Losing.demand.call c (fun _ s => s.stores.Paired (Matched loose)) s :=
  Losing.look reading (fun _ _ _ stores => stores ▸ h) fun _ _ _ stores => stores ▸ h

theorem book_tied {username : String} {request : BookingRequest}
    (h : s.stores.Paired (Matched loose)) :
    (book options username request).Ensures Losing.demand (Tied loose (.book username request)) s :=
  ensures_book_of_priced paired_look (fun _ _ => tied_of_paired)
    (fun _ _ _ _ _ _ _ => bookPriced_tied) h

/-- Whatever was asked for, a reservation that comes to be loose is stranded. -/
theorem tied_operation (h : s.stores.Paired (Matched loose)) (start : s.log = [])
    (r : GuestRequest) : (r.operation options).Ensures Losing.demand (Tied loose r) s :=
  r.ensures_of_writes (Q := Tied loose) paired_look (fun _ _ _ => tied_of_paired)
    (fun _ _ => book_tied h) (fun _ _ => (cancel_cancels h start).mono fun _ _ => Cancels.tied) h

end Gateway

/-- When a cancellation reports success, the reservation is canceled, and so is its payment
unless a request before said that it left them apart. -/
theorem Session.canceled_of_ok {options : GatewayOptions} {s : Stores} {entries : List Entry}
    {w w' : Platform} {uidText username : String} {log : List LogLine}
    (session : Session options Losing (.start s) entries w)
    (matched : ∀ r ∈ s.reservations, ∃ p, s.payment? r.paymentUid = some p ∧ p.status = r.status)
    (run : Completes Losing (Gateway.cancel options uidText username).run w (.ok ()) log w') :
    ∃ uid r p, Gateway.parseUid uidText = .ok uid ∧
      w'.stores.reservation? uid = some r ∧ r.status = .canceled ∧
      w'.stores.payment? r.paymentUid = some p ∧
      (p.status = .canceled ∨ ∃ e ∈ entries, e.Strands r) := by
  have tied : w.stores.Paired (Stores.Matched fun r => ∃ e ∈ entries, e.Strands r) := by
    apply session.invariant fun entries w => w.stores.Paired (Stores.Matched fun r =>
      ∃ e ∈ entries, e.Strands r)
    · intro r member
      obtain ⟨p, found, same⟩ := matched r member
      exact ⟨p, found, fun canceled => .inl (same.trans canceled)⟩
    · intro entries w r h
      apply (Gateway.tied_operation (s := ⟨w, [], []⟩) h rfl r).mono
      intro o s after
      apply after.loosen
      rintro x (⟨e, member, strands⟩ | strands)
      · exact ⟨e, List.mem_append_left _ member, strands⟩
      · exact ⟨_, List.mem_append_right _ List.mem_cons_self, strands⟩
  have ensured : (Gateway.cancel options uidText username).Ensures Losing.demand
      (Gateway.Cancels _ uidText username) ⟨w, [], []⟩ := Gateway.cancel_cancels tied rfl
  obtain ⟨own, after⟩ := Operation.ensures_completes ensured run
  exact after.canceled rfl

/-- A cancellation is lost on its way, and the next one cancels both. -/
theorem canceled_after_loss :
    let options : GatewayOptions := { compensateFailedSagas := false }
    ∃ entries w log w', Session options Losing (.start {}) entries w ∧
      Completes Losing (Gateway.cancel options (Uid.ofNat 4).toText "ada").run w (.ok ()) log w' ∧
      ∃ uid r p, Gateway.parseUid (Uid.ofNat 4).toText = .ok uid ∧
        w'.stores.reservation? uid = some r ∧ r.status = .canceled ∧
        w'.stores.payment? r.paymentUid = some p ∧
        (p.status = .canceled ∨ ∃ e ∈ entries, e.Strands r) := by
  intro options
  obtain ⟨entries, w, o, log, w', session, run, ok⟩ := Session.exists_followed options Losing
    [(.book "ada" weekend, smoothly 1 6), (.cancel (Uid.ofNat 4).toText "ada", [losing 7])]
    (.start {}) (Gateway.cancel options (Uid.ofNat 4).toText "ada").run (smoothly 8 6)
    (fun _ o _ => o = .ok ()) (by decide +kernel)
  cases of_decide_eq_true ok
  exact ⟨entries, w, log, w', session, run,
    session.canceled_of_ok (fun _ member => nomatch member) run⟩

/-- A cancellation that reports success can leave a charge: where steps are left in place,
after a cancellation that stopped between its writes; where they are undone, after one whose
first write could not be undone, and after a booking whose charge could not be. -/
theorem charge_left_by_cancel :
    let left (compensating : Bool) (before : List GuestRequest) : Prop :=
      let options : GatewayOptions := { compensateFailedSagas := compensating }
      ∃ entries w log w', Session options Losing (.start {}) entries w ∧
        entries.map Entry.request = before ∧
        Completes Losing (Gateway.cancel options (Uid.ofNat 4).toText "ada").run w (.ok ()) log w' ∧
        w'.stores.reservations.map Reservation.status = [.canceled] ∧
        w'.stores.payments.map Payment.status = [.paid]
    left false [.book "ada" weekend, .cancel (Uid.ofNat 4).toText "ada"] ∧
      left true [.book "ada" weekend, .cancel (Uid.ofNat 4).toText "ada"] ∧
      left true [.book "ada" weekend] := by
  have left (compensating : Bool) (plan : List (GuestRequest × List Cue)) := Session.exists_followed
    { compensateFailedSagas := compensating } Losing plan (.start {})
    (Gateway.cancel { compensateFailedSagas := compensating } (Uid.ofNat 4).toText "ada").run
    [{ fresh := .ofNat 20 }] (fun entries o w => entries.map Entry.request = plan.map Prod.fst ∧
      o = .ok () ∧ w.stores.reservations.map Reservation.status = [.canceled] ∧
      w.stores.payments.map Payment.status = [.paid])
  have left_in_place := left false [(.book "ada" weekend, smoothly 1 6),
    (.cancel (Uid.ofNat 4).toText "ada", smoothly 7 2 ++ [losing 9] ++ smoothly 10 2)]
    (by decide +kernel)
  have not_restored := left true [(.book "ada" weekend, smoothly 1 6),
    (.cancel (Uid.ofNat 4).toText "ada",
      smoothly 7 2 ++ [losing 9] ++ smoothly 10 1 ++ [losing 11] ++ smoothly 12 1)]
    (by decide +kernel)
  have still_charged := left true [(.book "ada" weekend,
    smoothly 1 5 ++ [losing 6] ++ smoothly 7 3 ++ [losing 10] ++ smoothly 11 1)]
    (by decide +kernel)
  refine ⟨?_, ?_, ?_⟩
  · obtain ⟨entries, w, o, log, w', session, run, checked⟩ := left_in_place
    obtain ⟨before, rfl, canceled, paid⟩ := of_decide_eq_true checked
    exact ⟨entries, w, log, w', session, before, run, canceled, paid⟩
  · obtain ⟨entries, w, o, log, w', session, run, checked⟩ := not_restored
    obtain ⟨before, rfl, canceled, paid⟩ := of_decide_eq_true checked
    exact ⟨entries, w, log, w', session, before, run, canceled, paid⟩
  · obtain ⟨entries, w, o, log, w', session, run, checked⟩ := still_charged
    obtain ⟨before, rfl, canceled, paid⟩ := of_decide_eq_true checked
    exact ⟨entries, w, log, w', session, before, run, canceled, paid⟩

end HotelBooking
