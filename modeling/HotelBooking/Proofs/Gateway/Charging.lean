import HotelBooking.Proofs.Gateway.Outline
import HotelBooking.Proofs.Gateway.Traffic
import HotelBooking.Proofs.Store.Charges

/-!
# Paid stays under traffic

Where failing sagas leave their steps in place, every paid reservation has a paid payment at
every moment, however operations come between one another and whichever of their calls
fail, also after taking effect.

The discipline behind this is the order of the writes. A booking charges before it stores
the reservation, and nobody else knows the payment until then. A cancellation marks the
reservation before the payment, and the copies that it holds differ from the rows at most
in having been canceled since, so that writing them back brings no old status back.
-/

namespace HotelBooking

/-- Paid reservations are backed, rows are only ever canceled, and an operation that charged
may count on its payment. -/
def charging : Discipline where
  holds := Platform.Backed Charged
  later := Platform.OnlyCancels
  pending := Platform.Unspent
  later_refl := Platform.OnlyCancels.refl
  later_trans := Platform.OnlyCancels.trans

/-- What is asked of an operation that keeps to the discipline. -/
abbrev charging.demand : Demand Moment := charging.terms.demand Failing

namespace Gateway

open Operation Platform

variable {options : GatewayOptions} {w : Platform} {s : Moment} {c : Call} {fresh : Uid}
  {own : List Uid}

theorem charging_idle (h : w.Backed Charged) :
    charging.terms.guarantee own w ⟨w.stores, fresh :: w.used⟩ :=
  ⟨h.same (kept_taken w fresh), .same (kept_taken w fresh), fun _ _ _ before =>
    ⟨before.paid, before.unreferenced⟩⟩

/-- A call whose failure ends the operation. -/
theorem charging_call {K : Outcome c.Answer → Moment → Prop} (failed : ∀ e s, K (.error e) s)
    (served : ∀ w, charging.terms.rely s.own s.platform w → ∀ fresh ∉ w.used,
      let after : Platform := ⟨(c.served fresh w.stores).2, fresh :: w.used⟩
      charging.terms.guarantee s.own w after ∧
        ∀ a, (c.served fresh w.stores).1 = .ok a → K (.ok a) ⟨after, s.log, fresh :: s.own⟩) :
    charging.demand.call c K s := by
  apply demand_call fun _ _ _ failure => failure
  · intro w others fresh unused
    obtain ⟨kept, next⟩ := served w others fresh unused
    refine ⟨kept, ?_, fun _ _ e => failed e _⟩
    cases answer : (c.served fresh w.stores).1 with
    | ok a => exact next a answer
    | error e => exact failed e _
  · intro w others fresh unused e _
    exact ⟨charging_idle others.1, failed e _⟩

/-- A call that only reads. -/
theorem charging_look {K : Outcome c.Answer → Moment → Prop} (reading : c.isMutating = false)
    (failed : ∀ e s, K (.error e) s)
    (served : ∀ w, charging.terms.rely s.own s.platform w → ∀ fresh, ∀ a,
      (c.served fresh w.stores).1 = .ok a →
        K (.ok a) ⟨⟨w.stores, fresh :: w.used⟩, s.log, fresh :: s.own⟩) :
    charging.demand.call c K s := by
  apply charging_call failed
  intro w others fresh _
  rw [Call.served_reading fresh w.stores reading]
  exact ⟨charging_idle others.1, served w others fresh⟩

/-- A saga that fails leaves its steps in place. -/
theorem charging_failed {α β : Type} (off : options.compensateFailedSagas = false) {saga : Saga}
    (begun : saga.isEmpty = false) {next : α → Moment → Prop} (e : ServiceError) (s : Moment) :
    orUnwind charging.demand options saga (fun (_ : Outcome β) _ => True) next
      (.error e) s :=
  (ensures_unwind_leaving off begun _ _).mpr trivial

/-- The record of a guest is saved, if it is anybody's. -/
theorem charging_updateLoyalty {K : Outcome Loyalty → Moment → Prop} {l : Loyalty}
    (always : ∀ o s, K o s) :
    charging.demand.call (.updateLoyalty l) K s := by
  apply charging_call fun e s => always _ s
  intro w others fresh _
  refine ⟨?_, fun a _ => always _ _⟩
  rw [Call.served_updateLoyalty]
  split_ifs
  · exact charging_idle others.1
  · exact ⟨others.1.saveLoyalty (kept_taken w fresh) _, .saveLoyalty (kept_taken w fresh) _,
      fun _ _ _ before => ⟨before.paid, before.unreferenced⟩⟩

/-! ## Cancelling -/

theorem releaseStay_charging (off : options.compensateFailedSagas = false) {name : String}
    {r : Reservation} {p : Payment} :
    (releaseStay options name r p).Ensures charging.demand (fun _ _ => True) s := by
  rw [ensures_releaseStay]
  apply charging_look rfl (charging_failed off rfl)
  intro w₁ others₁ f₁ l _
  apply charging_updateLoyalty
  intro o s
  cases o with
  | ok a => trivial
  | error e => exact charging_failed off rfl e s

/-- From where the reservation is canceled its payment follows, whatever comes between. -/
theorem cancelCharge_charging (off : options.compensateFailedSagas = false) {name : String}
    {r : Reservation} (void : s.platform.Void r) :
    (cancelCharge options name r).Ensures charging.demand (fun _ _ => True) s := by
  rw [ensures_cancelCharge]
  apply charging_look rfl (charging_failed off rfl)
  intro w₁ others₁ f₁ p answer
  rw [Call.served_getPayment] at answer
  have charge := eq_some_of_foundOr answer
  have uid : p.uid = r.paymentUid := Stores.uid_of_payment? charge
  change Operation.Ensures _ _ (voidCharge options name r p) _
  rw [ensures_voidCharge]
  apply charging_call (charging_failed off rfl)
  intro w₂ others₂ f₂ _
  refine ⟨?_, fun _ _ => releaseStay_charging off⟩
  rw [Call.served_updatePayment]
  split_ifs
  · exact charging_idle others₂.1
  obtain ⟨stored, found, same⟩ := others₂.2.1.payment? charge
  rw [← uid] at found
  obtain ⟨r', row, canceled, refers⟩ := others₂.2.1.void (others₁.2.1.void void)
  have member := Stores.mem_of_reservation? row
  have refers : r'.paymentUid = p.cancel.uid := refers.trans uid.symm
  refine ⟨?_, .cancelPayment (kept_taken w₂ f₂) found same, ?_⟩
  · apply others₂.1.putPayment (kept_taken w₂ f₂) member refers
    exact fun _ => lenient_charged.canceled canceled
  · -- The payment of a stored reservation is nobody's to count on.
    intro u _ _ before
    apply before.putPayment
    exact fun same => before.unreferenced r' member (refers.trans same.symm)

theorem cancelOwned_charging (off : options.compensateFailedSagas = false) {name : String}
    {r : Reservation} (seen : s.stores.reservation? r.uid = some r) :
    (cancelOwned options name r).Ensures charging.demand (fun _ _ => True) s := by
  rw [ensures_cancelOwned]
  split_ifs
  apply charging_call fun _ _ => trivial
  intro w₁ others₁ f₁ _
  obtain ⟨stored, found, same⟩ := others₁.2.1.reservation? seen
  have refers : r.cancel.paymentUid = stored.paymentUid :=
    (same.column Reservation.paymentUid fun _ => rfl).symm
  rw [Call.served_updateReservation]
  constructor
  · refine ⟨?_, .cancelReservation (kept_taken w₁ f₁) found same, ?_⟩
    · exact others₁.1.putReservation (kept_taken w₁ f₁) found refers (lenient_charged.canceled rfl)
    · intro u _ _ before
      exact before.putReservation found refers
  · intro _ _
    apply cancelCharge_charging off
    refine ⟨{ r.cancel with id := stored.id }, ?_, rfl, rfl⟩
    exact (Stores.reservation?_putReservation_self r.cancel).trans (congrArg (Option.map _) found)

theorem cancel_charging (off : options.compensateFailedSagas = false) {uidText username : String} :
    (cancel options uidText username).Ensures charging.demand (fun _ _ => True) s := by
  refine ensures_cancel_of_owned (fun r s => s.stores.reservation? r.uid = some r)
    (J := fun _ => True) ?_ ?_ ?_ trivial
  · intro uid s _
    apply charging_look rfl
    · intro e s
      exact ⟨trivial, fun r impossible => nomatch impossible⟩
    · intro w₁ others₁ f₁ r answer
      rw [Call.served_getReservation] at answer
      have found := eq_some_of_foundOr answer
      have same := Stores.uid_of_reservation? found
      refine ⟨trivial, ?_⟩
      rintro r' ⟨rfl⟩
      exact ⟨same, same ▸ found⟩
  · intro e s _
    trivial
  · intro name r s _ _ _ _ found
    exact cancelOwned_charging off found

/-! ## Booking -/

theorem countStay_charging (off : options.compensateFailedSagas = false) {hotel : Hotel}
    {discount : Int32} {l : Loyalty} {p : Payment} {r : Reservation} :
    (countStay options hotel discount l p r).Ensures charging.demand
      (fun _ _ => True) s := by
  rw [ensures_countStay]
  apply charging_updateLoyalty
  intro o s
  cases o with
  | ok a => trivial
  | error e => exact charging_failed off rfl e s

/-- From where a charge is stored that was drawn for this operation, its reservation follows. -/
theorem reserve_charging (off : options.compensateFailedSagas = false) {name : String}
    {stay : StayRequest} {hotel : Hotel} {discount : Int32} {l : Loyalty} {p : Payment} {uid : Uid}
    (unspent : s.platform.Unspent p.uid) (mine : p.uid ∈ s.own) (drawn : uid ∈ s.platform.used) :
    (reserve options name stay hotel discount l p uid).Ensures charging.demand
      (fun _ _ => True) s := by
  rw [ensures_reserve]
  apply charging_call (charging_failed off rfl)
  intro w₁ others₁ f₁ _
  refine ⟨?_, fun r _ => countStay_charging off⟩
  rcases Call.refused_or_reserved f₁ w₁.stores (draftFor uid name stay hotel p) with
    ⟨e, refused⟩ | ⟨stored, -⟩
  · rw [refused]
    exact charging_idle others₁.1
  · have refers : (Call.identified f₁ (draftFor uid name stay hotel p)).paymentUid = p.uid :=
      Call.paymentUid_identified
    have unspent₁ := others₁.2.2 _ mine unspent
    rw [← refers] at unspent₁ mine
    have taken : (Call.identified f₁ (draftFor uid name stay hotel p)).uid ∈ f₁ :: w₁.used :=
      Call.uid_identified (kept_taken w₁ f₁ _ (others₁.2.1.used _ drawn)) List.mem_cons_self
    rw [stored]
    refine ⟨?_, .addReservation (kept_taken w₁ f₁) _, ?_⟩
    · exact others₁.1.addReservation (kept_taken w₁ f₁) lenient_charged unspent₁ taken
    · intro u _ others before
      exact before.addReservation fun same => others (same ▸ mine)

theorem bookPriced_charging (off : options.compensateFailedSagas = false) {name : String}
    {stay : StayRequest} {hotel : Hotel} {discount price : Int32} {l : Loyalty} :
    (bookPriced options name stay hotel discount l price).Ensures charging.demand
      (fun _ _ => True) s := by
  rw [ensures_bookPriced]
  apply charging_call fun _ _ => trivial
  intro w₁ others₁ f₁ unused₁
  rcases Call.refused_or_charged f₁ w₁.stores price with ⟨e, refused⟩ | ⟨stored, -⟩
  · rw [refused]
    exact ⟨charging_idle others₁.1, fun _ impossible => nomatch impossible⟩
  rw [stored]
  have unknown : (Payment.charge f₁ price).uid ∉ w₁.stores.uids := others₁.1.known.unknown unused₁
  constructor
  · refine ⟨?_, .addPayment (kept_taken w₁ f₁) _, fun u _ _ before => before.addPayment _⟩
    exact others₁.1.addPayment (kept_taken w₁ f₁) unknown List.mem_cons_self
  · intro p answer
    cases answer
    intro w₂ others₂ f₂ _
    have unspent := others₂.2.2 f₁ List.mem_cons_self (Unspent.new unknown rfl)
    refine ⟨charging_idle others₂.1, ?_⟩
    exact reserve_charging off ⟨unspent.paid, unspent.unreferenced⟩
      (List.mem_cons_of_mem _ List.mem_cons_self) List.mem_cons_self

/-- Reading is in order at any time. -/
theorem charging_reading (c : Call) (s : Moment) (reading : c.isMutating = false) (_ : True) :
    charging.demand.call c (fun _ _ => True) s :=
  charging_look reading (fun _ _ => trivial) fun _ _ _ _ _ => trivial

theorem book_charging (off : options.compensateFailedSagas = false) {username : String}
    {request : BookingRequest} :
    (book options username request).Ensures charging.demand (fun _ _ => True) s :=
  ensures_book_of_priced charging_reading (fun _ _ h => h)
    (fun _ _ _ _ _ _ _ _ => bookPriced_charging off) trivial

end Gateway

/-- Where failing sagas leave their steps in place, every paid reservation has a paid payment
at every moment of any traffic, and no row that was canceled is ever paid again. -/
theorem Traffic.paid_stays_charged {options : GatewayOptions}
    (off : options.compensateFailedSagas = false) {s : Stores}
    (charged : ∀ r ∈ s.reservations, r.status = .paid →
      ∃ p, s.payment? r.paymentUid = some p ∧ p.status = .paid)
    (unshared : (s.reservations.map Reservation.paymentUid).Nodup) {c : Traffic}
    (reached : Traffic.Reaches options Failing (.quiet (.start s)) c) :
    (∀ r ∈ c.platform.stores.reservations, r.status = .paid →
      ∃ p, c.platform.stores.payment? r.paymentUid = some p ∧ p.status = .paid) ∧
    ∀ c', Traffic.Reaches options Failing c c' →
      Rows.Evolves (fun r r' => r'.uid = r.uid ∧ (r.status = .canceled → r'.status = .canceled))
        c.platform.stores.reservations c'.platform.stores.reservations ∧
      Rows.Evolves (fun p p' => p'.uid = p.uid ∧ (p.status = .canceled → p'.status = .canceled))
        c.platform.stores.payments c'.platform.stores.payments := by
  have each (r : GuestRequest) (w : Platform) (h : w.Backed Charged) :
      (r.operation options).Ensures charging.demand (fun _ _ => True) ⟨w, [], []⟩ :=
    r.ensures_of_writes Gateway.charging_reading (fun _ _ _ h => h)
      (fun _ _ => Gateway.book_charging off) (fun _ _ => Gateway.cancel_charging off) trivial
  obtain ⟨backed, later⟩ := charging.keeps each
    (⟨Platform.known_start s, charged, unshared⟩ : Platform.Backed Charged _) reached
  refine ⟨backed.charged, fun c' onward => ?_⟩
  obtain ⟨reservations, payments, -⟩ := later c' onward
  constructor
  · apply reservations.mono
    intro r r' same
    refine ⟨same.column Reservation.uid fun _ => rfl, fun before => ?_⟩
    exact same.lasts (P := fun r => r.status = .canceled) (fun _ => rfl) before
  · apply payments.mono
    intro p p' same
    refine ⟨same.column Payment.uid fun _ => rfl, fun before => ?_⟩
    exact same.lasts (P := fun p => p.status = .canceled) (fun _ => rfl) before

/-- Two cancellations of one booking and another booking come between one another, and the
answers to two calls are lost. -/
theorem charged_between_cancellations :
    let options : GatewayOptions := { compensateFailedSagas := false }
    ∃ c, Traffic.Reaches options Failing (.quiet (.start {})) c ∧
      c.platform.stores.reservations.map Reservation.status = [.canceled, .paid] ∧
      ∀ r ∈ c.platform.stores.reservations, r.status = .paid →
        ∃ p, c.platform.stores.payment? r.paymentUid = some p ∧ p.status = .paid := by
  intro options
  obtain ⟨c, reached, statuses⟩ := Traffic.exists_of_rehearse options Failing
    ([.arrive (.book "ada" weekend)] ++ (smoothly 1 6).map (.advance 0) ++
      [.arrive (.cancel (Uid.ofNat 4).toText "ada"), .arrive (.cancel (Uid.ofNat 4).toText "ada"),
        .arrive (.book "bob" weekend)] ++
      (smoothly 11 1).map (.advance 1) ++ (smoothly 12 1).map (.advance 2) ++
      (smoothly 13 3).map (.advance 3) ++ [.advance 1 (unanswering 16)] ++
      (smoothly 17 2).map (.advance 2) ++ (smoothly 19 2).map (.advance 3) ++
      [.advance 2 (unanswering 21)] ++ (smoothly 22 2).map (.advance 2))
    (.quiet (.start {}))
    (fun c => c.platform.stores.reservations.map Reservation.status = [.canceled, .paid])
    (by decide +kernel)
  have charged := (Traffic.paid_stays_charged (s := {}) rfl
    (fun _ member => nomatch member) List.nodup_nil reached).1
  exact ⟨c, reached, of_decide_eq_true statuses, charged⟩

end HotelBooking
