import HotelBooking.Proofs.Gateway.Outline
import HotelBooking.Proofs.Gateway.Session
import HotelBooking.Proofs.Gateway.Undoing
import HotelBooking.Proofs.StayRequest
import HotelBooking.Proofs.Store.Accounts

/-!
# Accounts over whole sessions

Every operation leaves the accounts in order, whether it succeeds or not, as long as no
step is left in place and no step fails to be undone. That is so when nothing goes wrong
with the calls, and also when calls are lost on the way forward where failing sagas are
undone. A lost call must not look like an answer that something is missing: a guest whose
record is reported missing is counted from zero.
-/

namespace HotelBooking

/-- Where failing sagas are undone, calls that go forward may be lost, though not as if
something were missing. Nothing else goes wrong. -/
def Setbacks (options : GatewayOptions) : Faults := fun log _ m =>
  options.compensateFailedSagas = true ∧ ¬ Undoing log ∧ m.IsPlainLoss

namespace Setbacks

/-- What is asked of a program that runs alone and may meet with setbacks. -/
abbrev demand (options : GatewayOptions) : Demand Moment := Terms.alone.demand (Setbacks options)

instance (options : GatewayOptions) (log : List LogLine) (c : Call) (m : Mishap c.Answer) :
    Decidable (Setbacks options log c m) :=
  inferInstanceAs (Decidable
    (options.compensateFailedSagas = true ∧ ¬ Undoing log ∧ m.IsPlainLoss))

variable {options : GatewayOptions} {c : Call} {K : Outcome c.Answer → Moment → Prop} {s : Moment}

theorem mild : (Setbacks options).Mild := by
  rintro log c m ⟨-, forward, e, rfl, -⟩
  exact ⟨forward, e, rfl⟩

theorem honest : (Setbacks options).Honest := mild.honest

/-- A call takes effect, or is lost on the way forward. -/
theorem effect {a : Uid → c.Answer} {stores : Uid → Stores}
    (effect : ∀ fresh ∉ s.platform.used, c.served fresh s.stores = (.ok (a fresh), stores fresh))
    (done : ∀ fresh ∉ s.platform.used, ∀ s', s.Leads s' → fresh ∈ s'.platform.used →
      s'.stores = stores fresh → K (.ok (a fresh)) s')
    (lost : options.compensateFailedSagas = true → ¬ Undoing s.log → ∀ e s', s.Leads s' →
      s'.stores = s.stores → K (.error e) s') :
    (Setbacks.demand options).call c K s := by
  apply alone_effect honest effect done
  · rintro e ⟨on, forward, -⟩
    exact lost on forward e
  · rintro e ⟨-, -, e', impossible, -⟩
    cases impossible

/-- A call changes nothing, lost or not. -/
theorem look (idle : ∀ fresh, (c.served fresh s.stores).2 = s.stores)
    (served : ∀ fresh, ∀ s', s.Leads s' → s'.stores = s.stores →
      K (c.served fresh s.stores).1 s')
    (lost : options.compensateFailedSagas = true → ∀ e : ServiceError, e.isNotFound = false →
      ∀ s', s.Leads s' → s'.stores = s.stores → K (.error e) s') :
    (Setbacks.demand options).call c K s := by
  apply alone_look honest idle served
  rintro m e ⟨on, -, e', rfl, other⟩ own
  rw [← own e' rfl] at other
  exact lost on e other

end Setbacks

namespace Platform

structure InOrder (w : Platform) : Prop where
  known : w.Known
  accounts : w.stores.Accounts

/-- Reservations are numbered with 32 bits, and there are no more of them than numbers. -/
def Numbered (w : Platform) : Prop := w.stores.reservations.length ≤ Int32.maxValue.toInt

/-- In order, as long as the reservations can be numbered. -/
def Orderly (w : Platform) : Prop := w.Numbered → w.InOrder

variable {w w' : Platform}

theorem InOrder.orderly (h : w.InOrder) : w.Orderly := fun _ => h

theorem InOrder.same (h : w.InOrder) (kept : ∀ uid ∈ w.used, uid ∈ w'.used)
    (stores : w'.stores = w.stores) : w'.InOrder where
  known := by
    apply h.known.grow kept
    intro uid member
    exact .inl (stores ▸ member)
  accounts := stores ▸ h.accounts

theorem InOrder.left (h : w.InOrder) (kept : ∀ uid ∈ w.used, uid ∈ w'.used)
    (stores : w'.stores = w.stores) : w'.Orderly :=
  (h.same kept stores).orderly

theorem InOrder.addPayment {p : Payment} (h : w.InOrder) (unknown : p.uid ∉ w.stores.uids)
    (kept : ∀ uid ∈ w.used, uid ∈ w'.used) (taken : p.uid ∈ w'.used)
    (stores : w'.stores = w.stores.addPayment p) : w'.InOrder where
  known := by
    apply h.known.grow kept
    intro uid member
    rcases Stores.mem_uids_addPayment.mp (stores ▸ member) with old | rfl
    · exact .inl old
    · exact .inr taken
  accounts := stores ▸ h.accounts.addPayment unknown

section Booking

variable {p : Payment} {r : Reservation} (h : w.InOrder) (unknown : p.uid ∉ w.stores.uids)
  (kept : ∀ uid ∈ w.used, uid ∈ w'.used) (taken : p.uid ∈ w'.used) (drawn : r.uid ∈ w'.used)
  (charge : r.paymentUid = p.uid) (price : 0 ≤ p.price)

include h kept taken drawn charge in
theorem InOrder.known_addReservation
    (uids : w'.stores.uids = ((w.stores.addPayment p).addReservation r).uids) : w'.Known := by
  apply h.known.grow kept
  intro uid member
  rw [uids, Stores.mem_uids_addReservation, Stores.mem_uids_addPayment] at member
  rcases member with (old | rfl) | rfl | rfl
  · exact .inl old
  · exact .inr taken
  · exact .inr drawn
  · exact .inr (charge ▸ taken)

include h unknown kept taken drawn charge price in
theorem InOrder.unbooked (void : p.status = .canceled) (canceled : r.status = .canceled)
    (stores : w'.stores = (w.stores.addPayment p).addReservation r) : w'.InOrder where
  known := h.known_addReservation kept taken drawn charge (by rw [stores])
  accounts := stores ▸ h.accounts.unbooked unknown charge price void canceled

include h unknown kept taken drawn charge price in
theorem InOrder.booked {l : Loyalty} (paid : p.status = .paid) (status : r.status = .paid)
    (guest : l.username = r.username)
    (count : l.reservationCount.toInt = w.stores.countOf r.username)
    (stores : w'.stores = ((w.stores.addPayment p).addReservation r).saveLoyalty l.register) :
    w'.Orderly := by
  intro numbered
  refine ⟨h.known_addReservation kept taken drawn charge (by rw [stores]; rfl), ?_⟩
  rw [Numbered, stores] at numbered
  rw [stores]
  -- The new row has a number too, so one more can be counted.
  have room : (w.stores.reservations.length + 1 : Nat) ≤ Int32.maxValue.toInt := by
    simpa [Stores.reservations_saveLoyalty] using numbered
  have stays := w.stores.paidStays_le r.username
  have counted := h.accounts.counted r.username
  have more : l.register.reservationCount.toInt = l.reservationCount.toInt + 1 :=
    Loyalty.toInt_count_register (by omega) (by omega)
  exact h.accounts.booked unknown charge price paid status guest (by rw [more, count])
    (Loyalty.tiered_recompute _)

end Booking

theorem InOrder.canceled {p : Payment} {r : Reservation} {l : Loyalty} (h : w.InOrder)
    (kept : ∀ uid ∈ w.used, uid ∈ w'.used) (found : w.stores.reservation? r.uid = some r)
    (paid : r.status = .paid) (charge : w.stores.payment? r.paymentUid = some p)
    (guest : w.stores.loyalty? r.username = some l)
    (stores : w'.stores =
      ((w.stores.putReservation r.cancel).putPayment p.cancel).saveLoyalty l.release) :
    w'.InOrder where
  known := by
    apply h.known.grow kept
    intro uid member
    rw [stores, Stores.uids_saveLoyalty, Stores.uids_putPayment,
      Stores.uids_putReservation] at member
    · exact .inl member
    · intro stored found'
      cases found.symm.trans found'
      rfl
  accounts := by
    have count := Stores.countOf_of_found guest
    have counted := h.accounts.counted r.username
    have some_left := Stores.paidStays_pos (Stores.mem_of_reservation? found) paid
    have name : l.username = r.username := Stores.username_of_loyalty? guest
    have less : l.release.reservationCount.toInt = l.reservationCount.toInt - 1 :=
      Loyalty.toInt_count_release (by omega)
    rw [stores]
    exact h.accounts.canceled found paid charge name (by rw [less, count])
      (Loyalty.tiered_recompute _)

end Platform

namespace Gateway

open Operation Platform

variable {options : GatewayOptions}

/-! ## Booking -/

section Undoing

variable {w : Platform} {s : Moment} {p : Payment} {r : Reservation} (h : w.InOrder)
  (unknown : p.uid ∉ w.stores.uids) (price : ¬ p.price < 0)
  (kept : ∀ uid ∈ w.used, uid ∈ s.platform.used) (taken : p.uid ∈ s.platform.used)
  (begun : Undoing s.log)

include h unknown price kept taken begun in
/-- A booking ends after its charge. -/
theorem unwind_paymentCreated_inOrder (stores : s.stores = w.stores.addPayment p) :
    (unwind options (paymentCreated (w.stores.newPayment p))).Ensures
      (Setbacks.demand options) (fun _ s => s.platform.Orderly) s := by
  by_cases on : options.compensateFailedSagas
  · have new := Stores.payment?_eq_none unknown
    refine (unwind_paymentCreated Setbacks.mild on begun new price stores).mono ?_
    rintro - s₁ ⟨kept₁, stores₁⟩
    exact (h.addPayment (p := p.cancel) unknown (fun uid member => kept₁ uid (kept uid member))
      (kept₁ _ taken) stores₁).orderly
  · rw [ensures_unwind_leaving (Bool.eq_false_iff.mpr on) rfl]
    exact (h.addPayment unknown kept taken stores).orderly

include h unknown price kept taken begun in
/-- Both steps of a booking are undone. -/
theorem unwind_reservationCreated_inOrder (on : options.compensateFailedSagas = true)
    (new : w.stores.reservation? r.uid = none) (drawn : r.uid ∈ s.platform.used)
    (charge : r.paymentUid = p.uid)
    (stores : s.stores = (w.stores.addPayment p).addReservation r) :
    (unwind options (reservationCreated (w.stores.newPayment p)
      ((w.stores.addPayment p).newReservation r))).Ensures
      (Setbacks.demand options) (fun _ s => s.platform.Orderly) s := by
  have missing := Stores.payment?_eq_none unknown
  refine (unwind_reservationCreated Setbacks.mild on begun missing price new stores).mono ?_
  rintro - s₁ ⟨kept₁, stores₁⟩
  exact (h.unbooked (p := p.cancel) (r := r.cancel) unknown
    (fun uid member => kept₁ uid (kept uid member)) (kept₁ _ taken) (kept₁ _ drawn) charge
    (Int32.not_lt.mp price) rfl rfl stores₁).orderly

end Undoing

/-- Both rows of a booking are stored, and it is counted. -/
theorem countStay_inOrder {w : Platform} {s : Moment} {p : Payment} {r : Reservation} {l : Loyalty}
    {hotel : Hotel} {discount : Int32} (h : w.InOrder) (unknown : p.uid ∉ w.stores.uids)
    (price : ¬ p.price < 0) (paid : p.status = .paid)
    (kept : ∀ uid ∈ w.used, uid ∈ s.platform.used) (taken : p.uid ∈ s.platform.used)
    (stores : s.stores = (w.stores.addPayment p).addReservation r) (charge : r.paymentUid = p.uid)
    (status : r.status = .paid) (new : w.stores.reservation? r.uid = none)
    (drawn : r.uid ∈ s.platform.used) (named : Text.isBlankText r.username = false)
    (guest : l.username = r.username)
    (count : l.reservationCount.toInt = w.stores.countOf r.username) :
    (countStay options hotel discount l (w.stores.newPayment p)
      ((w.stores.addPayment p).newReservation r)).Ensures (Setbacks.demand options)
      (fun _ s => s.platform.Orderly) s := by
  have named : Text.isBlankText l.register.username = false := by
    rw [Loyalty.username_register, guest, named]
  rw [ensures_countStay]
  apply Setbacks.effect fun g _ => Call.served_updateLoyalty_of_named g s.stores named
  · intro g _ s₁ leads₁ _ stores₁
    rw [stores, Loyalty.recompute_register] at stores₁
    exact h.booked unknown (leads₁.keeps kept) (leads₁.used _ taken) (leads₁.used _ drawn) charge
      (Int32.not_lt.mp price) paid status guest count stores₁
  · intro on _ e s₁ leads₁ stores₁
    exact unwind_reservationCreated_inOrder h unknown price (leads₁.keeps kept)
      (leads₁.used _ taken) (undoing_stepFailed _ _ e) on new (leads₁.used _ drawn) charge
      (stores₁.trans stores)

/-- A booking whose charge is stored: the reservation follows. -/
theorem reserve_inOrder {w : Platform} {s : Moment} {p : Payment} {l : Loyalty} {name : String}
    {stay : StayRequest} {hotel : Hotel} {discount : Int32} {uid : Uid} (h : w.InOrder)
    (unknown : p.uid ∉ w.stores.uids) (price : ¬ p.price < 0) (paid : p.status = .paid)
    (kept : ∀ uid ∈ w.used, uid ∈ s.platform.used) (taken : p.uid ∈ s.platform.used)
    (stores : s.stores = w.stores.addPayment p) (ordered : stay.startDate ≤ stay.endDate)
    (new : w.stores.reservation? uid = none) (drawn : uid ∈ s.platform.used)
    (named : Text.isBlankText name = false) (guest : l.username = name)
    (count : l.reservationCount.toInt = w.stores.countOf name) :
    (reserve options name stay hotel discount l (w.stores.newPayment p) uid).Ensures
      (Setbacks.demand options) (fun _ s => s.platform.Orderly) s := by
  have fresh_row {f : Uid} (unused : f ∉ s.platform.used) : w.stores.reservation?
      (Call.identified f (draftFor uid name stay hotel (w.stores.newPayment p))).uid = none := by
    apply Call.uid_identified (P := fun uid => w.stores.reservation? uid = none) new
    exact Stores.reservation?_eq_none (h.known.unknown fun member => unused (kept f member))
  have effect (f : Uid) (unused : f ∉ s.platform.used) :=
    Call.served_createReservation_of_new f s.stores
      (r := draftFor uid name stay hotel (w.stores.newPayment p)) named ordered
      (by rw [stores]; exact fresh_row unused)
  rw [ensures_reserve]
  apply Setbacks.effect effect
  · intro f unused s₁ leads₁ taken₁ stores₁
    rw [stores] at stores₁ ⊢
    have drawn₁ :
        (Call.identified f (draftFor uid name stay hotel (w.stores.newPayment p))).uid ∈
          s₁.platform.used :=
      Call.uid_identified (P := fun uid => uid ∈ s₁.platform.used) (leads₁.used _ drawn) taken₁
    have same :
        (Call.identified f (draftFor uid name stay hotel (w.stores.newPayment p))).username =
          name :=
      Call.username_identified
    exact countStay_inOrder h unknown price paid (leads₁.keeps kept) (leads₁.used _ taken) stores₁
      Call.paymentUid_identified (Call.status_identified.trans paid) (fresh_row unused) drawn₁
      (by rw [same, named]) (guest.trans same.symm) (by rw [same, count])
  · intro _ _ e s₁ leads₁ stores₁
    exact unwind_paymentCreated_inOrder h unknown price (leads₁.keeps kept) (leads₁.used _ taken)
      (undoing_stepFailed _ _ e) (stores₁.trans stores)

theorem bookPriced_inOrder {name : String} {stay : StayRequest} {hotel : Hotel}
    {discount price : Int32} {l : Loyalty} {s : Moment} (h : s.platform.InOrder)
    (named : Text.isBlankText name = false) (ordered : stay.startDate ≤ stay.endDate)
    (guest : l.username = name) (count : l.reservationCount.toInt = s.stores.countOf name) :
    (bookPriced options name stay hotel discount l price).Ensures
      (Setbacks.demand options) (fun _ s => s.platform.Orderly) s := by
  rw [ensures_bookPriced]
  by_cases negative : price < 0
  · -- The charge is refused, and nothing was done.
    apply Setbacks.look
    · intro f
      rw [Call.served_createPayment, if_pos negative]
    · intro f s₁ leads₁ stores₁
      rw [Call.served_createPayment, if_pos negative]
      exact h.left leads₁.used stores₁
    · intro _ e _ s₁ leads₁ stores₁
      exact h.left leads₁.used stores₁
  have unknown {f : Uid} (unused : f ∉ s.platform.used) := h.known.unknown unused
  apply Setbacks.effect fun f unused => Call.served_createPayment_of_new f s.stores negative
    (Stores.payment?_eq_none (unknown unused))
  · intro f₁ unused₁ s₁ leads₁ taken₁ stores₁
    apply alone_draw
    intro f₂ unused₂ s₂ leads₂ drawn₂ stores₂
    have new : s.stores.reservation? f₂ = none :=
      Stores.reservation?_eq_none (unknown fun member => unused₂ (leads₁.used f₂ member))
    exact reserve_inOrder h (unknown unused₁) negative rfl (leads₁.trans leads₂).used
      (leads₂.used _ taken₁) (stores₂.trans stores₁) ordered new drawn₂ named guest count
  · intro _ _ e s₁ leads₁ stores₁
    exact h.left leads₁.used stores₁

theorem inOrder_look (c : Call) (s : Moment) (reading : c.isMutating = false)
    (h : s.platform.InOrder) :
    (Setbacks.demand options).call c (fun _ s => s.platform.InOrder) s := by
  apply alone_reading reading Setbacks.honest
  intro s' leads stores
  exact h.same leads.used stores

/-- Whether or not the guest has a record, the one to be saved counts what the stores say. -/
theorem getLoyalty_inOrder {name : String} {s : Moment} (h : s.platform.InOrder) :
    (Setbacks.demand options).call (.getLoyalty name) (fun o s => s.platform.InOrder ∧
      ∀ existing, recordIn o = .ok existing →
        (existing.getD (.newMember name)).username = name ∧
        (existing.getD (.newMember name)).reservationCount.toInt = s.stores.countOf name) s := by
  apply Setbacks.look fun f => Call.served_reading f s.stores rfl
  · intro f s₁ leads₁ stores₁
    refine ⟨h.same leads₁.used stores₁, ?_⟩
    intro existing told
    rw [Call.served_getLoyalty, ← stores₁] at told
    cases found : s₁.stores.loyalty? name with
    | none =>
        rw [found] at told
        cases told
        exact ⟨rfl, (Stores.countOf_of_missing found).symm⟩
    | some l =>
        rw [found] at told
        cases told
        exact ⟨Stores.username_of_loyalty? found, (Stores.countOf_of_found found).symm⟩
  · -- A loss that looked like a missing record would count the guest from zero.
    intro _ e other s₁ leads₁ stores₁
    refine ⟨h.same leads₁.used stores₁, ?_⟩
    intro existing told
    rw [recordIn, other] at told
    cases told

theorem book_inOrder {username : String} {request : BookingRequest} {s : Moment}
    (h : s.platform.InOrder) :
    (book options username request).Ensures (Setbacks.demand options)
      (fun _ s => s.platform.Orderly) s := by
  refine ensures_book_of_told (J := fun s => s.platform.InOrder) _ ?_
    (fun name s h => getLoyalty_inOrder h) ?_ ?_ h
  · intro uid s h
    exact inOrder_look _ s rfl h
  · intro e s h
    exact h.orderly
  · intro name stay hotel existing discount price s named ordered h told
    exact bookPriced_inOrder h named ordered told.1 told.2

/-! ## Cancelling -/

section Restoring

variable {w : Platform} {s : Moment} {r : Reservation} {p : Payment} {name : String} (h : w.InOrder)
  (kept : ∀ uid ∈ w.used, uid ∈ s.platform.used) (found : w.stores.reservation? r.uid = some r)

section Undoing

variable (on : options.compensateFailedSagas = true) (begun : Undoing s.log)

include h on begun kept found

theorem unwind_reservationCanceled_inOrder (stores : s.stores = w.stores.putReservation r.cancel) :
    (unwind options (reservationCanceled r)).Ensures (Setbacks.demand options)
      (fun _ s => s.platform.Orderly) s := by
  refine (unwind_reservationCanceled Setbacks.mild on begun found stores).mono ?_
  rintro - s₁ ⟨kept₁, stores₁⟩
  exact h.left (fun uid member => kept₁ uid (kept uid member)) stores₁

theorem unwind_paymentCanceled_inOrder (charge : w.stores.payment? r.paymentUid = some p)
    (price : ¬ p.price < 0)
    (stores : s.stores = (w.stores.putReservation r.cancel).putPayment p.cancel) :
    (unwind options (paymentCanceled r p)).Ensures (Setbacks.demand options)
      (fun _ s => s.platform.Orderly) s := by
  rw [← Stores.uid_of_payment? charge] at charge
  refine (unwind_paymentCanceled Setbacks.mild on begun found charge price stores).mono ?_
  rintro - s₁ ⟨kept₁, stores₁⟩
  exact h.left (fun uid member => kept₁ uid (kept uid member)) stores₁

end Undoing

variable (paid : r.status = .paid) (charge : w.stores.payment? r.paymentUid = some p)
  (price : ¬ p.price < 0) (named : Text.isBlankText name = false) (own : r.username = name)

include h kept found paid charge price named own

/-- Both rows of a cancellation are canceled, and it is counted. -/
theorem releaseStay_inOrder
    (stores : s.stores = (w.stores.putReservation r.cancel).putPayment p.cancel) :
    (releaseStay options name r p).Ensures (Setbacks.demand options)
      (fun _ s => s.platform.Orderly) s := by
  obtain ⟨l, guest⟩ : ∃ l, w.stores.loyalty? r.username = some l := by
    apply Option.ne_none_iff_exists'.mp
    intro missing
    have some_left := Stores.paidStays_pos (Stores.mem_of_reservation? found) paid
    have counted : w.stores.countOf r.username = w.stores.paidStays r.username :=
      h.accounts.counted r.username
    rw [Stores.countOf_of_missing missing] at counted
    omega
  have named : Text.isBlankText l.release.username = false := by
    rw [Loyalty.username_release, Stores.username_of_loyalty? guest, own, named]
  rw [ensures_releaseStay]
  apply Setbacks.look fun f => Call.served_reading f s.stores rfl
  · intro f s₁ leads₁ stores₁
    have kept₁ := leads₁.keeps kept
    rw [Call.served_getLoyalty, stores, Stores.loyalty?_putPayment, Stores.loyalty?_putReservation,
      ← own, guest]
    apply Setbacks.effect fun f _ => Call.served_updateLoyalty_of_named f s₁.stores named
    · intro _ _ s₂ leads₂ _ stores₂
      rw [stores₁, stores, Loyalty.recompute_release] at stores₂
      exact (h.canceled (leads₂.keeps kept₁) found paid charge guest stores₂).orderly
    · intro on _ e s₂ leads₂ stores₂
      exact unwind_paymentCanceled_inOrder h (leads₂.keeps kept₁) found on
        (undoing_stepFailed _ _ e) charge price (stores₂.trans (stores₁.trans stores))
  · intro on e _ s₁ leads₁ stores₁
    exact unwind_paymentCanceled_inOrder h (leads₁.keeps kept) found on (undoing_stepFailed _ _ e)
      charge price (stores₁.trans stores)

/-- The reservation is canceled, and its payment follows. -/
theorem cancelCharge_inOrder (stores : s.stores = w.stores.putReservation r.cancel) :
    (cancelCharge options name r).Ensures (Setbacks.demand options)
      (fun _ s => s.platform.Orderly) s := by
  have uid : p.uid = r.paymentUid := Stores.uid_of_payment? charge
  rw [ensures_cancelCharge]
  apply Setbacks.look fun f => Call.served_reading f s.stores rfl
  · intro f s₁ leads₁ stores₁
    have kept₁ := leads₁.keeps kept
    have stores₁ := stores₁.trans stores
    rw [Call.served_getPayment, stores, Stores.payment?_putReservation, charge]
    change Operation.Ensures _ _ (voidCharge options name r p) s₁
    rw [ensures_voidCharge]
    have row : s₁.stores.payment? p.cancel.uid = some p := by
      change s₁.stores.payment? p.uid = some p
      rw [stores₁, Stores.payment?_putReservation, uid, charge]
    apply Setbacks.effect fun f _ =>
      Call.served_updatePayment_of_found (p := p.cancel) f s₁.stores price row
    · intro _ _ s₂ leads₂ _ stores₂
      rw [stores₁] at stores₂
      exact releaseStay_inOrder h (leads₂.keeps kept₁) found paid charge price named own stores₂
    · intro on _ e s₂ leads₂ stores₂
      exact unwind_reservationCanceled_inOrder h (leads₂.keeps kept₁) found on
        (undoing_stepFailed _ _ e) (stores₂.trans stores₁)
  · intro on e _ s₁ leads₁ stores₁
    exact unwind_reservationCanceled_inOrder h (leads₁.keeps kept) found on
      (undoing_stepFailed _ _ e) (stores₁.trans stores)

end Restoring

theorem cancelOwned_inOrder {name : String} {r : Reservation} {s : Moment}
    (h : s.platform.InOrder) (named : Text.isBlankText name = false)
    (found : s.stores.reservation? r.uid = some r) (own : r.username = name) :
    (cancelOwned options name r).Ensures (Setbacks.demand options)
      (fun _ s => s.platform.Orderly) s := by
  rw [ensures_cancelOwned]
  split_ifs with canceled
  · exact h.orderly
  have paid : r.status = .paid := by
    cases status : r.status with
    | paid => rfl
    | canceled => exact absurd status canceled
  obtain ⟨p, charge, price, -⟩ := h.accounts.settled r (Stores.mem_of_reservation? found)
  apply Setbacks.effect fun f _ =>
    Call.served_updateReservation_of_found (r := r.cancel) f s.stores found
  · intro _ _ s₁ leads₁ _ stores₁
    exact cancelCharge_inOrder h leads₁.used found paid charge (Int32.not_lt.mpr price) named own
      stores₁
  · intro _ _ e s₁ leads₁ stores₁
    exact h.left leads₁.used stores₁

theorem cancel_inOrder {uidText username : String} {s : Moment} (h : s.platform.InOrder) :
    (cancel options uidText username).Ensures (Setbacks.demand options)
      (fun _ s => s.platform.Orderly) s := by
  refine ensures_cancel_of_owned (fun r s => s.stores.reservation? r.uid = some r)
    (J := fun s => s.platform.InOrder) ?_ ?_ ?_ h
  · intro uid s h
    apply alone_getReservation Setbacks.honest
    intro s' leads stores
    exact h.same leads.used stores
  · intro e s h
    exact h.orderly
  · intro name r s named _ own h found
    exact cancelOwned_inOrder h named found own

/-! ## Sessions -/

theorem orderly_operation {w : Platform} (h : w.Orderly) (r : GuestRequest) :
    (r.operation options).Ensures (Setbacks.demand options)
      (fun _ s => s.platform.Orderly) ⟨w, [], []⟩ := by
  by_cases numbered : w.Numbered
  · have inOrder := h numbered
    exact r.ensures_of_writes (Q := fun _ _ s => s.platform.Orderly) (s := ⟨w, [], []⟩) inOrder_look
      (fun _ _ s h => h.orderly) (fun username request => book_inOrder inOrder)
      (fun uidText username => cancel_inOrder inOrder) inOrder
  · -- There are too many reservations, and no call takes one away.
    have honest : (Setbacks options).Honest := Setbacks.honest
    have kept := alone_kept (J := fun s => ¬ s.reservations.length ≤ Int32.maxValue.toInt) honest
      (fun c fresh s many fits => many
        (Int.le_trans (Int.ofNat_le.mpr (c.length_reservations_served fresh s)) fits))
      (p := (r.operation options).run) (s := ⟨w, [], []⟩) numbered
    exact ((ensures_run _ _).mp kept).mono fun _ _ many fits => absurd fits many

end Gateway

/-- Accounts that are in order stay in order over every session, for as long as the store has
32-bit numbers for its reservations. -/
theorem Session.keeps_accounts {options : GatewayOptions} {s : Stores} {entries : List Entry}
    {w : Platform} (session : Session options (Setbacks options) (.start s) entries w)
    (initially : s.Accounts) (numbered : w.stores.reservations.length ≤ Int32.maxValue.toInt) :
    w.stores.Accounts := by
  have orderly : w.Orderly := by
    apply session.invariant fun _ w => w.Orderly
    · intro _
      exact ⟨Platform.known_start s, initially⟩
    · intro _ w r h
      exact Gateway.orderly_operation h r
  exact (orderly numbered).accounts

/-- A booking that fails to be counted is undone, the next one is counted, and then it is
canceled. -/
theorem accounts_after_setback :
    let options : GatewayOptions := { compensateFailedSagas := true }
    ∃ entries w, Session options (Setbacks options) (.start {}) entries w ∧
      w.stores.reservations.map Reservation.status = [.canceled, .canceled] ∧
      w.stores.Accounts := by
  intro options
  obtain ⟨entries, w, session, canceled⟩ := Session.exists_of_rehearseAll options
    (Setbacks options)
    [(.book "ada" weekend, smoothly 1 5 ++ [losing 6] ++ smoothly 7 5),
      (.book "ada" weekend, smoothly 21 6),
      (.cancel (Uid.ofNat 24).toText "ada", smoothly 31 6)]
    (.start {}) (fun _ w => w.stores.reservations.map Reservation.status = [.canceled, .canceled])
    (by decide +kernel)
  have canceled := of_decide_eq_true canceled
  have numbered : w.stores.reservations.length ≤ Int32.maxValue.toInt := by
    rw [← List.length_map Reservation.status, canceled]
    decide
  exact ⟨entries, w, session, canceled, session.keeps_accounts Stores.accounts_empty numbered⟩

end HotelBooking
