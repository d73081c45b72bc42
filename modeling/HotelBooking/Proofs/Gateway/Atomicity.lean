import HotelBooking.Proofs.Gateway.Accounting
import HotelBooking.Proofs.Gateway.Undoing
import HotelBooking.Proofs.Store.Growth

/-!
# All or nothing

An operation that writes reports success only when all of its steps have been taken, and
then exactly those rows have changed that they are about. Where failing sagas are undone, one
that fails leaves nothing behind: a cancellation leaves the stores as they were, and a booking
leaves what it added, canceled.

The first part needs nothing to be said of what befalls the calls, except that a failing
one must not look to a booking as if something were missing. The second part supposes that
calls fail without effect and that no compensation fails. Errors of the services are not
failures of this kind: an operation comes upon missing rows and refused prices however well
its calls go, at whichever step.
-/

namespace HotelBooking

/-- Calls that go forward may be lost, and nothing else goes wrong. -/
def LosingForward : Faults := fun log _ m => ¬ Undoing log ∧ m.IsLoss

instance (log : List LogLine) (c : Call) (m : Mishap c.Answer) :
    Decidable (LosingForward log c m) :=
  inferInstanceAs (Decidable (¬ Undoing log ∧ m.IsLoss))

theorem LosingForward.mild : LosingForward.Mild := fun _ _ _ permitted => permitted

theorem Failing.honest : Failing.Honest := fun _ _ _ failure => failure

/-- Any call may fail, before or after it takes effect, though not as if something were
missing. -/
def PlainlyFailing : Faults := fun _ _ m => m.IsPlainFailure

instance (log : List LogLine) (c : Call) (m : Mishap c.Answer) :
    Decidable (PlainlyFailing log c m) :=
  inferInstanceAs (Decidable m.IsPlainFailure)

/-- No fault looks as if something were missing. -/
def Faults.Plain (faults : Faults) : Prop :=
  ∀ log c m, faults log c m → m.IsPlainFailure

theorem Faults.Plain.honest {faults : Faults} (plain : faults.Plain) : faults.Honest :=
  fun log c m permitted => (plain log c m permitted).isFailure

theorem PlainlyFailing.plain : PlainlyFailing.Plain := fun _ _ _ failure => failure

theorem Setbacks.plain {options : GatewayOptions} : (Setbacks options).Plain :=
  fun _ _ _ permitted => permitted.2.2.isPlainFailure

namespace Loyalty

/-- The record of the same guest with another count. -/
structure Recounted (l : Loyalty) (count : Int) (l' : Loyalty) : Prop where
  id : l'.id = l.id
  username : l'.username = l.username
  count : l'.reservationCount.toInt = count
  tiered : l'.Tiered

variable {l : Loyalty}

theorem recounted_release (large : Int32.minValue.toInt < l.reservationCount.toInt) :
    l.Recounted (max (l.reservationCount.toInt - 1) 0) l.release :=
  ⟨rfl, rfl, toInt_count_release_of_gt large, tiered_recompute _⟩

theorem recounted_register (small : l.reservationCount.toInt < Int32.maxValue.toInt) :
    l.Recounted (max (l.reservationCount.toInt + 1) 0) l.register :=
  ⟨rfl, rfl, toInt_count_register_of_lt small, tiered_recompute _⟩

end Loyalty

namespace Stores

/-- A stay was canceled: its reservation, its payment, and one less for its guest. No other
row has changed. -/
structure Released (s : Stores) (r : Reservation) (p : Payment) (l : Loyalty) (s' : Stores) :
    Prop where
  reservations : Rows.Replaced r r.cancel s.reservations s'.reservations
  payments : Rows.Replaced p p.cancel s.payments s'.payments
  members : ∃ l', Rows.Replaced l l' s.members s'.members ∧
    l.Recounted (max (l.reservationCount.toInt - 1) 0) l'
  hotels : s'.hotels = s.hotels

variable {s : Stores}

/-- The record of a guest is saved with another count. -/
theorem replaced_saveLoyalty {l l' : Loyalty} {count : Int}
    (found : s.loyalty? l.username = some l) (recounted : l.Recounted count l') :
    Rows.Replaced l l' s.members (s.saveLoyalty l').members := by
  have replaced := Rows.replaced_replaceFirst found fun stored => { stored with
    reservationCount := l'.reservationCount, status := l'.status, discount := l'.discount }
  have same : { l with
      reservationCount := l'.reservationCount, status := l'.status, discount := l'.discount } =
        l' := by
    rw [← recounted.id, ← recounted.username]
  rw [same] at replaced
  rw [members_saveLoyalty_of_found (recounted.username ▸ found), recounted.username]
  exact replaced

theorem released {r : Reservation} {p : Payment} {l : Loyalty}
    (found : s.reservation? r.uid = some r) (charge : s.payment? p.uid = some p)
    (guest : s.loyalty? l.username = some l)
    (large : Int32.minValue.toInt < l.reservationCount.toInt) :
    s.Released r p l (((s.putReservation r.cancel).putPayment p.cancel).saveLoyalty l.release) where
  reservations := Rows.replaced_replaceFirst found fun stored => { r.cancel with id := stored.id }
  payments := Rows.replaced_replaceFirst charge fun stored =>
    { stored with status := .canceled, price := p.price }
  members :=
    have recounted := Loyalty.recounted_release large
    ⟨l.release, replaced_saveLoyalty (s := (s.putReservation r.cancel).putPayment p.cancel)
      guest recounted, recounted⟩
  hotels := rfl

/-- A payment and a reservation that a stay is booked with, under new identifiers. -/
structure Suited (s : Stores) (name : String) (stay : StayRequest) (hotel : Hotel) (p : Payment)
    (r : Reservation) : Prop where
  charge : p.uid ∉ s.uids
  paid : p.status = .paid
  uid : r.uid ∉ s.uids
  guest : r.username = name
  payment : r.paymentUid = p.uid
  place : r.hotelId = hotel.id
  status : r.status = .paid
  period : r.startDate = stay.startDate ∧ r.endDate = stay.endDate

/-- A guest has one more stay on record, or a record with the first one. -/
def Counted (s : Stores) (name : String) (s' : Stores) : Prop :=
  match s.loyalty? name with
  | some l => ∃ l', Rows.Replaced l l' s.members s'.members ∧
      l.Recounted (max (l.reservationCount.toInt + 1) 0) l'
  | none => ∃ l', s'.members = s.members ++ [l'] ∧ l'.username = name ∧
      l'.reservationCount.toInt = 1 ∧ l'.Tiered

/-- What a booking that fails and is undone leaves: at most a payment and a reservation for
it, both new and both canceled. No row from before has changed. -/
structure Unbooked (s s' : Stores) : Prop where
  loyalty : s'.loyalty = s.loyalty
  hotels : s'.hotels = s.hotels
  added : ∃ ps rs, s'.payments = s.payments ++ ps ∧ s'.reservations = s.reservations ++ rs ∧
    ps.length ≤ 1 ∧ rs.length ≤ 1 ∧ (∀ p ∈ ps, p.uid ∉ s.uids ∧ p.status = .canceled) ∧
    ∀ r ∈ rs, r.uid ∉ s.uids ∧ r.status = .canceled ∧ ∃ p ∈ ps, r.paymentUid = p.uid

theorem unbooked_self (s : Stores) : s.Unbooked s :=
  ⟨rfl, rfl, [], [], by simp⟩

variable {name : String} {stay : StayRequest} {hotel : Hotel} {p : Payment} {r : Reservation}

theorem unbooked_addPayment (new : p.uid ∉ s.uids) : s.Unbooked (s.addPayment p.cancel) :=
  ⟨rfl, rfl, [s.newPayment p.cancel], [], by simp [newPayment, Payment.cancel, new]⟩

theorem Suited.unbooked (suited : s.Suited name stay hotel p r) :
    s.Unbooked ((s.addPayment p.cancel).addReservation r.cancel) := by
  refine ⟨rfl, rfl, [s.newPayment p.cancel], [(s.addPayment p.cancel).newReservation r.cancel], ?_⟩
  simp [newPayment, newReservation, Payment.cancel, Reservation.cancel, suited.charge, suited.uid,
    suited.payment]

theorem counted_register {s' : Stores}
    (small : ∀ l ∈ s.members, l.reservationCount.toInt < Int32.maxValue.toInt)
    (saved : s'.members =
      (s.saveLoyalty ((s.loyalty? name).getD (.newMember name)).register).members) :
    s.Counted name s' := by
  unfold Counted
  cases found : s.loyalty? name with
  | some l =>
      have recounted := Loyalty.recounted_register (small l (List.mem_of_find?_eq_some found))
      have row : s.loyalty? l.username = some l := by rw [username_of_loyalty? found, found]
      rw [found] at saved
      exact ⟨l.register, saved ▸ replaced_saveLoyalty row recounted, recounted⟩
  | none =>
      rw [found] at saved
      rw [Option.getD_none, members_saveLoyalty_of_missing found] at saved
      have first : (Loyalty.newMember name).register.reservationCount = 1 := rfl
      exact ⟨_, saved, rfl, congrArg Int32.toInt first, rfl, rfl⟩

end Stores

namespace Gateway

open Operation

variable {α : Type} {faults : Faults} {options : GatewayOptions} {s : Moment} {w : Stores}

/-- What an operation that writes has done when it succeeds, and what is left when it fails
and is undone. -/
structure AllOrNothing (options : GatewayOptions) (faults : Faults) (done : α → Stores → Prop)
    (undone : Stores → Prop) (o : Outcome α) (s : Moment) : Prop where
  of_ok : ∀ a, o = .ok a → done a s.stores
  of_error : options.compensateFailedSagas = true → faults.Mild → ∀ e, o = .error e →
    undone s.stores

section Rules

variable {done : α → Stores → Prop} {undone : Stores → Prop}

theorem AllOrNothing.ok {a : α} (all : done a s.stores) :
    AllOrNothing options faults done undone (.ok a) s where
  of_ok := by
    rintro _ ⟨⟩
    exact all
  of_error := by
    rintro - - _ ⟨⟩

theorem AllOrNothing.error {e : ServiceError}
    (nothing : options.compensateFailedSagas = true → faults.Mild → undone s.stores) :
    AllOrNothing options faults done undone (.error e) s where
  of_ok := by
    rintro _ ⟨⟩
  of_error on mild _ _ := nothing on mild

/-- A saga fails. Nothing needs to be known of how it is unwound unless it is undone without
a fault. -/
theorem allOrNothing_of_unwind {β : Type} {saga : Saga} {next : β → Moment → Prop}
    {e : ServiceError} (honest : faults.Honest)
    (nothing : options.compensateFailedSagas = true → faults.Mild → ∀ s', Undoing s'.log →
      s'.stores = s.stores → (unwind options saga).Ensures (Terms.alone.demand faults)
        (fun _ s => undone s.stores) s') :
    orUnwind (Terms.alone.demand faults) options saga
      (AllOrNothing options faults done undone) next (.error e) s := by
  by_cases careful : options.compensateFailedSagas = true ∧ faults.Mild
  · have undoing := undoing_stepFailed s.log saga.name e
    refine Program.Ensures.mono (nothing careful.1 careful.2 _ undoing rfl) ?_
    exact fun _ _ left => .error fun _ _ => left
  · have kept := alone_kept (J := fun _ => True) honest (fun _ _ _ _ => trivial)
      (p := unwind options saga) (s := { s with log := s.log ++ [.stepFailed saga.name e] }) trivial
    exact Program.Ensures.mono kept fun _ _ _ => .error fun on mild => absurd ⟨on, mild⟩ careful

/-- A call that its service carries out, if it gets there. Where faults are mild, one that
fails has not. -/
theorem alone_write {c : Call} {a : Uid → c.Answer} {stores : Uid → Stores}
    {K : Outcome c.Answer → Moment → Prop} (honest : faults.Honest)
    (effect : ∀ fresh ∉ s.platform.used, c.served fresh s.stores = (.ok (a fresh), stores fresh))
    (done : ∀ fresh ∉ s.platform.used, ∀ s', s.Leads s' → fresh ∈ s'.platform.used →
      s'.stores = stores fresh → K (.ok (a fresh)) s')
    (failed : ∀ e s', s.Leads s' → (faults.Mild → s'.stores = s.stores) → K (.error e) s') :
    (Terms.alone.demand faults).call c K s := by
  apply alone_effect honest effect done
  · intro e _ s' leads stores
    exact failed e s' leads fun _ => stores
  · intro _ permitted fresh _ s' leads _ _ e'
    refine failed e' s' leads fun mild => ?_
    obtain ⟨-, _, impossible⟩ := mild _ _ _ permitted
    cases impossible

end Rules

/-! ## Cancelling -/

section Cancelling

variable {name : String} {r : Reservation} {p : Payment} {done : Unit → Stores → Prop}
  (honest : faults.Honest) (named : Text.isBlankText name = false)
  (found : w.reservation? r.uid = some r)
  (released : ∀ p l, w.payment? r.paymentUid = some p → w.loyalty? name = some l →
    done () (((w.putReservation r.cancel).putPayment p.cancel).saveLoyalty l.release))

section Failing

variable {β : Type} {next : β → Moment → Prop} {e : ServiceError}

include honest found

/-- A cancellation fails after its first step. -/
theorem reservationCanceled_whole
    (stores : faults.Mild → s.stores = w.putReservation r.cancel) :
    orUnwind (Terms.alone.demand faults) options (reservationCanceled r)
      (AllOrNothing options faults done (· = w)) next (.error e) s := by
  refine allOrNothing_of_unwind honest fun on mild s₁ begun stores₁ => ?_
  have stores₁ := stores₁.trans (stores mild)
  exact (unwind_reservationCanceled mild on begun found stores₁).mono fun _ _ => And.right

/-- A cancellation fails after both steps. -/
theorem paymentCanceled_whole (charge : w.payment? r.paymentUid = some p) (price : ¬ p.price < 0)
    (stores : faults.Mild → s.stores = (w.putReservation r.cancel).putPayment p.cancel) :
    orUnwind (Terms.alone.demand faults) options (paymentCanceled r p)
      (AllOrNothing options faults done (· = w)) next (.error e) s := by
  have row : w.payment? p.uid = some p := by rw [Stores.uid_of_payment? charge, charge]
  refine allOrNothing_of_unwind honest fun on mild s₁ begun stores₁ => ?_
  have stores₁ := stores₁.trans (stores mild)
  exact (unwind_paymentCanceled mild on begun found row price stores₁).mono fun _ _ => And.right

end Failing

include honest named found released

/-- Both rows are canceled: the stay is taken off the count, or both are restored. -/
theorem releaseStay_whole (charge : w.payment? r.paymentUid = some p) (price : ¬ p.price < 0)
    (stores : s.stores = (w.putReservation r.cancel).putPayment p.cancel) :
    (releaseStay options name r p).Ensures (Terms.alone.demand faults)
      (AllOrNothing options faults done (· = w)) s := by
  rw [ensures_releaseStay]
  apply alone_look honest fun f => Call.served_reading f s.stores rfl
  · intro f s₁ _ stores₁
    have stores₁ := stores₁.trans stores
    rw [Call.served_getLoyalty, stores, Stores.loyalty?_putPayment, Stores.loyalty?_putReservation]
    cases guest : w.loyalty? name with
    | none => exact paymentCanceled_whole honest found charge price fun _ => stores₁
    | some l =>
        have kept : Text.isBlankText l.release.username = false := by
          rw [Loyalty.username_release, Stores.username_of_loyalty? guest, named]
        apply alone_write honest fun f _ => Call.served_updateLoyalty_of_named f s₁.stores kept
        · intro _ _ s₂ _ _ stores₂
          rw [Loyalty.recompute_release, stores₁] at stores₂
          refine .ok ?_
          rw [stores₂]
          exact released p l charge guest
        · intro e s₂ _ same
          exact paymentCanceled_whole honest found charge price fun mild =>
            (same mild).trans stores₁
  · intro _ e _ _ s₁ _ stores₁
    exact paymentCanceled_whole honest found charge price fun _ => stores₁.trans stores

/-- The reservation is canceled and its payment is known: the payment is canceled too, or the
reservation is restored. -/
theorem voidCharge_whole (charge : w.payment? r.paymentUid = some p)
    (stores : s.stores = w.putReservation r.cancel) :
    (voidCharge options name r p).Ensures (Terms.alone.demand faults)
      (AllOrNothing options faults done (· = w)) s := by
  rw [ensures_voidCharge]
  by_cases price : p.price < 0
  · -- The service takes no negative price, not even that of a stored payment.
    have refused (f : Uid) : (Call.updatePayment p.cancel).served f s.stores =
        (.error (.negativePrice p.price), s.stores) := by
      rw [Call.served_updatePayment]
      exact if_pos price
    apply alone_look honest fun f => congrArg Prod.snd (refused f)
    · intro f s₁ _ stores₁
      rw [refused]
      exact reservationCanceled_whole honest found fun _ => stores₁.trans stores
    · intro _ e _ _ s₁ _ stores₁
      exact reservationCanceled_whole honest found fun _ => stores₁.trans stores
  · have row : s.stores.payment? p.cancel.uid = some p := by
      change s.stores.payment? p.uid = some p
      rw [stores, Stores.payment?_putReservation, Stores.uid_of_payment? charge, charge]
    apply alone_write honest fun f _ =>
      Call.served_updatePayment_of_found (p := p.cancel) f s.stores price row
    · intro _ _ s₁ _ _ stores₁
      rw [stores] at stores₁
      exact releaseStay_whole honest named found released charge price stores₁
    · intro e s₁ _ same
      exact reservationCanceled_whole honest found fun mild => (same mild).trans stores

/-- The reservation is canceled: its payment follows, or it is restored. -/
theorem cancelCharge_whole (stores : s.stores = w.putReservation r.cancel) :
    (cancelCharge options name r).Ensures (Terms.alone.demand faults)
      (AllOrNothing options faults done (· = w)) s := by
  rw [ensures_cancelCharge]
  apply alone_look honest fun f => Call.served_reading f s.stores rfl
  · intro f s₁ _ stores₁
    have stores₁ := stores₁.trans stores
    rw [Call.served_getPayment, stores, Stores.payment?_putReservation]
    cases charge : w.payment? r.paymentUid with
    | none => exact reservationCanceled_whole honest found fun _ => stores₁
    | some p => exact voidCharge_whole honest named found released charge stores₁
  · intro _ e _ _ s₁ _ stores₁
    exact reservationCanceled_whole honest found fun _ => stores₁.trans stores

theorem cancelOwned_whole (paid : r.status = .paid) (stores : s.stores = w) :
    (cancelOwned options name r).Ensures (Terms.alone.demand faults)
      (AllOrNothing options faults done (· = w)) s := by
  rw [ensures_cancelOwned, if_neg (by rw [paid]; decide)]
  apply alone_write honest fun f _ =>
    Call.served_updateReservation_of_found (r := r.cancel) f s.stores (stores ▸ found)
  · intro _ _ s₁ _ _ stores₁
    rw [stores] at stores₁
    exact cancelCharge_whole honest named found released stores₁
  · intro e s₁ _ same
    exact .error fun _ mild => (same mild).trans stores

end Cancelling

/-- What a cancellation that succeeds has done. -/
def Canceled (uidText username : String) (s s' : Stores) : Prop :=
  ∃ r, parseUid uidText = .ok r.uid ∧ requireUsername username = .ok r.username ∧
    s.reservation? r.uid = some r ∧ s'.reservation? r.uid = some r.cancel ∧
    (r.status = .canceled ∧ s' = s ∨
      r.status = .paid ∧ ∃ p l, s.payment? r.paymentUid = some p ∧
        s.loyalty? r.username = some l ∧ s.Released r p l s')

theorem cancel_whole {uidText username : String} (honest : faults.Honest)
    (counts : ∀ l ∈ w.members, Int32.minValue.toInt < l.reservationCount.toInt)
    (stores : s.stores = w) :
    (cancel options uidText username).Ensures (Terms.alone.demand faults)
      (AllOrNothing options faults (fun _ => Canceled uidText username w) (· = w)) s := by
  refine ensures_cancel_of_fetched (fun r s => s.stores.reservation? r.uid = some r)
    (J := fun s => s.stores = w) ?_ ?_ ?_ stores
  · intro uid s stores
    apply alone_getReservation honest
    intro s' _ same
    exact same.trans stores
  · intro e s stores
    exact .error fun _ _ => stores
  · intro r s required parsed stores found
    rw [stores] at found
    have named := (trimmed_of_requireUsername required).2
    cases status : r.status with
    | canceled =>
        have same : r.cancel = r := by rw [Reservation.cancel, ← status]
        rw [ensures_cancelOwned, if_pos status]
        exact .ok ⟨r, parsed, required, found, by rw [stores, same, found], .inl ⟨status, stores⟩⟩
    | paid =>
        refine cancelOwned_whole honest named found ?_ status stores
        intro p l charge guest
        have row : w.payment? p.uid = some p := by rw [Stores.uid_of_payment? charge, charge]
        have record : w.loyalty? l.username = some l := by
          rw [Stores.username_of_loyalty? guest, guest]
        refine ⟨r, parsed, required, found, Stores.reservation?_cancel found, .inr ?_⟩
        exact ⟨status, p, l, charge, guest,
          Stores.released found row record (counts l (List.mem_of_find?_eq_some guest))⟩

/-- Canceling a canceled stay again changes nothing. -/
theorem cancel_again {uidText username : String} {r : Reservation} {b : Backend}
    (parsed : parseUid uidText = .ok r.uid) (required : requireUsername username = .ok r.username)
    (found : b.stores.reservation? r.uid = some r) (canceled : r.status = .canceled) :
    let again := (cancel options uidText username).run.run .inProcess b
    again.value = .ok () ∧ again.state.stores = b.stores := by
  intro again
  have ensured : (cancel options uidText username).Ensures Handler.inProcess.demand
      (fun o b' => o = .ok () ∧ b'.stores = b.stores) b := by
    rw [ensures_cancel, required, onOk_ok, parsed, onOk_ok]
    simp only [Handler.demand, Handler.answer_inProcess, Call.served_getReservation, found]
    simp [foundOr, Reservation.isOwnedBy, ensures_cancelOwned, canceled]
  subst again
  exact (Operation.ensures_handled .inProcess (cancel options uidText username) b).mp ensured

/-- Cancelling is all or nothing. When it succeeds, both rows are canceled and the stay is taken
off the count, unless all that was done before; nothing else has changed, and cancelling again
changes nothing. Where failing sagas are undone, a cancellation that fails leaves the stores as
they were. -/
theorem cancel_all_or_nothing (options : GatewayOptions) (uidText username : String) (w : Platform)
    (counts : ∀ l ∈ w.stores.members, Int32.minValue.toInt < l.reservationCount.toInt) :
    (∀ log w', Completes Failing (cancel options uidText username).run w (.ok ()) log w' →
      Canceled uidText username w.stores w'.stores ∧
      ∀ supply,
        let again := (cancel options uidText username).run.run .inProcess ⟨w'.stores, supply⟩
        again.value = .ok () ∧ again.state.stores = w'.stores) ∧
    (options.compensateFailedSagas = true → ∀ e log w',
      Completes LosingForward (cancel options uidText username).run w (.error e) log w' →
        w'.stores = w.stores) := by
  have ensured {faults : Faults} (honest : faults.Honest) :
      (cancel options uidText username).Ensures (Terms.alone.demand faults)
        (AllOrNothing options faults (fun _ => Canceled uidText username w.stores) (· = w.stores))
        ⟨w, [], []⟩ := cancel_whole honest counts rfl
  constructor
  · intro log w' run
    obtain ⟨own, whole⟩ := Operation.ensures_completes (ensured Failing.honest) run
    have done := whole.of_ok () rfl
    obtain ⟨r, parsed, required, -, found, -⟩ := id done
    exact ⟨done, fun supply =>
      cancel_again (r := r.cancel) (b := ⟨w'.stores, supply⟩) parsed required found rfl⟩
  · intro on e log w' run
    obtain ⟨own, whole⟩ := Operation.ensures_completes (ensured LosingForward.mild.honest) run
    exact whole.of_error on LosingForward.mild e rfl

/-- The stores with one booking, which is Ada's. -/
def adasBooking : Stores where
  reservation.reservations :=
    { rows := [{ id := 1, uid := .ofNat 3, username := "ada", paymentUid := .ofNat 2, hotelId := 1,
                 status := .paid, startDate := ⟨2026, 4, 24, by decide⟩,
                 endDate := ⟨2026, 4, 26, by decide⟩ }]
      lastId := 1 }
  payment :=
    { rows := [{ id := 1, uid := .ofNat 2, status := .paid, price := 20000 }], lastId := 1 }
  loyalty :=
    { rows := [{ id := 1, username := "ada", reservationCount := 1, status := .bronze,
                 discount := 5 }]
      lastId := 1 }

/-- Ada cancels her booking, or fails to at the last step, and all is as it was. -/
theorem adas_cancellation_whole :
    let uidText := (Uid.ofNat 3).toText
    let canceling := (cancel { compensateFailedSagas := true } uidText " ada").run
    (∃ log w', Completes Failing canceling (.start adasBooking) (.ok ()) log w' ∧
      Canceled uidText " ada" adasBooking w'.stores ∧ w'.stores ≠ adasBooking) ∧
    ∃ e log w', Completes LosingForward canceling (.start adasBooking) (.error e) log w' ∧
      w'.stores = adasBooking ∧ log.length = 3 := by
  intro uidText canceling
  obtain ⟨done, undone⟩ := cancel_all_or_nothing { compensateFailedSagas := true } uidText " ada"
    (.start adasBooking) (by decide)
  constructor
  · obtain ⟨o, log, w', run, checked⟩ := Completes.exists_of_rehearse Failing canceling
      (.start adasBooking) (smoothly 11 6) (fun o _ w' => o = .ok () ∧ w'.stores ≠ adasBooking)
      (by decide +kernel)
    obtain ⟨rfl, changed⟩ := of_decide_eq_true checked
    exact ⟨log, w', run, (done log w' run).1, changed⟩
  · obtain ⟨o, log, w', run, checked⟩ := Completes.exists_of_rehearse LosingForward canceling
      (.start adasBooking) (smoothly 11 5 ++ [losing 16] ++ smoothly 17 5)
      (fun o log _ => o.toOption = none ∧ log.length = 3) (by decide +kernel)
    obtain ⟨failed, lines⟩ := of_decide_eq_true checked
    cases o with
    | ok a => cases failed
    | error e => exact ⟨e, log, w', run, undone rfl e log w' run, lines⟩

/-! ## Booking -/

section Booking

variable {name : String} {stay : StayRequest} {hotel : Hotel} {discount : Int32} {l : Loyalty}
  {p : Payment} {r : Reservation} {done : BookingReceipt → Stores → Prop}

/-- Both rows are stored: the stay is counted, or both are canceled. -/
theorem countStay_whole (honest : faults.Honest)
    (named : Text.isBlankText l.register.username = false) (price : ¬ p.price < 0)
    (suited : w.Suited name stay hotel p r)
    (stores : s.stores = (w.addPayment p).addReservation r)
    (booked : done
      (.assemble ((w.addPayment p).newReservation r) hotel.uid discount (w.newPayment p))
      (((w.addPayment p).addReservation r).saveLoyalty l.register)) :
    (countStay options hotel discount l (w.newPayment p)
      ((w.addPayment p).newReservation r)).Ensures (Terms.alone.demand faults)
      (AllOrNothing options faults done w.Unbooked) s := by
  rw [ensures_countStay]
  apply alone_write honest fun f _ => Call.served_updateLoyalty_of_named f s.stores named
  · intro _ _ s₁ _ _ stores₁
    rw [Loyalty.recompute_register, stores] at stores₁
    exact .ok (stores₁ ▸ booked)
  · intro e s₁ _ same
    refine allOrNothing_of_unwind honest fun on mild s₂ begun stores₂ => ?_
    have stores₂ := stores₂.trans ((same mild).trans stores)
    refine (unwind_reservationCreated mild on begun (Stores.payment?_eq_none suited.charge) price
      (Stores.reservation?_eq_none suited.uid) stores₂).mono ?_
    rintro - s₃ ⟨-, stores₃⟩
    exact stores₃ ▸ suited.unbooked

/-- The charge is stored: the reservation follows, or the charge is canceled. -/
theorem reserve_whole {uid : Uid} (honest : faults.Honest) (named : Text.isBlankText name = false)
    (guest : l.username = name) (ordered : stay.startDate ≤ stay.endDate) (price : ¬ p.price < 0)
    (paid : p.status = .paid) (charge : p.uid ∉ w.uids) (drawn : uid ∉ w.uids)
    (kept : ∀ uid ∈ w.uids, uid ∈ s.platform.used) (stores : s.stores = w.addPayment p)
    (booked : ∀ r, w.Suited name stay hotel p r →
      done (.assemble ((w.addPayment p).newReservation r) hotel.uid discount (w.newPayment p))
        (((w.addPayment p).addReservation r).saveLoyalty l.register)) :
    (reserve options name stay hotel discount l (w.newPayment p) uid).Ensures
      (Terms.alone.demand faults) (AllOrNothing options faults done w.Unbooked) s := by
  have suited (f : Uid) (unused : f ∉ s.platform.used) : w.Suited name stay hotel p
      (Call.identified f (draftFor uid name stay hotel (w.newPayment p))) := by
    have new : (Call.identified f (draftFor uid name stay hotel (w.newPayment p))).uid ∉ w.uids :=
      Call.uid_identified (P := (· ∉ w.uids)) drawn fun member => unused (kept f member)
    refine ⟨charge, paid, new, ?_, ?_, ?_, ?_, ?_⟩
    all_goals
      unfold Call.identified
      split
    all_goals first | rfl | exact paid | exact ⟨rfl, rfl⟩
  rw [ensures_reserve]
  apply alone_write honest fun f unused =>
    Call.served_createReservation_of_new f s.stores
      (r := draftFor uid name stay hotel (w.newPayment p)) named ordered
      (by rw [stores, Stores.reservation?_addPayment,
        Stores.reservation?_eq_none (suited f unused).uid])
  · intro f unused s₁ leads₁ _ stores₁
    rw [stores] at stores₁ ⊢
    exact countStay_whole honest (by rw [Loyalty.username_register, guest, named]) price
      (suited f unused) stores₁ (booked _ (suited f unused))
  · intro e s₁ _ same
    refine allOrNothing_of_unwind honest fun on mild s₂ begun stores₂ => ?_
    have stores₂ := stores₂.trans ((same mild).trans stores)
    refine (unwind_paymentCreated mild on begun (Stores.payment?_eq_none charge) price
      stores₂).mono ?_
    rintro - s₃ ⟨-, stores₃⟩
    exact stores₃ ▸ Stores.unbooked_addPayment charge

/-- The price is known: the stay is charged, unless the charge is refused. -/
theorem bookPriced_whole {price : Int32} (honest : faults.Honest)
    (named : Text.isBlankText name = false) (guest : l.username = name)
    (ordered : stay.startDate ≤ stay.endDate) (kept : ∀ uid ∈ w.uids, uid ∈ s.platform.used)
    (stores : s.stores = w)
    (booked : ∀ p r, p.price = price → w.Suited name stay hotel p r →
      done (.assemble ((w.addPayment p).newReservation r) hotel.uid discount (w.newPayment p))
        (((w.addPayment p).addReservation r).saveLoyalty l.register)) :
    (bookPriced options name stay hotel discount l price).Ensures
      (Terms.alone.demand faults) (AllOrNothing options faults done w.Unbooked) s := by
  rw [ensures_bookPriced]
  by_cases negative : price < 0
  · have refused (f : Uid) : (Call.createPayment price).served f s.stores =
        (.error (.negativePrice price), s.stores) := by
      rw [Call.served_createPayment, if_pos negative]
    apply alone_look honest fun f => congrArg Prod.snd (refused f)
    · intro f s₁ _ stores₁
      rw [refused]
      exact .error fun _ _ => stores₁.trans stores ▸ w.unbooked_self
    · intro _ e _ _ s₁ _ stores₁
      exact .error fun _ _ => stores₁.trans stores ▸ w.unbooked_self
  have unknown {f : Uid} (unused : f ∉ s.platform.used) : f ∉ w.uids :=
    fun member => unused (kept f member)
  apply alone_write honest fun f unused =>
    Call.served_createPayment_of_new f s.stores negative
      (Stores.payment?_eq_none (stores.symm ▸ unknown unused))
  · intro f unused s₁ leads₁ _ stores₁
    rw [stores] at stores₁ ⊢
    apply alone_draw
    intro uid unused₁ s₂ leads₂ _ stores₂
    exact reserve_whole honest named guest ordered negative rfl (unknown unused)
      (fun member => unused₁ (leads₁.keeps kept uid member)) ((leads₁.trans leads₂).keeps kept)
      (stores₂.trans stores₁) (booked (.charge f price) · rfl)
  · intro e s₁ _ same
    exact .error fun _ mild => (same mild).trans stores ▸ w.unbooked_self

end Booking

/-- The record of a guest is found if there is one, and missed only if there is none. -/
theorem getLoyalty_told {name : String} (plain : faults.Plain) :
    (Terms.alone.demand faults).call (.getLoyalty name) (fun o s' => s.Leads s' ∧
      s'.stores = s.stores ∧ ∀ existing, recordIn o = .ok existing →
        existing = s.stores.loyalty? name) s := by
  have told : recordIn (foundOr (Loyalty.label name) (s.stores.loyalty? name)) =
      .ok (s.stores.loyalty? name) := by
    cases s.stores.loyalty? name <;> rfl
  have untold {e : ServiceError} (other : e.isNotFound = false) :
      recordIn (.error e) = .error e := by
    rw [recordIn, other]
    rfl
  rintro w rfl fresh unused mishap permitted
  refine ⟨trivial, ?_⟩
  cases mishap with
  | none =>
      rw [Platform.answer_none, Call.served_getLoyalty]
      refine ⟨s.leads_past fresh _, rfl, fun existing same => ?_⟩
      exact (Except.ok.inj (told.symm.trans same)).symm
  | some m =>
      obtain ⟨e, rfl | rfl, other⟩ := plain _ _ _ (permitted m rfl)
      · rw [Platform.answer_lost]
        refine ⟨s.leads_past fresh _, rfl, fun existing same => ?_⟩
        cases (untold other).symm.trans same
      · rw [Platform.answer_unanswered_eq, Call.served_getLoyalty]
        refine ⟨s.leads_past fresh _, rfl, fun existing same => ?_⟩
        cases found : s.stores.loyalty? name with
        | none =>
            rw [found] at same
            exact (Except.ok.inj same).symm
        | some l =>
            rw [found] at same
            cases (untold other).symm.trans same

/-- What a booking that succeeds has done, and what the guest is told of it. -/
def Booked (username : String) (request : BookingRequest) (s : Stores) (receipt : BookingReceipt)
    (s' : Stores) : Prop :=
  ∃ name stay hotel p r, requireUsername username = .ok name ∧
    StayRequest.check request = .ok stay ∧
    s.hotels.find? (·.uid == stay.hotelUid) = some hotel ∧
    let discount := ((s.loyalty? name).map Loyalty.discount).getD 0
    Pricing.stayPrice stay.nights hotel.price discount = .ok p.price ∧
    s.Suited name stay hotel p r ∧ s'.payments = s.payments ++ [p] ∧
    s'.reservations = s.reservations ++ [r] ∧ s.Counted name s' ∧ s'.hotels = s.hotels ∧
    receipt = { reservationUid := r.uid, hotelUid := stay.hotelUid,
                startDate := stay.startDate.toText, endDate := stay.endDate.toText, discount,
                status := .paid, payment := { status := .paid, price := p.price } }

/-- The hotel is known: the stay is priced and booked. -/
theorem bookAt_whole {username name : String} {request : BookingRequest} {stay : StayRequest}
    {hotel : Hotel} (plain : faults.Plain)
    (small : ∀ l ∈ w.members, l.reservationCount.toInt < Int32.maxValue.toInt)
    (required : requireUsername username = .ok name)
    (passed : StayRequest.check request = .ok stay)
    (place : w.hotels.find? (·.uid == stay.hotelUid) = some hotel)
    (kept : ∀ uid ∈ w.uids, uid ∈ s.platform.used) (stores : s.stores = w) :
    (bookAt options name stay hotel).Ensures (Terms.alone.demand faults)
      (AllOrNothing options faults (Booked username request w) w.Unbooked) s := by
  rw [ensures_bookAt]
  apply (Terms.alone.demand faults).call_mono _ (getLoyalty_told plain)
  rintro o s₁ ⟨leads₁, stores₁, told⟩
  have failed (e : ServiceError) : AllOrNothing options faults (Booked username request w)
      w.Unbooked (.error e) s₁ := .error fun _ _ => stores₁.trans stores ▸ w.unbooked_self
  cases record : recordIn o with
  | error e => exact failed e
  | ok existing =>
      rw [onOk_ok, told existing record, stores]
      cases priced : Pricing.stayPrice stay.nights hotel.price
          (((w.loyalty? name).map Loyalty.discount).getD 0) with
      | error e => exact failed e
      | ok price =>
          have named := (trimmed_of_requireUsername required).2
          have guest : ((w.loyalty? name).getD (.newMember name)).username = name := by
            cases found : w.loyalty? name with
            | none => rfl
            | some l => exact Stores.username_of_loyalty? found
          refine bookPriced_whole plain.honest named guest (StayRequest.ordered_of_check passed)
            (leads₁.keeps kept) (stores₁.trans stores) ?_
          rintro p r rfl suited
          refine ⟨name, stay, hotel, w.newPayment p, (w.addPayment p).newReservation r,
            required, passed, place, priced, ?_, rfl, rfl, ?_, rfl, ?_⟩
          · exact ⟨suited.charge, suited.paid, suited.uid, suited.guest, suited.payment,
              suited.place, suited.status, suited.period⟩
          · exact Stores.counted_register small rfl
          · have uid : hotel.uid = stay.hotelUid := Table.key_of_find? place
            simp [BookingReceipt.assemble, PaymentInfo.ofPayment, Stores.newReservation,
              Stores.newPayment, suited.period, suited.status, suited.paid, uid]

theorem book_whole {username : String} {request : BookingRequest} (plain : faults.Plain)
    (small : ∀ l ∈ w.members, l.reservationCount.toInt < Int32.maxValue.toInt)
    (kept : ∀ uid ∈ w.uids, uid ∈ s.platform.used) (stores : s.stores = w) :
    (book options username request).Ensures (Terms.alone.demand faults)
      (AllOrNothing options faults (Booked username request w) w.Unbooked) s := by
  have failed (e : ServiceError) {s' : Moment} (same : s'.stores = w) :
      AllOrNothing options faults (Booked username request w) w.Unbooked (.error e) s' :=
    .error fun _ _ => same ▸ w.unbooked_self
  rw [ensures_book]
  cases required : requireUsername username with
  | error e => exact failed e stores
  | ok name =>
      cases passed : StayRequest.check request with
      | error report => exact failed (.validation report) stores
      | ok stay =>
          apply alone_look plain.honest fun f => Call.served_reading f s.stores rfl
          · intro f s₁ leads₁ stores₁
            have stores₁ := stores₁.trans stores
            rw [Call.served_getHotelByUid, stores]
            change onOk _ _ (foundOr _ (w.hotels.find? (·.uid == stay.hotelUid))) s₁
            cases place : w.hotels.find? (·.uid == stay.hotelUid) with
            | none => exact failed _ stores₁
            | some hotel =>
                exact bookAt_whole plain small required passed place (leads₁.keeps kept) stores₁
          · intro _ e _ _ s₁ _ stores₁
            exact failed e (stores₁.trans stores)

/-- Booking is all or nothing. When it succeeds, a payment and a reservation of the stay are
added, the stay is counted, nothing else has changed, and the receipt says so. Where
failing sagas are undone, a booking that fails leaves at most a canceled payment and a
canceled reservation. -/
theorem book_all_or_nothing (options : GatewayOptions) (username : String)
    (request : BookingRequest) (s : Stores)
    (counts : ∀ l ∈ s.members, l.reservationCount.toInt < Int32.maxValue.toInt) :
    (∀ receipt log w', Completes PlainlyFailing (book options username request).run (.start s)
        (.ok receipt) log w' → Booked username request s receipt w'.stores) ∧
    (options.compensateFailedSagas = true → ∀ e log w',
      Completes (Setbacks options) (book options username request).run (.start s)
        (.error e) log w' → s.Unbooked w'.stores) := by
  have ensured {faults : Faults} (plain : faults.Plain) :
      (book options username request).Ensures (Terms.alone.demand faults)
        (AllOrNothing options faults (Booked username request s) s.Unbooked) ⟨.start s, [], []⟩ :=
    book_whole plain counts (Platform.known_start s) rfl
  constructor
  · intro receipt log w' run
    obtain ⟨own, whole⟩ := Operation.ensures_completes (ensured PlainlyFailing.plain) run
    exact whole.of_ok receipt rfl
  · intro on e log w' run
    obtain ⟨own, whole⟩ := Operation.ensures_completes (ensured Setbacks.plain) run
    exact whole.of_error on Setbacks.mild e rfl

/-- Ada books once more, for less; or her booking is not counted at the end, and taken back. -/
theorem adas_booking_whole :
    let booking := (book { compensateFailedSagas := true } " ada" weekend).run
    (∃ receipt log w', Completes PlainlyFailing booking (.start adasBooking) (.ok receipt) log w' ∧
      Booked " ada" weekend adasBooking receipt w'.stores ∧ receipt.payment.price = 19000) ∧
    ∃ e log w', Completes (Setbacks { compensateFailedSagas := true }) booking
        (.start adasBooking) (.error e) log w' ∧
      adasBooking.Unbooked w'.stores ∧
      w'.stores.reservations.map Reservation.status = [.paid, .canceled] := by
  intro booking
  obtain ⟨done, undone⟩ := book_all_or_nothing { compensateFailedSagas := true } " ada" weekend
    adasBooking (by decide)
  constructor
  · obtain ⟨o, log, w', run, checked⟩ := Completes.exists_of_rehearse PlainlyFailing booking
      (.start adasBooking) (smoothly 11 6)
      (fun o _ _ => o.toOption.map (·.payment.price) = some 19000) (by decide +kernel)
    cases o with
    | error e => cases of_decide_eq_true checked
    | ok receipt =>
        exact ⟨receipt, log, w', run, done receipt log w' run,
          Option.some.inj (of_decide_eq_true checked)⟩
  · obtain ⟨o, log, w', run, checked⟩ := Completes.exists_of_rehearse
      (Setbacks { compensateFailedSagas := true }) booking (.start adasBooking)
      (smoothly 11 5 ++ [losing 16] ++ smoothly 17 5)
      (fun o _ w' => o.toOption = none ∧
        w'.stores.reservations.map Reservation.status = [.paid, .canceled]) (by decide +kernel)
    obtain ⟨failed, added⟩ := of_decide_eq_true checked
    cases o with
    | ok receipt => cases failed
    | error e => exact ⟨e, log, w', run, undone rfl e log w' run, added⟩

end Gateway

end HotelBooking
