import HotelBooking.Gateway.InProcess
import HotelBooking.Proofs.Store.Changes

/-!
# What the services answer

One equation for each call that a saga makes: the outcome and the stores it leaves, in
terms of lookups and of the changes of `Stores`. Calls that only read leave the stores as
they are, whichever they are.
-/

namespace HotelBooking

/-- The value looked up, or the error that says what is missing. -/
def foundOr {α : Type} (what : String) : Option α → Outcome α
  | some a => .ok a
  | none => .error (.notFound what)

theorem eq_some_of_foundOr {α : Type} {what : String} {o : Option α} {a : α}
    (h : foundOr what o = .ok a) : o = some a := by
  cases o with
  | none => cases h
  | some b =>
      cases h
      rfl

theorem eq_notFound_of_foundOr {α : Type} {what : String} {o : Option α} {e : ServiceError}
    (h : foundOr what o = .error e) : e = .notFound what := by
  cases o with
  | none =>
      cases h
      rfl
  | some a => cases h

namespace Action

variable {σ α : Type} {what : String} {a : Action σ (Option α)} {s s' : σ} {o : Option α}

theorem perform_found_of_ok (h : a.perform s = (.ok o, s')) :
    (a.found what).perform s = (foundOr what o, s') := by
  rw [perform_found, h]
  cases o <;> rfl

/-- An action whose value is thrown away. -/
theorem perform_discard_found (h : a.perform s = (.ok o, s')) :
    (do let _ ← a.found what : Action σ Unit).perform s =
      (foundOr what (o.map fun _ => ()), s') := by
  rw [perform_bind, perform_found_of_ok h]
  cases o <;> rfl

end Action

namespace Stores

variable {α : Type} (s : Stores)

theorem perform_onReservation (a : Action ReservationStore α) :
    (onReservation a).perform s =
      ((a.perform s.reservation).1, { s with reservation := (a.perform s.reservation).2 }) := rfl

theorem perform_onReservations (a : Action (Table Reservation) α) (r : ReservationStore) :
    (Memory.onReservations a).perform r =
      ((a.perform r.reservations).1,
        { r with reservations := (a.perform r.reservations).2 }) := rfl

theorem perform_onPayment (a : Action (Table Payment) α) :
    (onPayment a).perform s =
      ((a.perform s.payment).1, { s with payment := (a.perform s.payment).2 }) := rfl

theorem perform_onLoyalty (a : Action (Table Loyalty) α) :
    (onLoyalty a).perform s =
      ((a.perform s.loyalty).1, { s with loyalty := (a.perform s.loyalty).2 }) := rfl

end Stores

namespace Call

open Stores (perform_onReservation perform_onPayment perform_onLoyalty)

variable (fresh : Uid) (s : Stores)

/-- The outcome of a call that reaches its service, and the stores that the call leaves. -/
def served (c : Call) : Outcome c.Answer × Stores :=
  (c.serve fresh).perform s

/-! ## Reading -/

theorem perform_hotelPage (page size : Int64) (r : ReservationStore) :
    (Memory.reservationService.hotelPage page size).perform r =
      (if page ≤ 0 ∨ size ≤ 0 then .error (.pageNotPositive page size)
        else (Memory.pageOf r.hotels page size).map fun items =>
          { page, pageSize := size, totalElements := .ofNat r.hotels.length, items },
        r) := by
  by_cases refused : page ≤ 0 ∨ size ≤ 0
  · simp [Memory.reservationService, ReservationService.hotelPage, refused]
  · simp only [Memory.reservationService, ReservationService.hotelPage, refused, if_false]
    cases h : Memory.pageOf r.hotels page size <;>
      simp [Memory.hotels, Action.perform_bind, h, -bind_pure_comp, Except.map]

theorem served_listHotels (page size : Int64) :
    (listHotels page size).served fresh s =
      (if page ≤ 0 ∨ size ≤ 0 then .error (.pageNotPositive page size)
        else (Memory.pageOf s.reservation.hotels page size).map fun items =>
          { page, pageSize := size, totalElements := .ofNat s.reservation.hotels.length, items },
        s) := by
  rw [served, serve, perform_onReservation, perform_hotelPage]

theorem served_getHotelById (id : Int32) :
    (getHotelById id).served fresh s =
      (foundOr (Hotel.idLabel id) (s.reservation.hotels.find? (·.id == id)), s) := by
  have h : (Memory.hotels.byId id).perform s.reservation =
      (.ok (s.reservation.hotels.find? (·.id == id)), s.reservation) := rfl
  rw [served, serve, perform_onReservation]
  simp only [Memory.reservationService, ReservationService.hotelById,
    Action.perform_found_of_ok h]

theorem served_getHotelByUid (uid : Uid) :
    (getHotelByUid uid).served fresh s =
      (foundOr (Hotel.uidLabel uid) (s.reservation.hotels.find? (·.uid == uid)), s) := by
  have h : (Memory.hotels.byUid uid).perform s.reservation =
      (.ok (s.reservation.hotels.find? (·.uid == uid)), s.reservation) := rfl
  rw [served, serve, perform_onReservation]
  simp only [Memory.reservationService, ReservationService.hotelByUid,
    Action.perform_found_of_ok h]

theorem served_listReservations (username : String) :
    (listReservations username).served fresh s =
      (.ok (s.reservations.filter (·.username == username)), s) := rfl

theorem served_getReservation (uid : Uid) :
    (getReservation uid).served fresh s =
      (foundOr (Reservation.label uid) (s.reservation? uid), s) := by
  have h : (Memory.reservations.byUid uid).perform s.reservation =
      (.ok (s.reservation? uid), s.reservation) := rfl
  rw [served, serve, perform_onReservation]
  simp only [Memory.reservationService, ReservationService.byUid, Action.perform_found_of_ok h]

theorem served_getPayment (uid : Uid) :
    (getPayment uid).served fresh s = (foundOr (Payment.label uid) (s.payment? uid), s) := by
  have h : (Memory.payments.byUid uid).perform s.payment = (.ok (s.payment? uid), s.payment) := rfl
  rw [served, serve, perform_onPayment]
  simp only [Memory.paymentService, PaymentService.byUid, Action.perform_found_of_ok h]

theorem served_getLoyalty (username : String) :
    (getLoyalty username).served fresh s =
      (foundOr (Loyalty.label username) (s.loyalty? username), s) := by
  have h : (Memory.loyalty.ofUser username).perform s.loyalty =
      (.ok (s.loyalty? username), s.loyalty) := rfl
  rw [served, serve, perform_onLoyalty]
  simp only [Memory.loyaltyService, LoyaltyService.ofUser, Action.perform_found_of_ok h]

/-- Reading changes nothing. -/
theorem served_reading {c : Call} (reading : c.isMutating = false) :
    (c.served fresh s).2 = s := by
  cases c with
  | listHotels page size => rw [served_listHotels]
  | getHotelById id => rw [served_getHotelById]
  | getHotelByUid uid => rw [served_getHotelByUid]
  | listReservations username => rfl
  | getReservation uid => rw [served_getReservation]
  | getPayment uid => rw [served_getPayment]
  | getLoyalty username => rw [served_getLoyalty]
  | createReservation => cases reading
  | updateReservation => cases reading
  | createPayment => cases reading
  | updatePayment => cases reading
  | updateLoyalty => cases reading

/-! ## Reservations -/

/-- The reservation under the identifier that it is stored with: its own, unless that is
the one that stands for none. -/
def identified (fresh : Uid) (r : Reservation) : Reservation :=
  if r.uid.isNil then { r with uid := fresh } else r

section Identified

variable {fresh : Uid} {r : Reservation}

/-- What holds of its own identifier and of the new one holds of the one it is stored with. -/
theorem uid_identified {P : Uid → Prop} (own : P r.uid) (new : P fresh) :
    P (identified fresh r).uid := by
  unfold identified
  split
  · exact new
  · exact own

@[simp] theorem username_identified : (identified fresh r).username = r.username := by
  unfold identified
  split <;> rfl

@[simp] theorem paymentUid_identified : (identified fresh r).paymentUid = r.paymentUid := by
  unfold identified
  split <;> rfl

@[simp] theorem status_identified : (identified fresh r).status = r.status := by
  unfold identified
  split <;> rfl

end Identified

theorem perform_insertReservation (r : Reservation) :
    (Memory.reservations.insert r).perform s.reservation =
      if (s.reservation? r.uid).isSome then
        (.error (.storage ("duplicate reservation uid " ++ r.uid.toText)), s.reservation)
      else (.ok (s.newReservation r), (s.addReservation r).reservation) := by
  refine (Stores.perform_onReservations
    (Table.insertUnless (·.uid == r.uid) _ fun id => { r with id }) _).trans ?_
  rw [Table.perform_insertUnless]
  unfold Stores.reservation? Stores.reservations Table.find?
  split <;> rfl

theorem served_createReservation (r : Reservation) :
    (createReservation r).served fresh s =
      if Text.isBlankText r.username then (.error .usernameRequired, s)
      else if ¬ r.startDate ≤ r.endDate then
        (.error (.datesReversed r.startDate r.endDate), s)
      else if (s.reservation? (identified fresh r).uid).isSome then
        (.error (.storage ("duplicate reservation uid " ++ (identified fresh r).uid.toText)), s)
      else (.ok (s.newReservation (identified fresh r)),
        s.addReservation (identified fresh r)) := by
  rw [served, serve, perform_onReservation]
  have h := perform_insertReservation s (identified fresh r)
  rw [identified] at h
  by_cases blank : Text.isBlankText r.username
  · simp [Memory.reservationService, ReservationService.create, blank]
  by_cases ordered : r.startDate ≤ r.endDate
  · simp only [Memory.reservationService, ReservationService.create, blank, ordered,
      not_true_eq_false, Bool.false_eq_true, if_false, h]
    unfold identified
    split_ifs <;> rfl
  · simp [Memory.reservationService, ReservationService.create, blank, ordered]

/-- A reservation is refused, or it comes to be a row of its own. -/
theorem refused_or_reserved (r : Reservation) :
    (∃ e, (createReservation r).served fresh s = (.error e, s)) ∨
      (createReservation r).served fresh s =
        (.ok (s.newReservation (identified fresh r)), s.addReservation (identified fresh r)) ∧
      (s.addReservation (identified fresh r)).reservation? (identified fresh r).uid =
        some (s.newReservation (identified fresh r)) := by
  rw [served_createReservation]
  split_ifs with blank reversed taken
  · exact .inl ⟨_, rfl⟩
  · exact .inl ⟨_, rfl⟩
  · have new := Option.not_isSome_iff_eq_none.mp taken
    exact .inr ⟨rfl, Stores.reservation?_addReservation_self new⟩
  · exact .inl ⟨_, rfl⟩

theorem served_createReservation_of_new {r : Reservation}
    (named : Text.isBlankText r.username = false) (ordered : r.startDate ≤ r.endDate)
    (new : s.reservation? (identified fresh r).uid = none) :
    (createReservation r).served fresh s =
      (.ok (s.newReservation (identified fresh r)), s.addReservation (identified fresh r)) := by
  rw [served_createReservation, if_neg (by simp [named]), if_neg (not_not_intro ordered),
    if_neg (by simp [new])]

theorem served_updateReservation (r : Reservation) :
    (updateReservation r).served fresh s =
      (foundOr (Reservation.label r.uid) ((s.reservation? r.uid).map fun _ => ()),
        s.putReservation r) := by
  have h : (Memory.reservations.update r).perform s.reservation =
      (.ok ((s.reservation? r.uid).map fun stored => { r with id := stored.id }),
        (s.putReservation r).reservation) := rfl
  rw [served, serve, perform_onReservation]
  simp only [Memory.reservationService, ReservationService.update,
    Action.perform_discard_found h]
  cases s.reservation? r.uid <;> rfl

theorem served_updateReservation_of_found {r stored : Reservation}
    (found : s.reservation? r.uid = some stored) :
    (updateReservation r).served fresh s = (.ok (), s.putReservation r) := by
  rw [served_updateReservation, found]
  rfl

/-! ## Payments -/

theorem served_createPayment (price : Int32) :
    (createPayment price).served fresh s =
      if price < 0 then (.error (.negativePrice price), s)
      else if (s.payment? fresh).isSome then
        (.error (.storage ("duplicate payment uid " ++ fresh.toText)), s)
      else (.ok (s.newPayment (.charge fresh price)), s.addPayment (.charge fresh price)) := by
  have h : (Memory.payments.insert (.charge fresh price)).perform s.payment =
      if (s.payment? fresh).isSome then
        (.error (.storage ("duplicate payment uid " ++ fresh.toText)), s.payment)
      else (.ok (s.newPayment (.charge fresh price)),
        (s.addPayment (.charge fresh price)).payment) :=
    Table.perform_insertUnless ..
  rw [served, serve, perform_onPayment]
  by_cases negative : price < 0
  · simp [Memory.paymentService, PaymentService.create, negative]
  · simp only [Memory.paymentService, PaymentService.create, negative, if_false, h]
    split_ifs <;> rfl

/-- A charge is refused, or it comes to be a row of its own. -/
theorem refused_or_charged (price : Int32) :
    (∃ e, (createPayment price).served fresh s = (.error e, s)) ∨
      (createPayment price).served fresh s =
        (.ok (s.newPayment (.charge fresh price)), s.addPayment (.charge fresh price)) ∧
      ¬ price < 0 ∧ (s.addPayment (.charge fresh price)).payment? fresh =
        some (s.newPayment (.charge fresh price)) := by
  rw [served_createPayment]
  split_ifs with negative taken
  · exact .inl ⟨_, rfl⟩
  · exact .inl ⟨_, rfl⟩
  · have new := Option.not_isSome_iff_eq_none.mp taken
    exact .inr ⟨rfl, negative, Stores.payment?_addPayment_self new⟩

theorem served_createPayment_of_new {price : Int32} (nonneg : ¬ price < 0)
    (new : s.payment? fresh = none) :
    (createPayment price).served fresh s =
      (.ok (s.newPayment (.charge fresh price)), s.addPayment (.charge fresh price)) := by
  rw [served_createPayment, if_neg nonneg, if_neg (by simp [new])]

theorem served_updatePayment (p : Payment) :
    (updatePayment p).served fresh s =
      if p.price < 0 then (.error (.negativePrice p.price), s)
      else (foundOr (Payment.label p.uid) ((s.payment? p.uid).map fun _ => ()),
        s.putPayment p) := by
  have h : (Memory.payments.update p).perform s.payment =
      (.ok ((s.payment? p.uid).map fun stored =>
        { stored with status := p.status, price := p.price }), (s.putPayment p).payment) := rfl
  rw [served, serve, perform_onPayment]
  by_cases negative : p.price < 0
  · simp [Memory.paymentService, PaymentService.update, negative]
  · simp only [Memory.paymentService, PaymentService.update, negative, if_false]
    rw [Action.perform_discard_found h]
    cases s.payment? p.uid <;> rfl

theorem stores_updatePayment {p : Payment} (nonneg : ¬ p.price < 0) :
    ((updatePayment p).served fresh s).2 = s.putPayment p := by
  rw [served_updatePayment, if_neg nonneg]

theorem served_updatePayment_of_found {p stored : Payment} (nonneg : ¬ p.price < 0)
    (found : s.payment? p.uid = some stored) :
    (updatePayment p).served fresh s = (.ok (), s.putPayment p) := by
  rw [served_updatePayment, if_neg nonneg, found]
  rfl

/-! ## Loyalty records -/

theorem perform_insertLoyalty {l : Loyalty} (missing : s.loyalty? l.username = none) :
    (Memory.loyalty.insert l).perform s.loyalty =
      (.ok (s.savedLoyalty l), (s.saveLoyalty l).loyalty) := by
  refine ((Table.perform_insertUnless ..).trans
    (if_neg fun taken => Option.isSome_iff_ne_none.mp taken missing)).trans ?_
  simp only [Stores.savedLoyalty, Stores.saveLoyalty, missing]
  rfl

theorem served_updateLoyalty (l : Loyalty) :
    (updateLoyalty l).served fresh s =
      if Text.isBlankText l.username then (.error .usernameRequired, s)
      else (.ok (s.savedLoyalty l.recompute), s.saveLoyalty l.recompute) := by
  rw [served, serve, perform_onLoyalty]
  by_cases blank : Text.isBlankText l.username
  · simp [Memory.loyaltyService, LoyaltyService.save, blank]
  simp only [Memory.loyaltyService, LoyaltyService.save, blank, Bool.false_eq_true, if_false]
  generalize l.recompute = l
  have updated : (Memory.loyalty.update l).perform s.loyalty =
      (.ok ((s.loyalty? l.username).map fun stored => { stored with
        reservationCount := l.reservationCount, status := l.status, discount := l.discount }),
        (s.loyalty.modify (·.username == l.username) fun stored => { stored with
          reservationCount := l.reservationCount, status := l.status,
          discount := l.discount }).2) := rfl
  rw [Action.perform_bind, updated]
  cases found : s.loyalty? l.username with
  | some stored => simp [Stores.savedLoyalty, Stores.saveLoyalty, found]
  | none =>
      rw [Table.modify_of_find?_eq_none found]
      simp only [Option.map_none, perform_insertLoyalty s found]
      rfl

theorem served_updateLoyalty_of_named {l : Loyalty} (named : Text.isBlankText l.username = false) :
    (updateLoyalty l).served fresh s =
      (.ok (s.savedLoyalty l.recompute), s.saveLoyalty l.recompute) := by
  rw [served_updateLoyalty, if_neg (by simp [named])]

/-- No call takes a reservation away. -/
theorem length_reservations_served (c : Call) :
    s.reservations.length ≤ (c.served fresh s).2.reservations.length := by
  cases writes : c.isMutating with
  | false =>
      exact Nat.le_of_eq (congrArg (·.reservations.length) (served_reading fresh s writes).symm)
  | true =>
      cases c with
      | createReservation r =>
          rw [served_createReservation]
          split_ifs <;> simp
      | updateReservation r =>
          rw [served_updateReservation]
          simp
      | createPayment price =>
          rw [served_createPayment]
          split_ifs <;> simp
      | updatePayment p =>
          rw [served_updatePayment]
          split_ifs <;> simp
      | updateLoyalty l =>
          rw [served_updateLoyalty]
          split_ifs <;> simp
      | _ => cases writes

end Call

/-- Where the services answer in process, every call comes to what it is served with. -/
theorem Handler.answer_inProcess (c : Call) (b : Backend) : inProcess.answer c b =
    ((c.served b.supply.draw.1 b.stores).1,
      { stores := (c.served b.supply.draw.1 b.stores).2, supply := b.supply.draw.2 }) := by
  rw [inProcess, Call.served]

end HotelBooking
