import HotelBooking.Proofs.Gateway.Outline
import HotelBooking.Proofs.Gateway.Session
import HotelBooking.Proofs.Store.Likeness

/-!
# Programs side by side

Two runs of the gateway that differ in what lies behind the services make calls that
correspond one to one. `Program.Tied` says so of two programs: their calls are tied in
pairs, whatever the outcomes of a pair may be they go on tied, and they come to values
that fit.

How far two runs may be apart is a `Leeway`: what counts of row numbers, which errors are
as good as one another, which reservations may be asked for by name, and which names of
guests a service may be told. Every operation is tied to itself within any leeway, since it
never looks at a row number and at an error only for whether something is missing, and tells
no other name than its guest's.
-/

namespace HotelBooking

variable {α β γ δ : Type}

/-- Which calls correspond to one another, and how their outcomes do then. -/
abbrev Tie := (c c' : Call) → (Outcome c.Answer → Outcome c'.Answer → Prop) → Prop

namespace Program

/-- The programs make calls that are tied and come to values that fit. -/
inductive Tied (T : Tie) (R : α → β → Prop) : Program α → Program β → Prop
  | done {a : α} {b : β} (fits : R a b) : Tied T R (done a) (done b)
  | call {c c' : Call} {next : Outcome c.Answer → Program α} {next' : Outcome c'.Answer → Program β}
      {K : Outcome c.Answer → Outcome c'.Answer → Prop} (tie : T c c' K)
      (later : ∀ o o', K o o' → Tied T R (next o) (next' o')) :
      Tied T R (call c next) (call c' next')
  | fresh {next : Uid → Program α} {next' : Uid → Program β}
      (later : ∀ uid, Tied T R (next uid) (next' uid)) : Tied T R (fresh next) (fresh next')
  | log {line line' : LogLine} {next : Program α} {next' : Program β}
      (later : Tied T R next next') :
      Tied T R (log line next) (log line' next')

variable {T : Tie} {R : α → β → Prop} {S : γ → δ → Prop} {p : Program α} {p' : Program β}

theorem Tied.bind {f : α → Program γ} {f' : β → Program δ} (first : Tied T R p p')
    (second : ∀ a b, R a b → Tied T S (f a) (f' b)) : Tied T S (p >>= f) (p' >>= f') := by
  induction first with
  | done fits => exact second _ _ fits
  | call tie _ ih => exact .call tie ih
  | fresh _ ih => exact .fresh ih
  | log _ ih => exact .log ih

theorem Tied.mono {R' : α → β → Prop} (h : Tied T R p p') (weaker : ∀ a b, R a b → R' a b) :
    Tied T R' p p' := by
  induction h with
  | done fits => exact .done (weaker _ _ fits)
  | call tie _ ih => exact .call tie ih
  | fresh _ ih => exact .fresh ih
  | log _ ih => exact .log ih

end Program

/-- How far two runs may be apart. -/
structure Leeway where
  /-- What counts of the number of a row. -/
  number : Int32 → Int32
  /-- Which reservations may be asked for by name. -/
  asks : Uid → Prop
  /-- Which names a service may be told. -/
  names : String → Prop
  /-- Which errors are as good as one another. -/
  errors : ServiceError → ServiceError → Prop
  errors_refl : ∀ e, errors e e
  isNotFound_eq : ∀ {e e'}, errors e e' → e'.isNotFound = e.isNotFound

/-! ## Calls -/

/-- Both fail or both succeed, with what is as good. -/
def Outcome.Alike (v : Leeway) (R : α → β → Prop) : Outcome α → Outcome β → Prop
  | .ok a, .ok b => R a b
  | .error e, .error e' => v.errors e e'
  | _, _ => False

theorem Outcome.Alike.mono {v : Leeway} {R S : α → β → Prop} {o : Outcome α} {o' : Outcome β}
    (h : Outcome.Alike v R o o') (weaker : ∀ a b, R a b → S a b) : Outcome.Alike v S o o' := by
  cases o <;> cases o'
  · exact h
  · exact h
  · exact h
  · exact weaker _ _ h

namespace Leeway

variable (v : Leeway)

abbrev reservation : Reservation → Reservation → Prop :=
  Rows.Alike (Reservation.numbered v.number)

abbrev payment : Payment → Payment → Prop := Rows.Alike (Payment.numbered v.number)

/-- Records alike of someone whose name may be told. -/
abbrev loyalty (l l' : Loyalty) : Prop :=
  Rows.Alike (Loyalty.numbered v.number) l l' ∧ v.names l.username

/-- Calls that differ within the leeway only, with outcomes that do. -/
inductive Ties : Tie
  | listHotels (page size : Int64) :
      Ties (.listHotels page size) (.listHotels page size) (Outcome.Alike v Eq)
  | getHotelById (id : Int32) : Ties (.getHotelById id) (.getHotelById id) (Outcome.Alike v Eq)
  | getHotelByUid (uid : Uid) : Ties (.getHotelByUid uid) (.getHotelByUid uid) (Outcome.Alike v Eq)
  | listReservations {name : String} (named : v.names name) :
      Ties (.listReservations name) (.listReservations name)
        (Outcome.Alike v (Rows.Alike (List.map (Reservation.numbered v.number))))
  | getReservation {uid : Uid} (asked : v.asks uid) :
      Ties (.getReservation uid) (.getReservation uid) (Outcome.Alike v v.reservation)
  | createReservation {r r' : Reservation} (alike : v.reservation r r')
      (named : v.names r.username) :
      Ties (.createReservation r) (.createReservation r') (Outcome.Alike v v.reservation)
  | updateReservation {r r' : Reservation} (alike : v.reservation r r') :
      Ties (.updateReservation r) (.updateReservation r')
        (Outcome.Alike v (Eq : Unit → Unit → Prop))
  | createPayment (price : Int32) :
      Ties (.createPayment price) (.createPayment price) (Outcome.Alike v v.payment)
  | getPayment (uid : Uid) : Ties (.getPayment uid) (.getPayment uid) (Outcome.Alike v v.payment)
  | updatePayment {p p' : Payment} (alike : v.payment p p') :
      Ties (.updatePayment p) (.updatePayment p') (Outcome.Alike v (Eq : Unit → Unit → Prop))
  | getLoyalty {name : String} (named : v.names name) :
      Ties (.getLoyalty name) (.getLoyalty name) (Outcome.Alike v v.loyalty)
  | updateLoyalty {l l' : Loyalty} (alike : v.loyalty l l') :
      Ties (.updateLoyalty l) (.updateLoyalty l') (Outcome.Alike v v.loyalty)

end Leeway

/-! ## Operations -/

/-- The operations, as programs of their outcomes, are tied within the leeway. -/
def Operation.Tied (v : Leeway) (R : α → β → Prop) (op : Operation α) (op' : Operation β) : Prop :=
  Program.Tied v.Ties (Outcome.Alike v R) op.run op'.run

namespace Operation

variable {v : Leeway} {R : α → β → Prop} {S : γ → δ → Prop}

theorem tied_pure {a : α} {b : β} (fits : R a b) : Tied v R (pure a) (pure b) :=
  Program.Tied.done (a := Except.ok a) (b := Except.ok b) fits

theorem tied_throw (e : ServiceError) : Tied v R (throw e) (throw e) :=
  Program.Tied.done (a := Except.error e) (b := Except.error e) (v.errors_refl e)

/-- The gateway comes to the same by itself. -/
theorem tied_ofOutcome (o : Outcome α) :
    Tied v (fun a b => b = a ∧ o = .ok a) (ofOutcome o) (ofOutcome o) := by
  apply Program.Tied.done
  cases o with
  | ok a => exact ⟨rfl, rfl⟩
  | error e => exact v.errors_refl e

theorem tied_ask {c c' : Call} {R : c.Answer → c'.Answer → Prop}
    (tie : v.Ties c c' (Outcome.Alike v R)) : Tied v R (ask c) (ask c') :=
  .call tie fun _ _ alike => .done alike

theorem tied_draw : Tied v Eq (ExceptT.lift Program.draw) (ExceptT.lift Program.draw) :=
  .fresh fun uid => Program.Tied.done (a := Except.ok uid) (b := Except.ok uid) rfl

theorem tied_bind {op : Operation α} {op' : Operation β} {f : α → Operation γ}
    {f' : β → Operation δ} (first : Tied v R op op')
    (second : ∀ a b, R a b → Tied v S (f a) (f' b)) :
    Tied v S (op >>= f) (op' >>= f') := by
  unfold Tied
  rw [ExceptT.run_bind, ExceptT.run_bind]
  apply Program.Tied.bind first
  intro o o' alike
  cases o <;> cases o'
  · exact .done alike
  · exact alike.elim
  · exact alike.elim
  · exact second _ _ alike

theorem tied_lookupAll {work : δ → Operation α} {work' : δ → Operation β}
    (each : ∀ d, Tied v R (work d) (work' d)) (concurrency : Nat) (items : List δ) :
    Tied v (List.Forall₂ R) (lookupAll concurrency items work)
      (lookupAll concurrency items work') := by
  rw [lookupAll_eq_lookupEach, lookupAll_eq_lookupEach]
  induction items with
  | nil => exact tied_pure .nil
  | cons d ds ih =>
      exact tied_bind (each d) fun a b fits =>
        tied_bind ih fun as bs fit => tied_pure (.cons fits fit)

end Operation

/-! ## Sagas -/

namespace Leeway

/-- Undoing the one step is tied to undoing the other. -/
def step (v : Leeway) (step step' : SagaStep) : Prop :=
  ∃ K, v.Ties (Gateway.undoing step.undo) (Gateway.undoing step'.undo) K

end Leeway

namespace Gateway

open Operation

variable {v : Leeway} {options : GatewayOptions} {saga saga' : Saga}

theorem tied_undo {name name' : String} {steps steps' : List SagaStep}
    (same : List.Forall₂ v.step steps steps') :
    Program.Tied v.Ties (fun _ _ => True) (undo name steps) (undo name' steps') := by
  induction same with
  | nil => exact .done trivial
  | cons tied _ ih =>
      obtain ⟨K, tie⟩ := tied
      refine .call tie fun o o' _ => ?_
      cases o <;> cases o' <;> exact .log ih

theorem tied_unwind (same : List.Forall₂ v.step saga.steps saga'.steps) :
    Program.Tied v.Ties (fun _ _ => True) (unwind options saga) (unwind options saga') := by
  have begun : saga'.isEmpty = saga.isEmpty := by
    unfold Saga.isEmpty
    generalize saga.steps = steps at same
    generalize saga'.steps = steps' at same
    cases same <;> rfl
  unfold unwind
  rw [begun]
  split
  · exact .done trivial
  · split
    · exact tied_undo (List.forall₂_reverse_iff.mpr same)
    · exact .log (.done trivial)

theorem tied_settle {c c' : Call} {R : c.Answer → c'.Answer → Prop}
    (tie : v.Ties c c' (Outcome.Alike v R)) (same : List.Forall₂ v.step saga.steps saga'.steps) :
    Operation.Tied v R (settle options saga c) (settle options saga' c') := by
  refine .call tie fun o o' alike => ?_
  cases o <;> cases o'
  · refine .log ?_
    exact (tied_unwind same).bind fun _ _ _ => .done alike
  · exact alike.elim
  · exact alike.elim
  · exact .done alike

/-! ## Looking -/

theorem tied_readHotels (page size : Int64) :
    Operation.Tied v Eq (readHotels page size) (readHotels page size) := by
  unfold readHotels
  split
  · exact tied_throw _
  · apply tied_bind (tied_ask (.listHotels page size))
    rintro listing _ rfl
    exact tied_pure rfl

theorem tied_loyalty? {name : String} (named : v.names name) :
    Operation.Tied v (Option.Rel v.loyalty) (loyalty? name) (loyalty? name) := by
  refine .call (.getLoyalty named) fun o o' alike => ?_
  cases o <;> cases o'
  · rename_i e e'
    change Program.Tied _ _ (ExceptT.run (if e.isNotFound then pure none else throw e))
      (ExceptT.run (if e'.isNotFound then pure none else throw e'))
    rw [v.isNotFound_eq alike]
    split
    · exact tied_pure .none
    · exact .done alike
  · exact alike.elim
  · exact alike.elim
  · exact tied_pure (.some alike)

/-- Views do not show row numbers. -/
theorem joinViews_eq {rs rs' : List Reservation} (hs : List Hotel) {ps ps' : List Payment}
    (reservations : Rows.Alike (List.map (Reservation.numbered v.number)) rs rs')
    (payments : List.Forall₂ v.payment ps ps') : joinViews rs' hs ps' = joinViews rs hs ps := by
  have blind (rs : List Reservation) (ps : List Payment) : joinViews rs hs ps =
      joinViews (rs.map (Reservation.numbered v.number)) hs
        (ps.map (Payment.numbered v.number)) := by
    simp only [joinViews, List.zip_map_left, List.zip_map_right, List.map_map]
    rfl
  have paid : ps'.map (Payment.numbered v.number) = ps.map (Payment.numbered v.number) := by
    induction payments with
    | nil => rfl
    | cons alike _ ih => rw [List.map_cons, List.map_cons, alike, ih]
  rw [blind rs' ps', reservations, paid, ← blind]

theorem tied_bookingViews {name : String} (named : v.names name) :
    Operation.Tied v Eq (bookingViews options name) (bookingViews options name) := by
  have hotelOf (id : Int32) :
      Operation.Tied v Eq (ask (.getHotelById id)) (ask (.getHotelById id)) :=
    tied_ask (.getHotelById id)
  have paymentOf (uid : Uid) :
      Operation.Tied v v.payment (ask (.getPayment uid)) (ask (.getPayment uid)) :=
    tied_ask (.getPayment uid)
  apply tied_bind (tied_ask (.listReservations named))
  intro rs rs' alike
  have column {γ : Type} (f : Reservation → γ)
      (shown : ∀ r, f (r.numbered v.number) = f r) : rs'.map f = rs.map f := by
    have same := congrArg (List.map f) alike
    simpa only [List.map_map, Function.comp_def, shown] using same
  rw [column Reservation.hotelId fun _ => rfl, column Reservation.paymentUid fun _ => rfl]
  apply tied_bind (tied_lookupAll (R := (Eq : Hotel → Hotel → Prop)) hotelOf _ _)
  intro hotels hotels' same
  rw [List.forall₂_eq_eq_eq] at same
  apply tied_bind (tied_lookupAll (R := v.payment) paymentOf _ _)
  intro payments payments' paid
  subst same
  exact tied_pure (joinViews_eq hotels alike paid).symm

section Named

variable {username : String}
  (named : ∀ name, requireUsername username = .ok name → v.names name)

include named

theorem tied_readGuest :
    Operation.Tied v Eq (readGuest options username) (readGuest options username) := by
  apply tied_bind (tied_ofOutcome (requireUsername username))
  rintro _ name ⟨rfl, required⟩
  apply tied_bind (tied_bookingViews (named name required))
  rintro views _ rfl
  apply tied_bind (tied_loyalty? (named name required))
  intro l l' alike
  apply tied_pure
  cases alike with
  | none => rfl
  | some alike =>
      simp only [Option.map_some, Option.getD_some,
        alike.1.column LoyaltySummary.ofLoyalty fun _ => rfl]

theorem tied_readBookings :
    Operation.Tied v Eq (readBookings options username) (readBookings options username) := by
  apply tied_bind (tied_ofOutcome (requireUsername username))
  rintro _ name ⟨rfl, required⟩
  exact tied_bookingViews (named name required)

theorem tied_readLoyalty :
    Operation.Tied v Eq (readLoyalty username) (readLoyalty username) := by
  apply tied_bind (tied_ofOutcome (requireUsername username))
  rintro _ name ⟨rfl, required⟩
  apply tied_bind (tied_ask (.getLoyalty (named name required)))
  intro l l' alike
  exact tied_pure (alike.1.column LoyaltySummary.ofLoyalty fun _ => rfl).symm

end Named

theorem tied_ownedReservation {uid : Uid} (asked : v.asks uid) (name : String) :
    Operation.Tied v v.reservation (ownedReservation uid name) (ownedReservation uid name) := by
  apply tied_bind (tied_ask (.getReservation asked))
  intro r r' alike
  have owned : r'.isOwnedBy name = r.isOwnedBy name :=
    alike.column (Reservation.isOwnedBy · name) fun _ => rfl
  rw [owned]
  split
  · exact tied_pure alike
  · exact tied_throw _

theorem tied_readBooking {uidText : String} (asked : ∀ uid, parseUid uidText = .ok uid → v.asks uid)
    (username : String) :
    Operation.Tied v Eq (readBooking uidText username) (readBooking uidText username) := by
  apply tied_bind (tied_ofOutcome (requireUsername username))
  rintro _ name ⟨rfl, -⟩
  apply tied_bind (tied_ofOutcome (parseUid uidText))
  rintro _ uid ⟨rfl, parsed⟩
  apply tied_bind (tied_ownedReservation (asked uid parsed) name)
  intro r r' alike
  rw [alike.column Reservation.hotelId fun _ => rfl,
    alike.column Reservation.paymentUid fun _ => rfl]
  apply tied_bind (tied_ask (.getHotelById r.hotelId))
  rintro hotel _ rfl
  apply tied_bind (tied_ask (.getPayment r.paymentUid))
  intro p p' paid
  apply tied_pure
  rw [← alike.column (BookingView.assemble · hotel p) fun _ => rfl,
    ← paid.column (BookingView.assemble r' hotel) fun _ => rfl]

/-! ## Cancelling -/

section Held

variable {r r' : Reservation} {p p' : Payment} {name : String}

theorem tied_releaseStay (named : v.names name) (alike : v.reservation r r')
    (paid : v.payment p p') :
    Operation.Tied v Eq (releaseStay options name r p) (releaseStay options name r' p') := by
  have voided : List.Forall₂ v.step (paymentCanceled r p).steps (paymentCanceled r' p').steps :=
    .cons ⟨_, .updateReservation alike⟩ (.cons ⟨_, .updatePayment paid⟩ .nil)
  apply tied_bind (tied_settle (.getLoyalty named) voided)
  rintro l l' ⟨member, known⟩
  have released : v.loyalty l.release l'.release := ⟨congrArg Loyalty.release member, known⟩
  apply tied_bind (tied_settle (.updateLoyalty released) voided)
  intro _ _ _
  exact tied_pure rfl

theorem tied_cancelCharge (named : v.names name) (alike : v.reservation r r') :
    Operation.Tied v Eq (cancelCharge options name r) (cancelCharge options name r') := by
  have canceled : List.Forall₂ v.step (reservationCanceled r).steps
      (reservationCanceled r').steps :=
    .cons ⟨_, .updateReservation alike⟩ .nil
  unfold cancelCharge
  rw [alike.column Reservation.paymentUid fun _ => rfl]
  apply tied_bind (tied_settle (.getPayment r.paymentUid) canceled)
  intro p p' paid
  have refunded : v.payment p.cancel p'.cancel := congrArg Payment.cancel paid
  apply tied_bind (tied_settle (.updatePayment refunded) canceled)
  intro _ _ _
  exact tied_releaseStay named alike paid

theorem tied_cancelOwned (named : v.names name) (alike : v.reservation r r') :
    Operation.Tied v Eq (cancelOwned options name r) (cancelOwned options name r') := by
  unfold cancelOwned
  rw [alike.column Reservation.status fun _ => rfl]
  split
  · exact tied_pure rfl
  · have canceled : v.reservation r.cancel r'.cancel := congrArg Reservation.cancel alike
    apply tied_bind (tied_ask (.updateReservation canceled))
    intro _ _ _
    exact tied_cancelCharge named alike

end Held

theorem tied_cancel {uidText : String} (asked : ∀ uid, parseUid uidText = .ok uid → v.asks uid)
    {username : String} (named : ∀ name, requireUsername username = .ok name → v.names name) :
    Operation.Tied v Eq (cancel options uidText username) (cancel options uidText username) := by
  apply tied_bind (tied_ofOutcome (requireUsername username))
  rintro _ name ⟨rfl, required⟩
  apply tied_bind (tied_ofOutcome (parseUid uidText))
  rintro _ uid ⟨rfl, parsed⟩
  apply tied_bind (tied_ownedReservation (asked uid parsed) name)
  intro r r' alike
  exact tied_cancelOwned (named name required) alike

/-! ## Booking -/

section Charged

variable {username : String} {stay : StayRequest} {hotel : Hotel} {discount : Int32}
  {l l' : Loyalty} {p p' : Payment}

theorem tied_countStay {r r' : Reservation} (member : v.loyalty l l') (paid : v.payment p p')
    (alike : v.reservation r r') :
    Operation.Tied v Eq (countStay options hotel discount l p r)
      (countStay options hotel discount l' p' r') := by
  have canceled : v.reservation r.cancel r'.cancel := congrArg Reservation.cancel alike
  have refunded : v.payment p.cancel p'.cancel := congrArg Payment.cancel paid
  have stored : List.Forall₂ v.step (reservationCreated p r).steps
      (reservationCreated p' r').steps :=
    .cons ⟨_, .updatePayment refunded⟩ (.cons ⟨_, .updateReservation canceled⟩ .nil)
  have registered : v.loyalty l.register l'.register :=
    ⟨congrArg Loyalty.register member.1, member.2⟩
  apply tied_bind (tied_settle (.updateLoyalty registered) stored)
  intro _ _ _
  apply tied_pure
  rw [← alike.column (BookingReceipt.assemble · hotel.uid discount p) fun _ => rfl,
    ← paid.column (BookingReceipt.assemble r' hotel.uid discount) fun _ => rfl]

theorem tied_reserve (named : v.names username) (member : v.loyalty l l')
    (paid : v.payment p p') (uid : Uid) :
    Operation.Tied v Eq (reserve options username stay hotel discount l p uid)
      (reserve options username stay hotel discount l' p' uid) := by
  have refunded : v.payment p.cancel p'.cancel := congrArg Payment.cancel paid
  have charged : List.Forall₂ v.step (paymentCreated p).steps (paymentCreated p').steps :=
    .cons ⟨_, .updatePayment refunded⟩ .nil
  have same : draftFor uid username stay hotel p' = draftFor uid username stay hotel p :=
    paid.column (draftFor uid username stay hotel) fun _ => rfl
  unfold reserve
  rw [same]
  apply tied_bind (tied_settle (.createReservation (.refl _ _) named) charged)
  intro r r' alike
  exact tied_countStay member paid alike

theorem tied_bookPriced (named : v.names username) (member : v.loyalty l l') (price : Int32) :
    Operation.Tied v Eq (bookPriced options username stay hotel discount l price)
      (bookPriced options username stay hotel discount l' price) := by
  apply tied_bind (tied_ask (.createPayment price))
  intro p p' paid
  apply tied_bind tied_draw
  rintro uid _ rfl
  exact tied_reserve named member paid uid

theorem tied_bookAt (named : v.names username) :
    Operation.Tied v Eq (bookAt options username stay hotel)
      (bookAt options username stay hotel) := by
  apply tied_bind (tied_loyalty? named)
  intro existing existing' alike
  have discounted : existing'.map Loyalty.discount = existing.map Loyalty.discount := by
    cases alike with
    | none => rfl
    | some alike => exact congrArg some (alike.1.column Loyalty.discount fun _ => rfl)
  have member : v.loyalty (existing.getD (.newMember username))
      (existing'.getD (.newMember username)) := by
    cases alike with
    | none => exact ⟨rfl, named⟩
    | some alike => exact alike
  rw [discounted]
  apply tied_bind (tied_ofOutcome _)
  rintro _ price ⟨rfl, -⟩
  exact tied_bookPriced named member price

end Charged

theorem tied_book {username : String}
    (named : ∀ name, requireUsername username = .ok name → v.names name)
    (request : BookingRequest) :
    Operation.Tied v Eq (book options username request) (book options username request) := by
  apply tied_bind (tied_ofOutcome (requireUsername username))
  rintro _ name ⟨rfl, required⟩
  apply tied_bind (tied_ofOutcome ((StayRequest.check request).mapError ServiceError.validation))
  rintro _ stay ⟨rfl, -⟩
  apply tied_bind (tied_ask (.getHotelByUid stay.hotelUid))
  rintro hotel _ rfl
  exact tied_bookAt (named name required)

end Gateway

namespace GuestRequest

/-- The reservation that a request names. -/
def named? : GuestRequest → Option Uid
  | .booking uid _ | .cancel uid _ => (Gateway.parseUid uid).toOption
  | _ => none

/-- Every operation is tied to itself, as long as it may ask for the reservation it names and
may tell the services whom it is for. -/
theorem tied {v : Leeway} (options : GatewayOptions) (r : GuestRequest)
    (asked : ∀ uid, r.named? = some uid → v.asks uid)
    (named : ∀ name, r.guest? = some name → v.names name) :
    Operation.Tied v Eq (r.operation options) (r.operation options) := by
  have required {username : String}
      (of_guest : r.guest? = (Gateway.requireUsername username).toOption) :
      ∀ name, Gateway.requireUsername username = .ok name → v.names name := by
    intro name required
    apply named
    rw [of_guest, required]
    rfl
  cases r with
  | hotels page size => exact Gateway.tied_readHotels page size
  | guest username => exact Gateway.tied_readGuest (required rfl)
  | bookings username => exact Gateway.tied_readBookings (required rfl)
  | loyalty username => exact Gateway.tied_readLoyalty (required rfl)
  | book username request => exact Gateway.tied_book (required rfl) request
  | booking uidText username =>
      refine Gateway.tied_readBooking (fun uid parsed => asked uid ?_) username
      rw [named?, parsed]
      rfl
  | cancel uidText username =>
      refine Gateway.tied_cancel (fun uid parsed => asked uid ?_) (required rfl)
      rw [named?, parsed]
      rfl

end GuestRequest

/-! ## Everything that a guest does -/

/-- What a request came to. -/
structure Reply where
  request : GuestRequest
  outcome : Outcome request.Answer

/-- Two replies to one request, whose outcomes go together. -/
inductive Reply.Rel (P : (r : GuestRequest) → Outcome r.Answer → Outcome r.Answer → Prop) :
    Reply → Reply → Prop
  | mk {r : GuestRequest} {o o' : Outcome r.Answer} (fits : P r o o') : Rel P ⟨r, o⟩ ⟨r, o'⟩

theorem Reply.Rel.mono {P Q : (r : GuestRequest) → Outcome r.Answer → Outcome r.Answer → Prop}
    {reply reply' : Reply} (h : Reply.Rel P reply reply') (weaker : ∀ r o o', P r o o' → Q r o o') :
    Reply.Rel Q reply reply' := by
  obtain ⟨fits⟩ := h
  exact ⟨weaker _ _ _ fits⟩

/-- Carry requests out one after another, whatever each comes to. -/
def Gateway.visit (options : GatewayOptions) : List GuestRequest → Program (List Reply)
  | [] => pure []
  | r :: requests => do
    let outcome ← (r.operation options).run
    let replies ← visit options requests
    return ⟨r, outcome⟩ :: replies

theorem Gateway.tied_visit {v : Leeway} {options : GatewayOptions} {requests : List GuestRequest}
    (asked : ∀ r ∈ requests, ∀ uid, r.named? = some uid → v.asks uid)
    (named : ∀ r ∈ requests, ∀ name, r.guest? = some name → v.names name) :
    Program.Tied v.Ties (List.Forall₂ (Reply.Rel fun _ => Outcome.Alike v Eq))
      (visit options requests) (visit options requests) := by
  induction requests with
  | nil => exact .done .nil
  | cons r requests ih =>
      have first := r.tied options (asked r List.mem_cons_self) (named r List.mem_cons_self)
      have later := ih (fun r' member => asked r' (List.mem_cons_of_mem _ member))
        (fun r' member => named r' (List.mem_cons_of_mem _ member))
      exact first.bind fun o o' alike => later.bind fun replies replies' fit =>
        .done (.cons (.mk alike) fit)

end HotelBooking
