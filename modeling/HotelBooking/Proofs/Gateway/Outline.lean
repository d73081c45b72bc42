import HotelBooking.Gateway.Operations
import HotelBooking.Proofs.Gateway.Ensures
import HotelBooking.Proofs.StayRequest
import HotelBooking.Proofs.Text.Blank

/-!
# The write operations, call by call

What booking and cancelling ensure, written out as their calls in order with what becomes
of each outcome. Both operations are cut where their first mutating call stands: what
comes before only reads.
-/

namespace HotelBooking

namespace Gateway

open Operation

variable {α β σ : Type} {D : Demand σ} {options : GatewayOptions}

/-- A user's name that was required is trimmed and not blank. -/
theorem trimmed_of_requireUsername {username name : String}
    (required : requireUsername username = .ok name) :
    name = Text.trim username ∧ Text.isBlankText name = false := by
  simp only [requireUsername] at required
  split at required
  · cases required
  · rename_i given
    cases required
    rw [Text.isBlankText_trim]
    exact ⟨rfl, by simpa using given⟩

/-! ## Undoing steps -/

/-- The line about the outcome of a compensation. -/
def undoneLine (saga : String) (step : SagaStep) (o : Outcome α) : LogLine :=
  match failure? o with
  | none => .compensated saga step.name step.undo
  | some e => .compensationFailed saga step.name step.undo e

theorem ensures_undo_cons (saga : String) (step : SagaStep) (steps : List SagaStep)
    (Q : Unit → σ → Prop) (s : σ) :
    (undo saga (step :: steps)).Ensures D Q s ↔
      D.call (undoing step.undo)
        (fun o s => (undo saga steps).Ensures D Q (D.write (undoneLine saga step o) s)) s := by
  simp only [undo, Program.ensures_bind, Program.ensures_ask]
  apply Program.call_congr
  intro o s
  unfold undoneLine
  cases failure? o <;> rfl

theorem ensures_unwind_compensating (on : options.compensateFailedSagas = true) {saga : Saga}
    (begun : saga.isEmpty = false) (Q : Unit → σ → Prop) (s : σ) :
    (unwind options saga).Ensures D Q s ↔
      (undo saga.name saga.unwindOrder).Ensures D Q s := by
  simp [unwind, begun, on]

theorem ensures_unwind_leaving (off : options.compensateFailedSagas = false) {saga : Saga}
    (begun : saga.isEmpty = false) (Q : Unit → σ → Prop) (s : σ) :
    (unwind options saga).Ensures D Q s ↔
      Q () (D.write (.stepsLeft saga.name saga.stepNames) s) := by
  simp only [unwind, begun, off]
  rfl

/-- Go on with a value, or unwind the saga and end with the error. -/
def orUnwind (D : Demand σ) (options : GatewayOptions) (saga : Saga)
    (Q : Outcome β → σ → Prop) (next : α → σ → Prop) : Outcome α → σ → Prop
  | .ok a, s => next a s
  | .error e, s =>
    (unwind options saga).Ensures D (fun _ s => Q (.error e) s)
      (D.write (.stepFailed saga.name e) s)

theorem ensures_settle_bind (saga : Saga) (c : Call) (f : c.Answer → Operation β)
    (Q : Outcome β → σ → Prop) (s : σ) :
    Ensures D Q (settle options saga c >>= f) s ↔
      D.call c (orUnwind D options saga Q fun a s => Ensures D Q (f a) s) s := by
  rw [ensures_bind, ← ensures_run]
  refine (Program.ensures_bind _ (Program.ask c) _ s).trans ?_
  apply Program.call_congr
  intro o s
  cases o with
  | ok a => rfl
  | error e =>
      refine (Program.ensures_bind _ (Program.write _) _ s).trans ?_
      exact Program.ensures_bind _ (unwind options saga) _ _

theorem ensures_ask_bind (c : Call) (f : c.Answer → Operation β) (Q : Outcome β → σ → Prop)
    (s : σ) : Ensures D Q (ask c >>= f) s ↔ D.call c (onOk Q fun a s => Ensures D Q (f a) s) s := by
  rw [ensures_bind, ensures_ask c]

theorem ensures_draw_bind (f : Uid → Operation β) (Q : Outcome β → σ → Prop) (s : σ) :
    Ensures D Q (ExceptT.lift Program.draw >>= f) s ↔
      D.draw (fun uid s => Ensures D Q (f uid) s) s := by
  simp only [ensures_bind, ensures_draw, onOk_ok]

/-! ## Cancelling -/

/-- The saga of a cancellation once the reservation is canceled. -/
def reservationCanceled (r : Reservation) : Saga :=
  Saga.cancellation.record "reservation_canceled" (.restoreReservation r)

/-- The saga of a cancellation once the payment is canceled too. -/
def paymentCanceled (r : Reservation) (p : Payment) : Saga :=
  (reservationCanceled r).record "payment_canceled" (.restorePayment p)

/-- Cancelling from where both rows are canceled: the stay no longer counts. -/
def releaseStay (options : GatewayOptions) (username : String) (r : Reservation) (p : Payment) :
    Operation Unit := do
  let loyalty ← settle options (paymentCanceled r p) (.getLoyalty username)
  let _ ← settle options (paymentCanceled r p) (.updateLoyalty loyalty.release)

/-- Cancelling from where the reservation is canceled and its payment is known. -/
def voidCharge (options : GatewayOptions) (username : String) (r : Reservation) (p : Payment) :
    Operation Unit := do
  settle options (reservationCanceled r) (.updatePayment p.cancel)
  releaseStay options username r p

/-- Cancelling from where the reservation is canceled. -/
def cancelCharge (options : GatewayOptions) (username : String) (r : Reservation) :
    Operation Unit := do
  let payment ← settle options (reservationCanceled r) (.getPayment r.paymentUid)
  voidCharge options username r payment

/-- Cancelling from where the reservation is known to be the user's. -/
def cancelOwned (options : GatewayOptions) (username : String) (r : Reservation) :
    Operation Unit := do
  if r.status = .canceled then return ()
  ask (.updateReservation r.cancel)
  cancelCharge options username r

theorem cancel_eq (options : GatewayOptions) (uidText username : String) :
    cancel options uidText username = (do
      let username ← ofOutcome (requireUsername username)
      let uid ← ofOutcome (parseUid uidText)
      let r ← ownedReservation uid username
      cancelOwned options username r) := rfl

theorem ensures_ownedReservation (uid : Uid) (username : String)
    (Q : Outcome Reservation → σ → Prop) (s : σ) :
    Ensures D Q (ownedReservation uid username) s ↔
      D.call (.getReservation uid) (onOk Q fun r =>
        if r.isOwnedBy username then Q (.ok r)
        else Q (.error (.foreignReservation uid username))) s := by
  rw [ownedReservation, ensures_ask_bind (.getReservation uid)]
  apply Program.call_congr
  intro o s
  cases o with
  | error e => rfl
  | ok r => by_cases own : r.isOwnedBy username <;> simp [own]

theorem ensures_cancel (uidText username : String) (Q : Outcome Unit → σ → Prop) (s : σ) :
    Ensures D Q (cancel options uidText username) s ↔
      onOk Q (fun name => onOk Q (fun uid =>
        D.call (.getReservation uid) (onOk Q fun r =>
          if r.isOwnedBy name then Ensures D Q (cancelOwned options name r)
          else Q (.error (.foreignReservation uid name))))
        (parseUid uidText)) (requireUsername username) s := by
  rw [cancel_eq, ensures_bind, ensures_ofOutcome]
  apply onOk_congr
  intro name s
  rw [ensures_bind, ensures_ofOutcome]
  apply onOk_congr
  intro uid s
  rw [ensures_bind, ensures_ownedReservation]
  apply Program.call_congr
  intro o s
  apply onOk_congr
  intro r s
  by_cases own : r.isOwnedBy name <;> simp [own]

section Canceling

variable (username : String) (r : Reservation) (p : Payment) (Q : Outcome Unit → σ → Prop) (s : σ)

theorem ensures_releaseStay :
    Ensures D Q (releaseStay options username r p) s ↔
      D.call (.getLoyalty username) (orUnwind D options (paymentCanceled r p) Q fun l =>
        D.call (.updateLoyalty l.release)
          (orUnwind D options (paymentCanceled r p) Q fun _ => Q (.ok ()))) s := by
  unfold releaseStay
  simp only [ensures_settle_bind _ (.getLoyalty _), ensures_settle_bind _ (.updateLoyalty _),
    ensures_pure]

theorem ensures_voidCharge :
    Ensures D Q (voidCharge options username r p) s ↔
      D.call (.updatePayment p.cancel) (orUnwind D options (reservationCanceled r) Q fun _ =>
        Ensures D Q (releaseStay options username r p)) s :=
  ensures_settle_bind _ (.updatePayment p.cancel) _ Q s

theorem ensures_cancelCharge :
    Ensures D Q (cancelCharge options username r) s ↔
      D.call (.getPayment r.paymentUid) (orUnwind D options (reservationCanceled r) Q fun p =>
        Ensures D Q (voidCharge options username r p)) s :=
  ensures_settle_bind _ (.getPayment r.paymentUid) _ Q s

theorem ensures_cancelOwned :
    Ensures D Q (cancelOwned options username r) s ↔
      if r.status = .canceled then Q (.ok ()) s
      else D.call (.updateReservation r.cancel)
        (onOk Q fun _ => Ensures D Q (cancelCharge options username r)) s := by
  unfold cancelOwned
  split
  · exact ensures_pure () s
  · exact ensures_ask_bind (.updateReservation r.cancel) _ Q s

end Canceling

/-! ## Booking -/

/-- The saga of a booking once the payment is there. -/
def paymentCreated (p : Payment) : Saga :=
  Saga.booking.record "payment_created" (.cancelPayment p)

/-- The saga of a booking once the reservation is stored too. -/
def reservationCreated (p : Payment) (r : Reservation) : Saga :=
  (paymentCreated p).record "reservation_created" (.cancelReservation r)

/-- Booking from where both rows are stored: the stay counts. -/
def countStay (options : GatewayOptions) (hotel : Hotel) (discount : Int32) (loyalty : Loyalty)
    (p : Payment) (r : Reservation) : Operation BookingReceipt := do
  let _ ← settle options (reservationCreated p r) (.updateLoyalty loyalty.register)
  return .assemble r hotel.uid discount p

/-- The reservation that a charge is made for. -/
def draftFor (uid : Uid) (username : String) (stay : StayRequest) (hotel : Hotel) (p : Payment) :
    Reservation :=
  .draft uid username p.uid hotel.id p.status stay.startDate stay.endDate

/-- Booking from where the charge is stored. -/
def reserve (options : GatewayOptions) (username : String) (stay : StayRequest) (hotel : Hotel)
    (discount : Int32) (loyalty : Loyalty) (p : Payment) (uid : Uid) :
    Operation BookingReceipt := do
  let reservation ← settle options (paymentCreated p)
    (.createReservation (draftFor uid username stay hotel p))
  countStay options hotel discount loyalty p reservation

/-- Booking from where the price is known. -/
def bookPriced (options : GatewayOptions) (username : String) (stay : StayRequest)
    (hotel : Hotel) (discount : Int32) (loyalty : Loyalty) (price : Int32) :
    Operation BookingReceipt := do
  let payment ← ask (.createPayment price)
  let uid ← ExceptT.lift Program.draw
  reserve options username stay hotel discount loyalty payment uid

/-- Booking from where the hotel is known. -/
def bookAt (options : GatewayOptions) (username : String) (stay : StayRequest) (hotel : Hotel) :
    Operation BookingReceipt := do
  let existing ← loyalty? username
  let discount := (existing.map Loyalty.discount).getD 0
  let price ← ofOutcome (Pricing.stayPrice stay.nights hotel.price discount)
  bookPriced options username stay hotel discount (existing.getD (.newMember username)) price

theorem book_eq (options : GatewayOptions) (username : String) (request : BookingRequest) :
    book options username request = (do
      let username ← ofOutcome (requireUsername username)
      let stay ← ofOutcome ((StayRequest.check request).mapError ServiceError.validation)
      let hotel ← ask (.getHotelByUid stay.hotelUid)
      bookAt options username stay hotel) := rfl

/-- What the answer about a loyalty record says of a guest, who may have none. -/
def recordIn : Outcome Loyalty → Outcome (Option Loyalty)
  | .ok l => .ok (some l)
  | .error e => if e.isNotFound then .ok none else .error e

/-- A record that was looked up is told as it is, or as none. -/
theorem recordIn_foundOr (username : String) (l : Option Loyalty) :
    recordIn (foundOr (Loyalty.label username) l) = .ok l := by
  cases l <;> rfl

theorem ensures_loyalty? (username : String) (Q : Outcome (Option Loyalty) → σ → Prop) (s : σ) :
    Ensures D Q (loyalty? username) s ↔
      D.call (.getLoyalty username) (fun o => Q (recordIn o)) s := by
  rw [loyalty?, ensures_bind, ensures_attempt (.getLoyalty username)]
  apply Program.call_congr
  intro o s
  cases o with
  | ok l => exact ensures_pure (some l) s
  | error e => by_cases missing : e.isNotFound <;> simp [recordIn, missing]

theorem ensures_bookAt (username : String) (stay : StayRequest) (hotel : Hotel)
    (Q : Outcome BookingReceipt → σ → Prop) (s : σ) :
    Ensures D Q (bookAt options username stay hotel) s ↔
      D.call (.getLoyalty username) (fun o => onOk Q (fun existing =>
        let discount := (existing.map Loyalty.discount).getD 0
        onOk Q (fun price =>
          Ensures D Q (bookPriced options username stay hotel discount
            (existing.getD (.newMember username)) price))
          (Pricing.stayPrice stay.nights hotel.price discount)) (recordIn o)) s := by
  rw [bookAt, ensures_bind, ensures_loyalty?]
  apply Program.call_congr
  intro o s
  apply onOk_congr
  intro existing s
  rw [ensures_bind, ensures_ofOutcome]

theorem ensures_book (username : String) (request : BookingRequest)
    (Q : Outcome BookingReceipt → σ → Prop) (s : σ) :
    Ensures D Q (book options username request) s ↔
      onOk Q (fun name => onOk Q (fun stay =>
        D.call (.getHotelByUid stay.hotelUid)
          (onOk Q fun hotel => Ensures D Q (bookAt options name stay hotel)))
        ((StayRequest.check request).mapError ServiceError.validation))
        (requireUsername username) s := by
  rw [book_eq, ensures_bind, ensures_ofOutcome]
  apply onOk_congr
  intro name s
  rw [ensures_bind, ensures_ofOutcome]
  apply onOk_congr
  intro stay s
  rw [ensures_ask_bind (.getHotelByUid stay.hotelUid)]

section Booking

variable (username : String) (stay : StayRequest) (hotel : Hotel) (discount : Int32)
  (loyalty : Loyalty) (price : Int32) (p : Payment) (r : Reservation) (uid : Uid)
  (Q : Outcome BookingReceipt → σ → Prop) (s : σ)

theorem ensures_countStay :
    Ensures D Q (countStay options hotel discount loyalty p r) s ↔
      D.call (.updateLoyalty loyalty.register) (orUnwind D options (reservationCreated p r) Q
        fun _ => Q (.ok (.assemble r hotel.uid discount p))) s := by
  unfold countStay
  simp only [ensures_settle_bind _ (.updateLoyalty _), ensures_pure]

theorem ensures_reserve :
    Ensures D Q (reserve options username stay hotel discount loyalty p uid) s ↔
      D.call (.createReservation (draftFor uid username stay hotel p))
        (orUnwind D options (paymentCreated p) Q fun r =>
          Ensures D Q (countStay options hotel discount loyalty p r)) s :=
  ensures_settle_bind _ (.createReservation _) _ Q s

theorem ensures_bookPriced :
    Ensures D Q (bookPriced options username stay hotel discount loyalty price) s ↔
      D.call (.createPayment price) (onOk Q fun p => D.draw fun uid =>
        Ensures D Q (reserve options username stay hotel discount loyalty p uid)) s := by
  unfold bookPriced
  simp only [ensures_ask_bind (.createPayment _), ensures_draw_bind]

end Booking

/-! ## Up to the first mutating call -/

section Looking

variable {J : σ → Prop} {s : σ}

/-- Cancelling begins with a look at the reservation, and goes on if it is the user's. -/
theorem ensures_cancel_of_fetched (Seen : Reservation → σ → Prop) {Q : Outcome Unit → σ → Prop}
    {uidText username : String}
    (fetched : ∀ uid s, J s → D.call (.getReservation uid)
      (fun o s => J s ∧ ∀ r, o = .ok r → r.uid = uid ∧ Seen r s) s)
    (failed : ∀ e s, J s → Q (.error e) s)
    (owned : ∀ r s, requireUsername username = .ok r.username → parseUid uidText = .ok r.uid →
      J s → Seen r s → Ensures D Q (cancelOwned options r.username r) s)
    (h : J s) : Ensures D Q (cancel options uidText username) s := by
  rw [ensures_cancel]
  cases required : requireUsername username with
  | error e => exact failed e s h
  | ok name =>
      cases parsed : parseUid uidText with
      | error e => exact failed e s h
      | ok uid =>
          apply D.call_mono _ (fetched uid s h)
          rintro o s₁ ⟨h₁, found⟩
          cases o with
          | error e => exact failed e s₁ h₁
          | ok r =>
              obtain ⟨same, seen⟩ := found r rfl
              rw [onOk_ok]
              split_ifs with own
              · have own : r.username = name := of_decide_eq_true own
                rw [← same] at parsed
                rw [← own] at required ⊢
                exact owned r s₁ required parsed h₁ seen
              · exact failed _ s₁ h₁

/-- The same where all there is to know of the user's name is that it is not blank. -/
theorem ensures_cancel_of_owned (Seen : Reservation → σ → Prop) {Q : Outcome Unit → σ → Prop}
    {uidText username : String}
    (fetched : ∀ uid s, J s → D.call (.getReservation uid)
      (fun o s => J s ∧ ∀ r, o = .ok r → r.uid = uid ∧ Seen r s) s)
    (failed : ∀ e s, J s → Q (.error e) s)
    (owned : ∀ name r s, Text.isBlankText name = false → parseUid uidText = .ok r.uid →
      r.username = name → J s → Seen r s → Ensures D Q (cancelOwned options name r) s)
    (h : J s) : Ensures D Q (cancel options uidText username) s := by
  refine ensures_cancel_of_fetched Seen fetched failed ?_ h
  intro r s required parsed h seen
  exact owned _ r s (trimmed_of_requireUsername required).2 parsed rfl h seen

variable {Q : Outcome BookingReceipt → σ → Prop} {username : String} {request : BookingRequest}

/-- Booking begins with a look at the hotel and at the record of the guest. -/
theorem ensures_book_of_placed (Placed : Hotel → σ → Prop)
    (Told : String → Option Loyalty → σ → Prop)
    (placed : ∀ uid s, J s → D.call (.getHotelByUid uid)
      (fun o s => J s ∧ ∀ hotel, o = .ok hotel → Placed hotel s) s)
    (asked : ∀ name hotel s, requireUsername username = .ok name → J s → Placed hotel s →
      D.call (.getLoyalty name) (fun o s => J s ∧ Placed hotel s ∧
        ∀ existing, recordIn o = .ok existing → Told name existing s) s)
    (failed : ∀ e s, J s → Q (.error e) s)
    (priced : ∀ name stay hotel existing discount price s, requireUsername username = .ok name →
      stay.startDate ≤ stay.endDate → J s → Placed hotel s → Told name existing s →
      Ensures D Q (bookPriced options name stay hotel discount
        (existing.getD (.newMember name)) price) s)
    (h : J s) : Ensures D Q (book options username request) s := by
  rw [ensures_book]
  cases required : requireUsername username with
  | error e => exact failed e s h
  | ok name =>
      cases passed : StayRequest.check request with
      | error report => exact failed (.validation report) s h
      | ok stay =>
          have ordered := StayRequest.ordered_of_check passed
          apply D.call_mono _ (placed stay.hotelUid s h)
          rintro o s₁ ⟨h₁, there⟩
          cases o with
          | error e => exact failed e s₁ h₁
          | ok hotel =>
              rw [onOk_ok, ensures_bookAt]
              apply D.call_mono _ (asked name hotel s₁ required h₁ (there hotel rfl))
              rintro o s₂ ⟨h₂, there₂, told⟩
              cases record : recordIn o with
              | error e => exact failed e s₂ h₂
              | ok existing =>
                  rw [onOk_ok]
                  cases Pricing.stayPrice stay.nights hotel.price _ with
                  | error e => exact failed e s₂ h₂
                  | ok price =>
                      exact priced name stay hotel existing _ price s₂ required ordered h₂ there₂
                        (told existing record)

/-- The same where nothing needs to be known of the hotel. -/
theorem ensures_book_of_told (Told : String → Option Loyalty → σ → Prop)
    (placed : ∀ uid s, J s → D.call (.getHotelByUid uid) (fun _ => J) s)
    (asked : ∀ name s, J s → D.call (.getLoyalty name)
      (fun o s => J s ∧ ∀ existing, recordIn o = .ok existing → Told name existing s) s)
    (failed : ∀ e s, J s → Q (.error e) s)
    (priced : ∀ name stay hotel existing discount price s, Text.isBlankText name = false →
      stay.startDate ≤ stay.endDate → J s → Told name existing s →
      Ensures D Q (bookPriced options name stay hotel discount
        (existing.getD (.newMember name)) price) s)
    (h : J s) : Ensures D Q (book options username request) s := by
  refine ensures_book_of_placed (fun _ _ => True) Told ?_ ?_ failed ?_ h
  · intro uid s h
    apply D.call_mono _ (placed uid s h)
    exact fun _ _ after => ⟨after, fun _ _ => trivial⟩
  · intro name _ s _ h _
    apply D.call_mono _ (asked name s h)
    exact fun _ _ ⟨after, told⟩ => ⟨after, trivial, told⟩
  · intro name stay hotel existing discount price s required ordered h _ told
    have named := (trimmed_of_requireUsername required).2
    exact priced name stay hotel existing discount price s named ordered h told

/-- The same where what reading calls keep is all there is to go on with. -/
theorem ensures_book_of_priced
    (kept : ∀ (c : Call) (s : σ), c.isMutating = false → J s → D.call c (fun _ => J) s)
    (failed : ∀ e s, J s → Q (.error e) s)
    (priced : ∀ name stay hotel discount loyalty price s, J s →
      Ensures D Q (bookPriced options name stay hotel discount loyalty price) s) (h : J s) :
    Ensures D Q (book options username request) s := by
  refine ensures_book_of_told (fun _ _ _ => True) ?_ ?_ failed ?_ h
  · intro uid s h
    exact kept _ s rfl h
  · intro name s h
    apply D.call_mono _ (kept (.getLoyalty name) s rfl h)
    exact fun _ _ after => ⟨after, fun _ _ => trivial⟩
  · intro name stay hotel existing discount price s _ _ h _
    exact priced _ _ _ _ _ _ s h

end Looking

end Gateway

end HotelBooking
