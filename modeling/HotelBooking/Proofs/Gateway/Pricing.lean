import HotelBooking.Proofs.Gateway.CallOrder
import HotelBooking.Proofs.Pricing.Exact

/-!
# Bookings whose price fails

The price of a stay is known before anything is written. A stay that has none ends the booking
with two calls that only read, whoever answers them. A price below zero is turned down by the
payment service, whatever table it has, and a booking is over when its payment is turned down.
-/

namespace HotelBooking

variable {σ α : Type}

/-- A handler that notes every call with what came of it. -/
def Handler.noting (h : Handler σ) : Handler (σ × List Exchange) where
  answer c s := ((h.answer c s.1).1, (h.answer c s.1).2, s.2 ++ [⟨c, (h.answer c s.1).1⟩])
  draw s := ((h.draw s.1).1, (h.draw s.1).2, s.2)

theorem Program.run_noting (h : Handler σ) (p : Program α) (s : σ) (xs : List Exchange) :
    (p.run h.noting (s, xs)).value = (p.run h s).value ∧
      (p.run h.noting (s, xs)).state = ((p.run h s).state, xs ++ p.exchanges h s) := by
  induction p generalizing s xs with
  | done a => exact ⟨rfl, congrArg (s, ·) (List.append_nil xs).symm⟩
  | call c next ih =>
      obtain ⟨value, state⟩ := ih (h.answer c s).1 (h.answer c s).2 (xs ++ [⟨c, (h.answer c s).1⟩])
      rw [List.append_assoc] at state
      exact ⟨value, state⟩
  | fresh next ih => exact ih (h.draw s).1 (h.draw s).2 xs
  | log line next ih => exact ih s xs

theorem Handler.call_noting {h : Handler σ} {c : Call} {o : Outcome c.Answer} {s s' : σ}
    (answered : h.answer c s = (o, s')) (K : Outcome c.Answer → σ × List Exchange → Prop)
    (xs : List Exchange) :
    h.noting.demand.call c K (s, xs) ↔ K o (s', xs ++ [⟨c, o⟩]) := by
  change K (h.answer c s).1 ((h.answer c s).2, xs ++ [⟨c, (h.answer c s).1⟩]) ↔ _
  rw [answered]

/-- What an operation ensures under the eyes of somebody who notes its calls. -/
theorem Operation.ensures_noting {h : Handler σ} {op : Operation α} {s : σ}
    {o : Outcome α} {s' : σ} {xs : List Exchange} :
    op.Ensures h.noting.demand (fun o' t => o' = o ∧ t = (s', xs)) (s, []) ↔
      op.run.exchanges h s = xs ∧ (op.run.run h s).value = o ∧ (op.run.run h s).state = s' := by
  obtain ⟨value, state⟩ := Program.run_noting h op.run s []
  rw [ensures_handled, value, state, List.nil_append, Prod.mk.injEq]
  exact ⟨fun ⟨v, t, c⟩ => ⟨c, v, t⟩, fun ⟨c, v, t⟩ => ⟨v, t, c⟩⟩

/-- No charge below zero gets as far as the table. -/
theorem PaymentService.create_negative (payments : PaymentService σ) (fresh : Uid) (s : σ)
    {price : Int32} (negative : price < 0) :
    (payments.create fresh price).perform s = (.error (.negativePrice price), s) := by
  rw [create, if_pos negative]
  rfl

namespace Gateway

open Operation Handler

/-- The services tell what the price of a stay depends on: the hotel, and the record of the guest
or that there is none. -/
inductive Informs (h : Handler σ) (stay : StayRequest) (name : String) (s : σ) :
    Hotel → Option Loyalty → List Exchange → σ → Prop
  | intro {hotel : Hotel} {o : Outcome Loyalty} {existing : Option Loyalty} {s₁ s₂ : σ}
      (found : h.answer (.getHotelByUid stay.hotelUid) s = (.ok hotel, s₁))
      (told : h.answer (.getLoyalty name) s₁ = (o, s₂)) (known : recordIn o = .ok existing) :
      Informs h stay name s hotel existing
        [⟨.getHotelByUid stay.hotelUid, .ok hotel⟩, ⟨.getLoyalty name, o⟩] s₂

/-- The price of a stay for a guest with this record or without one. -/
def priceFor (stay : StayRequest) (hotel : Hotel) (existing : Option Loyalty) : Outcome Int32 :=
  Pricing.stayPrice stay.nights hotel.price ((existing.map Loyalty.discount).getD 0)

variable (options : GatewayOptions) {username name : String} {request : BookingRequest}
  {stay : StayRequest} {h : Handler σ} {s s' : σ} {hotel : Hotel} {existing : Option Loyalty}
  {calls : List Exchange} {price : Int32} {e : ServiceError}

theorem Informs.reading (informs : Informs h stay name s hotel existing calls s') :
    ∀ x ∈ calls, x.isMutating = false := by
  obtain ⟨-, -, -⟩ := informs
  intro x member
  rcases List.mem_pair.mp member with rfl | rfl <;> rfl

section Informed

variable (checked : StayRequest.check request = .ok stay)
  (required : requireUsername username = .ok name)
  (informs : Informs h stay name s hotel existing calls s')

include checked required informs

/-- A booking by what its price comes to. -/
theorem ensures_book_informed (Q : Outcome BookingReceipt → σ × List Exchange → Prop) :
    (book options username request).Ensures h.noting.demand Q (s, []) ↔
      onOk Q (fun price => (bookPriced options name stay hotel
          ((existing.map Loyalty.discount).getD 0) (existing.getD (.newMember name)) price).Ensures
          h.noting.demand Q) (priceFor stay hotel existing) (s', calls) := by
  obtain ⟨found, told, known⟩ := informs
  rw [ensures_book, required, checked]
  change h.noting.demand.call (.getHotelByUid stay.hotelUid) _ _ ↔ _
  rw [call_noting found, onOk_ok, ensures_bookAt, call_noting told, known]
  rfl

/-- Without a price a booking is over. -/
theorem booking_unpriced (unpriced : priceFor stay hotel existing = .error e) :
    (book options username request).run.exchanges h s = calls ∧
      ((book options username request).run.run h s).value = .error e ∧
      ((book options username request).run.run h s).state = s' := by
  rw [← ensures_noting, ensures_book_informed options checked required informs, unpriced,
    onOk_error]
  exact ⟨rfl, rfl⟩

/-- A booking whose payment is turned down is over. -/
theorem booking_uncharged (priced : priceFor stay hotel existing = .ok price) {s'' : σ}
    (refused : h.answer (.createPayment price) s' = (.error e, s'')) :
    (book options username request).run.exchanges h s =
        calls ++ [⟨.createPayment price, .error e⟩] ∧
      ((book options username request).run.run h s).value = .error e ∧
      ((book options username request).run.run h s).state = s'' := by
  rw [← ensures_noting, ensures_book_informed options checked required informs, priced, onOk_ok,
    ensures_bookPriced, call_noting refused, onOk_error]
  exact ⟨rfl, rfl⟩

end Informed

/-! ## In process -/

section InProcess

variable {b : Backend} (checked : StayRequest.check request = .ok stay)
  (required : requireUsername username = .ok name)
  (found : b.stores.reservation.hotels.find? (·.uid == stay.hotelUid) = some hotel)

include found in
/-- The services in process tell what is stored. -/
theorem informs_inProcess (name : String) :
    Informs .inProcess stay name b hotel (b.stores.loyalty? name)
      [⟨.getHotelByUid stay.hotelUid, .ok hotel⟩,
        ⟨.getLoyalty name, foundOr (Loyalty.label name) (b.stores.loyalty? name)⟩]
      ⟨b.stores, b.supply.draw.2.draw.2⟩ := by
  have hotel_answer : Handler.inProcess.answer (.getHotelByUid stay.hotelUid) b =
      (.ok hotel, ⟨b.stores, b.supply.draw.2⟩) := by
    rw [Handler.answer_inProcess, Call.served_getHotelByUid, found, foundOr]
  have record_answer : Handler.inProcess.answer (.getLoyalty name) ⟨b.stores, b.supply.draw.2⟩ =
      (foundOr (Loyalty.label name) (b.stores.loyalty? name),
        ⟨b.stores, b.supply.draw.2.draw.2⟩) := by
    rw [Handler.answer_inProcess, Call.served_getLoyalty]
  exact .intro hotel_answer record_answer (recordIn_foundOr name _)

include checked required found in
theorem booked_unpriced (unpriced : priceFor stay hotel (b.stores.loyalty? name) = .error e) :
    ((book options username request).run.run .inProcess b).value = .error e ∧
      ((book options username request).run.run .inProcess b).state.stores = b.stores := by
  obtain ⟨-, value, state⟩ :=
    booking_unpriced options checked required (informs_inProcess found name) unpriced
  exact ⟨value, by rw [state]⟩

include checked required found in
theorem booked_negative (priced : priceFor stay hotel (b.stores.loyalty? name) = .ok price)
    (negative : price < 0) :
    ((book options username request).run.run .inProcess b).value =
        .error (.negativePrice price) ∧
      ((book options username request).run.run .inProcess b).state.stores = b.stores := by
  have refused : ∀ b', Handler.inProcess.answer (.createPayment price) b' =
      (.error (.negativePrice price), ⟨b'.stores, b'.supply.draw.2⟩) := by
    intro b'
    rw [Handler.answer_inProcess, Call.served_createPayment, if_pos negative]
  obtain ⟨-, value, state⟩ := booking_uncharged options checked required
    (informs_inProcess found name) priced (refused _)
  exact ⟨value, by rw [state]⟩

end InProcess

/-- The price of a stay that passed its check fails in one way only, whatever the hotel asks and
whatever discount the guest has: without a discount, exactly where the nights at the nightly price
come to an amount that does not fit into 32 bits, and the error names that amount. A booking that
fails for its price has made no call but two that read, whoever answers, and one whose payment is
turned down makes no other call after it. The payment service turns down every price below zero,
so that in process nothing is stored. -/
theorem bookings_priced_exactly (checked : StayRequest.check request = .ok stay) :
    (∀ nightlyPrice discount : Int32,
      let amount := stay.nights * nightlyPrice.toInt
      let answer := Pricing.stayPrice stay.nights nightlyPrice discount
      0 ≤ stay.nights ∧
      (Int64.minValue.toInt ≤ amount ∧ amount ≤ Int64.maxValue.toInt) ∧
      (∀ nights, answer ≠ .error (.negativeStay nights)) ∧
      answer ≠ .error .priceOverflow ∧
      (discount ≤ 0 →
        (∀ price, answer = .ok price ↔ price.toInt = amount) ∧
        ((∃ price, answer = .ok price) ↔
          Int32.minValue.toInt ≤ amount ∧ amount ≤ Int32.maxValue.toInt) ∧
        (¬ (Int32.minValue.toInt ≤ amount ∧ amount ≤ Int32.maxValue.toInt) →
          answer = .error (.priceOutOfRange amount)))) ∧
    (∀ (σ : Type) (h : Handler σ) (s s' : σ) (options : GatewayOptions) (username name : String)
      (hotel : Hotel) (existing : Option Loyalty) (calls : List Exchange),
      requireUsername username = .ok name → Informs h stay name s hotel existing calls s' →
      let booking := (book options username request).run
      (∀ x ∈ calls, x.isMutating = false) ∧
      (∀ e, priceFor stay hotel existing = .error e →
        booking.exchanges h s = calls ∧ (booking.run h s).value = .error e ∧
          (booking.run h s).state = s') ∧
      (∀ price e s'', priceFor stay hotel existing = .ok price →
        h.answer (.createPayment price) s' = (.error e, s'') →
        booking.exchanges h s = calls ++ [⟨.createPayment price, .error e⟩] ∧
          (booking.run h s).value = .error e ∧ (booking.run h s).state = s'')) ∧
    (∀ (σ : Type) (payments : PaymentService σ) (fresh : Uid) (s : σ) (price : Int32), price < 0 →
      (payments.create fresh price).perform s = (.error (.negativePrice price), s)) ∧
    ∀ (options : GatewayOptions) (username name : String) (b : Backend) (hotel : Hotel),
      requireUsername username = .ok name →
      b.stores.reservation.hotels.find? (·.uid == stay.hotelUid) = some hotel →
      let booked := (book options username request).run.run .inProcess b
      (∀ e, priceFor stay hotel (b.stores.loyalty? name) = .error e →
        booked.value = .error e ∧ booked.state.stores = b.stores) ∧
      (∀ price, priceFor stay hotel (b.stores.loyalty? name) = .ok price → price < 0 →
        booked.value = .error (.negativePrice price) ∧ booked.state.stores = b.stores) := by
  have nonneg : 0 ≤ stay.nights := StayRequest.nights_nonneg_of_check checked
  have few : stay.nights < 2 ^ 28 := stay.nights_lt
  refine ⟨?_, ?_, ?_, ?_⟩
  · intro nightlyPrice discount amount answer
    refine ⟨nonneg, Pricing.amount_fits nonneg few nightlyPrice,
      Pricing.stayPrice_ne_negativeStay nonneg few,
      Pricing.stayPrice_ne_priceOverflow nonneg few, ?_⟩
    intro undiscounted
    have total : Pricing.total stay.nights nightlyPrice discount = amount :=
      Pricing.total_of_discount_le_zero undiscounted
    rw [← total]
    exact ⟨fun price => Pricing.stayPrice_eq_ok_iff nonneg few,
      Pricing.exists_stayPrice_iff nonneg few,
      fun out => (Pricing.stayPrice_eq_error_iff nonneg few).mpr ⟨out, rfl⟩⟩
  · intro σ h s s' options username name hotel existing calls required informs booking
    refine ⟨informs.reading, fun e => booking_unpriced options checked required informs, ?_⟩
    intro price e s'' priced refused
    exact booking_uncharged options checked required informs priced refused
  · intro σ payments fresh s price negative
    exact payments.create_negative fresh s negative
  · intro options username name b hotel required found
    exact ⟨fun e => booked_unpriced options checked required found,
      fun price => booked_negative options checked required found⟩

/-- All the nights that the calendar has, for one less than nothing each, and at the highest price
that there is. -/
theorem whole_calendar_priced :
    let request : BookingRequest :=
      { hotelUid := demoHotelUid.toText
        startDate := "-262143-01-01"
        endDate := "+262142-12-31" }
    let backend (price : Int32) : Backend :=
      ⟨{ reservation := { hotels := [{ demoHotel with price }] } }, { stream := .ofNat }⟩
    let amount : Int := 191491528 * 2147483647
    ∃ stay, StayRequest.check request = .ok stay ∧ stay.nights = 191491528 ∧
      Pricing.stayPrice stay.nights Int32.maxValue 0 = .error (.priceOutOfRange amount) ∧
      ((book {} "ada" request).run.exchanges .inProcess (backend Int32.maxValue)).map
        Exchange.kind = [.getHotelByUid, .getLoyalty] ∧
      ((book {} "ada" request).run.run .inProcess (backend Int32.maxValue)).value =
        .error (.priceOutOfRange amount) ∧
      Pricing.stayPrice stay.nights (-1) 0 = .ok (-191491528) ∧
      ((book {} "ada" request).run.run .inProcess (backend (-1))).value =
        .error (.negativePrice (-191491528)) ∧
      ((book {} "ada" request).run.run .inProcess (backend (-1))).state.stores =
        (backend (-1)).stores := by
  intro request backend amount
  have passed : (StayRequest.check request).toOption.map
      (fun stay => (stay.hotelUid, stay.nights)) = some (demoHotelUid, 191491528) := by
    decide +kernel
  cases checked : StayRequest.check request with
  | error report => simp [checked, Except.toOption] at passed
  | ok stay =>
      simp only [checked, Except.toOption, Option.map_some, Option.some.injEq,
        Prod.mk.injEq] at passed
      obtain ⟨hotel, nights⟩ := passed
      have found (price : Int32) : (backend price).stores.reservation.hotels.find?
          (·.uid == stay.hotelUid) = some { demoHotel with price } := by
        rw [hotel]
        rfl
      obtain ⟨priced, informed, -, booked⟩ := bookings_priced_exactly checked
      have dear : Pricing.stayPrice stay.nights Int32.maxValue 0 =
          .error (.priceOutOfRange amount) := by
        obtain ⟨-, -, -, -, undiscounted⟩ := priced Int32.maxValue 0
        obtain ⟨-, -, out⟩ := undiscounted (by decide)
        rw [nights] at out ⊢
        exact out (by decide)
      have cheap : Pricing.stayPrice stay.nights (-1) 0 = .ok (-191491528) := by
        obtain ⟨-, -, -, -, undiscounted⟩ := priced (-1) 0
        obtain ⟨within, -⟩ := undiscounted (by decide)
        rw [nights] at within ⊢
        exact (within _).mpr (by decide)
      have required : requireUsername "ada" = .ok "ada" := by decide
      have priceFor_eq (price : Int32) : priceFor stay { demoHotel with price }
          ((backend price).stores.loyalty? "ada") = Pricing.stayPrice stay.nights price 0 := by
        have missing : (backend price).stores.loyalty? "ada" = none := rfl
        rw [priceFor, missing, Option.map_none, Option.getD_none]
      have unpriced := (priceFor_eq Int32.maxValue).trans dear
      have negative := (priceFor_eq (-1)).trans cheap
      have informs := informs_inProcess (found Int32.maxValue) "ada"
      have ended := (informed _ _ _ _ {} _ _ _ _ _ required informs).2.1 _ unpriced
      have refused := (booked {} _ _ _ _ required (found (-1))).2 _ negative (by decide)
      refine ⟨stay, rfl, nights, dear, ?_, ended.2.1, cheap, refused⟩
      rw [ended.1]
      rfl

end Gateway

end HotelBooking
