import HotelBooking.Proofs.Gateway.Company
import HotelBooking.Proofs.Gateway.Lawfulness
import HotelBooking.Proofs.Uid

/-!
# Bookings last

Whatever becomes of the calls of operations that come between one another, and whether
failing sagas are undone or left, nothing stored is lost, and of reservations and payments
nothing but the status changes. What a receipt says of a booking is therefore true ever
after, and whoever looks at the booking again sees it.

Operations make lawful calls only, and lawful calls keep all this. `conduct` makes a
discipline of it.
-/

namespace HotelBooking

/-- Operations do not touch what is other guests', and what they promise is kept. -/
def conduct : Roles lasting where
  moves r := Platform.Respects r.guest?
  post r o w := r.IsKept w.stores o
  outlasts {r _ w w'} kept later := by
    cases r with
    | book username request =>
        intro receipt answer
        obtain ⟨name, required, r, hotel, p, stored⟩ := kept receipt answer
        obtain ⟨r', p', -, stored'⟩ := later.storedAs stored
        exact ⟨name, required, r', hotel, p', stored'⟩
    | _ => trivial

variable {options : GatewayOptions} {guest : Option String} {own : List Uid} {w : Platform}

theorem Platform.Respects.grants {w' : Platform} (h : w.Respects guest own w') :
    lasting.terms.guarantee own w w' :=
  ⟨h.known, h.lasts, fun u taken others before => (h.pending u taken others before).1⟩

/-- Whatever mishap befalls a lawful call, others are respected. -/
theorem Call.Lawful.respects_answer {c : Call} (h : c.Lawful guest own w) (known : w.Known)
    {fresh : Uid} (unused : fresh ∉ w.used) {mishap : Option (Mishap c.Answer)}
    (failure : ∀ m, mishap = some m → m.IsFailure) :
    w.Respects guest own (w.answer fresh c mishap).2 := by
  cases mishap with
  | none => exact h.respects known unused
  | some m =>
      rcases failure m rfl with ⟨e, rfl⟩ | ⟨e, rfl⟩
      · exact .same known (kept_drawn _ fresh)
      · obtain ⟨e', answer⟩ := @Platform.answer_unanswered w fresh c e
        rw [answer]
        exact h.respects known unused

/-- Lawful operations do what is asked of them amid others. -/
theorem conduct_of_lawful {α : Type} {r : GuestRequest} {Q : α → Moment → Prop} {p : Program α}
    {s : Moment} (h : p.Ensures (lawfully r.guest?) Q s) :
    p.Ensures ((conduct.terms r).demand Failing) Q s := by
  induction p generalizing s with
  | done a => exact h
  | call c next ih =>
      obtain ⟨lawful, later⟩ := h
      intro w others fresh unused mishap permitted
      have respects := (lawful.onward (onward_of_relied others)).respects_answer others.1 unused
        permitted
      exact ⟨⟨respects.grants, respects⟩, ih _ (later w others fresh unused mishap permitted).2⟩
  | fresh next ih =>
      intro w others fresh unused
      have respects : w.Respects r.guest? s.own ⟨w.stores, fresh :: w.used⟩ :=
        .same others.1 (kept_drawn _ fresh)
      exact ⟨⟨respects.grants, respects⟩, ih _ (h w others fresh unused).2⟩
  | log line next ih => exact ih h

theorem plays_conduct (r : GuestRequest) (w : Platform) : conduct.Plays options Failing r w :=
  (Operation.ensures_run _ _).mp
    (conduct_of_lawful ((Operation.ensures_run _ _).mpr (r.lawful options ⟨w, [], []⟩)))

/-! ## Looking at a booking again -/

/-- The view of a booking shows what the receipt of it says. -/
structure BookingView.Shows (view : BookingView) (receipt : BookingReceipt) : Prop where
  hotelUid : view.hotel.hotelUid = receipt.hotelUid
  startDate : view.startDate = receipt.startDate
  endDate : view.endDate = receipt.endDate
  price : view.payment.price = receipt.payment.price

/-- The booking of a receipt is stored, and hotels have numbers of their own. -/
structure BookingReceipt.Shown (receipt : BookingReceipt) (name : String) (r : Reservation)
    (hotel : Hotel) (s : Stores) : Prop where
  numbered : (s.hotels.map Hotel.id).Nodup
  stored : ∃ r' p, r.Restated r' ∧ receipt.StoredAs name s r' hotel p

variable {receipt : BookingReceipt} {name : String} {r : Reservation} {hotel : Hotel}

theorem BookingReceipt.Shown.grows {w w' : Platform} (h : receipt.Shown name r hotel w.stores)
    (grows : w.Grows w') : receipt.Shown name r hotel w'.stores := by
  obtain ⟨numbered, r', p, same, stored⟩ := h
  obtain ⟨r'', p', same', stored'⟩ := grows.storedAs stored
  exact ⟨grows.hotels ▸ numbered, r'', p', same.trans same', stored'⟩

namespace Gateway

open Operation

/-- Whoever is answered from stores that hold a booking is shown it. -/
theorem readBooking_shows {σ : Type} {D : Demand σ} {J : σ → Prop} {reader : String} {s : σ}
    (answers : ∀ (c : Call) (K : Outcome c.Answer → σ → Prop) (s : σ), c.isMutating = false →
      J s → (∀ stores s' fresh, receipt.Shown name r hotel stores → J s' →
        K (c.served fresh stores).1 s') → D.call c K s)
    (named : requireUsername reader = .ok name) (h : J s) :
    (readBooking receipt.reservationUid.toText reader).Ensures D
      (fun o _ => ∃ view, o = .ok view ∧ view.Shows receipt) s := by
  have parsed : parseUid receipt.reservationUid.toText = .ok receipt.reservationUid := by
    simp [parseUid]
  rw [ensures_readBooking, named, onOk_ok, parsed, onOk_ok]
  apply answers _ _ s rfl h
  rintro stores₁ s₁ f₁ ⟨-, r₁, p₁, same₁, stored₁⟩ h₁
  rw [Call.served_getReservation, stored₁.found]
  have own : r₁.isOwnedBy name := by simp [Reservation.isOwnedBy, stored₁.owner]
  rw [foundOr, onOk_ok, if_pos own]
  apply answers _ _ s₁ rfl h₁
  rintro stores₂ s₂ f₂ ⟨numbered, r₂, p₂, same₂, stored₂⟩ h₂
  have samePlace : r₂.hotelId = r₁.hotelId := same₂.hotelId.trans same₁.hotelId.symm
  have placed : stores₂.reservation.hotels.find? (·.id == r₁.hotelId) = some hotel := by
    rw [← samePlace, ← stored₂.placed.2]
    exact Table.find?_of_nodup numbered stored₂.placed.1
  rw [Call.served_getHotelById, placed, foundOr, onOk_ok]
  apply answers _ _ s₂ rfl h₂
  rintro stores₃ s₃ f₃ ⟨-, r₃, p₃, same₃, stored₃⟩ _
  have sameCharge : r₃.paymentUid = r₁.paymentUid := same₃.paymentUid.trans same₁.paymentUid.symm
  rw [Call.served_getPayment, ← sameCharge, stored₃.charged, foundOr, onOk_ok]
  exact ⟨_, rfl, stored₂.hotelUid, stored₁.startDate, stored₁.endDate, stored₃.price⟩

/-- A booking that is stored is shown at once where the services answer every call. -/
theorem readBooking_in_process {s : Stores} {reader : String} (shown : receipt.Shown name r hotel s)
    (named : requireUsername reader = .ok name) (supply : Uid.Supply) :
    ∃ view, ((readBooking receipt.reservationUid.toText reader).run.run .inProcess
      ⟨s, supply⟩).value = .ok view ∧ view.Shows receipt := by
  have answers (c : Call) (K : Outcome c.Answer → Backend → Prop) (b : Backend)
      (reading : c.isMutating = false) (shown : receipt.Shown name r hotel b.stores)
      (next : ∀ stores b' fresh, receipt.Shown name r hotel stores →
        receipt.Shown name r hotel b'.stores → K (c.served fresh stores).1 b') :
      Handler.inProcess.demand.call c K b := by
    have unchanged : (Handler.inProcess.answer c b).2.stores = b.stores :=
      Call.served_reading b.supply.draw.1 b.stores reading
    exact next b.stores _ b.supply.draw.1 shown (unchanged ▸ shown)
  have here : receipt.Shown name r hotel (Backend.mk s supply).stores := shown
  exact (Program.ensures_run Handler.inProcess _ _ _).mp
    ((ensures_run _ _).mpr (readBooking_shows answers named here))

end Gateway

/-- A booking that is stored is shown amid others, as long as no call of the look itself
fails. -/
theorem Gateway.readBooking_amid {s : Moment} {reader : String}
    (shown : receipt.Shown name r hotel s.stores) (named : requireUsername reader = .ok name) :
    (readBooking receipt.reservationUid.toText reader).Ensures (lasting.terms.demand Unfailing)
      (fun o _ => ∃ view, o = .ok view ∧ view.Shows receipt) s := by
  have answers (c : Call) (K : Outcome c.Answer → Moment → Prop) (s : Moment)
      (reading : c.isMutating = false) (shown : receipt.Shown name r hotel s.stores)
      (next : ∀ stores s' fresh, receipt.Shown name r hotel stores →
        receipt.Shown name r hotel s'.stores → K (c.served fresh stores).1 s') :
      (lasting.terms.demand Unfailing).call c K s := by
    apply demand_call fun _ _ _ impossible => impossible.elim
    · intro w others fresh _
      have shown' := shown.grows others.2.1.toGrows
      rw [Call.served_reading fresh w.stores reading]
      have respects : w.Respects none s.own ⟨w.stores, fresh :: w.used⟩ :=
        .same others.1 (kept_drawn w.used fresh)
      exact ⟨respects.grants, next w.stores _ fresh shown' shown',
        fun _ impossible => impossible.elim⟩
    · intro w _ fresh _ e impossible
      exact impossible.elim
  exact readBooking_shows answers named shown

namespace Traffic

variable {s : Stores} {c c' : Traffic}

theorem underway_conduct (reached : Reaches options Failing (.quiet (.start s)) c) :
    ∃ own, conduct.Underway Failing own c :=
  ((Roles.Underway.quiet (Platform.known_start s)).reaches (fun r w _ => plays_conduct r w)
    reached).1

theorem lasts_of_reaches (reached : Reaches options Failing (.quiet (.start s)) c)
    (onward : Reaches options Failing c c') : c.platform.Lasts c'.platform := by
  obtain ⟨own, underway⟩ := underway_conduct reached
  exact (underway.reaches (fun r w _ => plays_conduct r w) onward).2

/-- No reservation and no payment is lost at any moment of any traffic, and of neither anything
but the status changes. Reservations stay founded and go on having payments of their own, if
they were at first. Where no two hotels have the same number, whoever made a booking is shown
what the receipt says ever after, both at once and amid the others. -/
theorem bookings_last (reached : Reaches options Failing (.quiet (.start s)) c) :
    (∀ c', Reaches options Failing c c' →
      Rows.Evolves (fun r r' => r' = { r with status := r'.status })
        c.platform.stores.reservations c'.platform.stores.reservations ∧
      Rows.Evolves (fun p p' => p' = { p with status := p'.status })
        c.platform.stores.payments c'.platform.stores.payments) ∧
    ((∀ r ∈ s.reservations, (s.payment? r.paymentUid).isSome ∧ ∃ h ∈ s.hotels, h.id = r.hotelId) →
      ∀ r ∈ c.platform.stores.reservations, (c.platform.stores.payment? r.paymentUid).isSome ∧
        ∃ h ∈ c.platform.stores.hotels, h.id = r.hotelId) ∧
    ((s.reservations.map Reservation.paymentUid).Nodup →
      (c.platform.stores.reservations.map Reservation.paymentUid).Nodup) ∧
    ((s.hotels.map Hotel.id).Nodup →
      ∀ username request log receipt,
        ⟨.book username request, ⟨log, .done (.ok receipt)⟩⟩ ∈ c.tasks →
        ∀ reader, Text.trim reader = Text.trim username →
          let look := (Gateway.readBooking receipt.reservationUid.toText reader).run
          ∀ c', Reaches options Failing c c' →
            (∀ supply, ∃ view, (look.run .inProcess ⟨c'.platform.stores, supply⟩).value = .ok view ∧
              view.Shows receipt) ∧
            ∀ cues c'' log' o,
              Amid options Failing Unfailing cues (c', ⟨[], look⟩) (c'', ⟨log', .done o⟩) →
              ∃ view, o = .ok view ∧ view.Shows receipt) := by
  have lasts : (Platform.start s).Lasts c.platform := lasts_of_reaches .refl reached
  refine ⟨?_, lasts.founded, lasts.unshared, ?_⟩
  · intro c' onward
    have lasts := lasts_of_reaches reached onward
    exact ⟨lasts.reservations.mono Reservation.Restated.eq, lasts.payments.mono Payment.Restated.eq⟩
  · intro numbered username request log receipt booked reader same look c' onward
    obtain ⟨own, underway⟩ := underway_conduct reached
    obtain ⟨i, at_i⟩ := List.getElem?_of_mem booked
    obtain ⟨name, required, r, hotel, p, stored⟩ := underway.post at_i receipt rfl
    have named : Gateway.requireUsername reader = .ok name := by
      rw [← required, Gateway.requireUsername, Gateway.requireUsername, same]
    have shown : receipt.Shown name r hotel c.platform.stores := by
      refine ⟨?_, r, p, .refl _ r, stored⟩
      rw [lasts.hotels]
      exact numbered
    have shown' := shown.grows (lasts_of_reaches reached onward).toGrows
    refine ⟨Gateway.readBooking_in_process shown' named, ?_⟩
    intro cues c'' log' o amid
    obtain ⟨own', underway'⟩ := underway_conduct (reached.trans onward)
    have ensured := (Operation.ensures_run _ _).mpr
      (Gateway.readBooking_amid (s := ⟨c'.platform, [], []⟩) shown' named)
    obtain ⟨_, answer⟩ := underway'.ensures_amid (fun _ _ _ answer _ => answer)
      (fun r w _ => plays_conduct r w) amid Roles.Underway.beside_nil ensured
    exact answer

/-- A booking of Ada's has come to a receipt. -/
def isBooked : Task → Bool
  | ⟨.book username _, ⟨_, .done (.ok _)⟩⟩ => username = "ada"
  | _ => false

theorem exists_of_isBooked {task : Task} (booked : isBooked task) :
    ∃ request log receipt, task = ⟨.book "ada" request, ⟨log, .done (.ok receipt)⟩⟩ := by
  obtain ⟨r, log, rest⟩ := task
  cases r with
  | book username request =>
      cases rest with
      | done o =>
          cases o with
          | ok receipt =>
              have named : username = "ada" := of_decide_eq_true booked
              exact ⟨request, log, receipt, named ▸ rfl⟩
          | error e => cases booked
      | _ => cases booked
  | _ => cases booked

/-- A booking is shown after two attempts to cancel it came between one another. The answer
to the first call of one is lost, and the other is undone. -/
theorem booking_shown_after_setbacks :
    let options : GatewayOptions := { compensateFailedSagas := true }
    ∃ c c' request log receipt, Reaches options Failing (.quiet (.start {})) c ∧
      ⟨.book "ada" request, ⟨log, .done (.ok receipt)⟩⟩ ∈ c.tasks ∧
      Reaches options Failing c c' ∧
      c'.platform.stores.reservations.map Reservation.status = [.paid] ∧
      ∃ view, (((Gateway.readBooking receipt.reservationUid.toText " ada").run).run .inProcess
        ⟨c'.platform.stores, default⟩).value = .ok view ∧ view.Shows receipt := by
  intro options
  let booking : List Move := [.arrive (.book "ada" weekend)] ++ (smoothly 1 6).map (.advance 0)
  let canceling : List Move := [.arrive (.cancel (Uid.ofNat 4).toText "ada"),
      .arrive (.cancel (Uid.ofNat 4).toText "ada")] ++ (smoothly 11 1).map (.advance 1) ++
    (smoothly 12 1).map (.advance 2) ++ [.advance 1 (unanswering 13)] ++
    (smoothly 14 2).map (.advance 2) ++ [.advance 2 (losing 16)] ++ (smoothly 17 3).map (.advance 2)
  let outcome (c : Traffic) : Bool :=
    c.platform.stores.reservations.map Reservation.status = [.paid]
  obtain ⟨c, reached, checked⟩ := exists_of_rehearse options Failing booking (.quiet (.start {}))
    (fun c => c.tasks.any isBooked && (rehearse options Failing canceling c).any outcome)
    (by decide +kernel)
  obtain ⟨booked, passed⟩ := Bool.and_eq_true_iff.mp checked
  obtain ⟨task, member, booked⟩ := List.any_eq_true.mp booked
  obtain ⟨request, log, receipt, rfl⟩ := exists_of_isBooked booked
  obtain ⟨c', onward, paid⟩ := exists_of_rehearse options Failing canceling c outcome passed
  obtain ⟨-, -, -, shown⟩ := bookings_last reached
  obtain ⟨at_once, -⟩ := shown (List.nodup_singleton _) "ada" request log receipt member " ada"
    (by decide) c' onward
  exact ⟨c, c', request, log, receipt, reached, member, onward, of_decide_eq_true paid,
    at_once default⟩

end Traffic

end HotelBooking
