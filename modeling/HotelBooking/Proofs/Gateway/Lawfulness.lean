import HotelBooking.Proofs.Gateway.Conduct

/-!
# Operations are lawful

Each of the seven operations makes lawful calls only, stage by stage as they are written
out in `Outline`. A booking that is answered leaves what its receipt says: the reservation
under its identifier, the hotel and the charge, from that moment on.
-/

namespace HotelBooking

variable {guest : Option String} {s : Moment} {w w' : Platform}

/-! ## What receipts promise -/

/-- The booking of a receipt, as it is stored for a guest. -/
structure BookingReceipt.StoredAs (receipt : BookingReceipt) (name : String) (s : Stores)
    (r : Reservation) (hotel : Hotel) (p : Payment) : Prop where
  found : s.reservation? receipt.reservationUid = some r
  owner : r.username = name
  placed : hotel ∈ s.hotels ∧ hotel.id = r.hotelId
  charged : s.payment? r.paymentUid = some p
  hotelUid : hotel.uid = receipt.hotelUid
  startDate : r.startDate.toText = receipt.startDate
  endDate : r.endDate.toText = receipt.endDate
  price : p.price = receipt.payment.price

/-- The booking of a receipt is stored for a guest. -/
def BookingReceipt.IsKept (receipt : BookingReceipt) (name : String) (s : Stores) : Prop :=
  ∃ r hotel p, receipt.StoredAs name s r hotel p

/-- What the outcome of a request promises is kept. Only receipts promise anything. -/
def GuestRequest.IsKept (s : Stores) : (r : GuestRequest) → Outcome r.Answer → Prop
  | .book username _, o => ∀ receipt, o = .ok receipt →
    ∃ name, Gateway.requireUsername username = .ok name ∧ receipt.IsKept name s
  | _, _ => True

/-- What a receipt promises lasts. -/
theorem Platform.Grows.storedAs (h : w.Grows w') {receipt : BookingReceipt} {name : String}
    {r : Reservation} {hotel : Hotel} {p : Payment}
    (before : receipt.StoredAs name w.stores r hotel p) :
    ∃ r' p', r.Restated r' ∧ receipt.StoredAs name w'.stores r' hotel p' := by
  obtain ⟨r', found, same⟩ := h.reservation? before.found
  obtain ⟨p', charged, same'⟩ := h.payment? before.charged
  refine ⟨r', p', same, found, same.username.trans before.owner, ?_, ?_, before.hotelUid, ?_, ?_,
    same'.price.trans before.price⟩
  · rw [h.hotels, same.hotelId]
    exact before.placed
  · rw [same.paymentUid]
    exact charged
  · rw [same.startDate]
    exact before.startDate
  · rw [same.endDate]
    exact before.endDate

/-! ## Undoing steps -/

namespace Gateway

open Operation

variable {α β : Type} {options : GatewayOptions} {name : String} {r : Reservation} {p : Payment}

/-- Steps whose compensations are lawful are undone lawfully, whatever becomes of each. -/
theorem undo_lawful {saga : String} {steps : List SagaStep}
    (each : ∀ step ∈ steps, (undoing step.undo).Lawful guest s.own s.platform) :
    (undo saga steps).Ensures (lawfully guest) (fun _ _ => True) s := by
  induction steps generalizing s with
  | nil => trivial
  | cons step steps ih =>
      rw [ensures_undo_cons]
      apply lawfully_call _ (each step List.mem_cons_self)
      · intro r
        cases step.undo <;> simp [undoing]
      · intro o s' onward _
        apply ih
        intro step' member
        have lawful := (each step' (List.mem_cons_of_mem _ member)).onward onward
        exact lawful

/-- A saga that fails only makes lawful calls, whether it undoes its steps or leaves them. -/
theorem failed_lawfully {saga : Saga} {Q : Outcome β → Moment → Prop}
    {next : α → Moment → Prop} (begun : saga.isEmpty = false)
    (each : ∀ step ∈ saga.steps, (undoing step.undo).Lawful guest s.own s.platform)
    (failed : ∀ e s, Q (.error e) s) (e : ServiceError) :
    orUnwind (lawfully guest) options saga Q next (.error e) s := by
  cases on : options.compensateFailedSagas with
  | true =>
      apply (ensures_unwind_compensating on begun _ _).mpr
      refine Program.Ensures.mono (undo_lawful ?_) fun _ s _ => failed e s
      intro step member
      exact each step (List.mem_reverse.mp member)
  | false => exact (ensures_unwind_leaving on begun _ _).mpr (failed e _)

/-! ## Cancelling -/

theorem cancelReservation_lawful
    (held : (Call.updateReservation r).Lawful guest s.own s.platform) :
    (Call.updateReservation r.cancel).Lawful guest s.own s.platform := by
  obtain ⟨owner, stored, found, same⟩ := held
  exact ⟨owner, stored, found, same.trans r.restated_cancel⟩

theorem cancelPayment_lawful (held : (Call.updatePayment p).Lawful guest s.own s.platform) :
    (Call.updatePayment p.cancel).Lawful guest s.own s.platform := by
  obtain ⟨owned, stored, found, same⟩ := held
  exact ⟨owned, stored, found, same.trans p.restated_cancel⟩

/-- The payment of a reservation that may be changed may be asked for. -/
theorem belongs_of_held (held : (Call.updateReservation r).Lawful guest s.own s.platform) :
    s.stores.Belongs guest s.own r.paymentUid := by
  obtain ⟨owner, stored, found, same⟩ := held
  rw [same.username] at owner
  exact .inl ⟨stored, Stores.mem_of_reservation? found, owner, same.paymentUid.symm⟩

/-- From where the charge is void only the record of the guest is left. -/
theorem releaseStay_lawful (held : (Call.updateReservation r).Lawful guest s.own s.platform)
    (charged : (Call.updatePayment p).Lawful guest s.own s.platform) :
    (releaseStay options r.username r p).Ensures (lawfully guest) (fun _ _ => True) s := by
  have failed {s' : Moment} (onward : s.Onward s') {α : Type} {next : α → Moment → Prop}
      (e : ServiceError) : orUnwind (lawfully guest) options (paymentCanceled r p)
        (fun (_ : Outcome Unit) _ => True) next (.error e) s' := by
    refine failed_lawfully rfl ?_ (fun _ _ => trivial) e
    intro step member
    rcases List.mem_pair.mp member with rfl | rfl
    · exact held.onward onward
    · exact charged.onward onward
  rw [ensures_releaseStay]
  apply lawfully_call (.getLoyalty r.username) held.1 fun _ => nofun
  intro o s₁ onward₁ answered
  cases o with
  | error e => exact failed onward₁ e
  | ok l =>
      have owner : guest = some l.release.username := by
        rw [Loyalty.username_release, answered_getLoyalty (answered l rfl)]
        exact held.1
      apply lawfully_call (.updateLoyalty l.release) owner fun _ => nofun
      intro o s₂ onward₂ _
      cases o with
      | error e => exact failed (onward₁.trans onward₂) e
      | ok _ => trivial

theorem cancelCharge_lawful (held : (Call.updateReservation r).Lawful guest s.own s.platform) :
    (cancelCharge options r.username r).Ensures (lawfully guest) (fun _ _ => True) s := by
  have failed {s' : Moment} (onward : s.Onward s') {α : Type} {next : α → Moment → Prop}
      (e : ServiceError) : orUnwind (lawfully guest) options (reservationCanceled r)
        (fun (_ : Outcome Unit) _ => True) next (.error e) s' := by
    refine failed_lawfully rfl ?_ (fun _ _ => trivial) e
    intro step member
    cases List.mem_singleton.mp member
    exact held.onward onward
  rw [ensures_cancelCharge]
  apply lawfully_call (.getPayment r.paymentUid) (belongs_of_held held) fun _ => nofun
  intro o s₁ onward₁ answered
  cases o with
  | error e => exact failed onward₁ e
  | ok p =>
      have found := answered_getPayment (answered p rfl)
      have refers := Stores.uid_of_payment? found
      have charged : (Call.updatePayment p).Lawful guest s₁.own s₁.platform := by
        rw [← refers] at found
        exact ⟨refers ▸ belongs_of_held (held.onward onward₁), p, found, .refl _ p⟩
      change Operation.Ensures _ _ (voidCharge options r.username r p) _
      rw [ensures_voidCharge]
      apply lawfully_call (.updatePayment p.cancel) (cancelPayment_lawful charged) fun _ => nofun
      intro o s₂ onward₂ _
      cases o with
      | error e => exact failed (onward₁.trans onward₂) e
      | ok _ =>
          exact releaseStay_lawful (held.onward (onward₁.trans onward₂)) (charged.onward onward₂)

theorem cancelOwned_lawful (held : (Call.updateReservation r).Lawful guest s.own s.platform) :
    (cancelOwned options r.username r).Ensures (lawfully guest) (fun _ _ => True) s := by
  rw [ensures_cancelOwned]
  split_ifs
  apply lawfully_call (.updateReservation r.cancel) (cancelReservation_lawful held) fun _ => nofun
  intro o s₁ onward₁ _
  cases o with
  | error e => trivial
  | ok _ => exact cancelCharge_lawful (held.onward onward₁)

theorem cancel_lawful {uidText username : String}
    (owner : guest = (requireUsername username).toOption) :
    (cancel options uidText username).Ensures (lawfully guest) (fun _ _ => True) s := by
  refine ensures_cancel_of_fetched (fun r s => s.stores.reservation? r.uid = some r)
    (J := fun _ => True) ?_ (fun _ _ _ => trivial) ?_ trivial
  · intro uid s _
    apply lawfully_call (.getReservation uid) trivial fun _ => nofun
    intro o s₁ _ answered
    refine ⟨trivial, fun r fetched => ?_⟩
    have found := answered_getReservation (answered r fetched)
    have same := Stores.uid_of_reservation? found
    exact ⟨same, same ▸ found⟩
  · intro r s required _ _ found
    rw [required] at owner
    exact cancelOwned_lawful ⟨owner, r, found, .refl _ r⟩

/-! ## Booking -/

/-- From where both rows are stored only the record of the guest is left. -/
theorem countStay_lawful {hotel : Hotel} {discount : Int32} {l : Loyalty}
    (member : guest = some l.username) (placed : hotel ∈ s.stores.hotels ∧ hotel.id = r.hotelId)
    (refers : r.paymentUid = p.uid)
    (held : (Call.updateReservation r).Lawful guest s.own s.platform)
    (charged : (Call.updatePayment p).Lawful guest s.own s.platform) :
    (countStay options hotel discount l p r).Ensures (lawfully guest)
      (fun o s => ∀ receipt, o = .ok receipt → receipt.IsKept r.username s.stores) s := by
  rw [ensures_countStay]
  apply lawfully_call (.updateLoyalty l.register) member fun _ => nofun
  intro o s₁ onward₁ _
  have held₁ := held.onward onward₁
  have charged₁ := charged.onward onward₁
  cases o with
  | error e =>
      refine failed_lawfully rfl ?_ (fun _ _ _ impossible => nomatch impossible) e
      intro step member
      rcases List.mem_pair.mp member with rfl | rfl
      · exact cancelPayment_lawful charged₁
      · exact cancelReservation_lawful held₁
  | ok _ =>
      rintro receipt ⟨rfl⟩
      obtain ⟨-, stored, found, same⟩ := held₁
      obtain ⟨-, charge, paid, price⟩ := charged₁
      rw [← refers, same.paymentUid] at paid
      refine ⟨stored, hotel, charge, found, same.username.symm, ?_, paid, rfl, ?_, ?_,
        price.price.symm⟩
      · rw [onward₁.lasts.hotels, ← same.hotelId]
        exact placed
      · exact congrArg Date.toText same.startDate.symm
      · exact congrArg Date.toText same.endDate.symm

/-- From where the charge is stored that was drawn for this operation. -/
theorem reserve_lawful {stay : StayRequest} {hotel : Hotel} {discount : Int32} {l : Loyalty}
    {uid : Uid} (named : guest = some name) (member : l.username = name)
    (placed : hotel ∈ s.stores.hotels)
    (drawn : uid ∈ s.own ∧ uid ∈ s.platform.used ∧ s.stores.Unmentioned uid)
    (pending : p.uid ∈ s.own ∧ s.stores.Unmentioned p.uid)
    (found : ∃ stored, s.stores.payment? p.uid = some stored ∧ stored.Restated p) :
    (reserve options name stay hotel discount l p uid).Ensures (lawfully guest)
      (fun o s => ∀ receipt, o = .ok receipt → receipt.IsKept name s.stores) s := by
  have charged {s' : Moment} (later : s.Later s')
      (belongs : s'.stores.Belongs guest s'.own p.uid) :
      (Call.updatePayment p).Lawful guest s'.own s'.platform := by
    obtain ⟨stored, found, same⟩ := found
    obtain ⟨stored', found', same'⟩ := later.lasts.payment? found
    exact ⟨belongs, stored', found', same'.symm.trans same⟩
  rw [ensures_reserve]
  apply lawfully_createReservation
  · refine ⟨named, drawn, pending, ?_, hotel, placed, rfl⟩
    obtain ⟨stored, found, -⟩ := found
    exact Option.isSome_iff_exists.mpr ⟨stored, found⟩
  · intro o s₁ later₁ belongs stored
    cases o with
    | error e =>
        refine failed_lawfully rfl ?_ (fun _ _ _ impossible => nomatch impossible) e
        intro step member
        cases List.mem_singleton.mp member
        exact cancelPayment_lawful (charged later₁ belongs)
    | ok r =>
        obtain ⟨row, same⟩ := stored r rfl
        have owner : r.username = name := by rw [same]; rfl
        rw [← owner] at named member ⊢
        apply countStay_lawful
        · rw [member]
          exact named
        · refine ⟨?_, ?_⟩
          · rw [later₁.lasts.hotels]
            exact placed
          · rw [same]
            rfl
        · rw [same]
          rfl
        · exact ⟨named, r, row, .refl _ r⟩
        · exact charged later₁ belongs

theorem bookPriced_lawful {stay : StayRequest} {hotel : Hotel} {discount price : Int32}
    {l : Loyalty} (named : guest = some name) (member : l.username = name)
    (placed : hotel ∈ s.stores.hotels) :
    (bookPriced options name stay hotel discount l price).Ensures (lawfully guest)
      (fun o s => ∀ receipt, o = .ok receipt → receipt.IsKept name s.stores) s := by
  rw [ensures_bookPriced]
  apply lawfully_call (.createPayment price) trivial fun _ => nofun
  intro o s₁ onward₁ answered
  cases o with
  | error e => exact fun _ impossible => nomatch impossible
  | ok p =>
      obtain ⟨mine, pending, found⟩ := answered_createPayment (answered p rfl)
      apply lawfully_draw
      intro uid s₂ onward₂ drawn used unmentioned
      obtain ⟨stored, found', same⟩ := onward₂.lasts.payment? found
      apply reserve_lawful named member
      · rw [onward₂.lasts.hotels, onward₁.lasts.hotels]
        exact placed
      · exact ⟨drawn, used, unmentioned⟩
      · exact ⟨onward₂.own _ mine, onward₂.pending _ mine pending⟩
      · exact ⟨stored, found', same.symm⟩

theorem book_lawful {username : String} {request : BookingRequest}
    (owner : guest = (requireUsername username).toOption) :
    (book options username request).Ensures (lawfully guest) (fun o s => ∀ receipt,
      o = .ok receipt → ∃ name, requireUsername username = .ok name ∧
        receipt.IsKept name s.stores) s := by
  refine ensures_book_of_placed (fun hotel s => hotel ∈ s.stores.hotels)
    (fun name existing _ => ∀ l, existing = some l → l.username = name)
    (J := fun _ => True) ?_ ?_ ?_ ?_ trivial
  · intro uid s _
    apply lawfully_call (.getHotelByUid uid) trivial fun _ => nofun
    intro o s₁ _ answered
    exact ⟨trivial, fun hotel fetched => answered_getHotelByUid (answered hotel fetched)⟩
  · intro name hotel s required _ placed
    rw [required] at owner
    apply lawfully_call (.getLoyalty name) owner fun _ => nofun
    intro o s₁ onward₁ answered
    refine ⟨trivial, ?_, ?_⟩
    · rw [onward₁.lasts.hotels]
      exact placed
    · intro existing recorded l same
      cases o with
      | ok l' =>
          cases recorded
          cases same
          exact answered_getLoyalty (answered l rfl)
      | error e =>
          by_cases missing : e.isNotFound
          · rw [recordIn, if_pos missing] at recorded
            cases recorded
            cases same
          · rw [recordIn, if_neg missing] at recorded
            cases recorded
  · intro _ _ _ _ absent
    cases absent
  · intro name stay hotel existing discount price s required _ _ placed told
    rw [required] at owner
    have member : (existing.getD (.newMember name)).username = name := by
      cases existing with
      | some l => exact told l rfl
      | none => exact Loyalty.username_newMember name
    apply (bookPriced_lawful owner member placed).mono
    exact fun o s kept receipt answer => ⟨name, required, kept receipt answer⟩

/-! ## Looking -/

/-- One lookup whose outcome is all that comes of it. -/
theorem ask_lawful (c : Call) {J : Moment → Prop} (lawful : c.Lawful guest s.own s.platform)
    (other : ∀ r, c ≠ .createReservation r) (kept : ∀ s', s.Onward s' → J s') :
    (ask c).Ensures (lawfully guest) (fun _ => J) s := by
  rw [ensures_ask c]
  exact lawfully_call c lawful other fun _ s' onward _ => kept s' onward

theorem bookingViews_lawful (named : guest = some name) :
    (bookingViews options name).Ensures (lawfully guest) (fun _ _ => True) s := by
  unfold bookingViews
  rw [ensures_ask_bind (.listReservations name)]
  apply lawfully_call (.listReservations name) named fun _ => nofun
  intro o s₁ _ answered
  cases o with
  | error e => trivial
  | ok rs =>
      have listed := answered_listReservations (answered rs rfl)
      let Owned (s : Moment) : Prop :=
        ∀ uid ∈ rs.map Reservation.paymentUid, s.stores.Belongs guest s.own uid
      have owned : Owned s₁ := by
        intro uid member
        obtain ⟨r, listed', rfl⟩ := List.mem_map.mp member
        rw [listed] at listed'
        obtain ⟨stored, same⟩ := Stores.mem_reservationsOf.mp listed'
        exact .inl ⟨r, stored, same ▸ named, rfl⟩
      have later {s s' : Moment} (owned : Owned s) (onward : s.Onward s') : Owned s' :=
        fun uid member => belongs_onward (owned uid member) onward
      rw [onOk_ok, ensures_bind]
      refine (ensures_lookupAll (J := Owned) _ ?_ owned).mono ?_
      · intro id _ s owned
        exact ask_lawful (.getHotelById id) trivial (fun _ => nofun) fun _ => later owned
      · intro o s₂ owned₂
        cases o with
        | error e => trivial
        | ok hotels =>
            rw [onOk_ok, ensures_bind]
            refine (ensures_lookupAll (J := Owned) _ ?_ owned₂).mono ?_
            · intro uid member s owned
              exact ask_lawful (.getPayment uid) (owned uid member) (fun _ => nofun)
                fun _ => later owned
            · intro o s₃ _
              cases o with
              | error e => trivial
              | ok payments => exact (ensures_pure _ s₃).mpr trivial

theorem readGuest_lawful {username : String}
    (owner : guest = (requireUsername username).toOption) :
    (readGuest options username).Ensures (lawfully guest) (fun _ _ => True) s := by
  unfold readGuest
  rw [ensures_bind, ensures_ofOutcome]
  cases required : requireUsername username with
  | error e => trivial
  | ok name =>
      rw [required] at owner
      rw [onOk_ok, ensures_bind]
      apply (bookingViews_lawful owner).mono
      intro o s₁ _
      cases o with
      | error e => trivial
      | ok views =>
          rw [onOk_ok, ensures_bind, ensures_loyalty?]
          apply lawfully_call (.getLoyalty name) owner fun _ => nofun
          intro o s₂ _ _
          cases recordIn o with
          | error e => trivial
          | ok l => exact (ensures_pure _ s₂).mpr trivial

theorem readBookings_lawful {username : String}
    (owner : guest = (requireUsername username).toOption) :
    (readBookings options username).Ensures (lawfully guest) (fun _ _ => True) s := by
  unfold readBookings
  rw [ensures_bind, ensures_ofOutcome]
  cases required : requireUsername username with
  | error e => trivial
  | ok name =>
      rw [required] at owner
      exact bookingViews_lawful owner

theorem readLoyalty_lawful {username : String}
    (owner : guest = (requireUsername username).toOption) :
    (readLoyalty username).Ensures (lawfully guest) (fun _ _ => True) s := by
  unfold readLoyalty
  rw [ensures_bind, ensures_ofOutcome]
  cases required : requireUsername username with
  | error e => trivial
  | ok name =>
      rw [required] at owner
      rw [onOk_ok, ensures_ask_bind (.getLoyalty name)]
      apply lawfully_call (.getLoyalty name) owner fun _ => nofun
      intro o s₁ _ _
      cases o with
      | error e => trivial
      | ok l => exact (ensures_pure _ s₁).mpr trivial

theorem readHotels_lawful {page size : Int64} :
    (readHotels page size).Ensures (lawfully guest) (fun _ _ => True) s := by
  unfold readHotels
  split
  · exact (ensures_throw _ s).mpr trivial
  · rw [ensures_ask_bind (.listHotels page size)]
    apply lawfully_call (.listHotels page size) trivial fun _ => nofun
    intro o s₁ _ _
    cases o with
    | error e => trivial
    | ok listing => exact (ensures_pure _ s₁).mpr trivial

theorem ensures_readBooking {σ : Type} {D : Demand σ} (uidText username : String)
    (Q : Outcome BookingView → σ → Prop) (s : σ) :
    Ensures D Q (readBooking uidText username) s ↔
      onOk Q (fun name => onOk Q (fun uid =>
        D.call (.getReservation uid) (onOk Q fun r =>
          if r.isOwnedBy name then
            D.call (.getHotelById r.hotelId) (onOk Q fun hotel =>
              D.call (.getPayment r.paymentUid) (onOk Q fun p => Q (.ok (.assemble r hotel p))))
          else Q (.error (.foreignReservation uid name))))
        (parseUid uidText)) (requireUsername username) s := by
  rw [readBooking, ensures_bind, ensures_ofOutcome]
  apply onOk_congr
  intro name s
  rw [ensures_bind, ensures_ofOutcome]
  apply onOk_congr
  intro uid s
  rw [ensures_bind, ensures_ownedReservation]
  apply Program.call_congr
  intro o s
  apply onOk_congr
  intro r s
  by_cases own : r.isOwnedBy name
  · simp only [own, if_true, onOk_ok, ensures_ask_bind (.getHotelById _),
      ensures_ask_bind (.getPayment _), ensures_pure]
  · simp only [own]
    rfl

/-- A booking is looked at together with its hotel and its payment. -/
theorem readBooking_lawful {uidText username : String}
    (owner : guest = (requireUsername username).toOption) :
    (readBooking uidText username).Ensures (lawfully guest) (fun _ _ => True) s := by
  rw [ensures_readBooking]
  cases required : requireUsername username with
  | error e => trivial
  | ok name =>
      cases parseUid uidText with
      | error e => trivial
      | ok uid =>
          rw [required] at owner
          apply lawfully_call (.getReservation uid) trivial fun _ => nofun
          intro o s₁ _ answered
          cases o with
          | error e => trivial
          | ok r =>
              have stored := Stores.mem_of_reservation? (answered_getReservation (answered r rfl))
              rw [onOk_ok]
              split_ifs with own
              · have own : r.username = name := of_decide_eq_true own
                apply lawfully_call (.getHotelById r.hotelId) trivial fun _ => nofun
                intro o s₂ onward₂ _
                cases o with
                | error e => trivial
                | ok hotel =>
                    apply lawfully_call (.getPayment r.paymentUid) _ fun _ => nofun
                    · intro o s₃ _ _
                      cases o <;> trivial
                    · exact belongs_of_member stored (own ▸ owner) onward₂.toLater
              · trivial

end Gateway

/-- Whoever makes a request, the operation asks nothing but what is the guest's, and a receipt
that it comes to is kept. -/
theorem GuestRequest.lawful (options : GatewayOptions) (r : GuestRequest) (s : Moment) :
    (r.operation options).Ensures (lawfully r.guest?)
      (fun o s => r.IsKept s.stores o) s := by
  cases r with
  | hotels page size => exact Gateway.readHotels_lawful
  | guest username => exact Gateway.readGuest_lawful rfl
  | bookings username => exact Gateway.readBookings_lawful rfl
  | loyalty username => exact Gateway.readLoyalty_lawful rfl
  | booking uidText username => exact Gateway.readBooking_lawful rfl
  | book username request => exact Gateway.book_lawful rfl
  | cancel uidText username => exact Gateway.cancel_lawful rfl

end HotelBooking
