import HotelBooking.Proofs.Gateway.Reading
import HotelBooking.Proofs.Gateway.Session
import HotelBooking.Proofs.Store.Guests
import HotelBooking.Proofs.Uid

/-!
# One booking and all bookings

A guest sees the same of a booking in the list of all bookings as on its own. The list is put
together from two rounds of lookups, first all hotels and then all payments, and the three
lists are joined by position; a single booking is joined directly. So the list is there
exactly if every single view is, and where a row is missing, hotels are missed before
payments.

Operations that only look are compared by what they come to on stores that stay as they are,
`Operation.seen`. Of a list of lookups in one table that is told by the first one in vain.
-/

namespace HotelBooking

variable {α β : Type}

/-- A call that only reads has no use for a new identifier. -/
theorem Call.outcome_reading {c : Call} (reading : c.isMutating = false) (fresh fresh' : Uid)
    (s : Stores) : (c.served fresh s).1 = (c.served fresh' s).1 := by
  cases c with
  | createReservation => cases reading
  | updateReservation => cases reading
  | createPayment => cases reading
  | updatePayment => cases reading
  | updateLoyalty => cases reading
  | _ => rfl

namespace Program

/-- What a program comes to on stores that stay as they are. -/
def look (s : Stores) : Program α → α
  | done a => a
  | call c next => (next (c.served .nil s).1).look s
  | fresh next => (next .nil).look s
  | log _ next => next.look s

theorem look_bind (p : Program α) (f : α → Program β) (s : Stores) :
    (p >>= f).look s = (f (p.look s)).look s := by
  induction p with
  | done a => rfl
  | call c next ih => exact ih _
  | fresh next ih => exact ih _
  | log line next ih => exact ih

/-- A program that only reads comes to that in process. -/
theorem value_run_of_reads {p : Program α} (reads : p.Reads) (s : Stores) (supply : Uid.Supply) :
    (p.run .inProcess ⟨s, supply⟩).value = p.look s := by
  induction reads generalizing supply with
  | done => rfl
  | @call c next reading _ ih =>
      rw [run, Handler.answer_inProcess]
      simp only [Call.served_reading _ s reading]
      rw [ih, look, Call.outcome_reading reading]

end Program

namespace Operation

/-- What an operation comes to where the services answer in process. -/
def answered (b : Backend) (op : Operation α) : Outcome α := (op.run.run .inProcess b).value

/-- What an operation comes to on stores that stay as they are. -/
def seen (s : Stores) (op : Operation α) : Outcome α := Program.look s op.run

theorem answered_of_reads {op : Operation α} (reads : Reads op) (b : Backend) :
    op.answered b = op.seen b.stores :=
  Program.value_run_of_reads reads b.stores b.supply

section Seen

variable (s : Stores)

theorem seen_bind (op : Operation α) (f : α → Operation β) :
    seen s (op >>= f) = seen s op >>= fun a => seen s (f a) := by
  unfold seen
  rw [ExceptT.run_bind, Program.look_bind]
  cases op.run.look s <;> rfl

@[simp] theorem seen_pure (a : α) : seen s (pure a : Operation α) = .ok a := rfl

@[simp] theorem seen_throw (e : ServiceError) : seen s (throw e : Operation α) = .error e := rfl

@[simp] theorem seen_ofOutcome (o : Outcome α) : seen s (ofOutcome o) = o := rfl

@[simp] theorem seen_ask (c : Call) : seen s (ask c) = (c.served .nil s).1 := rfl

@[simp] theorem seen_attempt (c : Call) : seen s (attempt c) = .ok (c.served .nil s).1 := rfl

theorem seen_lookupAll (concurrency : Nat) (items : List β) (work : β → Operation α) :
    seen s (lookupAll concurrency items work) = items.mapM fun b => seen s (work b) := by
  rw [lookupAll_eq_lookupEach]
  induction items with
  | nil => rfl
  | cons b bs ih =>
      simp only [lookupEach, seen_bind, ih, List.mapM_cons, seen_pure]
      rfl

end Seen

end Operation

@[simp] theorem Outcome.ok_bind (a : α) (f : α → Outcome β) : (Except.ok a >>= f) = f a := rfl

@[simp] theorem Outcome.error_bind (e : ServiceError) (f : α → Outcome β) :
    ((Except.error e : Outcome α) >>= f) = .error e := rfl

/-- Lookups one after another come to an error where one is in vain, and that of the first. -/
theorem mapM_foundOr (label : α → String) (find : α → Option β) (xs : List α) :
    (xs.mapM fun x => foundOr (label x) (find x)) =
      match xs.find? fun x => (find x).isNone with
      | some x => .error (.notFound (label x))
      | none => .ok (xs.filterMap find) := by
  induction xs with
  | nil => rfl
  | cons x xs ih =>
      rw [List.mapM_cons, ih]
      cases found : find x with
      | none => simp [found, foundOr]
      | some y =>
          rw [List.find?_cons_of_neg (by simp [found])]
          cases xs.find? fun x => (find x).isNone <;> simp [found, foundOr]

/-- The same for an operation that makes the lookups with a column of some rows. -/
theorem Operation.seen_lookupAll_column {ρ : Type} {s : Stores} {column : ρ → β}
    {work : β → Operation α} (label : β → String) (find : β → Option α)
    (each : ∀ b, seen s (work b) = foundOr (label b) (find b)) (concurrency : Nat)
    (rows : List ρ) :
    seen s (lookupAll concurrency (rows.map column) work) =
      match rows.find? fun r => (find (column r)).isNone with
      | some r => .error (.notFound (label (column r)))
      | none => .ok (rows.filterMap fun r => find (column r)) := by
  rw [seen_lookupAll, List.mapM_map]
  simp only [Function.comp_def, each]
  exact mapM_foundOr (fun r => label (column r)) (fun r => find (column r)) rows

namespace Stores

variable (s : Stores)

def hotel? (s : Stores) (id : Int32) : Option Hotel :=
  s.hotels.find? (·.id == id)

/-- The view of a reservation shows it with its own hotel and its own payment. -/
def ViewedAs (r : Reservation) (view : BookingView) : Prop :=
  ∃ h p, s.hotel? r.hotelId = some h ∧ s.payment? r.paymentUid = some p ∧
    view = .assemble r h p

/-- Whether the hotel of a reservation is missing. -/
def lacksHotel (r : Reservation) : Bool := (s.hotel? r.hotelId).isNone

/-- Whether the payment of a reservation is missing. -/
def lacksPayment (r : Reservation) : Bool := (s.payment? r.paymentUid).isNone

end Stores

namespace Gateway

open Operation

variable {s : Stores} {username name : String}

theorem seen_getHotelById (id : Int32) :
    seen s (ask (.getHotelById id) : Operation Hotel) =
      foundOr (Hotel.idLabel id) (s.hotel? id) := by
  rw [seen_ask, Call.served_getHotelById]
  rfl

theorem seen_getReservation (uid : Uid) :
    seen s (ask (.getReservation uid) : Operation Reservation) =
      foundOr (Reservation.label uid) (s.reservation? uid) := by
  rw [seen_ask, Call.served_getReservation]

theorem seen_getPayment (uid : Uid) :
    seen s (ask (.getPayment uid) : Operation Payment) =
      foundOr (Payment.label uid) (s.payment? uid) := by
  rw [seen_ask, Call.served_getPayment]

theorem seen_getLoyalty (name : String) :
    seen s (ask (.getLoyalty name) : Operation Loyalty) =
      foundOr (Loyalty.label name) (s.loyalty? name) := by
  rw [seen_ask, Call.served_getLoyalty]

/-- The lists of rows that belong to the reservations are joined row by row. -/
theorem viewed_joinViews {rs : List Reservation} (hotels : ∀ r ∈ rs, s.lacksHotel r = false)
    (payments : ∀ r ∈ rs, s.lacksPayment r = false) :
    List.Forall₂ s.ViewedAs rs (joinViews rs (rs.filterMap fun r => s.hotel? r.hotelId)
      (rs.filterMap fun r => s.payment? r.paymentUid)) := by
  induction rs with
  | nil => exact .nil
  | cons r rs ih =>
      obtain ⟨hotel, hotels⟩ := List.forall_mem_cons.mp hotels
      obtain ⟨payment, payments⟩ := List.forall_mem_cons.mp payments
      obtain ⟨h, foundHotel⟩ := Option.isSome_iff_exists.mp (Option.isNone_eq_false_iff.mp hotel)
      obtain ⟨p, foundPayment⟩ :=
        Option.isSome_iff_exists.mp (Option.isNone_eq_false_iff.mp payment)
      have shown : s.ViewedAs r (.assemble r h p) := ⟨h, p, foundHotel, foundPayment, rfl⟩
      simp only [List.filterMap_cons, foundHotel, foundPayment]
      exact .cons shown (ih hotels payments)

/-- The list of bookings fails with the first hotel that is missing, or else with the first
payment; or it shows every booking. -/
theorem seen_bookingViews (options : GatewayOptions) (name : String) :
    seen s (bookingViews options name) =
      match (s.reservationsOf name).find? s.lacksHotel with
      | some r => .error (.notFound (Hotel.idLabel r.hotelId))
      | none =>
        match (s.reservationsOf name).find? s.lacksPayment with
        | some r => .error (.notFound (Payment.label r.paymentUid))
        | none => .ok (joinViews (s.reservationsOf name)
            ((s.reservationsOf name).filterMap fun r => s.hotel? r.hotelId)
            ((s.reservationsOf name).filterMap fun r => s.payment? r.paymentUid)) := by
  rw [bookingViews, seen_bind, seen_ask, Call.served_listReservations, Outcome.ok_bind,
    ← Stores.reservationsOf, seen_bind,
    seen_lookupAll_column Hotel.idLabel s.hotel? seen_getHotelById]
  change _ = match (s.reservationsOf name).find? fun r => (s.hotel? r.hotelId).isNone with
    | some r => _
    | none => _
  cases (s.reservationsOf name).find? fun r => (s.hotel? r.hotelId).isNone with
  | some r => rfl
  | none =>
      change seen s (_ >>= _) = _
      rw [seen_bind, seen_lookupAll_column Payment.label s.payment? seen_getPayment]
      unfold Stores.lacksPayment
      cases (s.reservationsOf name).find? fun r => (s.payment? r.paymentUid).isNone with
      | some r => rfl
      | none => rfl

section List

variable {options : GatewayOptions}

/-- A list that is there shows every booking in its place. -/
theorem viewed_of_seen {views : List BookingView}
    (shown : seen s (bookingViews options name) = .ok views) :
    List.Forall₂ s.ViewedAs (s.reservationsOf name) views := by
  rw [seen_bookingViews] at shown
  split at shown
  · cases shown
  · rename_i hotels
    split at shown
    · cases shown
    · rename_i payments
      cases shown
      apply viewed_joinViews
      · simpa using List.find?_eq_none.mp hotels
      · simpa using List.find?_eq_none.mp payments

/-- A list that fails does so with the first hotel that is missing, or else the first payment. -/
theorem missing_of_seen {e : ServiceError}
    (failed : seen s (bookingViews options name) = .error e) :
    match (s.reservationsOf name).find? s.lacksHotel with
    | some r => e = .notFound (Hotel.idLabel r.hotelId)
    | none => ∃ r, (s.reservationsOf name).find? s.lacksPayment = some r ∧
        e = .notFound (Payment.label r.paymentUid) := by
  rw [seen_bookingViews] at failed
  split at failed
  · cases failed
    rfl
  · split at failed
    · rename_i r first
      cases failed
      exact ⟨r, first, rfl⟩
    · cases failed

/-- Where every booking can be shown, the list is there. -/
theorem exists_views (viewed : ∀ r ∈ s.reservationsOf name, ∃ view, s.ViewedAs r view) :
    ∃ views, seen s (bookingViews options name) = .ok views := by
  have hotels : (s.reservationsOf name).find? s.lacksHotel = none := by
    apply List.find?_eq_none.mpr
    intro r own
    obtain ⟨view, h, p, found, -⟩ := viewed r own
    simp [Stores.lacksHotel, found]
  have payments : (s.reservationsOf name).find? s.lacksPayment = none := by
    apply List.find?_eq_none.mpr
    intro r own
    obtain ⟨view, h, p, -, found, -⟩ := viewed r own
    simp [Stores.lacksPayment, found]
  rw [seen_bookingViews, hotels, payments]
  exact ⟨_, rfl⟩

end List

/-- A reservation of the guest's is found under its identifier. -/
theorem seen_ownedReservation (unique : (s.reservations.map Reservation.uid).Nodup)
    {r : Reservation} (own : r ∈ s.reservationsOf name) :
    seen s (ownedReservation r.uid name) = .ok r := by
  obtain ⟨stored, guest⟩ := Stores.mem_reservationsOf.mp own
  have found : s.reservation? r.uid = some r := Table.find?_of_nodup unique stored
  have owned : r.isOwnedBy name := by simp [Reservation.isOwnedBy, guest]
  rw [ownedReservation, seen_bind, seen_getReservation, found, foundOr, Outcome.ok_bind,
    if_pos owned, seen_pure]

/-- A booking of the guest's is shown on its own, if its hotel and its payment are there. -/
theorem seen_readBooking_iff (unique : (s.reservations.map Reservation.uid).Nodup)
    (required : requireUsername username = .ok name) {r : Reservation}
    (own : r ∈ s.reservationsOf name) (view : BookingView) :
    seen s (readBooking r.uid.toText username) = .ok view ↔ s.ViewedAs r view := by
  have parsed : parseUid r.uid.toText = .ok r.uid := by simp [parseUid]
  rw [readBooking, seen_bind, seen_ofOutcome, required, Outcome.ok_bind, seen_bind,
    seen_ofOutcome, parsed, Outcome.ok_bind, seen_bind, seen_ownedReservation unique own,
    Outcome.ok_bind, seen_bind, seen_getHotelById]
  unfold Stores.ViewedAs
  cases s.hotel? r.hotelId with
  | none => simp [foundOr]
  | some h =>
      rw [foundOr, Outcome.ok_bind, seen_bind, seen_getPayment]
      cases s.payment? r.paymentUid with
      | none => simp [foundOr]
      | some p => simp [foundOr, eq_comm]

theorem seen_readLoyalty (required : requireUsername username = .ok name) :
    seen s (readLoyalty username) =
      foundOr (Loyalty.label name) ((s.loyalty? name).map LoyaltySummary.ofLoyalty) := by
  rw [readLoyalty, seen_bind, seen_ofOutcome, required, Outcome.ok_bind, seen_bind,
    seen_getLoyalty]
  cases s.loyalty? name with
  | none => rfl
  | some l => rfl

/-- A guest sees the list of bookings, and the loyalty summary or one of zeros. -/
theorem seen_readGuest (required : requireUsername username = .ok name)
    (options : GatewayOptions) :
    seen s (readGuest options username) =
      (seen s (bookingViews options name)).map fun views =>
        { reservations := views
          loyalty := ((s.loyalty? name).map LoyaltySummary.ofLoyalty).getD .zero } := by
  have record : seen s (loyalty? name) = .ok (s.loyalty? name) := by
    rw [loyalty?, seen_bind, seen_attempt s (.getLoyalty name), Call.served_getLoyalty,
      Outcome.ok_bind]
    cases s.loyalty? name with
    | none => rfl
    | some l => rfl
  rw [readGuest, seen_bind, seen_ofOutcome, required, Outcome.ok_bind, seen_bind]
  cases seen s (bookingViews options name) with
  | error e => rfl
  | ok views =>
      rw [Outcome.ok_bind, seen_bind, record]
      rfl

section Answered

variable {b : Backend} {options : GatewayOptions}

theorem answered_readBookings (required : requireUsername username = .ok name) :
    (readBookings options username).answered b = seen b.stores (bookingViews options name) := by
  rw [answered_of_reads (reads_readBookings options username), readBookings, seen_bind,
    seen_ofOutcome, required, Outcome.ok_bind]

theorem answered_readBooking_iff (unique : (b.stores.reservations.map Reservation.uid).Nodup)
    (required : requireUsername username = .ok name) {r : Reservation}
    (own : r ∈ b.stores.reservationsOf name) (view : BookingView) :
    (readBooking r.uid.toText username).answered b = .ok view ↔ b.stores.ViewedAs r view := by
  rw [answered_of_reads (reads_readBooking username r.uid.toText)]
  exact seen_readBooking_iff unique required own view

/-- What a list of bookings shows in each place is what is shown of the booking on its own. -/
theorem alike_of_answered (unique : (b.stores.reservations.map Reservation.uid).Nodup)
    (required : requireUsername username = .ok name) {views : List BookingView}
    (shown : (readBookings options username).answered b = .ok views) :
    List.Forall₂ (fun r view => (readBooking r.uid.toText username).answered b = .ok view ∧
      b.stores.ViewedAs r view) (b.stores.reservationsOf name) views := by
  rw [answered_readBookings required] at shown
  -- Only of the guest's own bookings is it known what they are shown as.
  refine ((List.forall₂_and_left _ _).mpr ⟨fun _ own => own, viewed_of_seen shown⟩).imp ?_
  rintro r view ⟨own, viewed⟩
  exact ⟨(answered_readBooking_iff unique required own view).mpr viewed, viewed⟩

end Answered

/-- A guest's list of bookings is there exactly if every one of them is shown on its own, and then
it shows each in its place as it is shown on its own. Otherwise it fails with the first hotel that
is missing, or else with the first payment. What a guest sees of everything is the same list, with
the loyalty summary or, exactly where there is none, one of zeros. Rows are listed by number where
they are stored that way, as tables do. -/
theorem bookings_viewed_alike (b : Backend) (options : GatewayOptions) (username : String)
    (named : Text.isBlankText username = false)
    (unique : (b.stores.reservations.map Reservation.uid).Nodup) :
    let own := b.stores.reservationsOf (Text.trim username)
    let single (r : Reservation) := (readBooking r.uid.toText username).answered b
    let list := (readBookings options username).answered b
    let guest := (readGuest options username).answered b
    let loyalty := (readLoyalty username).answered b
    (b.stores.reservations.Pairwise (·.id < ·.id) → own.Pairwise (·.id < ·.id)) ∧
    ((∃ views, list = .ok views) ↔ ∀ r ∈ own, ∃ view, single r = .ok view) ∧
    (∀ views, list = .ok views →
      List.Forall₂ (fun r view => single r = .ok view ∧ b.stores.ViewedAs r view) own views) ∧
    (∀ e, list = .error e →
      match own.find? b.stores.lacksHotel with
      | some r => e = .notFound (Hotel.idLabel r.hotelId)
      | none => ∃ r, own.find? b.stores.lacksPayment = some r ∧
          e = .notFound (Payment.label r.paymentUid)) ∧
    (∀ e, list = .error e → guest = .error e) ∧
    ∀ views, list = .ok views → ∃ summary,
      guest = .ok { reservations := views, loyalty := summary } ∧
      (∀ shown, loyalty = .ok shown → summary = shown) ∧
      (summary = .zero ↔ ∃ what, loyalty = .error (.notFound what)) := by
  intro own single list guest loyalty
  have required : requireUsername username = .ok (Text.trim username) := by
    rw [requireUsername]
    exact if_neg (by simpa [Text.isBlankText] using named)
  have list_eq : list = seen b.stores (bookingViews options (Text.trim username)) :=
    answered_readBookings required
  have guest_eq : guest = _ := (answered_of_reads (reads_readGuest options username) b).trans
    (seen_readGuest required options)
  have loyalty_eq : loyalty = _ := (answered_of_reads (reads_readLoyalty username) b).trans
    (seen_readLoyalty required)
  rw [← list_eq] at guest_eq
  refine ⟨fun ascending => ascending.filter _, ⟨?_, ?_⟩, ?_, ?_, ?_, ?_⟩
  · rintro ⟨views, shown⟩
    have each : List.Forall₂ (fun r view => (∃ view, single r = .ok view) ∧
        b.stores.ViewedAs r view) own views :=
      (alike_of_answered unique required shown).imp
        fun r view alike => ⟨⟨view, alike.1⟩, alike.2⟩
    exact ((List.forall₂_and_left own views).mp each).1
  · intro shown
    rw [list_eq]
    apply exists_views
    intro r mine
    obtain ⟨view, shown⟩ := shown r mine
    exact ⟨view, (answered_readBooking_iff unique required mine view).mp shown⟩
  · exact fun views shown => alike_of_answered unique required shown
  · intro e failed
    exact missing_of_seen (list_eq ▸ failed)
  · intro e failed
    rw [guest_eq, failed]
    rfl
  · intro views shown
    rw [guest_eq, shown, loyalty_eq]
    refine ⟨_, rfl, ?_⟩
    cases b.stores.loyalty? (Text.trim username) with
    | none => simp [foundOr]
    | some l => simp [foundOr, LoyaltySummary.ofLoyalty, LoyaltySummary.zero]

/-- Ada books twice, and Bob in between. She sees her two bookings in the list as on their own;
without their payments she sees neither, and misses the first. -/
theorem adas_bookings_viewed_alike :
    let book (username : String) (b : Backend) :=
      ((Gateway.book {} username weekend).run.run .inProcess b).state
    let b := book "ada" (book "bob" (book "ada" ⟨{}, { stream := .ofNat }⟩))
    let unpaid : Backend := { b with stores.payment := {} }
    let own := b.stores.reservationsOf "ada"
    own.map Reservation.id = [1, 3] ∧
    (∃ views, (readBookings { fetchConcurrency := 4 } " ada").answered b = .ok views ∧
      List.Forall₂ (fun r view => (readBooking r.uid.toText " ada").answered b = .ok view ∧
        b.stores.ViewedAs r view) own views) ∧
    ∃ e r, (readBookings {} "ada").answered unpaid = .error e ∧ r ∈ own ∧ r.id = 1 ∧
      e = .notFound (Payment.label r.paymentUid) := by
  intro book b unpaid own
  refine ⟨by decide +kernel, ?_, ?_⟩
  · obtain ⟨-, -, shown, -⟩ := bookings_viewed_alike b { fetchConcurrency := 4 } " ada"
      (by decide) (by decide +kernel)
    rw [show Text.trim " ada" = "ada" by decide] at shown
    have there : ((readBookings { fetchConcurrency := 4 } " ada").answered b).toBool := by
      decide +kernel
    cases list : (readBookings { fetchConcurrency := 4 } " ada").answered b with
    | error e => simp [list, Except.toBool] at there
    | ok views => exact ⟨views, rfl, shown views list⟩
  · obtain ⟨-, -, -, missed, -⟩ := bookings_viewed_alike unpaid {} "ada"
      (by decide) (by decide +kernel)
    have hotels : (unpaid.stores.reservationsOf "ada").find? unpaid.stores.lacksHotel = none := by
      decide +kernel
    have first : ((unpaid.stores.reservationsOf "ada").find? unpaid.stores.lacksPayment).map
        Reservation.id = some 1 := by decide +kernel
    have gone : ((readBookings {} "ada").answered unpaid).toBool = false := by decide +kernel
    cases list : (readBookings {} "ada").answered unpaid with
    | ok views => simp [list, Except.toBool] at gone
    | error e =>
        have missed := missed e list
        rw [show Text.trim "ada" = "ada" by decide, hotels] at missed
        obtain ⟨r, found, named⟩ := missed
        rw [found] at first
        exact ⟨e, r, rfl, List.mem_of_find?_eq_some found, Option.some.inj first, named⟩

end Gateway

end HotelBooking
