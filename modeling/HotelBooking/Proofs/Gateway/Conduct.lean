import HotelBooking.Proofs.Gateway.Outline
import HotelBooking.Proofs.Gateway.Traffic
import HotelBooking.Proofs.Service.Lawful

/-!
# What operations ask

Every operation makes lawful calls only, whatever becomes of its calls and whatever others
do between them, and also when it undoes the steps of a saga. `lawfully` is this demand.
Its rules say what an operation knows after a call: that nothing was lost, that its own
identifiers are still pending, and what the answer says about the stores.

A call that is lawful at one moment is lawful at every later one, until it is made. This
is why it is enough to look at the moment at which an operation decides on a call.
-/

namespace HotelBooking

/-- Nothing is lost, and whoever drew an identifier finds it unmentioned until its use. -/
def lasting : Discipline where
  holds := Platform.Known
  later := Platform.Lasts
  pending u w := w.stores.Unmentioned u
  later_refl := Platform.Lasts.refl
  later_trans := Platform.Lasts.trans

/-- The terms of operations that may do as they like where nothing is lost. -/
def unbound : Terms := { lasting.terms with guarantee := fun _ _ _ => True }

/-- Every call is lawful for the guest. -/
def lawfully (guest : Option String) : Demand Moment :=
  { unbound.demand Failing with
    call := fun c K s => c.Lawful guest s.own s.platform ∧ (unbound.demand Failing).call c K s
    call_mono := fun weaker h => h.imp_right ((unbound.demand Failing).call_mono weaker) }

/-! ## From moment to moment -/

namespace Moment

/-- Nothing was lost from one moment to the other. -/
structure Later (s s' : Moment) : Prop where
  known : s'.platform.Known
  lasts : s.platform.Lasts s'.platform
  own : ∀ u ∈ s.own, u ∈ s'.own

/-- Nor was an identifier used that was drawn for this operation. -/
structure Onward (s s' : Moment) : Prop extends Later s s' where
  pending : ∀ u ∈ s.own, s.stores.Unmentioned u → s'.stores.Unmentioned u

variable {s s' s'' : Moment} {guest : Option String}

theorem Later.trans (first : s.Later s') (second : s'.Later s'') : s.Later s'' where
  known := second.known
  lasts := first.lasts.trans second.lasts
  own u member := second.own u (first.own u member)

theorem Onward.trans (first : s.Onward s') (second : s'.Onward s'') : s.Onward s'' where
  toLater := first.toLater.trans second.toLater
  pending u member before := second.pending u (first.own u member) (first.pending u member before)

end Moment

variable {guest : Option String} {s s' : Moment} {own : List Uid} {w w' : Platform}

theorem onward_of_relied (others : lasting.terms.rely s.own s.platform w) :
    s.Onward { s with platform := w } :=
  ⟨⟨others.1, others.2.1, fun _ member => member⟩, others.2.2⟩

theorem belongs_of_member {r : Reservation} (member : r ∈ s.stores.reservations)
    (owner : guest = some r.username) (later : s.Later s') :
    s'.stores.Belongs guest own r.paymentUid := by
  obtain ⟨i, at_i⟩ := List.getElem?_of_mem member
  obtain ⟨r', at_i', same⟩ := later.lasts.reservations i r at_i
  exact .inl ⟨r', List.mem_of_getElem? at_i', same.username ▸ owner, same.paymentUid⟩

theorem belongs_onward {u : Uid} (h : s.stores.Belongs guest s.own u) (onward : s.Onward s') :
    s'.stores.Belongs guest s'.own u := by
  rcases h with ⟨r, member, owner, rfl⟩ | ⟨mine, pending⟩
  · exact belongs_of_member member owner onward.toLater
  · exact .inr ⟨onward.own u mine, onward.pending u mine pending⟩

/-- A lawful call is lawful until it is made. -/
theorem Call.Lawful.onward {c : Call} (h : c.Lawful guest s.own s.platform)
    (onward : s.Onward s') : c.Lawful guest s'.own s'.platform := by
  cases c with
  | listHotels | getHotelById | getHotelByUid | getReservation | createPayment => trivial
  | listReservations | getLoyalty | updateLoyalty => exact h
  | createReservation r =>
      obtain ⟨owner, ⟨mine, drawn, free⟩, ⟨charge, pending⟩, stored, hotel⟩ := h
      obtain ⟨p, found⟩ := Option.isSome_iff_exists.mp stored
      obtain ⟨p', found', -⟩ := onward.lasts.payment? found
      refine ⟨owner, ⟨onward.own _ mine, onward.lasts.used _ drawn, onward.pending _ mine free⟩,
        ⟨onward.own _ charge, onward.pending _ charge pending⟩, ?_, ?_⟩
      · exact Option.isSome_iff_exists.mpr ⟨p', found'⟩
      · rw [onward.lasts.hotels]
        exact hotel
  | updateReservation r =>
      obtain ⟨owner, stored, found, same⟩ := h
      obtain ⟨stored', found', same'⟩ := onward.lasts.reservation? found
      exact ⟨owner, stored', found', same'.symm.trans same⟩
  | getPayment uid => exact belongs_onward h onward
  | updatePayment p =>
      obtain ⟨owned, stored, found, same⟩ := h
      obtain ⟨stored', found', same'⟩ := onward.lasts.payment? found
      exact ⟨belongs_onward owned onward, stored', found', same'.symm.trans same⟩

/-- No lawful call but that which stores a reservation uses an identifier. -/
theorem Call.Lawful.unmentioned {c : Call} (h : c.Lawful guest own w)
    (other : ∀ r, c ≠ .createReservation r) {fresh u : Uid} (pending : w.stores.Unmentioned u) :
    (c.served fresh w.stores).2.Unmentioned u := by
  cases writes : c.isMutating with
  | false => rwa [Call.served_reading fresh w.stores writes]
  | true =>
      cases c with
      | createReservation r => exact absurd rfl (other r)
      | updateReservation r =>
          obtain ⟨-, stored, found, same⟩ := h
          rw [Call.served_updateReservation]
          exact pending.putReservation found same
      | createPayment price =>
          rw [Call.served_createPayment]
          split_ifs <;> exact pending
      | updatePayment p =>
          rw [Call.served_updatePayment]
          split_ifs <;> exact pending
      | updateLoyalty l =>
          rw [Call.served_updateLoyalty]
          split_ifs <;> exact pending
      | _ => cases writes

/-! ## The rules of calls -/

/-- The value came of a call that the services answered just now. -/
def Answered (c : Call) (a : c.Answer) (s : Moment) : Prop :=
  ∃ (before : Platform) (fresh : Uid), before.Known ∧ fresh ∉ before.used ∧ fresh ∈ s.own ∧
    c.served fresh before.stores = (.ok a, s.stores)

section Answered

variable {uid : Uid} {name : String}

theorem answered_getReservation {r : Reservation} (h : Answered (.getReservation uid) r s) :
    s.stores.reservation? uid = some r := by
  obtain ⟨before, fresh, -, -, -, answer⟩ := h
  rw [Call.served_getReservation, Prod.mk.injEq] at answer
  rw [← answer.2]
  exact eq_some_of_foundOr answer.1

theorem answered_getPayment {p : Payment} (h : Answered (.getPayment uid) p s) :
    s.stores.payment? uid = some p := by
  obtain ⟨before, fresh, -, -, -, answer⟩ := h
  rw [Call.served_getPayment, Prod.mk.injEq] at answer
  rw [← answer.2]
  exact eq_some_of_foundOr answer.1

theorem answered_getLoyalty {l : Loyalty} (h : Answered (.getLoyalty name) l s) :
    l.username = name := by
  obtain ⟨before, fresh, -, -, -, answer⟩ := h
  rw [Call.served_getLoyalty, Prod.mk.injEq] at answer
  exact Stores.username_of_loyalty? (eq_some_of_foundOr answer.1)

theorem answered_getHotelByUid {hotel : Hotel} (h : Answered (.getHotelByUid uid) hotel s) :
    hotel ∈ s.stores.hotels := by
  obtain ⟨before, fresh, -, -, -, answer⟩ := h
  rw [Call.served_getHotelByUid, Prod.mk.injEq] at answer
  rw [← answer.2]
  exact List.mem_of_find?_eq_some (eq_some_of_foundOr answer.1)

theorem answered_listReservations {rs : List Reservation}
    (h : Answered (.listReservations name) rs s) : rs = s.stores.reservationsOf name := by
  obtain ⟨before, fresh, -, -, -, answer⟩ := h
  rw [Call.served_listReservations, Prod.mk.injEq] at answer
  rw [← answer.2]
  cases answer.1
  rfl

/-- A charge that was just made is pending. -/
theorem answered_createPayment {price : Int32} {p : Payment}
    (h : Answered (.createPayment price) p s) :
    p.uid ∈ s.own ∧ s.stores.Unmentioned p.uid ∧ s.stores.payment? p.uid = some p := by
  obtain ⟨before, fresh, known, unused, mine, answer⟩ := h
  rcases Call.refused_or_charged fresh before.stores price with ⟨e, refused⟩ | ⟨charged, -, found⟩
  · rw [refused] at answer
    cases answer
  · rw [charged, Prod.mk.injEq] at answer
    cases answer.1
    rw [← answer.2]
    have unmentioned := Stores.unmentioned_of_unknown (known.unknown unused)
    exact ⟨mine, (Stores.unmentioned_addPayment _).mpr unmentioned, found⟩

end Answered

theorem kept_drawn (own : List Uid) (fresh : Uid) : ∀ u ∈ own, u ∈ fresh :: own :=
  fun _ member => List.mem_cons_of_mem _ member

/-- Only an identifier is used up. -/
theorem onward_same (known : w.Known) (others : lasting.terms.rely s.own s.platform w)
    (fresh : Uid) : s.Onward ⟨⟨w.stores, fresh :: w.used⟩, s.log, fresh :: s.own⟩ :=
  (onward_of_relied others).trans
    ⟨⟨known.same (kept_drawn _ fresh), .same (kept_drawn _ fresh), kept_drawn _ fresh⟩,
      fun _ _ before => before⟩

/-- A lawful call that stores no reservation. -/
theorem lawfully_call (c : Call) {K : Outcome c.Answer → Moment → Prop}
    (lawful : c.Lawful guest s.own s.platform) (other : ∀ r, c ≠ .createReservation r)
    (next : ∀ o s', s.Onward s' → (∀ a, o = .ok a → Answered c a s') → K o s') :
    (lawfully guest).call c K s := by
  refine ⟨lawful, ?_⟩
  apply demand_call fun _ _ _ failure => failure
  · intro w others fresh unused
    have lawful' : c.Lawful guest s.own w := lawful.onward (onward_of_relied others)
    have respects := lawful'.respects others.1 unused
    have onward : s.Onward ⟨_, s.log, fresh :: s.own⟩ := (onward_of_relied others).trans
      ⟨⟨respects.known, respects.lasts, kept_drawn _ fresh⟩,
        fun _ _ before => lawful'.unmentioned other before⟩
    refine ⟨trivial, next _ _ onward ?_, fun _ _ _ => next _ _ onward nofun⟩
    intro a answer
    exact ⟨w, fresh, others.1, unused, List.mem_cons_self, Prod.ext answer rfl⟩
  · intro w others fresh _ e _
    exact ⟨trivial, next _ _ (onward_same others.1 others fresh) nofun⟩

/-- The call that stores a reservation. Whatever becomes of it, the payment is the guest's. -/
theorem lawfully_createReservation {K : Outcome Reservation → Moment → Prop} {r : Reservation}
    (lawful : (Call.createReservation r).Lawful guest s.own s.platform)
    (next : ∀ o s', s.Later s' → s'.stores.Belongs guest s'.own r.paymentUid →
      (∀ r', o = .ok r' → s'.stores.reservation? r'.uid = some r' ∧
        r' = { r with id := r'.id, uid := r'.uid }) → K o s') :
    (lawfully guest).call (.createReservation r) K s := by
  refine ⟨lawful, ?_⟩
  have failed : ∀ e s', s.Onward s' → K (.error e) s' := by
    intro e s' onward
    obtain ⟨-, -, ⟨mine, pending⟩, -⟩ := lawful.onward onward
    exact next _ s' onward.toLater (.inr ⟨mine, pending⟩) fun _ impossible => nomatch impossible
  apply demand_call fun _ _ _ failure => failure
  · intro w others fresh unused
    have lawful' := lawful.onward (onward_of_relied others)
    have respects := lawful'.respects others.1 unused
    have later : s.Later ⟨_, s.log, fresh :: s.own⟩ := (onward_of_relied others).toLater.trans
      ⟨respects.known, respects.lasts, kept_drawn _ fresh⟩
    refine ⟨trivial, ?_⟩
    rcases Call.refused_or_reserved fresh w.stores r with ⟨e, refused⟩ | ⟨stored, found⟩
    · rw [refused]
      exact ⟨failed _ _ (onward_same others.1 others fresh),
        fun _ _ e' => failed e' _ (onward_same others.1 others fresh)⟩
    · rw [stored] at later ⊢
      have belongs : (w.stores.addReservation (Call.identified fresh r)).Belongs guest
          (fresh :: s.own) r.paymentUid := by
        refine .inl ⟨_, Stores.mem_of_reservation? found, ?_, Call.paymentUid_identified⟩
        exact lawful.1.trans (congrArg some Call.username_identified.symm)
      refine ⟨next _ _ later belongs ?_, fun _ _ e' =>
        next _ _ later belongs fun _ impossible => nomatch impossible⟩
      rintro r' ⟨rfl⟩
      refine ⟨found, ?_⟩
      unfold Call.identified
      split <;> rfl
  · intro w others fresh _ e _
    exact ⟨trivial, failed e _ (onward_same others.1 others fresh)⟩

/-- An identifier is drawn. -/
theorem lawfully_draw {K : Uid → Moment → Prop}
    (next : ∀ fresh s', s.Onward s' → fresh ∈ s'.own → fresh ∈ s'.platform.used →
      s'.stores.Unmentioned fresh → K fresh s') : (lawfully guest).draw K s := by
  intro w others fresh unused
  have unmentioned := Stores.unmentioned_of_unknown (others.1.unknown unused)
  exact ⟨trivial, next fresh _ (onward_same others.1 others fresh) List.mem_cons_self
    List.mem_cons_self unmentioned⟩

end HotelBooking
