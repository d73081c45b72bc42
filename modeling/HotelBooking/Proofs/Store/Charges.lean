import HotelBooking.Proofs.Store.Growth

/-!
# Charges behind paid reservations

A paid reservation should have a paid payment behind it, also while bookings and
cancellations are under way. `Backed Charged` says so of a whole platform. It is kept by each
change on its own, provided that a payment is charged before a reservation refers to it and that
a reservation is canceled before its payment is.

`OnlyCancels` is how the rows of a platform change where no step is ever undone: what is
there stays there, and at most it is canceled.
-/

namespace HotelBooking

/-- A paid reservation has a paid payment. -/
def Charged (r : Reservation) (p : Option Payment) : Prop :=
  r.status = .paid → ∃ q, p = some q ∧ q.status = .paid

/-- How reservations may stand to payments where canceled reservations and paid payments are
never at fault. -/
structure Lenient (A : Reservation → Option Payment → Prop) : Prop where
  canceled : ∀ {r p}, r.status = .canceled → A r p
  paid : ∀ {r p}, p.status = .paid → A r (some p)

theorem lenient_charged : Lenient Charged where
  canceled canceled paid := by
    rw [canceled] at paid
    cases paid
  paid paid _ := ⟨_, rfl, paid⟩

namespace Rows

variable {ρ γ : Type} {change : ρ → ρ} {r r' r'' : ρ}

/-- The row is what it was, or what a change makes of it. -/
def KeptOr (change : ρ → ρ) (r r' : ρ) : Prop := r' = r ∨ r' = change r

namespace KeptOr

theorem refl (change : ρ → ρ) (r : ρ) : KeptOr change r r := .inl rfl

theorem trans (once : ∀ r, change (change r) = change r) (first : KeptOr change r r')
    (second : KeptOr change r' r'') : KeptOr change r r'' := by
  rcases first with rfl | rfl
  · exact second
  · rcases second with rfl | rfl
    · exact .inr rfl
    · exact .inr (once r)

theorem column (h : KeptOr change r r') (f : ρ → γ) (same : ∀ r, f (change r) = f r) :
    f r' = f r := by
  rcases h with rfl | rfl
  · rfl
  · exact same r

/-- What a change brings about outlasts it. -/
theorem lasts {P : ρ → Prop} (h : KeptOr change r r') (after : ∀ r, P (change r)) (before : P r) :
    P r' := by
  rcases h with rfl | rfl
  · exact before
  · exact after r

end KeptOr

end Rows

namespace Platform

variable (A : Reservation → Option Payment → Prop)

/-- Every reservation stands in `A` to its payment, which is its own. -/
structure Backed (w : Platform) : Prop where
  known : w.Known
  charged : w.stores.Paired A
  unshared : w.stores.Unshared

variable {A}

/-- No row is lost, and none changes but to be canceled. -/
structure OnlyCancels (w w' : Platform) : Prop where
  reservations :
    Rows.Evolves (Rows.KeptOr Reservation.cancel) w.stores.reservations w'.stores.reservations
  payments : Rows.Evolves (Rows.KeptOr Payment.cancel) w.stores.payments w'.stores.payments
  used : ∀ u ∈ w.used, u ∈ w'.used

/-- A payment is there, paid for, and no reservation refers to it yet. -/
structure Unspent (u : Uid) (w : Platform) : Prop where
  paid : ∃ p, w.stores.payment? u = some p ∧ p.status = .paid
  unreferenced : ∀ r ∈ w.stores.reservations, r.paymentUid ≠ u

theorem OnlyCancels.refl (w : Platform) : w.OnlyCancels w where
  reservations := .refl (Rows.KeptOr.refl _) _
  payments := .refl (Rows.KeptOr.refl _) _
  used _ member := member

theorem OnlyCancels.trans {w w' w'' : Platform} (first : w.OnlyCancels w')
    (second : w'.OnlyCancels w'') : w.OnlyCancels w'' where
  reservations := first.reservations.trans (Rows.KeptOr.trans fun _ => rfl) second.reservations
  payments := first.payments.trans (Rows.KeptOr.trans fun _ => rfl) second.payments
  used u member := second.used u (first.used u member)

variable {w w' : Platform} {uid : Uid}

theorem OnlyCancels.reservation? (h : w.OnlyCancels w') {r : Reservation}
    (found : w.stores.reservation? uid = some r) :
    ∃ r', w'.stores.reservation? uid = some r' ∧ Rows.KeptOr Reservation.cancel r r' :=
  h.reservations.find? (fun kept => kept.column Reservation.uid fun _ => rfl) found

theorem OnlyCancels.payment? (h : w.OnlyCancels w') {p : Payment}
    (found : w.stores.payment? uid = some p) :
    ∃ p', w'.stores.payment? uid = some p' ∧ Rows.KeptOr Payment.cancel p p' :=
  h.payments.find? (fun kept => kept.column Payment.uid fun _ => rfl) found

/-- The reservation has been canceled. -/
def Void (r : Reservation) (w : Platform) : Prop :=
  ∃ r', w.stores.reservation? r.uid = some r' ∧ r'.status = .canceled ∧
    r'.paymentUid = r.paymentUid

theorem OnlyCancels.void (h : w.OnlyCancels w') {r : Reservation} (before : Void r w) :
    Void r w' := by
  obtain ⟨r', found, canceled, refers⟩ := before
  obtain ⟨r'', found', same⟩ := h.reservation? found
  exact ⟨r'', found', same.lasts (P := fun r => r.status = .canceled) (fun _ => rfl) canceled,
    (same.column Reservation.paymentUid fun _ => rfl).trans refers⟩

/-- No identifier is forgotten when one is drawn. -/
theorem kept_taken (w : Platform) (fresh : Uid) : ∀ u ∈ w.used, u ∈ fresh :: w.used :=
  fun _ member => List.mem_cons_of_mem _ member

/-! ## What each change keeps -/

variable {used : List Uid} (h : w.Backed A) (kept : ∀ u ∈ w.used, u ∈ used)

include h kept

theorem Backed.same : Backed A ⟨w.stores, used⟩ where
  known := h.known.same kept
  charged := h.charged
  unshared := h.unshared

theorem Backed.addPayment {p : Payment} (unknown : p.uid ∉ w.stores.uids) (taken : p.uid ∈ used) :
    Backed A ⟨w.stores.addPayment p, used⟩ where
  known := h.known.addPayment kept taken
  charged := h.charged.addPayment unknown
  unshared := h.unshared

/-- A reservation is added whose payment is there. -/
theorem Backed.addReservation (lenient : Lenient A) {r : Reservation}
    (unspent : Unspent r.paymentUid w) (drawn : r.uid ∈ used) :
    Backed A ⟨w.stores.addReservation r, used⟩ where
  known := by
    obtain ⟨p, found, -⟩ := unspent.paid
    exact h.known.addReservation kept drawn (Option.isSome_iff_exists.mpr ⟨p, found⟩)
  charged := by
    obtain ⟨p, found, paid⟩ := unspent.paid
    apply h.charged.addReservation
    rw [found]
    exact lenient.paid paid
  unshared := h.unshared.addReservation unspent.unreferenced

/-- A reservation is changed, and goes on referring to its payment. -/
theorem Backed.putReservation {r stored : Reservation}
    (found : w.stores.reservation? r.uid = some stored) (refers : r.paymentUid = stored.paymentUid)
    (here : A { r with id := stored.id } (w.stores.payment? r.paymentUid)) :
    Backed A ⟨w.stores.putReservation r, used⟩ where
  known := h.known.putReservation kept found refers
  charged := by
    apply h.charged.putReservation
    intro stored' found'
    cases found.symm.trans found'
    exact here
  unshared := by
    apply h.unshared.putReservation
    intro stored' found'
    cases found.symm.trans found'
    exact refers

/-- A payment is changed whose reservation stands in `A` to any. -/
theorem Backed.putPayment {p : Payment} {r : Reservation} (member : r ∈ w.stores.reservations)
    (refers : r.paymentUid = p.uid) (here : ∀ q, A r q) :
    Backed A ⟨w.stores.putPayment p, used⟩ where
  known := h.known.putPayment kept p
  charged := (h.charged.apart p.uid).putPayment.join h.unshared member refers (here _)
  unshared := h.unshared

/-- A payment is changed that no reservation refers to. -/
theorem Backed.putPayment_of_unreferenced {p : Payment}
    (unreferenced : ∀ r ∈ w.stores.reservations, r.paymentUid ≠ p.uid) :
    Backed A ⟨w.stores.putPayment p, used⟩ where
  known := h.known.putPayment kept p
  charged := (h.charged.apart p.uid).putPayment.of_unreferenced unreferenced
  unshared := h.unshared

theorem Backed.saveLoyalty (l : Loyalty) : Backed A ⟨w.stores.saveLoyalty l, used⟩ where
  known := h.known.saveLoyalty kept l
  charged := h.charged
  unshared := h.unshared

omit h

theorem OnlyCancels.same : w.OnlyCancels ⟨w.stores, used⟩ :=
  { OnlyCancels.refl w with used := kept }

theorem OnlyCancels.addPayment (p : Payment) : w.OnlyCancels ⟨w.stores.addPayment p, used⟩ :=
  { OnlyCancels.refl w with payments := .append (Rows.KeptOr.refl _) _ _, used := kept }

theorem OnlyCancels.addReservation (r : Reservation) :
    w.OnlyCancels ⟨w.stores.addReservation r, used⟩ :=
  { OnlyCancels.refl w with reservations := .append (Rows.KeptOr.refl _) _ _, used := kept }

theorem OnlyCancels.cancelReservation {r stored : Reservation}
    (found : w.stores.reservation? r.uid = some stored)
    (sameRow : Rows.KeptOr Reservation.cancel r stored) :
    w.OnlyCancels ⟨w.stores.putReservation r.cancel, used⟩ where
  reservations := by
    refine .replaceFirst (Rows.KeptOr.refl _) fun stored' found' => .inr ?_
    cases found.symm.trans found'
    rcases sameRow with rfl | rfl <;> rfl
  payments := .refl (Rows.KeptOr.refl _) _
  used := kept

theorem OnlyCancels.cancelPayment {p stored : Payment}
    (found : w.stores.payment? p.uid = some stored)
    (sameRow : Rows.KeptOr Payment.cancel p stored) :
    w.OnlyCancels ⟨w.stores.putPayment p.cancel, used⟩ where
  reservations := .refl (Rows.KeptOr.refl _) _
  payments := by
    refine .replaceFirst (Rows.KeptOr.refl _) fun stored' found' => .inr ?_
    cases found.symm.trans found'
    rcases sameRow with rfl | rfl <;> rfl
  used := kept

theorem OnlyCancels.saveLoyalty (l : Loyalty) : w.OnlyCancels ⟨w.stores.saveLoyalty l, used⟩ :=
  { OnlyCancels.refl w with used := kept }

omit kept

theorem Unspent.addPayment (h : Unspent uid w) (p : Payment) :
    Unspent uid ⟨w.stores.addPayment p, used⟩ where
  paid := by
    obtain ⟨q, found, paid⟩ := h.paid
    exact ⟨q, Stores.payment?_addPayment found, paid⟩
  unreferenced := h.unreferenced

theorem Unspent.addReservation (h : Unspent uid w) {r : Reservation} (other : r.paymentUid ≠ uid) :
    Unspent uid ⟨w.stores.addReservation r, used⟩ where
  paid := h.paid
  unreferenced r' member := by
    rcases List.mem_append.mp member with old | new
    · exact h.unreferenced r' old
    · cases List.mem_singleton.mp new
      exact other

theorem Unspent.putReservation (h : Unspent uid w) {r stored : Reservation}
    (found : w.stores.reservation? r.uid = some stored) (same : r.paymentUid = stored.paymentUid) :
    Unspent uid ⟨w.stores.putReservation r, used⟩ where
  paid := h.paid
  unreferenced r' member := by
    rcases Table.mem_replaceFirst member with old | ⟨stored', found', rfl⟩
    · exact h.unreferenced r' old
    · cases found.symm.trans found'
      exact same.trans_ne (h.unreferenced stored (Stores.mem_of_reservation? found))

theorem Unspent.putPayment (h : Unspent uid w) {p : Payment} (other : uid ≠ p.uid) :
    Unspent uid ⟨w.stores.putPayment p, used⟩ where
  paid := by
    obtain ⟨q, found, paid⟩ := h.paid
    exact ⟨q, (Stores.payment?_putPayment_of_ne other).trans found, paid⟩
  unreferenced := h.unreferenced

/-- A new charge is unspent. -/
theorem Unspent.new {p : Payment} (unknown : p.uid ∉ w.stores.uids) (paid : p.status = .paid) :
    Unspent p.uid ⟨w.stores.addPayment p, used⟩ where
  paid := ⟨_, Stores.payment?_addPayment_self (Stores.payment?_eq_none unknown), paid⟩
  unreferenced _ member := Stores.paymentUid_ne unknown member

end Platform

end HotelBooking
