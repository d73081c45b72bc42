import HotelBooking.Proofs.Loyalty
import HotelBooking.Proofs.Store.Pairing

/-!
# Accounts in order

`Accounts` is what the three stores, which share no transaction, should say together when no
operation is under way: every reservation is charged for, with the status of its charge,
and every loyalty record counts the paid reservations of its guest.

Each saga ends in one of a few ways: the booking or the cancellation is complete, or it was
undone. There is one lemma for each, from accounts in order before the saga.
-/

namespace HotelBooking

namespace Stores

variable {s : Stores}

/-- A reservation is charged for as its status says. -/
def Settled (r : Reservation) (p : Option Payment) : Prop :=
  ∃ q, p = some q ∧ 0 ≤ q.price ∧ q.status = r.status

/-- One for a paid reservation of the guest. -/
def stayOf (name : String) (r : Reservation) : Nat :=
  if r.username = name ∧ r.status = .paid then 1 else 0

/-- The number of paid reservations of a guest. -/
def paidStays (s : Stores) (name : String) : Nat :=
  s.reservations.countP fun r => r.username = name ∧ r.status = .paid

/-- The count in the record of a guest; a guest without one counts nothing. -/
def countOf (s : Stores) (name : String) : Int :=
  match s.loyalty? name with
  | some l => l.reservationCount.toInt
  | none => 0

/-- Every reservation has a charge of its own with its status, every record counts the paid
reservations of its guest, without a record there is none, and tiers follow counts. -/
structure Accounts (s : Stores) : Prop where
  settled : s.Paired Settled
  unshared : s.Unshared
  counted : ∀ name, s.countOf name = s.paidStays name
  tiered : ∀ l ∈ s.members, l.Tiered

/-- There is nothing to disagree about in stores without rows. -/
theorem accounts_empty : ({} : Stores).Accounts where
  settled := fun _ member => nomatch member
  unshared := List.nodup_nil
  counted := fun _ => rfl
  tiered := fun _ member => nomatch member

/-! ## Counting -/

theorem paidStays_addReservation (r : Reservation) (name : String) :
    (s.addReservation r).paidStays name = s.paidStays name + stayOf name r := by
  simp [paidStays, stayOf, List.countP_append, List.countP_singleton, newReservation]

theorem paidStays_putReservation {r stored : Reservation} (name : String)
    (found : s.reservation? r.uid = some stored) :
    (s.putReservation r).paidStays name + stayOf name stored =
      s.paidStays name + stayOf name r := by
  obtain ⟨before, after, rows, replaced⟩ := Table.replaceFirst_eq_append found
  unfold paidStays
  rw [reservations_putReservation, replaced, rows]
  simp only [List.countP_append, List.countP_cons, stayOf, decide_eq_true_eq]
  omega

@[simp] theorem paidStays_addPayment (p : Payment) (name : String) :
    (s.addPayment p).paidStays name = s.paidStays name := rfl

@[simp] theorem paidStays_putPayment (p : Payment) (name : String) :
    (s.putPayment p).paidStays name = s.paidStays name := rfl

@[simp] theorem paidStays_saveLoyalty (l : Loyalty) (name : String) :
    (s.saveLoyalty l).paidStays name = s.paidStays name := rfl

theorem paidStays_le (s : Stores) (name : String) : s.paidStays name ≤ s.reservations.length :=
  List.countP_le_length

/-- A paid reservation of a guest is one of those counted. -/
theorem paidStays_pos {r : Reservation} (member : r ∈ s.reservations) (paid : r.status = .paid) :
    0 < s.paidStays r.username :=
  List.countP_pos_iff.mpr ⟨r, member, by simp [paid]⟩

@[simp] theorem countOf_addReservation (r : Reservation) (name : String) :
    (s.addReservation r).countOf name = s.countOf name := rfl

@[simp] theorem countOf_putReservation (r : Reservation) (name : String) :
    (s.putReservation r).countOf name = s.countOf name := rfl

@[simp] theorem countOf_addPayment (p : Payment) (name : String) :
    (s.addPayment p).countOf name = s.countOf name := rfl

@[simp] theorem countOf_putPayment (p : Payment) (name : String) :
    (s.putPayment p).countOf name = s.countOf name := rfl

theorem countOf_of_found {name : String} {l : Loyalty} (found : s.loyalty? name = some l) :
    s.countOf name = l.reservationCount.toInt := by
  rw [countOf, found]

theorem countOf_of_missing {name : String} (missing : s.loyalty? name = none) :
    s.countOf name = 0 := by
  rw [countOf, missing]

theorem countOf_saveLoyalty (l : Loyalty) (name : String) :
    (s.saveLoyalty l).countOf name =
      if name = l.username then l.reservationCount.toInt else s.countOf name := by
  by_cases same : name = l.username
  · rw [if_pos same, same, countOf_of_found (loyalty?_saveLoyalty_self l),
      reservationCount_savedLoyalty]
  · rw [if_neg same, countOf, loyalty?_saveLoyalty_of_ne same, countOf]

theorem tiered_savedLoyalty {l : Loyalty} (tiered : l.Tiered) : (s.savedLoyalty l).Tiered := by
  unfold savedLoyalty
  split <;> exact tiered

theorem tiered_saveLoyalty {l : Loyalty} (h : ∀ l ∈ s.members, l.Tiered) (tiered : l.Tiered) :
    ∀ l' ∈ (s.saveLoyalty l).members, l'.Tiered := by
  intro l' member
  rcases mem_members_saveLoyalty member with old | rfl
  · exact h l' old
  · exact tiered_savedLoyalty tiered

/-! ## The ends of a booking -/

theorem Accounts.addPayment {p : Payment} (h : s.Accounts) (unknown : p.uid ∉ s.uids) :
    (s.addPayment p).Accounts where
  settled := h.settled.addPayment unknown
  unshared := h.unshared
  counted := h.counted
  tiered := h.tiered

section Booking

variable {p : Payment} {r : Reservation}

/-- A reservation and its charge are added, and it is counted. -/
theorem Accounts.booked {l : Loyalty} (h : s.Accounts) (unknown : p.uid ∉ s.uids)
    (charge : r.paymentUid = p.uid) (price : 0 ≤ p.price) (paid : p.status = .paid)
    (status : r.status = .paid) (guest : l.username = r.username)
    (count : l.reservationCount.toInt = s.countOf r.username + 1) (tiered : l.Tiered) :
    (((s.addPayment p).addReservation r).saveLoyalty l).Accounts where
  settled := by
    refine (paired_saveLoyalty l).mpr (Paired.addReservation (h.settled.addPayment unknown) ?_)
    rw [charge, payment?_addPayment_self (payment?_eq_none unknown)]
    exact ⟨_, rfl, price, paid.trans status.symm⟩
  unshared := by
    refine (unshared_saveLoyalty l).mpr (Unshared.addReservation h.unshared ?_)
    rw [charge]
    exact fun r' member => paymentUid_ne unknown member
  counted name := by
    rw [countOf_saveLoyalty, paidStays_saveLoyalty, paidStays_addReservation, guest, stayOf]
    by_cases same : name = r.username
    · rw [if_pos same, if_pos ⟨same.symm, status⟩, count, ← same, h.counted]
      rfl
    · rw [if_neg same, if_neg fun both => same both.1.symm]
      exact h.counted name
  tiered := tiered_saveLoyalty h.tiered tiered

/-- A canceled reservation and its canceled charge are added, which counts for nothing. -/
theorem Accounts.unbooked (h : s.Accounts) (unknown : p.uid ∉ s.uids)
    (charge : r.paymentUid = p.uid) (price : 0 ≤ p.price) (void : p.status = .canceled)
    (status : r.status = .canceled) : ((s.addPayment p).addReservation r).Accounts where
  settled := by
    refine Paired.addReservation (h.settled.addPayment unknown) ?_
    rw [charge, payment?_addPayment_self (payment?_eq_none unknown)]
    exact ⟨_, rfl, price, void.trans status.symm⟩
  unshared := by
    refine Unshared.addReservation h.unshared ?_
    rw [charge]
    exact fun r' member => paymentUid_ne unknown member
  counted name := by
    rw [countOf_addReservation, paidStays_addReservation, stayOf, if_neg (by simp [status])]
    exact h.counted name
  tiered := h.tiered

end Booking

/-! ## The end of a cancellation -/

/-- A reservation and its charge are canceled, and it is no longer counted. -/
theorem Accounts.canceled {p : Payment} {r : Reservation} {l : Loyalty} (h : s.Accounts)
    (found : s.reservation? r.uid = some r) (paid : r.status = .paid)
    (charge : s.payment? r.paymentUid = some p) (guest : l.username = r.username)
    (count : l.reservationCount.toInt = s.countOf r.username - 1) (tiered : l.Tiered) :
    (((s.putReservation r.cancel).putPayment p.cancel).saveLoyalty l).Accounts where
  settled := by
    obtain ⟨q, charge', price, -⟩ := h.settled r (mem_of_reservation? found)
    cases charge.symm.trans charge'
    have uid : p.uid = r.paymentUid := uid_of_payment? charge
    rw [← uid] at charge
    exact (paired_saveLoyalty l).mpr <| h.settled.putReservation_putPayment h.unshared found rfl
      uid charge ⟨p.cancel, rfl, price, rfl⟩
  unshared := by
    apply h.unshared.putReservation
    intro r' found'
    cases found.symm.trans found'
    rfl
  counted name := by
    have stays := paidStays_putReservation name (r := r.cancel) found
    have counted := h.counted name
    rw [countOf_saveLoyalty, paidStays_saveLoyalty, paidStays_putPayment, guest]
    by_cases same : name = r.username
    · subst same
      have now : stayOf r.username r.cancel = 0 := if_neg (by simp [Reservation.cancel])
      have before : stayOf r.username r = 1 := if_pos ⟨rfl, paid⟩
      rw [if_pos rfl]
      omega
    · have now : stayOf name r.cancel = 0 := if_neg (by simp [Reservation.cancel])
      have before : stayOf name r = 0 := if_neg fun both => same both.1.symm
      rw [if_neg same, countOf_putPayment, countOf_putReservation]
      omega
  tiered := tiered_saveLoyalty h.tiered tiered

end Stores

end HotelBooking
