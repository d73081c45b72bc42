import HotelBooking.Proofs.Store.Rows
import HotelBooking.Service.Platform

/-!
# How stores change

The services write to their stores in five ways: a reservation or a payment is added or
put in the place of the one with its identifier, and the loyalty record of a guest is
saved. Here each is a function on `Stores`, with what it does to the rows and to lookups.
A change of one table leaves the others alone, which holds by unfolding.

Putting back what was looked up earlier undoes every change made to that row since, which
is what makes compensations exact.
-/

namespace HotelBooking

namespace Stores

variable {s : Stores}

def reservations (s : Stores) : List Reservation := s.reservation.reservations.rows

def payments (s : Stores) : List Payment := s.payment.rows

/-- The loyalty records. -/
def members (s : Stores) : List Loyalty := s.loyalty.rows

def reservation? (s : Stores) (uid : Uid) : Option Reservation :=
  s.reservations.find? (·.uid == uid)

def payment? (s : Stores) (uid : Uid) : Option Payment :=
  s.payments.find? (·.uid == uid)

def loyalty? (s : Stores) (username : String) : Option Loyalty :=
  s.members.find? (·.username == username)

/-- Every identifier of a reservation or a payment that occurs in the stores. -/
def uids (s : Stores) : List Uid :=
  s.reservations.map Reservation.uid ++ s.reservations.map Reservation.paymentUid ++
    s.payments.map Payment.uid

theorem mem_of_reservation? {uid : Uid} {r : Reservation} (found : s.reservation? uid = some r) :
    r ∈ s.reservations :=
  List.mem_of_find?_eq_some found

theorem uid_of_reservation? {uid : Uid} {r : Reservation} (found : s.reservation? uid = some r) :
    r.uid = uid :=
  Table.key_of_find? found

theorem mem_of_payment? {uid : Uid} {p : Payment} (found : s.payment? uid = some p) :
    p ∈ s.payments :=
  List.mem_of_find?_eq_some found

theorem uid_of_payment? {uid : Uid} {p : Payment} (found : s.payment? uid = some p) :
    p.uid = uid :=
  Table.key_of_find? found

theorem username_of_loyalty? {name : String} {l : Loyalty} (found : s.loyalty? name = some l) :
    l.username = name :=
  Table.key_of_find? found

theorem reservation?_eq_none {uid : Uid} (unknown : uid ∉ s.uids) : s.reservation? uid = none := by
  apply List.find?_eq_none.mpr
  intro r member same
  apply unknown
  have : r.uid = uid := by simpa using same
  simp only [uids, List.mem_append, List.mem_map]
  exact .inl (.inl ⟨r, member, this⟩)

theorem payment?_eq_none {uid : Uid} (unknown : uid ∉ s.uids) : s.payment? uid = none := by
  apply List.find?_eq_none.mpr
  intro p member same
  apply unknown
  have : p.uid = uid := by simpa using same
  simp only [uids, List.mem_append, List.mem_map]
  exact .inr ⟨p, member, this⟩

theorem paymentUid_ne {uid : Uid} (unknown : uid ∉ s.uids) {r : Reservation}
    (member : r ∈ s.reservations) : r.paymentUid ≠ uid := by
  rintro rfl
  apply unknown
  simp only [uids, List.mem_append, List.mem_map]
  exact .inl (.inr ⟨r, member, rfl⟩)

/-! ## Reservations -/

/-- The row that a new reservation becomes. -/
def newReservation (s : Stores) (r : Reservation) : Reservation :=
  { r with id := s.reservation.reservations.lastId + 1 }

def addReservation (s : Stores) (r : Reservation) : Stores :=
  { s with
    reservation.reservations := (s.reservation.reservations.append fun id => { r with id }).2 }

def putReservation (s : Stores) (r : Reservation) : Stores :=
  { s with
    reservation.reservations := (s.reservation.reservations.modify (·.uid == r.uid)
      fun stored => { r with id := stored.id }).2 }

@[simp] theorem reservations_addReservation (r : Reservation) :
    (s.addReservation r).reservations = s.reservations ++ [s.newReservation r] := rfl

@[simp] theorem payments_addReservation (r : Reservation) :
    (s.addReservation r).payments = s.payments := rfl

@[simp] theorem members_addReservation (r : Reservation) :
    (s.addReservation r).members = s.members := rfl

@[simp] theorem payment?_addReservation (r : Reservation) (uid : Uid) :
    (s.addReservation r).payment? uid = s.payment? uid := rfl

@[simp] theorem loyalty?_addReservation (r : Reservation) (name : String) :
    (s.addReservation r).loyalty? name = s.loyalty? name := rfl

theorem reservation?_addReservation_self {r : Reservation}
    (unknown : s.reservation? r.uid = none) :
    (s.addReservation r).reservation? r.uid = some (s.newReservation r) := by
  unfold reservation? at unknown ⊢
  simp [List.find?_append, unknown, newReservation]

@[simp] theorem reservations_putReservation (r : Reservation) :
    (s.putReservation r).reservations = Table.replaceFirst (·.uid == r.uid)
      (fun stored => { r with id := stored.id }) s.reservations := rfl

@[simp] theorem payments_putReservation (r : Reservation) :
    (s.putReservation r).payments = s.payments := rfl

@[simp] theorem members_putReservation (r : Reservation) :
    (s.putReservation r).members = s.members := rfl

@[simp] theorem payment?_putReservation (r : Reservation) (uid : Uid) :
    (s.putReservation r).payment? uid = s.payment? uid := rfl

@[simp] theorem loyalty?_putReservation (r : Reservation) (name : String) :
    (s.putReservation r).loyalty? name = s.loyalty? name := rfl

theorem reservation?_putReservation_self (r : Reservation) :
    (s.putReservation r).reservation? r.uid =
      (s.reservation? r.uid).map fun stored => { r with id := stored.id } :=
  Table.find?_replaceFirst_self fun _ _ => rfl

theorem putReservation_putReservation {r r' : Reservation} (same : r'.uid = r.uid) :
    (s.putReservation r).putReservation r' = s.putReservation r' := by
  simp only [putReservation, Table.modify, same]
  rw [Table.replaceFirst_replaceFirst]
  · rfl
  · exact fun _ _ => beq_self_eq_true _

/-- A new row that is canceled at once is as good as added that way. -/
theorem putReservation_addReservation {r : Reservation} (unknown : s.reservation? r.uid = none) :
    (s.addReservation r).putReservation (s.newReservation r).cancel =
      s.addReservation r.cancel := by
  have same : ((s.reservation.reservations.append fun id => { r with id }).2.modify
      (·.uid == r.uid) fun stored => { r.cancel with id := stored.id }).2 =
      (s.reservation.reservations.append fun id => { r.cancel with id }).2 :=
    Table.modify_append unknown (beq_self_eq_true r.uid)
  exact congrArg (fun t => { s with reservation.reservations := t }) same

/-- There is nothing to replace where the identifier is unknown. -/
theorem putReservation_of_missing {r : Reservation} (missing : s.reservation? r.uid = none) :
    s.putReservation r = s := by
  unfold putReservation
  rw [Table.modify_of_find?_eq_none missing]

/-- Putting back the row that is there changes nothing. -/
theorem putReservation_self {r : Reservation} (found : s.reservation? r.uid = some r) :
    s.putReservation r = s := by
  simp only [putReservation, Table.modify]
  rw [Table.replaceFirst_eq_self]
  intro r' found'
  cases found.symm.trans found'
  rfl

/-- Putting back what was there undoes a change. -/
theorem putReservation_restore {r r' : Reservation} (found : s.reservation? r.uid = some r)
    (same : r'.uid = r.uid) : (s.putReservation r').putReservation r = s :=
  (putReservation_putReservation same.symm).trans (putReservation_self found)

/-! ## Payments -/

/-- The row that a new payment becomes. -/
def newPayment (s : Stores) (p : Payment) : Payment :=
  { p with id := s.payment.lastId + 1 }

def addPayment (s : Stores) (p : Payment) : Stores :=
  { s with payment := (s.payment.append fun id => { p with id }).2 }

def putPayment (s : Stores) (p : Payment) : Stores :=
  { s with
    payment := (s.payment.modify (·.uid == p.uid)
      fun stored => { stored with status := p.status, price := p.price }).2 }

@[simp] theorem payments_addPayment (p : Payment) :
    (s.addPayment p).payments = s.payments ++ [s.newPayment p] := rfl

@[simp] theorem reservations_addPayment (p : Payment) :
    (s.addPayment p).reservations = s.reservations := rfl

@[simp] theorem members_addPayment (p : Payment) : (s.addPayment p).members = s.members := rfl

@[simp] theorem reservation?_addPayment (p : Payment) (uid : Uid) :
    (s.addPayment p).reservation? uid = s.reservation? uid := rfl

@[simp] theorem loyalty?_addPayment (p : Payment) (name : String) :
    (s.addPayment p).loyalty? name = s.loyalty? name := rfl

theorem payment?_addPayment_self {p : Payment} (unknown : s.payment? p.uid = none) :
    (s.addPayment p).payment? p.uid = some (s.newPayment p) := by
  unfold payment? at unknown ⊢
  simp [List.find?_append, unknown, newPayment]

/-- A payment that is found is found as well when another one is added. -/
theorem payment?_addPayment {p q : Payment} {uid : Uid} (found : s.payment? uid = some q) :
    (s.addPayment p).payment? uid = some q := by
  unfold payment? at found ⊢
  simp [List.find?_append, found]

@[simp] theorem payments_putPayment (p : Payment) :
    (s.putPayment p).payments = Table.replaceFirst (·.uid == p.uid)
      (fun stored => { stored with status := p.status, price := p.price }) s.payments := rfl

@[simp] theorem reservations_putPayment (p : Payment) :
    (s.putPayment p).reservations = s.reservations := rfl

@[simp] theorem members_putPayment (p : Payment) : (s.putPayment p).members = s.members := rfl

@[simp] theorem reservation?_putPayment (p : Payment) (uid : Uid) :
    (s.putPayment p).reservation? uid = s.reservation? uid := rfl

@[simp] theorem loyalty?_putPayment (p : Payment) (name : String) :
    (s.putPayment p).loyalty? name = s.loyalty? name := rfl

theorem payment?_putPayment_self (p : Payment) :
    (s.putPayment p).payment? p.uid =
      (s.payment? p.uid).map fun stored =>
        { stored with status := p.status, price := p.price } :=
  Table.find?_replaceFirst_self fun _ same => same

theorem payment?_putPayment_of_ne {p : Payment} {uid : Uid} (other : uid ≠ p.uid) :
    (s.putPayment p).payment? uid = s.payment? uid :=
  Table.find?_replaceFirst_of_ne (fun _ same => same) other

theorem putPayment_putPayment {p p' : Payment} (same : p'.uid = p.uid) :
    (s.putPayment p).putPayment p' = s.putPayment p' := by
  simp only [putPayment, Table.modify, same]
  rw [Table.replaceFirst_replaceFirst]
  · rfl
  · exact fun _ found => found

/-- A new row that is canceled at once is as good as added that way. -/
theorem putPayment_addPayment {p : Payment} (unknown : s.payment? p.uid = none) :
    (s.addPayment p).putPayment (s.newPayment p).cancel = s.addPayment p.cancel := by
  have same : ((s.payment.append fun id => { p with id }).2.modify (·.uid == p.uid)
      fun stored => { stored with status := .canceled, price := p.price }).2 =
      (s.payment.append fun id => { p.cancel with id }).2 :=
    Table.modify_append unknown (beq_self_eq_true p.uid)
  exact congrArg (fun t => { s with payment := t }) same

theorem putPayment_of_missing {p : Payment} (missing : s.payment? p.uid = none) :
    s.putPayment p = s := by
  unfold putPayment
  rw [Table.modify_of_find?_eq_none missing]

/-- Putting back the row that is there changes nothing. -/
theorem putPayment_self {p : Payment} (found : s.payment? p.uid = some p) :
    s.putPayment p = s := by
  simp only [putPayment, Table.modify]
  rw [Table.replaceFirst_eq_self]
  intro p' found'
  cases found.symm.trans found'
  rfl

/-- Putting back what was there undoes a change. -/
theorem putPayment_restore {p p' : Payment} (found : s.payment? p.uid = some p)
    (same : p'.uid = p.uid) : (s.putPayment p').putPayment p = s :=
  (putPayment_putPayment same.symm).trans (putPayment_self found)

/-- Reservations and payments are changed in either order. -/
theorem putPayment_putReservation (r : Reservation) (p : Payment) :
    (s.putReservation r).putPayment p = (s.putPayment p).putReservation r := rfl

/-- The row of a reservation that was just canceled. -/
theorem reservation?_cancel {r : Reservation} (found : s.reservation? r.uid = some r) :
    (s.putReservation r.cancel).reservation? r.uid = some r.cancel :=
  (reservation?_putReservation_self r.cancel).trans (congrArg (Option.map _) found)

/-- The row of a payment that was just canceled. -/
theorem payment?_cancel {p : Payment} (found : s.payment? p.uid = some p) :
    (s.putPayment p.cancel).payment? p.uid = some p.cancel :=
  (payment?_putPayment_self p.cancel).trans (congrArg (Option.map _) found)

/-! ## Loyalty records -/

/-- The row that a saved record becomes. -/
def savedLoyalty (s : Stores) (l : Loyalty) : Loyalty :=
  match s.loyalty? l.username with
  | some stored => { stored with
      reservationCount := l.reservationCount, status := l.status, discount := l.discount }
  | none => { l with id := s.loyalty.lastId + 1 }

/-- Create or replace the record of a guest. -/
def saveLoyalty (s : Stores) (l : Loyalty) : Stores :=
  { s with
    loyalty := if (s.loyalty? l.username).isSome then
        (s.loyalty.modify (·.username == l.username) fun stored =>
          { stored with reservationCount := l.reservationCount, status := l.status,
                        discount := l.discount }).2
      else (s.loyalty.append fun id => { l with id }).2 }

@[simp] theorem reservations_saveLoyalty (l : Loyalty) :
    (s.saveLoyalty l).reservations = s.reservations := rfl

@[simp] theorem payments_saveLoyalty (l : Loyalty) :
    (s.saveLoyalty l).payments = s.payments := rfl

@[simp] theorem reservation?_saveLoyalty (l : Loyalty) (uid : Uid) :
    (s.saveLoyalty l).reservation? uid = s.reservation? uid := rfl

@[simp] theorem payment?_saveLoyalty (l : Loyalty) (uid : Uid) :
    (s.saveLoyalty l).payment? uid = s.payment? uid := rfl

theorem members_saveLoyalty_of_found {l l' : Loyalty}
    (found : s.loyalty? l.username = some l') :
    (s.saveLoyalty l).members = Table.replaceFirst (·.username == l.username)
      (fun stored => { stored with
        reservationCount := l.reservationCount, status := l.status, discount := l.discount })
      s.members := by
  simp only [saveLoyalty, found, Option.isSome_some, if_pos, Table.modify, members]

theorem members_saveLoyalty_of_missing {l : Loyalty} (missing : s.loyalty? l.username = none) :
    (s.saveLoyalty l).members = s.members ++ [{ l with id := s.loyalty.lastId + 1 }] := by
  simp [saveLoyalty, missing, Table.append, members]

theorem reservationCount_savedLoyalty (l : Loyalty) :
    (s.savedLoyalty l).reservationCount = l.reservationCount := by
  unfold savedLoyalty
  split <;> rfl

theorem loyalty?_saveLoyalty_self (l : Loyalty) :
    (s.saveLoyalty l).loyalty? l.username = some (s.savedLoyalty l) := by
  cases found : s.loyalty? l.username with
  | some l' =>
      unfold loyalty?
      rw [members_saveLoyalty_of_found found, Table.find?_replaceFirst_self]
      · rw [savedLoyalty, found]
        exact congrArg (Option.map _) found
      · exact fun _ same => same
  | none =>
      rw [savedLoyalty, found]
      unfold loyalty? at found ⊢
      rw [members_saveLoyalty_of_missing found, List.find?_append, found]
      simp

theorem loyalty?_saveLoyalty_of_ne {l : Loyalty} {name : String} (other : name ≠ l.username) :
    (s.saveLoyalty l).loyalty? name = s.loyalty? name := by
  unfold loyalty?
  cases found : s.loyalty? l.username with
  | some l' =>
      rw [members_saveLoyalty_of_found found, Table.find?_replaceFirst_of_ne _ other]
      exact fun _ same => same
  | none =>
      rw [members_saveLoyalty_of_missing found, List.find?_append]
      simp [other.symm]

@[simp] theorem username_savedLoyalty (l : Loyalty) :
    (s.savedLoyalty l).username = l.username := by
  cases found : s.loyalty? l.username with
  | some stored =>
      have same := username_of_loyalty? found
      rw [savedLoyalty, found]
      exact same
  | none => rw [savedLoyalty, found]

/-- The records after a save are those from before and the saved one. -/
theorem mem_members_saveLoyalty {l l' : Loyalty} (member : l' ∈ (s.saveLoyalty l).members) :
    l' ∈ s.members ∨ l' = s.savedLoyalty l := by
  cases found : s.loyalty? l.username with
  | some stored =>
      rw [members_saveLoyalty_of_found found] at member
      rcases Table.mem_replaceFirst member with old | ⟨replaced, found', rfl⟩
      · exact .inl old
      · cases found.symm.trans found'
        rw [savedLoyalty, found]
        exact .inr rfl
  | none =>
      rw [members_saveLoyalty_of_missing found] at member
      rw [savedLoyalty, found]
      exact (List.mem_append.mp member).imp id List.mem_singleton.mp

/-- Saving never gives a guest a second record. -/
theorem nodup_saveLoyalty (l : Loyalty) (unique : (s.members.map Loyalty.username).Nodup) :
    ((s.saveLoyalty l).members.map Loyalty.username).Nodup := by
  cases found : s.loyalty? l.username with
  | some stored =>
      rw [members_saveLoyalty_of_found found, Table.map_replaceFirst Loyalty.username]
      · exact unique
      · exact fun _ _ => rfl
  | none =>
      rw [members_saveLoyalty_of_missing found, List.map_append]
      refine unique.append (List.nodup_singleton _) ?_
      simpa using List.find?_eq_none.mp found

/-- Saving a record that was just saved leaves it as it is. -/
theorem savedLoyalty_saveLoyalty (l : Loyalty) :
    (s.saveLoyalty l).savedLoyalty l = s.savedLoyalty l := by
  have found := loyalty?_saveLoyalty_self (s := s) l
  rw [savedLoyalty, found]
  cases earlier : s.loyalty? l.username <;> simp [savedLoyalty, earlier]

theorem saveLoyalty_saveLoyalty (l : Loyalty) :
    (s.saveLoyalty l).saveLoyalty l = s.saveLoyalty l := by
  have found := loyalty?_saveLoyalty_self (s := s) l
  have again : (s.saveLoyalty l).saveLoyalty l =
      { s.saveLoyalty l with
        loyalty := ((s.saveLoyalty l).loyalty.modify (·.username == l.username) fun stored =>
          { stored with reservationCount := l.reservationCount, status := l.status,
                        discount := l.discount }).2 } := by
    rw [saveLoyalty, found]
    rfl
  have same : Table.replaceFirst (·.username == l.username)
      (fun stored : Loyalty => { stored with
        reservationCount := l.reservationCount, status := l.status, discount := l.discount })
      (s.saveLoyalty l).members = (s.saveLoyalty l).members := by
    refine Table.replaceFirst_eq_self fun stored at_name => ?_
    cases found.symm.trans at_name
    cases earlier : s.loyalty? l.username <;> simp [savedLoyalty, earlier]
  rw [again, Table.modify]
  exact congrArg (fun rows =>
    { s.saveLoyalty l with loyalty := { (s.saveLoyalty l).loyalty with rows } }) same

/-! ## Identifiers -/

theorem mem_uids_addReservation {r : Reservation} {uid : Uid} :
    uid ∈ (s.addReservation r).uids ↔ uid ∈ s.uids ∨ uid = r.uid ∨ uid = r.paymentUid := by
  simp only [uids, reservations_addReservation, payments_addReservation, List.map_append,
    List.mem_append, List.map_cons, List.map_nil, List.mem_singleton, newReservation]
  tauto

theorem mem_uids_addPayment {p : Payment} {uid : Uid} :
    uid ∈ (s.addPayment p).uids ↔ uid ∈ s.uids ∨ uid = p.uid := by
  simp only [uids, reservations_addPayment, payments_addPayment, List.map_append,
    List.mem_append, List.map_cons, List.map_nil, List.mem_singleton, newPayment]
  tauto

theorem paymentUids_putReservation {r : Reservation}
    (same : ∀ stored, s.reservation? r.uid = some stored → r.paymentUid = stored.paymentUid) :
    (s.putReservation r).reservations.map Reservation.paymentUid =
      s.reservations.map Reservation.paymentUid :=
  Table.map_replaceFirst Reservation.paymentUid same

theorem uids_putReservation {r : Reservation}
    (same : ∀ stored, s.reservation? r.uid = some stored → r.paymentUid = stored.paymentUid) :
    (s.putReservation r).uids = s.uids := by
  have uid : (s.putReservation r).reservations.map Reservation.uid =
      s.reservations.map Reservation.uid :=
    Table.map_replaceFirst Reservation.uid fun stored found => (uid_of_reservation? found).symm
  unfold uids
  rw [uid, paymentUids_putReservation same, payments_putReservation]

@[simp] theorem uids_putPayment (p : Payment) : (s.putPayment p).uids = s.uids := by
  unfold uids
  rw [payments_putPayment, reservations_putPayment, Table.map_replaceFirst]
  exact fun _ _ => rfl

@[simp] theorem uids_saveLoyalty (l : Loyalty) : (s.saveLoyalty l).uids = s.uids := rfl

end Stores

end HotelBooking
