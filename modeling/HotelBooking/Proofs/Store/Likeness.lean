import HotelBooking.Proofs.Service.Lawful

/-!
# Stores that are alike to a guest

A guest sees of the stores the catalogue, the reservations under one name in their order,
the payments that these refer to, and one loyalty record. Stores that agree on this much,
up to what counts of row numbers, are `AlikeFor` the guest, whatever else they hold.

Of an operation of the guest's more can be said while it is under way. `AlikeAmid` adds
the payments that are stored under identifiers drawn for it. A change of what belongs to
the guest, made in both of two such stores, leaves them alike.
-/

namespace HotelBooking

/-! ## Rows but for their numbers -/

namespace Reservation

/-- The row with what counts of its number. -/
def numbered (number : Int32 → Int32) (r : Reservation) : Reservation :=
  { r with id := number r.id }

end Reservation

namespace Payment

/-- The row with what counts of its number. -/
def numbered (number : Int32 → Int32) (p : Payment) : Payment :=
  { p with id := number p.id }

end Payment

namespace Loyalty

/-- The row with what counts of its number. -/
def numbered (number : Int32 → Int32) (l : Loyalty) : Loyalty :=
  { l with id := number l.id }

end Loyalty

/-- Numbers do not count. -/
def unnumbered : Int32 → Int32 := fun _ => 0

/-! ## Belonging -/

namespace Stores

variable {s s' : Stores} {guest : Option String} {name : String} {own : List Uid} {u fresh : Uid}

/-- A payment belongs to a guest by a reservation, or it was drawn. -/
theorem belongs_some : s.Belongs (some name) own u ↔
    (∃ r ∈ s.reservationsOf name, r.paymentUid = u) ∨ u ∈ own ∧ s.Unmentioned u := by
  unfold Belongs
  refine or_congr_left (exists_congr fun r => ?_)
  rw [mem_reservationsOf, Option.some_inj, and_assoc, eq_comm (a := name)]

/-- What belongs to a guest with one more identifier drawn belonged to the guest before. -/
theorem Belongs.of_drawn (h : s.Belongs guest (fresh :: own) u) (other : u ≠ fresh) :
    s.Belongs guest own u := by
  refine h.imp_right fun ⟨mine, pending⟩ => ⟨?_, pending⟩
  exact (List.mem_cons.mp mine).resolve_left other

/-- The payment of a new reservation belonged to its guest before. -/
theorem Belongs.of_addReservation {r : Reservation}
    (charge : r.paymentUid ∈ own ∧ s.Unmentioned r.paymentUid)
    (h : (s.addReservation r).Belongs guest own u) : s.Belongs guest own u := by
  rcases h with ⟨r', member, owner, refers⟩ | ⟨mine, pending⟩
  · rcases List.mem_append.mp member with old | new
    · exact .inl ⟨r', old, owner, refers⟩
    · cases List.mem_singleton.mp new
      exact .inr (refers ▸ charge)
  · exact .inr ⟨mine, fun r' member => pending r' (List.mem_append_left _ member)⟩

/-- A change of the status makes no difference to what belongs to whom. -/
theorem Belongs.of_putReservation {r stored : Reservation}
    (found : s.reservation? r.uid = some stored) (same : stored.Restated r)
    (h : (s.putReservation r).Belongs guest own u) : s.Belongs guest own u := by
  have evolves : Rows.Evolves Reservation.Restated s.reservations
      (s.putReservation r).reservations := by
    refine .replaceFirst (Rows.Alike.refl _) fun stored' found' => ?_
    cases found.symm.trans found'
    rw [same.eq]
    rfl
  rcases h with ⟨r', member, owner, refers⟩ | ⟨mine, pending⟩
  · rcases Table.mem_replaceFirst member with old | ⟨stored', found', rfl⟩
    · exact .inl ⟨r', old, owner, refers⟩
    · cases found.symm.trans found'
      exact .inl ⟨stored, mem_of_reservation? found, same.username ▸ owner,
        same.paymentUid.symm.trans refers⟩
  · refine .inr ⟨mine, fun r' member => ?_⟩
    obtain ⟨i, at_i⟩ := List.getElem?_of_mem member
    obtain ⟨r'', at_i', same'⟩ := evolves i r' at_i
    have := pending r'' (List.mem_of_getElem? at_i')
    rwa [same'.uid, same'.paymentUid] at this

end Stores

/-! ## Likeness -/

namespace Stores

variable {name : String} {own : List Uid} {s s' : Stores}

/-- What the guest sees is alike in both stores. -/
structure AlikeFor (name : String) (s s' : Stores) : Prop where
  hotels : s'.hotels = s.hotels
  reservations : Rows.Alike (List.map (Reservation.numbered unnumbered)) (s.reservationsOf name)
    (s'.reservationsOf name)
  payments : ∀ r ∈ s.reservationsOf name,
    Rows.Alike (Option.map (Payment.numbered unnumbered)) (s.payment? r.paymentUid)
      (s'.payment? r.paymentUid)
  loyalty : Rows.Alike (Option.map (Loyalty.numbered unnumbered)) (s.loyalty? name)
    (s'.loyalty? name)

/-- What the guest sees and what belongs to an operation of the guest's is alike in both. -/
structure AlikeAmid (name : String) (own : List Uid) (s s' : Stores) : Prop where
  hotels : s'.hotels = s.hotels
  reservations : Rows.Alike (List.map (Reservation.numbered unnumbered)) (s.reservationsOf name)
    (s'.reservationsOf name)
  payments : ∀ u, s.Belongs (some name) own u → s'.Belongs (some name) own u →
    Rows.Alike (Option.map (Payment.numbered unnumbered)) (s.payment? u) (s'.payment? u)
  loyalty : Rows.Alike (Option.map (Loyalty.numbered unnumbered)) (s.loyalty? name)
    (s'.loyalty? name)

theorem AlikeFor.amid (h : AlikeFor name s s') : AlikeAmid name [] s s' where
  hotels := h.hotels
  reservations := h.reservations
  payments u belongs _ := by
    rcases belongs_some.mp belongs with ⟨r, member, rfl⟩ | ⟨impossible, -⟩
    · exact h.payments r member
    · cases impossible
  loyalty := h.loyalty

namespace AlikeAmid

/-- The payment of a reservation belongs to the guest in both. -/
theorem alikeFor (h : AlikeAmid name own s s') : AlikeFor name s s' where
  hotels := h.hotels
  reservations := h.reservations
  payments r member := by
    have paid : r.paymentUid ∈ (s'.reservationsOf name).map Reservation.paymentUid := by
      have same := congrArg (List.map Reservation.paymentUid) h.reservations
      simp only [List.map_map] at same
      exact same ▸ List.mem_map_of_mem member
    obtain ⟨r', member', refers⟩ := List.mem_map.mp paid
    exact h.payments _ (belongs_some.mpr (.inl ⟨r, member, rfl⟩))
      (belongs_some.mpr (.inl ⟨r', member', refers⟩))
  loyalty := h.loyalty

theorem symm (h : AlikeAmid name own s s') : AlikeAmid name own s' s where
  hotels := h.hotels.symm
  reservations := h.reservations.symm
  payments u belongs belongs' := (h.payments u belongs' belongs).symm
  loyalty := h.loyalty.symm

/-- An identifier new to both is drawn. -/
theorem drawn (h : AlikeAmid name own s s') {fresh : Uid} (unknown : fresh ∉ s.uids)
    (unknown' : fresh ∉ s'.uids) : AlikeAmid name (fresh :: own) s s' where
  hotels := h.hotels
  reservations := h.reservations
  payments u belongs belongs' := by
    by_cases new : u = fresh
    · rw [new, payment?_eq_none unknown, payment?_eq_none unknown']
      exact .refl _ _
    · exact h.payments u (belongs.of_drawn new) (belongs'.of_drawn new)
  loyalty := h.loyalty

/-- What is found by the identifier is alike, provided that it is the guest's. -/
theorem reservation? (h : AlikeAmid name own s s') {uid : Uid}
    (owned : ∀ r, s.reservation? uid = some r → r.username = name)
    (owned' : ∀ r, s'.reservation? uid = some r → r.username = name) :
    Rows.Alike (Option.map (Reservation.numbered unnumbered)) (s.reservation? uid)
      (s'.reservation? uid) := by
  have first {s : Stores} (owned : ∀ r, s.reservation? uid = some r → r.username = name) :
      (s.reservationsOf name).find? (·.uid == uid) = s.reservation? uid :=
    Table.find?_filter_of fun r found => by simp [owned r found]
  rw [← first owned, ← first owned']
  exact h.reservations.find? fun _ => rfl

/-! ## What the guest changes in both -/

section Reservations

variable {r r' : Reservation} (h : AlikeAmid name own s s')
  (alike : Rows.Alike (Reservation.numbered unnumbered) r r') (owner : r.username = name)

include h alike owner

theorem addReservation (charge : r.paymentUid ∈ own ∧ s.Unmentioned r.paymentUid)
    (charge' : r'.paymentUid ∈ own ∧ s'.Unmentioned r'.paymentUid) :
    AlikeAmid name own (s.addReservation r) (s'.addReservation r') where
  hotels := h.hotels
  reservations := by
    have owner' : r'.username = name :=
      (alike.column Reservation.username fun _ => rfl).trans owner
    have kept {s : Stores} {r : Reservation} (owner : r.username = name) :
        (s.addReservation r).reservationsOf name =
          s.reservationsOf name ++ [s.newReservation r] := by
      simp [reservationsOf, newReservation, owner]
    rw [kept owner, kept owner']
    exact h.reservations.append alike
  payments u belongs belongs' :=
    h.payments u (belongs.of_addReservation charge) (belongs'.of_addReservation charge')
  loyalty := h.loyalty

theorem putReservation {stored stored' : Reservation} (found : s.reservation? r.uid = some stored)
    (same : stored.Restated r) (found' : s'.reservation? r'.uid = some stored')
    (same' : stored'.Restated r') :
    AlikeAmid name own (s.putReservation r) (s'.putReservation r') where
  hotels := h.hotels
  reservations := by
    have owner' : r'.username = name :=
      (alike.column Reservation.username fun _ => rfl).trans owner
    have kept {s : Stores} {r stored : Reservation} (owner : r.username = name)
        (found : s.reservation? r.uid = some stored) (same : stored.Restated r) :
        (s.putReservation r).reservationsOf name = Table.replaceFirst (·.uid == r.uid)
          (fun stored => { r with id := stored.id }) (s.reservationsOf name) := by
      apply Table.filter_replaceFirst
      intro row found'
      cases found.symm.trans found'
      simp [owner, ← same.username]
    rw [kept owner found same, kept owner' found' same',
      alike.column Reservation.uid fun _ => rfl]
    apply h.reservations.replaceFirst fun _ => rfl
    intro row row' _
    exact alike.column (fun x : Reservation => { x with id := 0, uid := r.uid }) fun _ => rfl
  payments u belongs belongs' :=
    h.payments u (belongs.of_putReservation found same) (belongs'.of_putReservation found' same')
  loyalty := h.loyalty

end Reservations

section Payments

variable {p p' : Payment} (h : AlikeAmid name own s s')
  (alike : Rows.Alike (Payment.numbered unnumbered) p p')

include h alike

theorem addPayment (missing : s.payment? p.uid = none) (missing' : s'.payment? p'.uid = none) :
    AlikeAmid name own (s.addPayment p) (s'.addPayment p') where
  hotels := h.hotels
  reservations := h.reservations
  payments u belongs belongs' := by
    have same : p'.uid = p.uid := alike.column Payment.uid fun _ => rfl
    by_cases new : u = p.uid
    · rw [new, payment?_addPayment_self missing, ← same, payment?_addPayment_self missing']
      exact congrArg some alike
    · rw [payment?_addPayment_of_ne new, payment?_addPayment_of_ne (same ▸ new)]
      exact h.payments u belongs belongs'
  loyalty := h.loyalty

theorem putPayment : AlikeAmid name own (s.putPayment p) (s'.putPayment p') where
  hotels := h.hotels
  reservations := h.reservations
  payments u belongs belongs' := by
    have same : p'.uid = p.uid := alike.column Payment.uid fun _ => rfl
    have before := h.payments u belongs belongs'
    by_cases here : u = p.uid
    · subst here
      rw [payment?_putPayment_self, ← same, payment?_putPayment_self, same]
      apply before.option_map
      intro row row' alike'
      exact (alike'.column (fun x => { x with status := p'.status, price := p'.price, id := 0 })
        fun _ => rfl).trans (alike.column
          (fun x : Payment => { row with status := x.status, price := x.price, id := 0 })
          fun _ => rfl)
    · rw [payment?_putPayment_of_ne here, payment?_putPayment_of_ne (same ▸ here)]
      exact before
  loyalty := h.loyalty

end Payments

/-- A record of the guest's is saved, and the saved records are alike. -/
theorem saveLoyalty {l l' : Loyalty} (h : AlikeAmid name own s s')
    (alike : Rows.Alike (Loyalty.numbered unnumbered) l l') (owner : l.username = name) :
    Rows.Alike (Loyalty.numbered unnumbered) (s.savedLoyalty l) (s'.savedLoyalty l') ∧
      AlikeAmid name own (s.saveLoyalty l) (s'.saveLoyalty l') := by
  subst owner
  have same : l'.username = l.username := alike.column Loyalty.username fun _ => rfl
  have saved : Rows.Alike (Loyalty.numbered unnumbered) (s.savedLoyalty l)
      (s'.savedLoyalty l') := by
    have before := h.loyalty
    unfold savedLoyalty
    rw [same]
    cases found : s.loyalty? l.username with
    | none =>
        rw [found] at before
        rw [Option.map_eq_none_iff.mp before]
        exact alike.column (fun x : Loyalty => { x with username := l.username, id := 0 })
          fun _ => rfl
    | some row =>
        rw [found] at before
        obtain ⟨row', found', shown⟩ := Option.map_eq_some_iff.mp before
        have alike' : Rows.Alike (Loyalty.numbered unnumbered) row row' := shown
        rw [found']
        exact (alike'.column (fun x : Loyalty => { x with
          reservationCount := l'.reservationCount, status := l'.status, discount := l'.discount,
          id := 0 }) fun _ => rfl).trans (alike.column (fun x : Loyalty => { row with
          reservationCount := x.reservationCount, status := x.status, discount := x.discount,
          id := 0 }) fun _ => rfl)
  refine ⟨saved, h.hotels, h.reservations, h.payments, ?_⟩
  rw [loyalty?_saveLoyalty_self, ← same, loyalty?_saveLoyalty_self]
  exact congrArg some saved

end AlikeAmid

end Stores

end HotelBooking
