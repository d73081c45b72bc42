import HotelBooking.Proofs.Store.Growth

/-!
# What is a guest's

The rows of a guest are the reservations under the name of the guest, the payments that
these refer to, and the loyalty record. `Untouched` says that a change leaves them exactly
as they are. Every change of another guest's rows does, as long as payments are not shared.

A payment that no reservation refers to yet belongs to the operation that drew its
identifier. `Unmentioned` is what such an operation relies on, and what others keep.
-/

namespace HotelBooking

namespace Table

variable {ρ : Type} {p q : ρ → Bool} {change : ρ → ρ} {rows : List ρ}

/-- Replacing a row that is left out anyway. -/
theorem filter_replaceFirst_of_not
    (left_out : ∀ r, rows.find? p = some r → q r = false ∧ q (change r) = false) :
    (replaceFirst p change rows).filter q = rows.filter q := by
  cases found : rows.find? p with
  | none => rw [replaceFirst_of_find?_eq_none found]
  | some r =>
      obtain ⟨before, after, rfl, replaced⟩ := replaceFirst_eq_append found
      obtain ⟨old, new⟩ := left_out r found
      simp [replaced, old, new]

/-- Replacing a row that is not left out, before or after. -/
theorem filter_replaceFirst (kept : ∀ r, rows.find? p = some r → q r ∧ q (change r)) :
    (replaceFirst p change rows).filter q = replaceFirst p change (rows.filter q) := by
  induction rows with
  | nil => rfl
  | cons r rs ih =>
      by_cases hr : p r
      · obtain ⟨old, new⟩ := kept r (List.find?_cons_of_pos hr)
        simp [replaceFirst, hr, old, new]
      · rw [List.find?_cons_of_neg hr] at kept
        by_cases hq : q r <;> simp [replaceFirst, hr, hq, ih kept]

/-- What is found first of all is found first among those that are not left out. -/
theorem find?_filter_of (kept : ∀ r, rows.find? p = some r → q r) :
    (rows.filter q).find? p = rows.find? p := by
  induction rows with
  | nil => rfl
  | cons r rs ih =>
      by_cases hr : p r
      · have old := kept r (List.find?_cons_of_pos hr)
        rw [List.filter_cons_of_pos old, List.find?_cons_of_pos hr, List.find?_cons_of_pos hr]
      · rw [List.find?_cons_of_neg hr] at kept ⊢
        by_cases hq : q r
        · rw [List.filter_cons_of_pos hq, List.find?_cons_of_neg hr, ih kept]
        · rw [List.filter_cons_of_neg hq, ih kept]

end Table

namespace Stores

variable {s : Stores} {name : String} {u : Uid}

/-- The reservations of a guest, in the order in which they are stored. -/
def reservationsOf (s : Stores) (name : String) : List Reservation :=
  s.reservations.filter (·.username == name)

/-- No reservation goes by the identifier, and none refers to a payment by it. -/
def Unmentioned (s : Stores) (u : Uid) : Prop :=
  ∀ r ∈ s.reservations, r.uid ≠ u ∧ r.paymentUid ≠ u

/-- The rows of the guest are in both stores the same. -/
structure Untouched (name : String) (s s' : Stores) : Prop where
  reservations : s'.reservationsOf name = s.reservationsOf name
  payments : ∀ r ∈ s.reservationsOf name, s'.payment? r.paymentUid = s.payment? r.paymentUid
  loyalty : s'.loyalty? name = s.loyalty? name

theorem mem_reservationsOf {r : Reservation} :
    r ∈ s.reservationsOf name ↔ r ∈ s.reservations ∧ r.username = name := by
  simp [reservationsOf]

theorem unmentioned_of_unknown (unknown : u ∉ s.uids) : s.Unmentioned u := by
  intro r member
  refine ⟨?_, paymentUid_ne unknown member⟩
  rintro rfl
  apply unknown
  simp only [uids, List.mem_append, List.mem_map]
  exact .inl (.inl ⟨r, member, rfl⟩)

theorem Unmentioned.reservation? (h : s.Unmentioned u) : s.reservation? u = none := by
  apply List.find?_eq_none.mpr
  intro r member same
  exact (h r member).1 (by simpa using same)

theorem Untouched.refl (name : String) (s : Stores) : Untouched name s s :=
  ⟨rfl, fun _ _ => rfl, rfl⟩

theorem Untouched.trans {s' s'' : Stores} (first : Untouched name s s')
    (second : Untouched name s' s'') : Untouched name s s'' where
  reservations := second.reservations.trans first.reservations
  payments r member :=
    (second.payments r (first.reservations ▸ member)).trans (first.payments r member)
  loyalty := second.loyalty.trans first.loyalty

/-! ## Changes of what is not the guest's -/

@[simp] theorem unmentioned_addPayment (p : Payment) :
    (s.addPayment p).Unmentioned u ↔ s.Unmentioned u := Iff.rfl

@[simp] theorem unmentioned_putPayment (p : Payment) :
    (s.putPayment p).Unmentioned u ↔ s.Unmentioned u := Iff.rfl

@[simp] theorem unmentioned_saveLoyalty (l : Loyalty) :
    (s.saveLoyalty l).Unmentioned u ↔ s.Unmentioned u := Iff.rfl

theorem Unmentioned.addReservation (h : s.Unmentioned u) {r : Reservation} (uid : r.uid ≠ u)
    (paymentUid : r.paymentUid ≠ u) : (s.addReservation r).Unmentioned u := by
  intro r' member
  rcases List.mem_append.mp member with old | new
  · exact h r' old
  · cases List.mem_singleton.mp new
    exact ⟨uid, paymentUid⟩

theorem Unmentioned.putReservation (h : s.Unmentioned u) {r stored : Reservation}
    (found : s.reservation? r.uid = some stored) (same : stored.Restated r) :
    (s.putReservation r).Unmentioned u := by
  intro r' member
  rcases Table.mem_replaceFirst member with old | ⟨stored', found', rfl⟩
  · exact h r' old
  · cases found.symm.trans found'
    have := h stored (mem_of_reservation? found)
    rwa [← same.uid, ← same.paymentUid] at this

theorem Untouched.addPayment {p : Payment} (unknown : p.uid ∉ s.uids) :
    Untouched name s (s.addPayment p) where
  reservations := rfl
  payments _ member :=
    payment?_addPayment_of_ne (paymentUid_ne unknown (mem_reservationsOf.mp member).1)
  loyalty := rfl

theorem Untouched.putPayment {p : Payment}
    (others : ∀ r ∈ s.reservationsOf name, r.paymentUid ≠ p.uid) :
    Untouched name s (s.putPayment p) where
  reservations := rfl
  payments r member := payment?_putPayment_of_ne (others r member)
  loyalty := rfl

theorem Untouched.addReservation {r : Reservation} (other : r.username ≠ name) :
    Untouched name s (s.addReservation r) where
  reservations := by
    simp [reservationsOf, newReservation, other]
  payments _ _ := rfl
  loyalty := rfl

theorem Untouched.putReservation {r stored : Reservation}
    (found : s.reservation? r.uid = some stored) (same : stored.Restated r)
    (other : r.username ≠ name) : Untouched name s (s.putReservation r) where
  reservations := by
    apply Table.filter_replaceFirst_of_not
    intro stored' found'
    cases found.symm.trans found'
    simpa [same.username] using other
  payments _ _ := rfl
  loyalty := rfl

theorem Untouched.saveLoyalty {l : Loyalty} (other : l.username ≠ name) :
    Untouched name s (s.saveLoyalty l) where
  reservations := rfl
  payments _ _ := rfl
  loyalty := loyalty?_saveLoyalty_of_ne other.symm

end Stores

end HotelBooking
