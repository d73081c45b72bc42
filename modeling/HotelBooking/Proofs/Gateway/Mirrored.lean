import HotelBooking.Proofs.Gateway.SideBySide

/-!
# Calls that a guest cannot tell apart

Two runs of a guest's operations on stores that are alike to the guest. Every pair of tied
calls, lawful in both runs and answered with the same fresh identifier, has outcomes that
go together and leaves the stores alike. What a guest asks for by name must be the guest's
or be missing; of nothing else does an answer say more than what is alike.
-/

namespace HotelBooking

/-- A guest may ask for some reservations by name, and sees no row numbers. -/
def Leeway.guest (asks : Uid → Prop) : Leeway where
  number := unnumbered
  asks := asks
  names _ := True
  errors := Eq
  errors_refl _ := rfl
  isNotFound_eq same := congrArg ServiceError.isNotFound same.symm

/-- Whoever asks for one of these reservations finds the guest's, or none. -/
def Stores.Owned (name : String) (asks : Uid → Prop) (s : Stores) : Prop :=
  ∀ uid, asks uid → ∀ r, s.reservation? uid = some r → r.username = name

/-- Rows stay under their names, so what is the guest's in the end was so before. -/
theorem Stores.Owned.earlier {name : String} {asks : Uid → Prop} {w w' : Platform}
    (h : w'.stores.Owned name asks) (grows : w.Grows w') : w.stores.Owned name asks := by
  intro uid asked r found
  obtain ⟨r', found', same⟩ := grows.reservation? found
  exact same.username.symm.trans (h uid asked r' found')

section Outcomes

variable {α : Type} {v : Leeway} {seen : α → α} {o o' : Option α}

/-- What is found in both is alike, and what is missing in both is missed by the same error. -/
theorem foundOr_alike (alike : Rows.Alike (Option.map seen) o o') (what : String) :
    Outcome.Alike v (Rows.Alike seen) (foundOr what o) (foundOr what o') := by
  cases o with
  | none =>
      rw [Option.map_eq_none_iff.mp alike]
      exact v.errors_refl _
  | some a =>
      obtain ⟨a', rfl, shown⟩ := Option.map_eq_some_iff.mp alike
      exact shown

theorem outcome_refl (o : Outcome α) : Outcome.Alike v Eq o o := by
  cases o with
  | ok a => rfl
  | error e => exact v.errors_refl e

end Outcomes

namespace Leeway

variable {asks : Uid → Prop} {name : String} {own : List Uid} {w w' : Platform} {fresh : Uid}

/-- A lost call is lost in both runs. -/
theorem Ties.lost {v : Leeway} {c c' : Call} {K : Outcome c.Answer → Outcome c'.Answer → Prop}
    (tie : v.Ties c c' K) (e : ServiceError) : K (.error e) (.error e) := by
  cases tie <;> exact v.errors_refl e

section Served

variable (alike : Stores.AlikeAmid name own w.stores w'.stores)
  (unknown : fresh ∉ w.stores.uids) (unknown' : fresh ∉ w'.stores.uids)

include alike unknown unknown'

theorem served_createReservation {r r' : Reservation}
    (same : (Leeway.guest asks).reservation r r')
    (lawful : (Call.createReservation r).Lawful (some name) own w)
    (lawful' : (Call.createReservation r').Lawful (some name) own w') :
    Outcome.Alike (Leeway.guest asks) (Leeway.guest asks).reservation
        ((Call.createReservation r).served fresh w.stores).1
        ((Call.createReservation r').served fresh w'.stores).1 ∧
      Stores.AlikeAmid name (fresh :: own) ((Call.createReservation r).served fresh w.stores).2
        ((Call.createReservation r').served fresh w'.stores).2 := by
  obtain ⟨owner, ⟨-, -, free⟩, charge, -⟩ := lawful
  obtain ⟨-, ⟨-, -, free'⟩, charge', -⟩ := lawful'
  have drawn := alike.drawn unknown unknown'
  have stored : Rows.Alike (Reservation.numbered unnumbered) (Call.identified fresh r)
      (Call.identified fresh r') := by
    have same' : r'.uid = r.uid := same.column Reservation.uid fun _ => rfl
    unfold Call.identified
    rw [same']
    split
    · exact same.column (fun x : Reservation => { x with uid := fresh, id := 0 }) fun _ => rfl
    · exact same
  have vacant : w.stores.reservation? (Call.identified fresh r).uid = none :=
    Call.uid_identified (P := fun u => w.stores.reservation? u = none) free.reservation?
      (Stores.reservation?_eq_none unknown)
  have vacant' : w'.stores.reservation? (Call.identified fresh r').uid = none :=
    Call.uid_identified (P := fun u => w'.stores.reservation? u = none) free'.reservation?
      (Stores.reservation?_eq_none unknown')
  rw [Call.served_createReservation, Call.served_createReservation, vacant, vacant',
    same.column Reservation.username fun _ => rfl, same.column Reservation.startDate fun _ => rfl,
    same.column Reservation.endDate fun _ => rfl]
  simp only [Option.isSome_none, Bool.false_eq_true, if_false]
  split_ifs with blank ordered
  · exact ⟨rfl, drawn⟩
  · refine ⟨stored, drawn.addReservation stored ?_ ?_ ?_⟩
    · exact Call.username_identified.trans (Option.some.inj owner).symm
    · rw [Call.paymentUid_identified]
      exact charge.imp_left (List.mem_cons_of_mem _)
    · rw [Call.paymentUid_identified]
      exact charge'.imp_left (List.mem_cons_of_mem _)
  · exact ⟨rfl, drawn⟩

end Served

/-- Calls of the guest's that are tied leave the stores alike. -/
theorem Ties.served {c c' : Call} {K : Outcome c.Answer → Outcome c'.Answer → Prop}
    (tie : (Leeway.guest asks).Ties c c' K) (alike : Stores.AlikeAmid name own w.stores w'.stores)
    (lawful : c.Lawful (some name) own w) (lawful' : c'.Lawful (some name) own w')
    (unknown : fresh ∉ w.stores.uids) (unknown' : fresh ∉ w'.stores.uids)
    (owned : w.stores.Owned name asks) (owned' : w'.stores.Owned name asks) :
    K (c.served fresh w.stores).1 (c'.served fresh w'.stores).1 ∧
      Stores.AlikeAmid name (fresh :: own) (c.served fresh w.stores).2
        (c'.served fresh w'.stores).2 := by
  have drawn := alike.drawn unknown unknown'
  have catalogue : w'.stores.reservation.hotels = w.stores.reservation.hotels := alike.hotels
  cases tie with
  | listHotels page size =>
      rw [Call.served_listHotels, Call.served_listHotels, catalogue]
      exact ⟨outcome_refl _, drawn⟩
  | getHotelById id =>
      rw [Call.served_getHotelById, Call.served_getHotelById, catalogue]
      exact ⟨outcome_refl _, drawn⟩
  | getHotelByUid uid =>
      rw [Call.served_getHotelByUid, Call.served_getHotelByUid, catalogue]
      exact ⟨outcome_refl _, drawn⟩
  | listReservations =>
      cases lawful
      exact ⟨alike.reservations, drawn⟩
  | getReservation asked =>
      rw [Call.served_getReservation, Call.served_getReservation]
      exact ⟨foundOr_alike (alike.reservation? (owned _ asked) (owned' _ asked)) _, drawn⟩
  | createReservation same _ =>
      exact served_createReservation alike unknown unknown' same lawful lawful'
  | updateReservation same =>
      obtain ⟨owner, stored, found, restated⟩ := lawful
      obtain ⟨-, stored', found', restated'⟩ := lawful'
      rw [Call.served_updateReservation, Call.served_updateReservation, found, found']
      exact ⟨rfl, drawn.putReservation same (Option.some.inj owner).symm found restated found'
        restated'⟩
  | createPayment price =>
      rw [Call.served_createPayment, Call.served_createPayment,
        Stores.payment?_eq_none unknown, Stores.payment?_eq_none unknown']
      simp only [Option.isSome_none, Bool.false_eq_true, if_false]
      split_ifs with negative
      · exact ⟨rfl, drawn⟩
      · have same := Rows.Alike.refl (Payment.numbered unnumbered) (Payment.charge fresh price)
        exact ⟨same, drawn.addPayment same (Stores.payment?_eq_none unknown)
          (Stores.payment?_eq_none unknown')⟩
  | getPayment uid =>
      rw [Call.served_getPayment, Call.served_getPayment]
      exact ⟨foundOr_alike (alike.payments uid lawful lawful') _, drawn⟩
  | updatePayment same =>
      obtain ⟨-, stored, found, -⟩ := lawful
      obtain ⟨-, stored', found', -⟩ := lawful'
      rw [Call.served_updatePayment, Call.served_updatePayment, found, found',
        same.column Payment.price fun _ => rfl]
      split_ifs with negative
      · exact ⟨rfl, drawn⟩
      · exact ⟨rfl, drawn.putPayment same⟩
  | getLoyalty =>
      cases lawful
      rw [Call.served_getLoyalty, Call.served_getLoyalty]
      exact ⟨(foundOr_alike alike.loyalty _).mono fun _ _ same => ⟨same, trivial⟩, drawn⟩
  | updateLoyalty same =>
      rename_i l l'
      obtain ⟨same, -⟩ := same
      have recomputed : Rows.Alike (Loyalty.numbered unnumbered) l.recompute l'.recompute :=
        congrArg Loyalty.recompute same
      rw [Call.served_updateLoyalty, Call.served_updateLoyalty,
        same.column Loyalty.username fun _ => rfl]
      split_ifs with blank
      · exact ⟨rfl, drawn⟩
      · obtain ⟨saved, alike'⟩ := drawn.saveLoyalty recomputed
          ((Loyalty.username_recompute l).trans (Option.some.inj lawful).symm)
        exact ⟨⟨saved, trivial⟩, alike'⟩

/-- So do they if they are lost in both runs. -/
theorem Ties.answered {c c' : Call} {K : Outcome c.Answer → Outcome c'.Answer → Prop}
    (tie : (Leeway.guest asks).Ties c c' K) (alike : Stores.AlikeAmid name own w.stores w'.stores)
    (lawful : c.Lawful (some name) own w) (lawful' : c'.Lawful (some name) own w')
    (unknown : fresh ∉ w.stores.uids) (unknown' : fresh ∉ w'.stores.uids)
    (owned : w.stores.Owned name asks) (owned' : w'.stores.Owned name asks)
    (lost : Option ServiceError) :
    K (w.answer fresh c (lost.map .lost)).1 (w'.answer fresh c' (lost.map .lost)).1 ∧
      Stores.AlikeAmid name (fresh :: own) (w.answer fresh c (lost.map .lost)).2.stores
        (w'.answer fresh c' (lost.map .lost)).2.stores := by
  cases lost with
  | none => exact tie.served alike lawful lawful' unknown unknown' owned owned'
  | some e => exact ⟨tie.lost e, alike.drawn unknown unknown'⟩

end Leeway

end HotelBooking
