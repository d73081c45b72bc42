import HotelBooking.Proofs.Store.Keyed

/-!
# The three tables

Reservations are known by their identifiers and are replaced as a whole, but for the number.
Payments are known by their identifiers as well, and an update gives them a status and a price.
Loyalty records are known by the name of the guest, and an update gives them a count with its
tier and discount. The stores in memory carry these rules out, each on its own table, and so
keep what every table with a unique key keeps.
-/

namespace HotelBooking

open Keyed (Rules Repository View Request History Keeps)

variable {σ : Type}

/-! ## Rules -/

def Reservation.rules : Rules Reservation Uid String where
  key := uid
  id := id
  numbered sent id := { sent with id }
  revised stored sent := { sent with id := stored.id }
  selects username r := r.username == username
  key_numbered _ _ := rfl
  id_numbered _ _ := rfl
  key_revised _ _ same := same.symm
  id_revised _ _ := rfl

def Payment.rules : Rules Payment Uid Empty where
  key := uid
  id := id
  numbered sent id := { sent with id }
  revised stored sent := { stored with status := sent.status, price := sent.price }
  selects := nofun
  key_numbered _ _ := rfl
  id_numbered _ _ := rfl
  key_revised _ _ _ := rfl
  id_revised _ _ := rfl

def Loyalty.rules : Rules Loyalty String Empty where
  key := username
  id := id
  numbered sent id := { sent with id }
  revised stored sent :=
    { stored with reservationCount := sent.reservationCount, status := sent.status,
                  discount := sent.discount }
  selects := nofun
  key_numbered _ _ := rfl
  id_numbered _ _ := rfl
  key_revised _ _ _ := rfl
  id_revised _ _ := rfl

/-! ## Repositories and stores -/

def ReservationRepository.keyed (repo : ReservationRepository σ) :
    Repository σ Reservation Uid String where
  insert := repo.insert
  update := repo.update
  find := repo.byUid
  search := repo.ofUser

def PaymentRepository.keyed (repo : PaymentRepository σ) : Repository σ Payment Uid Empty where
  insert := repo.insert
  update := repo.update
  find := repo.byUid
  search := nofun

def LoyaltyRepository.keyed (repo : LoyaltyRepository σ) : Repository σ Loyalty String Empty where
  insert := repo.insert
  update := repo.update
  find := repo.ofUser
  search := nofun

/-- A store that is nothing but its table. -/
def Table.view (ρ : Type) : View (Table ρ) ρ where
  table := id
  put t _ := t
  table_put _ _ := rfl
  put_table _ := rfl

/-- The reservations, beside the catalogue. -/
def ReservationStore.view : View ReservationStore Reservation where
  table := reservations
  put t s := { s with reservations := t }
  table_put _ _ := rfl
  put_table _ := rfl

namespace Memory

theorem reservations_implements :
    reservations.keyed.Implements Reservation.rules ReservationStore.view where
  insert sent := by
    refine ⟨"duplicate reservation uid " ++ sent.uid.toText, fun s => ?_⟩
    refine (Action.perform_within ReservationStore.reservations
      (fun t s => { s with reservations := t })
      (Table.insertUnless (·.uid == sent.uid) _ fun id => { sent with id }) s).trans ?_
    rw [Table.perform_insertUnless]
    by_cases taken : (s.reservations.find? (·.uid == sent.uid)).isSome
    · rw [if_pos taken]
      exact (if_pos taken).symm
    · rw [if_neg taken]
      exact (if_neg taken).symm
  update _ _ := rfl
  find _ _ := rfl
  search _ _ := rfl

theorem payments_implements : payments.keyed.Implements Payment.rules (Table.view Payment) where
  insert sent := by
    refine ⟨"duplicate payment uid " ++ sent.uid.toText, fun t => ?_⟩
    exact Table.perform_insertUnless _ _ _ t
  update _ _ := rfl
  find _ _ := rfl
  search := nofun

theorem loyalty_implements : loyalty.keyed.Implements Loyalty.rules (Table.view Loyalty) where
  insert sent := by
    refine ⟨"duplicate loyalty username " ++ sent.username, fun t => ?_⟩
    exact Table.perform_insertUnless _ _ _ t
  update _ _ := rfl
  find _ _ := rfl
  search := nofun

/-- Each store in memory, empty at first, keeps one table with a unique key and numbers in the
order of insertion, whatever it is asked, as long as the numbers last. -/
theorem stores_keep_tables (hotels : List Hotel)
    (ofReservations : List (Request Reservation Uid String))
    (ofPayments : List (Request Payment Uid Empty))
    (ofLoyalty : List (Request Loyalty String Empty))
    (fewReservations : ofReservations.countP Request.isInsert < 2 ^ 31 - 1)
    (fewPayments : ofPayments.countP Request.isInsert < 2 ^ 31 - 1)
    (fewRecords : ofLoyalty.countP Request.isInsert < 2 ^ 31 - 1) :
    Keeps reservations.keyed Reservation.rules ReservationStore.view
      (.of reservations.keyed { hotels, reservations := {} } ofReservations) ∧
    Keeps payments.keyed Payment.rules (Table.view Payment)
      (.of payments.keyed {} ofPayments) ∧
    Keeps loyalty.keyed Loyalty.rules (Table.view Loyalty) (.of loyalty.keyed {} ofLoyalty) :=
  ⟨Keyed.keeps_of reservations_implements rfl ofReservations fewReservations,
    Keyed.keeps_of payments_implements rfl ofPayments fewPayments,
    Keyed.keeps_of loyalty_implements rfl ofLoyalty fewRecords⟩

/-- Eve is refused the identifier that Ada has, with no number lost. Ada's stay then goes over to
Bob, who has it under its own number in front of the one that he booked himself. -/
theorem reservation_handed_over :
    let arrival : Date := ⟨2026, 5, 1, by decide⟩
    let departure : Date := ⟨2026, 5, 3, by decide⟩
    let stay (uid : Nat) (name : String) (id : Int32) : Reservation :=
      { Reservation.draft (.ofNat uid) name (.ofNat 9) 1 .paid arrival departure with id }
    let requests : List (Request Reservation Uid String) :=
      [.insert (stay 1 "ada" 7), .insert (stay 1 "eve" 7), .insert (stay 2 "bob" 7),
        .update (stay 1 "bob" 7), .update (stay 3 "bob" 7)]
    let history := History.of reservations.keyed {} requests
    requests.countP Request.isInsert < 2 ^ 31 - 1 ∧
      Keeps reservations.keyed Reservation.rules ReservationStore.view history ∧
      ((reservations.ofUser "bob").perform history.store).1 =
        .ok [stay 1 "bob" 1, stay 2 "bob" 2] := by
  intro arrival departure stay requests history
  have few : requests.countP Request.isInsert < 2 ^ 31 - 1 := by decide
  have kept := stores_keep_tables [demoHotel] requests [] [] few (by decide) (by decide)
  refine ⟨few, kept.1, ?_⟩
  decide +kernel

end Memory

end HotelBooking
