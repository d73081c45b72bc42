import HotelBooking.Proofs.Gateway.Company
import HotelBooking.Proofs.Gateway.Outline
import HotelBooking.Proofs.Loyalty

/-!
# Cancellations at the same time

Any number of requests to cancel one paid stay, with their calls in any order and no call
failing. Each looks at the reservation once, when it begins. Whoever finds it paid marks
it, then the payment, and then takes the stay off the count of its owner in two calls: one
that reads the record and one that saves it.

The record may be read while another request has taken the stay off already. `lateReads`
counts the requests that do so in a run, and they are all that can make the count go down
by more than one.

Where no call fails a request is at one of seven stages, and `Stage.next` is what one call
makes of a stage and the stores. `Racing` is what holds of the stages of all requests.
-/

namespace HotelBooking

/-- A stay: its reservation, the charge for it and the record of its owner. -/
structure Stay where
  reservation : Reservation
  charge : Payment
  record : Loyalty

namespace Stay

/-- How many stays count for the owner. -/
def count (stay : Stay) : Int := stay.record.reservationCount.toInt

/-- The stay is paid and counts, and the rows are stored. -/
structure StoredIn (stay : Stay) (s : Stores) : Prop where
  reserved : s.reservation? stay.reservation.uid = some stay.reservation
  charged : s.payment? stay.reservation.paymentUid = some stay.charge
  recorded : s.loyalty? stay.reservation.username = some stay.record
  reservationPaid : stay.reservation.status = .paid
  chargePaid : stay.charge.status = .paid
  price : ¬ stay.charge.price < 0
  counts : 1 ≤ stay.count

end Stay

/-- The request is to cancel the reservation and comes from its owner. -/
def GuestRequest.Cancels (r : Reservation) : GuestRequest → Prop
  | .cancel uidText username =>
    Gateway.parseUid uidText = .ok r.uid ∧ Gateway.requireUsername username = .ok r.username
  | _ => False

instance (r : Reservation) : DecidablePred (GuestRequest.Cancels r)
  | .cancel .. => inferInstanceAs (Decidable (_ ∧ _))
  | .hotels .. | .guest _ | .bookings _ | .loyalty _ | .booking .. | .book .. => .isFalse id

namespace Task

/-- The request has been answered. -/
def HasEnded (task : Task) : Prop := ∃ o, task.thread.rest = .done o

/-- The request has been answered with success. -/
def HasSucceeded (task : Task) : Prop := ∃ a, task.thread.rest = .done (.ok a)

instance : DecidablePred HasSucceeded
  | ⟨_, ⟨_, .done (.ok a)⟩⟩ => .isTrue ⟨a, rfl⟩
  | ⟨_, ⟨_, .done (.error _)⟩⟩ | ⟨_, ⟨_, .call ..⟩⟩ | ⟨_, ⟨_, .fresh _⟩⟩ | ⟨_, ⟨_, .log ..⟩⟩ =>
    .isFalse fun ⟨_, h⟩ => nomatch h

/-- The call that a request is about to make. -/
def asks? (task : Task) : Option Call :=
  match task.thread.rest with
  | .call c _ => some c
  | _ => none

end Task

/-! ## Runs on cue -/

section Unfailing

variable {α : Type} {w w' : Platform} {log : List LogLine} {c : Call} {cue : Cue}
  {next : Outcome c.Answer → Program α} {t : Thread α}

/-- Every call is answered. -/
theorem follow_unfailing
    (h : Thread.follow Unfailing cue w ⟨log, .call c next⟩ = some (w', t)) :
    w' = ⟨(c.served cue.fresh w.stores).2, cue.fresh :: w.used⟩ ∧
      t = ⟨log, next (c.served cue.fresh w.stores).1⟩ := by
  rw [Thread.follow] at h
  split at h
  · cases h
  · rename_i open_
    rw [not_or, not_not] at open_
    have smooth : cue.mishap c = none := by
      cases given : cue.mishap c with
      | none => rfl
      | some m =>
          rw [given] at open_
          exact (of_decide_eq_true (by simpa [given] using open_.2) : Unfailing log c m).elim
    rw [smooth, Platform.answer_none] at h
    cases h
    exact ⟨rfl, rfl⟩

/-- Whoever has an identifier for it can make the next call. -/
theorem follows_unfailing {fresh : Uid} (unused : fresh ∉ w.used) :
    ∃ after, Thread.follow Unfailing { fresh } w ⟨log, .call c next⟩ = some after := by
  rw [Thread.follow]
  simp [unused]

end Unfailing

namespace Traffic

variable (options : GatewayOptions) (faults : Faults)
  [∀ log (c : Call) (m : Mishap c.Answer), Decidable (faults log c m)]

/-- A request reads the record of a stay's owner, which another has saved since. -/
def isLateRead (stay : Stay) (c : Traffic) : Move → Bool
  | .arrive _ => false
  | .advance i _ =>
    (c.tasks[i]?).bind Task.asks? = some (.getLoyalty stay.reservation.username) &&
      c.platform.stores.loyalty? stay.reservation.username ≠ some stay.record

/-- How often that happens in a run. -/
def lateReads (stay : Stay) : List Move → Traffic → Nat
  | [], _ => 0
  | move :: moves, c =>
    (if c.isLateRead stay move then 1 else 0) +
      ((c.follow options faults move).map (lateReads stay moves)).getD 0

end Traffic

/-! ## Stages -/

/-- How far a request to cancel a stay has come, with what it was told on the way. -/
inductive Stage where
  | fetch (uidText username : String)
  | mark
  | findCharge
  | void (p : Payment)
  | findRecord (p : Payment)
  | save (p : Payment) (l : Loyalty)
  | ended

namespace Stage

open Gateway Operation

/-- What is left to do for a request to cancel the reservation. -/
def program (options : GatewayOptions) (r : Reservation) : Stage → Program (Outcome Unit)
  | fetch uidText username => (cancel options uidText username).run
  | mark => (do
    ask (.updateReservation r.cancel)
    cancelCharge options r.username r : Operation Unit).run
  | findCharge => (cancelCharge options r.username r).run
  | void p => (voidCharge options r.username r p).run
  | findRecord p => (releaseStay options r.username r p).run
  | save p l => (do
    let _ ← settle options (paymentCanceled r p) (.updateLoyalty l.release) : Operation Unit).run
  | ended => .done (.ok ())

/-- How many calls are left at the most. -/
def left : Stage → Nat
  | fetch .. => 6
  | mark => 5
  | findCharge => 4
  | void _ => 3
  | findRecord _ => 2
  | save .. => 1
  | ended => 0

/-- What one call makes of a stage and the stores. -/
def next (r : Reservation) (s : Stores) : Stage → Stage × Stores
  | fetch .. => (if s.reservation? r.uid = some r.cancel then ended else mark, s)
  | mark => (findCharge, s.putReservation r.cancel)
  | findCharge => (((s.payment? r.paymentUid).map void).getD ended, s)
  | void p => (findRecord p, s.putPayment p.cancel)
  | findRecord p => (((s.loyalty? r.username).map (save p)).getD ended, s)
  | save _ l => (ended, s.saveLoyalty l.release)
  | ended => (ended, s)

/-- A request has marked the reservation and has not ended. -/
def IsHalfway : Stage → Prop
  | fetch .. | mark | ended => False
  | findCharge | void _ | findRecord _ | save .. => True

end Stage

/-! ## What holds of a race -/

namespace Stay

variable (stay : Stay) (late : Nat) (s : Stores)

def Marked : Prop := s.reservation? stay.reservation.uid = some stay.reservation.cancel

def Voided : Prop := s.payment? stay.reservation.paymentUid = some stay.charge.cancel

/-- The stay was taken off the count, by the late reads more than once. -/
def TakenOff : Prop :=
  ∃ l, s.loyalty? stay.reservation.username = some l ∧
    max 0 (stay.count - 1 - late) ≤ l.reservationCount.toInt ∧
    l.reservationCount.toInt ≤ stay.count - 1

/-- The rows of the stay, whatever was done to them so far. -/
structure Standing : Prop where
  reserved : s.reservation? stay.reservation.uid = some stay.reservation ∨ stay.Marked s
  charged : s.payment? stay.reservation.paymentUid = some stay.charge ∨ stay.Voided s
  recorded : s.loyalty? stay.reservation.username = some stay.record ∨ stay.TakenOff late s

/-- A payment that was read is the charge, as it was or canceled. -/
def Charged (p : Payment) : Prop := p = stay.charge ∨ p = stay.charge.cancel

/-- A record that was read is the owner's, with what was taken off it before. -/
structure Recorded (l : Loyalty) : Prop where
  owner : l.username = stay.reservation.username
  least : max 0 (stay.count - late) ≤ l.reservationCount.toInt
  most : l.reservationCount.toInt ≤ stay.count

variable {stay : Stay} {late : Nat} {s : Stores} (h : stay.Standing late s)

include h

theorem Standing.exists_reservation : ∃ r, s.reservation? stay.reservation.uid = some r ∧
    (r = stay.reservation ∨ r = stay.reservation.cancel) := by
  rcases h.reserved with found | found
  · exact ⟨_, found, .inl rfl⟩
  · exact ⟨_, found, .inr rfl⟩

theorem Standing.exists_charge : ∃ p, s.payment? stay.reservation.paymentUid = some p ∧
    stay.Charged p := by
  rcases h.charged with found | found
  · exact ⟨_, found, .inl rfl⟩
  · exact ⟨_, found, .inr rfl⟩

theorem Standing.exists_record : ∃ l, s.loyalty? stay.reservation.username = some l := by
  rcases h.recorded with found | ⟨l, found, -⟩ <;> exact ⟨_, found⟩

end Stay

/-- What a request at a stage has done and knows. -/
def Stage.Fits (stay : Stay) (late : Nat) (s : Stores) : Stage → Prop
  | fetch uidText username => Gateway.parseUid uidText = .ok stay.reservation.uid ∧
    Gateway.requireUsername username = .ok stay.reservation.username
  | mark => True
  | findCharge | ended => stay.Marked s
  | void p => stay.Marked s ∧ stay.Charged p
  | findRecord p => stay.Marked s ∧ stay.Charged p ∧ stay.Voided s
  | save p l => stay.Marked s ∧ stay.Charged p ∧ stay.Voided s ∧ stay.Recorded late l

/-- All requests are at stages that fit. Once the reservation is marked, one of them is on
halfway, or else the stay is canceled wholly. -/
structure Racing (stay : Stay) (late : Nat) (s : Stores) (stages : List Stage) : Prop where
  standing : stay.Standing late s
  fits : ∀ stage ∈ stages, stage.Fits stay late s
  whole : stay.Marked s →
    (∃ (i : Nat) (stage : Stage), stages[i]? = some stage ∧ stage.IsHalfway) ∨
      stay.Voided s ∧ stay.TakenOff late s

/-! ## One call -/

namespace Stage

open Gateway Operation

/-- The call that a request makes at a stage. -/
def call? (r : Reservation) : Stage → Option Call
  | fetch .. => some (.getReservation r.uid)
  | mark => some (.updateReservation r.cancel)
  | findCharge => some (.getPayment r.paymentUid)
  | void p => some (.updatePayment p.cancel)
  | findRecord _ => some (.getLoyalty r.username)
  | save _ l => some (.updateLoyalty l.release)
  | ended => none

variable {options : GatewayOptions} {stay : Stay} {late : Nat} {s : Stores} {stage : Stage}

theorem exists_call (r : Reservation) (going : stage ≠ .ended) : ∃ c, stage.call? r = some c := by
  cases stage with
  | ended => exact absurd rfl going
  | _ => exact ⟨_, rfl⟩

theorem ofOutcome_ok_bind {α β : Type} (a : α) (f : α → Operation β) :
    ofOutcome (.ok a) >>= f = f a := rfl

/-- The user's own reservation is fetched. -/
theorem run_ownedReservation_bind {β : Type} (uid : Uid) (name : String)
    (f : Reservation → Operation β) : ∃ k,
      (ownedReservation uid name >>= f).run = .call (.getReservation uid) k ∧
        ∀ r, r.isOwnedBy name → k (.ok r) = (f r).run := by
  refine ⟨_, rfl, fun r own => ?_⟩
  change ((if r.isOwnedBy name then pure r else throw _ : Operation Reservation) >>= f).run = _
  rw [if_pos own]
  rfl

/-- A request looks at the reservation, which is paid or canceled. -/
theorem program_fetch (options : GatewayOptions) {uidText username : String}
    {r stored : Reservation} (paid : r.status = .paid)
    (parsed : parseUid uidText = .ok r.uid) (named : requireUsername username = .ok r.username)
    (found : s.reservation? r.uid = some stored) (standing : stored = r ∨ stored = r.cancel) :
    ∃ k, (fetch uidText username).program options r = .call (.getReservation r.uid) k ∧
      k (.ok stored) = ((fetch uidText username).next r s).1.program options r := by
  have start : (fetch uidText username).program options r =
      (ownedReservation r.uid r.username >>= cancelOwned options r.username).run := by
    rw [program, cancel_eq, named, ofOutcome_ok_bind, parsed, ofOutcome_ok_bind]
  obtain ⟨k, asks, goes_on⟩ :=
    run_ownedReservation_bind r.uid r.username (cancelOwned options r.username)
  refine ⟨k, start.trans asks, ?_⟩
  rcases standing with rfl | rfl
  · have unmarked : stored ≠ stored.cancel := fun same => by
      have := congrArg Reservation.status same
      rw [paid] at this
      cases this
    rw [goes_on _ (by simp [Reservation.isOwnedBy]), cancelOwned, paid, if_neg nofun, next,
      if_neg (by simp [found, unmarked])]
    rfl
  · rw [goes_on _ (by simp [Reservation.isOwnedBy, Reservation.cancel]), cancelOwned,
      if_pos (show r.cancel.status = .canceled from rfl), next, if_pos found]
    rfl

/-- At each stage but the last a request makes its call, is answered and goes on to the next. -/
theorem program_eq (options : GatewayOptions) {start : Stores} (paid : stay.StoredIn start)
    (named : Text.isBlankText stay.reservation.username = false) (standing : stay.Standing late s)
    (fits : stage.Fits stay late s) {c : Call} (asks : stage.call? stay.reservation = some c) :
    ∃ k, stage.program options stay.reservation = .call c k ∧
      ∀ fresh, ∃ a, c.served fresh s = (.ok a, (stage.next stay.reservation s).2) ∧
        k (.ok a) = (stage.next stay.reservation s).1.program options stay.reservation := by
  cases stage with
  | fetch uidText username =>
      obtain ⟨parsed, named⟩ := fits
      cases asks
      obtain ⟨stored, found, standing⟩ := standing.exists_reservation
      obtain ⟨k, asks, goes_on⟩ := program_fetch options paid.reservationPaid parsed
        named found standing
      refine ⟨k, asks, fun fresh => ⟨stored, ?_, goes_on⟩⟩
      rw [Call.served_getReservation, found]
      rfl
  | mark =>
      cases asks
      obtain ⟨stored, found, -⟩ := standing.exists_reservation
      exact ⟨_, rfl, fun fresh => ⟨(), Call.served_updateReservation_of_found fresh s found, rfl⟩⟩
  | findCharge =>
      cases asks
      obtain ⟨p, found, -⟩ := standing.exists_charge
      refine ⟨_, rfl, fun fresh => ⟨p, ?_, ?_⟩⟩
      · rw [Call.served_getPayment, found]
        rfl
      · rw [next, found]
        rfl
  | void p =>
      cases asks
      obtain ⟨-, charged⟩ := fits
      have chargeable : ¬ p.cancel.price < 0 := by
        rcases charged with rfl | rfl <;> exact paid.price
      have uid : p.cancel.uid = stay.reservation.paymentUid := by
        have := Stores.uid_of_payment? paid.charged
        rcases charged with rfl | rfl <;> exact this
      obtain ⟨stored, found, -⟩ := standing.exists_charge
      rw [← uid] at found
      exact ⟨_, rfl, fun fresh =>
        ⟨(), Call.served_updatePayment_of_found fresh s chargeable found, rfl⟩⟩
  | findRecord p =>
      cases asks
      obtain ⟨l, found⟩ := standing.exists_record
      refine ⟨_, rfl, fun fresh => ⟨l, ?_, ?_⟩⟩
      · rw [Call.served_getLoyalty, found]
        rfl
      · rw [next, found]
        rfl
  | save p l =>
      cases asks
      obtain ⟨-, -, -, recorded⟩ := fits
      refine ⟨_, rfl, fun fresh => ⟨s.savedLoyalty l.release, ?_, rfl⟩⟩
      have answered := Call.served_updateLoyalty_of_named fresh s (l := l.release) (by
        rw [Loyalty.username_release, recorded.owner]
        exact named)
      rwa [Loyalty.recompute_release] at answered
  | ended => cases asks

end Stage

/-! ## What one call keeps -/

/-- The request is about to read the record, which another has saved since. -/
def Stage.IsLate (stay : Stay) (s : Stores) (stage : Stage) : Prop :=
  stage.call? stay.reservation = some (.getLoyalty stay.reservation.username) ∧
    s.loyalty? stay.reservation.username ≠ some stay.record

instance (stay : Stay) (s : Stores) (stage : Stage) : Decidable (stage.IsLate stay s) :=
  inferInstanceAs (Decidable (_ ∧ _))

section Steps

variable {stay : Stay} {late late' : Nat} {s s' s₀ : Stores} {stage : Stage}

theorem Stay.TakenOff.mono (h : stay.TakenOff late s) (more : late ≤ late') :
    stay.TakenOff late' s := by
  obtain ⟨l, found, least, most⟩ := h
  exact ⟨l, found, by omega, most⟩

theorem Stay.Recorded.mono {l : Loyalty} (h : stay.Recorded late l) (more : late ≤ late') :
    stay.Recorded late' l :=
  ⟨h.owner, by have := h.least; omega, h.most⟩

/-- What a request has done is not taken back. -/
theorem Stage.Fits.mono (h : stage.Fits stay late s) (more : late ≤ late')
    (marked : stay.Marked s → stay.Marked s') (voided : stay.Voided s → stay.Voided s') :
    stage.Fits stay late' s' := by
  cases stage with
  | fetch => exact h
  | mark => trivial
  | findCharge | ended => exact marked h
  | void => exact h.imp_left marked
  | findRecord => exact ⟨marked h.1, h.2.1, voided h.2.2⟩
  | save => exact ⟨marked h.1, h.2.1, voided h.2.2.1, h.2.2.2.mono more⟩

theorem Stay.Standing.mono (h : stay.Standing late s) (more : late ≤ late') :
    stay.Standing late' s :=
  { h with recorded := h.recorded.imp_right fun taken => taken.mono more }

theorem Stay.Standing.marked_putReservation (h : stay.Standing late s) :
    stay.Marked (s.putReservation stay.reservation.cancel) := by
  have found := Stores.reservation?_putReservation_self (s := s) stay.reservation.cancel
  refine found.trans ?_
  rw [show stay.reservation.cancel.uid = stay.reservation.uid from rfl]
  rcases h.reserved with stored | stored <;>
  · rw [stored]
    rfl

theorem Stay.Standing.voided_putPayment (h : stay.Standing late s) (paid : stay.StoredIn s₀)
    {p : Payment} (charged : stay.Charged p) : stay.Voided (s.putPayment p.cancel) := by
  have canceled : p.cancel = stay.charge.cancel := by
    rcases charged with rfl | rfl <;> rfl
  have found := Stores.payment?_putPayment_self (s := s) stay.charge.cancel
  have refers : stay.charge.cancel.uid = stay.reservation.paymentUid :=
    Stores.uid_of_payment? (p := stay.charge) paid.charged
  rw [refers] at found
  rw [Stay.Voided, canceled, found]
  rcases h.charged with stored | stored <;>
  · rw [stored]
    rfl

/-- The record is saved with the stay taken off. -/
theorem Stay.Recorded.takenOff {l : Loyalty} (h : stay.Recorded late l) (counts : 1 ≤ stay.count) :
    stay.TakenOff late (s.saveLoyalty l.release) := by
  have found := Stores.loyalty?_saveLoyalty_self (s := s) l.release
  rw [Loyalty.username_release, h.owner] at found
  refine ⟨_, found, ?_⟩
  have least := h.least
  have most := h.most
  rw [Stores.reservationCount_savedLoyalty, Loyalty.toInt_count_release_of_nonneg (by omega)]
  omega

/-- What is read is the record as it was at first, or else the read is late. -/
theorem Stay.Standing.recorded_of_found (h : stay.Standing late s) (paid : stay.StoredIn s₀)
    {l : Loyalty} (found : s.loyalty? stay.reservation.username = some l)
    (counted : s.loyalty? stay.reservation.username ≠ some stay.record → late + 1 ≤ late') :
    stay.Recorded late' l := by
  have counts := paid.counts
  have owner := Stores.username_of_loyalty? found
  by_cases first : s.loyalty? stay.reservation.username = some stay.record
  · cases found.symm.trans first
    exact ⟨owner, by change _ ≤ stay.count; omega, Int.le_refl _⟩
  · obtain ⟨l', found', least, most⟩ := h.recorded.resolve_left first
    cases found.symm.trans found'
    have := counted first
    exact ⟨owner, by omega, by omega⟩

/-- One request goes on to its next stage. -/
theorem Racing.set {stages : List Stage} {stage' : Stage} (h : Racing stay late s stages) {i : Nat}
    (at_i : stages[i]? = some stage) (more : late ≤ late') (standing : stay.Standing late' s')
    (marked : stay.Marked s → stay.Marked s') (voided : stay.Voided s → stay.Voided s')
    (fits : stage'.Fits stay late' s')
    (whole : stage'.IsHalfway ∨ stay.Voided s' ∧ stay.TakenOff late' s' ∨
      ¬ stage.IsHalfway ∧ s' = s) : Racing stay late' s' (stages.set i stage') where
  standing := standing
  fits other member := by
    rcases List.mem_or_eq_of_mem_set member with old | rfl
    · exact (h.fits other old).mono more marked voided
    · exact fits
  whole marked' := by
    have bound := (List.getElem?_eq_some_iff.mp at_i).1
    rcases whole with halfway | done | ⟨idle, rfl⟩
    · exact .inl ⟨i, stage', List.getElem?_set_self bound, halfway⟩
    · exact .inr done
    · rcases h.whole marked' with ⟨j, other, at_j, halfway⟩ | ⟨gone, taken⟩
      · have apart : i ≠ j := by
          rintro rfl
          cases at_i.symm.trans at_j
          exact idle halfway
        exact .inl ⟨j, other, by rwa [List.getElem?_set_ne apart], halfway⟩
      · exact .inr ⟨gone, taken.mono more⟩

/-- Whatever stage a request is at, its next call keeps the race fair. -/
theorem Racing.next {stages : List Stage} (h : Racing stay late s stages) (paid : stay.StoredIn s₀)
    {i : Nat} (at_i : stages[i]? = some stage) :
    Racing stay (late + if stage.IsLate stay s then 1 else 0) (stage.next stay.reservation s).2
      (stages.set i (stage.next stay.reservation s).1) := by
  have more : late ≤ late + if stage.IsLate stay s then 1 else 0 := Nat.le_add_right ..
  have standing := h.standing.mono more
  have fits := h.fits stage (List.mem_of_getElem? at_i)
  generalize counted : late + (if stage.IsLate stay s then 1 else 0) = late' at more standing ⊢
  cases stage with
  | fetch uidText username =>
      refine h.set at_i more standing id id ?_ (.inr (.inr ⟨id, rfl⟩))
      rw [Stage.next]
      split
      · assumption
      · trivial
  | mark =>
      have marked := h.standing.marked_putReservation
      change Racing stay late' (s.putReservation stay.reservation.cancel) (stages.set i .findCharge)
      exact h.set at_i more ⟨.inr marked, standing.charged, standing.recorded⟩ (fun _ => marked) id
        marked (.inl trivial)
  | findCharge =>
      obtain ⟨p, found, charged⟩ := h.standing.exists_charge
      rw [Stage.next, found]
      change Racing stay late' s (stages.set i (.void p))
      exact h.set at_i more standing id id ⟨fits, charged⟩ (.inl trivial)
  | void p =>
      obtain ⟨marked, charged⟩ := fits
      have voided := h.standing.voided_putPayment paid charged
      change Racing stay late' (s.putPayment p.cancel) (stages.set i (.findRecord p))
      exact h.set at_i more ⟨standing.reserved, .inr voided, standing.recorded⟩ id (fun _ => voided)
        ⟨marked, charged, voided⟩ (.inl trivial)
  | findRecord p =>
      obtain ⟨marked, charged, voided⟩ := fits
      obtain ⟨l, found⟩ := h.standing.exists_record
      have recorded : stay.Recorded late' l := by
        apply h.standing.recorded_of_found paid found
        intro since
        rw [← counted, if_pos ⟨rfl, since⟩]
      rw [Stage.next, found]
      change Racing stay late' s (stages.set i (.save p l))
      exact h.set at_i more standing id id ⟨marked, charged, voided, recorded⟩ (.inl trivial)
  | save p l =>
      obtain ⟨marked, charged, voided, recorded⟩ := fits
      have taken := (recorded.mono more).takenOff (s := s) paid.counts
      change Racing stay late' (s.saveLoyalty l.release) (stages.set i .ended)
      exact h.set at_i more ⟨standing.reserved, standing.charged, .inr taken⟩ id id marked
        (.inr (.inl ⟨voided, taken⟩))
  | ended => exact h.set at_i more standing id id fits (.inr (.inr ⟨id, rfl⟩))

theorem Racing.arrive {stages : List Stage} (h : Racing stay late s stages)
    {uidText username : String} (fits : Stage.Fits stay late s (.fetch uidText username)) :
    Racing stay late s (stages ++ [.fetch uidText username]) where
  standing := h.standing
  fits stage member := by
    rcases List.mem_append.mp member with old | new
    · exact h.fits stage old
    · exact List.mem_singleton.mp new ▸ fits
  whole marked := by
    refine (h.whole marked).imp_left fun ⟨i, stage, at_i, halfway⟩ => ⟨i, stage, ?_, halfway⟩
    have bound := (List.getElem?_eq_some_iff.mp at_i).1
    rwa [List.getElem?_append_left bound]

theorem Racing.quiet (paid : stay.StoredIn s) : Racing stay 0 s [] where
  standing := ⟨.inl paid.reserved, .inl paid.charged, .inl paid.recorded⟩
  fits _ member := nomatch member
  whole marked := by
    have same := congrArg Reservation.status (Option.some.inj (paid.reserved.symm.trans marked))
    rw [paid.reservationPaid] at same
    cases same

/-- When all requests have ended and there was one, the stay is canceled wholly. -/
theorem Racing.canceled {stages : List Stage} (h : Racing stay late s stages)
    (some_one : stages ≠ [])
    (finished : ∀ stage ∈ stages, stage = .ended) :
    stay.Marked s ∧ stay.Voided s ∧ stay.TakenOff late s := by
  obtain ⟨stage, member⟩ := List.exists_mem_of_ne_nil stages some_one
  have marked : stay.Marked s := by
    have fits := h.fits stage member
    rw [finished stage member] at fits
    exact fits
  refine ⟨marked, ?_⟩
  rcases h.whole marked with ⟨i, stage, at_i, halfway⟩ | whole
  · rw [finished stage (List.mem_of_getElem? at_i)] at halfway
    exact halfway.elim
  · exact whole

/-- Every call is one less that is left. -/
theorem Stage.left_next (r : Reservation) (s : Stores) (going : stage ≠ .ended) :
    (stage.next r s).1.left < stage.left := by
  cases stage with
  | fetch =>
      rw [Stage.next]
      split
      · exact (by decide : 0 < 6)
      · exact (by decide : 5 < 6)
  | mark | void | save => exact Nat.lt_succ_self _
  | findCharge => cases found : s.payment? r.paymentUid <;> simp [Stage.next, found, Stage.left]
  | findRecord => cases found : s.loyalty? r.username <;> simp [Stage.next, found, Stage.left]
  | ended => exact absurd rfl going

end Steps

/-! ## Requests at stages -/

/-- The request is to cancel the reservation, and this is what is left of it. -/
def Task.At (options : GatewayOptions) (r : Reservation) (stage : Stage) (task : Task) : Prop :=
  ∃ uidText username log, task = ⟨.cancel uidText username, ⟨log, stage.program options r⟩⟩ ∧
    Gateway.requireUsername username = .ok r.username

/-- A step of this request. -/
def Traffic.Move.isOf (i : Nat) : Move → Bool
  | .arrive _ => false
  | .advance j _ => j = i

/-- Requests race to cancel the stay, each with so many steps taken. -/
structure Traffic.Races (options : GatewayOptions) (stay : Stay) (late : Nat) (taken : Nat → Nat)
    (stages : List Stage) (c : Traffic) : Prop where
  racing : Racing stay late c.platform.stores stages
  length : stages.length = c.tasks.length
  at_stage : ∀ (i : Nat) (task : Task) (stage : Stage), c.tasks[i]? = some task →
    stages[i]? = some stage → task.At options stay.reservation stage
  steps : ∀ (i : Nat) (stage : Stage), stages[i]? = some stage → taken i + stage.left ≤ 6
  absent : ∀ i, stages.length ≤ i → taken i = 0

namespace Traffic

variable {options : GatewayOptions} {stay : Stay} {late : Nat} {taken : Nat → Nat}
  {stages : List Stage} {c c' : Traffic} {s : Stores}

theorem Races.quiet (paid : stay.StoredIn s) :
    Races options stay 0 (fun _ => 0) [] (.quiet (.start s)) where
  racing := .quiet paid
  length := rfl
  at_stage _ _ _ impossible := nomatch impossible
  steps _ _ impossible := nomatch impossible
  absent _ _ := rfl

/-- One more request arrives. -/
theorem Races.arrive (h : Races options stay late taken stages c) {r : GuestRequest}
    (cancels : r.Cancels stay.reservation) :
    ∃ stages', Races options stay late taken stages'
      ⟨c.platform, c.tasks ++ [⟨r, ⟨[], (r.operation options).run⟩⟩]⟩ := by
  cases r with
  | cancel uidText username =>
      refine ⟨_, h.racing.arrive cancels, by simp [h.length], ?_, ?_, ?_⟩
      · intro i task stage at_i at_i'
        by_cases new : i = c.tasks.length
        · rw [new, List.getElem?_concat_length] at at_i
          rw [new, ← h.length, List.getElem?_concat_length] at at_i'
          cases at_i
          cases at_i'
          exact ⟨uidText, username, [], rfl, cancels.2⟩
        · have bound := (List.getElem?_eq_some_iff.mp at_i).1
          rw [List.length_append, List.length_singleton] at bound
          rw [List.getElem?_append_left (by omega)] at at_i
          rw [List.getElem?_append_left (by rw [h.length]; omega)] at at_i'
          exact h.at_stage i task stage at_i at_i'
      · intro i stage at_i
        by_cases new : i = stages.length
        · rw [new, List.getElem?_concat_length] at at_i
          cases at_i
          rw [h.absent i (Nat.le_of_eq new.symm)]
          exact (by decide : 0 + 6 ≤ 6)
        · have bound := (List.getElem?_eq_some_iff.mp at_i).1
          rw [List.length_append, List.length_singleton] at bound
          rw [List.getElem?_append_left (by omega)] at at_i
          exact h.steps i stage at_i
      · intro i beyond
        rw [List.length_append, List.length_singleton] at beyond
        exact h.absent i (by omega)
  | _ => exact cancels.elim

/-- A request is at a stage, and has a call to make there unless it has ended. -/
theorem Races.find (h : Races options stay late taken stages c) (paid : stay.StoredIn s) {i : Nat}
    {task : Task} (at_i : c.tasks[i]? = some task) :
    ∃ stage uidText username log, stages[i]? = some stage ∧
      task = ⟨.cancel uidText username, ⟨log, stage.program options stay.reservation⟩⟩ ∧
      Gateway.requireUsername username = .ok stay.reservation.username ∧
      (stage ≠ .ended → ∃ call k, stage.call? stay.reservation = some call ∧
        stage.program options stay.reservation = .call call k ∧
        ∀ fresh, ∃ a, call.served fresh c.platform.stores =
            (.ok a, (stage.next stay.reservation c.platform.stores).2) ∧
          k (.ok a) = (stage.next stay.reservation c.platform.stores).1.program options
            stay.reservation) := by
  have bound := (List.getElem?_eq_some_iff.mp at_i).1
  obtain ⟨stage, at_i'⟩ : ∃ stage, stages[i]? = some stage :=
    ⟨_, List.getElem?_eq_getElem (h.length ▸ bound)⟩
  obtain ⟨uidText, username, log, same, named⟩ := h.at_stage i task stage at_i at_i'
  refine ⟨stage, uidText, username, log, at_i', same, named, fun going => ?_⟩
  obtain ⟨call, asks⟩ := Stage.exists_call stay.reservation going
  obtain ⟨k, program, answers⟩ := Stage.program_eq options paid
    (Gateway.trimmed_of_requireUsername named).2 h.racing.standing
    (h.racing.fits stage (List.mem_of_getElem? at_i')) asks
  exact ⟨call, k, asks, program, answers⟩

theorem Races.ended (h : Races options stay late taken stages c) (paid : stay.StoredIn s)
    (finished : ∀ task ∈ c.tasks, task.HasEnded) : ∀ stage ∈ stages, stage = .ended := by
  intro stage member
  obtain ⟨i, at_i⟩ := List.getElem?_of_mem member
  have bound := (List.getElem?_eq_some_iff.mp at_i).1
  obtain ⟨task, at_i'⟩ : ∃ task, c.tasks[i]? = some task :=
    ⟨_, List.getElem?_eq_getElem (h.length ▸ bound)⟩
  obtain ⟨stage', uidText, username, log, at_i'', rfl, -, calls⟩ := h.find paid at_i'
  cases at_i.symm.trans at_i''
  by_contra going
  obtain ⟨call, k, -, program, -⟩ := calls going
  obtain ⟨o, done⟩ := finished _ (List.mem_of_getElem? at_i')
  cases program.symm.trans done

/-- One request goes on to a stage that leaves it fewer calls. -/
theorem Races.set (h : Races options stay late taken stages c) {late' i : Nat} {task : Task}
    {stage stage' : Stage} {w : Platform} (at_i : stages[i]? = some stage)
    (racing : Racing stay late' w.stores (stages.set i stage'))
    (at_stage : task.At options stay.reservation stage') (fewer : stage'.left < stage.left)
    (cue : Cue) :
    Races options stay late' (fun j => taken j + if Move.isOf j (.advance i cue) then 1 else 0)
      (stages.set i stage') ⟨w, c.tasks.set i task⟩ where
  racing := racing
  length := by simp [h.length]
  at_stage j task' stage'' at_j at_j' := by
    have bound := (List.getElem?_eq_some_iff.mp at_i).1
    by_cases same : i = j
    · subst same
      rw [List.getElem?_set_self (h.length ▸ bound)] at at_j
      rw [List.getElem?_set_self bound] at at_j'
      cases at_j
      cases at_j'
      exact at_stage
    · rw [List.getElem?_set_ne same] at at_j at_j'
      exact h.at_stage j task' stage'' at_j at_j'
  steps j stage'' at_j := by
    by_cases same : i = j
    · subst same
      rw [List.getElem?_set_self (List.getElem?_eq_some_iff.mp at_i).1] at at_j
      cases at_j
      have := h.steps i stage at_i
      simp only [Move.isOf, decide_true, if_true]
      omega
    · rw [List.getElem?_set_ne same] at at_j
      have := h.steps j stage'' at_j
      simpa [Move.isOf, same] using this
  absent j beyond := by
    rw [List.length_set] at beyond
    have apart : i ≠ j := Nat.ne_of_lt ((List.getElem?_eq_some_iff.mp at_i).1.trans_le beyond)
    simpa [Move.isOf, apart] using h.absent j beyond

/-- A request that has not ended makes its next call. -/
theorem Races.advance (h : Races options stay late taken stages c) (paid : stay.StoredIn s)
    {i : Nat} {cue : Cue} (next : c.follow options Unfailing (.advance i cue) = some c') :
    ∃ stages', Races options stay (late + if c.isLateRead stay (.advance i cue) then 1 else 0)
      (fun j => taken j + if Move.isOf j (.advance i cue) then 1 else 0) stages' c' := by
  obtain ⟨task, at_i, rest⟩ := Option.bind_eq_some_iff.mp next
  obtain ⟨⟨w, t⟩, step, done⟩ := Option.bind_eq_some_iff.mp rest
  cases done
  obtain ⟨stage, uidText, username, log, at_i', rfl, named, calls⟩ := h.find paid at_i
  have going : stage ≠ .ended := by
    rintro rfl
    cases step
  obtain ⟨call, k, asks, program, answers⟩ := calls going
  have late_read : c.isLateRead stay (.advance i cue) =
      decide (stage.IsLate stay c.platform.stores) := by
    have same : (c.tasks[i]?).bind Task.asks? = stage.call? stay.reservation := by
      rw [at_i, asks]
      simp only [Option.bind_some, Task.asks?, program]
    rw [isLateRead, same, ← Bool.decide_and]
    rfl
  change Thread.follow Unfailing cue c.platform ⟨log, stage.program options stay.reservation⟩ =
    some (w, t) at step
  rw [program] at step
  obtain ⟨rfl, rfl⟩ := follow_unfailing step
  obtain ⟨a, served, goes_on⟩ := answers cue.fresh
  rw [served, goes_on, late_read]
  refine ⟨stages.set i (stage.next stay.reservation c.platform.stores).1, h.set at_i' ?_
    ⟨uidText, username, log, rfl, named⟩
    (Stage.left_next stay.reservation c.platform.stores going) cue⟩
  simpa only [decide_eq_true_eq] using h.racing.next paid at_i'

/-- Whatever happens next, the requests go on racing. -/
theorem Races.follow (h : Races options stay late taken stages c) (paid : stay.StoredIn s)
    {move : Move} (next : c.follow options Unfailing move = some c')
    (only : ∀ task ∈ c'.tasks, task.request.Cancels stay.reservation) :
    ∃ stages', Races options stay (late + if c.isLateRead stay move then 1 else 0)
      (fun i => taken i + if move.isOf i then 1 else 0) stages' c' := by
  cases move with
  | arrive r =>
      cases next
      exact h.arrive (only _ (List.mem_append_right _ List.mem_cons_self))
  | advance i cue => exact h.advance paid next

/-- So they do in a whole run. -/
theorem Races.rehearse (h : Races options stay late taken stages c) (paid : stay.StoredIn s)
    {moves : List Move} (run : c.rehearse options Unfailing moves = some c')
    (only : ∀ task ∈ c'.tasks, task.request.Cancels stay.reservation) :
    ∃ stages', Races options stay (late + c.lateReads options Unfailing stay moves)
      (fun i => taken i + moves.countP (Move.isOf i)) stages' c' := by
  induction moves generalizing c late taken stages with
  | nil =>
      cases run
      exact ⟨stages, h⟩
  | cons move moves ih =>
      rw [Traffic.rehearse, List.foldlM_cons] at run
      obtain ⟨c₁, first, later⟩ := Option.bind_eq_some_iff.mp run
      have only₁ := forall_of_prefix (P := GuestRequest.Cancels stay.reservation)
        (requests_of_reaches (reaches_of_rehearse later)) only
      obtain ⟨stages₁, races⟩ := h.follow paid first only₁
      obtain ⟨stages₂, done⟩ := ih races later
      refine ⟨stages₂, ?_⟩
      rw [lateReads, first, Option.map_some, Option.getD_some, ← Nat.add_assoc]
      simp only [List.countP_cons, Nat.add_comm (List.countP _ _), ← Nat.add_assoc]
      exact done

/-- Requests to cancel one paid stay, all by its owner and with nothing else going on, their
calls in any order and none failing. Each comes to its end with success, after six calls at the
most. When all have, the reservation and the payment are canceled and the stay is off the count:
once, and once more for every request that read the record after another had saved it, at the
most. -/
theorem cancellations_race (paid : stay.StoredIn s) {moves : List Move}
    (run : (quiet (.start s)).rehearse options Unfailing moves = some c)
    (only : ∀ task ∈ c.tasks, task.request.Cancels stay.reservation) :
    (∀ (i : Nat) (task : Task), c.tasks[i]? = some task →
      task.HasSucceeded ∨
      moves.countP (Move.isOf i) < 6 ∧ ∀ fresh ∉ c.platform.used,
        ∃ c', c.follow options Unfailing (.advance i { fresh }) = some c') ∧
    (c.tasks ≠ [] → (∀ task ∈ c.tasks, task.HasEnded) →
      let s' := c.platform.stores
      s'.reservation? stay.reservation.uid = some stay.reservation.cancel ∧
      s'.payment? stay.reservation.paymentUid = some stay.charge.cancel ∧
      ∃ l, s'.loyalty? stay.reservation.username = some l ∧
        max 0 (stay.count - 1 - (quiet (.start s)).lateReads options Unfailing stay moves) ≤
          l.reservationCount.toInt ∧
        l.reservationCount.toInt ≤ stay.count - 1) := by
  obtain ⟨stages, races⟩ := (Races.quiet paid).rehearse paid run only
  simp only [Nat.zero_add] at races
  refine ⟨?_, ?_⟩
  · intro i task at_i
    obtain ⟨stage, uidText, username, log, at_i', rfl, -, calls⟩ := races.find paid at_i
    by_cases finished : stage = .ended
    · subst finished
      exact .inl ⟨(), rfl⟩
    · obtain ⟨call, k, -, program, -⟩ := calls finished
      have some_left : 0 < stage.left := Nat.zero_lt_of_lt
        (Stage.left_next stay.reservation c.platform.stores finished)
      have few := races.steps i stage at_i'
      refine .inr ⟨by omega, fun fresh unused => ?_⟩
      obtain ⟨after, goes_on⟩ := @follows_unfailing _ _ log _ k _ unused
      rw [← program] at goes_on
      refine ⟨_, Option.bind_eq_some_iff.mpr ⟨_, at_i, Option.bind_eq_some_iff.mpr
        ⟨after, goes_on, rfl⟩⟩⟩
  · intro some_one finished
    have there : stages ≠ [] := by
      rintro rfl
      exact some_one (List.length_eq_zero_iff.mp races.length.symm)
    exact races.racing.canceled there (races.ended paid finished)

/-! ## Two requests at once -/

/-- Ada has booked two stays, and this is one of them. -/
def adasStay : Stay :=
  let from_ : Date := ⟨2026, 5, 1, by decide⟩
  let until_ : Date := ⟨2026, 5, 3, by decide⟩
  { reservation := ⟨1, .ofNat 101, "ada", .ofNat 102, 1, .paid, from_, until_⟩
    charge := ⟨1, .ofNat 102, .paid, 20000⟩
    record := ⟨1, "ada", 2, .bronze, 5⟩ }

/-- The stores that hold the rows of a stay. -/
def storing (stay : Stay) : Stores where
  reservation := { reservations := { rows := [stay.reservation], lastId := 1 } }
  payment := { rows := [stay.charge], lastId := 1 }
  loyalty := { rows := [stay.record], lastId := 1 }

theorem adasStay_stored : adasStay.StoredIn (storing adasStay) :=
  ⟨by decide +kernel, by decide +kernel, by decide +kernel, rfl, rfl, by decide, by decide⟩

/-- Two of Ada's requests, with every call that one of them makes in turn. -/
def twice (order : List Nat) : List Move :=
  let request : GuestRequest := .cancel (Uid.ofNat 101).toText "ada"
  [.arrive request, .arrive request] ++
    order.mapIdx fun n i => .advance i { fresh := .ofNat n }

/-- One of two requests that found the reservation paid may end before the other goes on. Then
the stay is off the count twice, though no call failed and both requests succeeded. -/
theorem stay_taken_off_twice :
    ∃ c, (quiet (.start (storing adasStay))).rehearse {} Unfailing
        (twice [0, 1, 0, 0, 0, 0, 0, 1, 1, 1, 1, 1]) = some c ∧
      adasStay.StoredIn (storing adasStay) ∧ c.tasks.length = 2 ∧
      (∀ task ∈ c.tasks, task.request.Cancels adasStay.reservation ∧ task.HasSucceeded) ∧
      ∃ l, c.platform.stores.loyalty? "ada" = some l ∧
        l.reservationCount.toInt ≠ adasStay.count - 1 := by
  obtain ⟨c, run, checked⟩ := (Option.any_eq_true (fun c : Traffic => decide (c.tasks.length = 2 ∧
      (∀ task ∈ c.tasks, task.request.Cancels adasStay.reservation ∧ task.HasSucceeded) ∧
      (c.platform.stores.loyalty? "ada").any (·.reservationCount = 0)))
    ((quiet (.start (storing adasStay))).rehearse {} Unfailing
      (twice [0, 1, 0, 0, 0, 0, 0, 1, 1, 1, 1, 1]))).mp (by decide +kernel)
  obtain ⟨two, succeeded, counted⟩ := of_decide_eq_true checked
  obtain ⟨l, found, none_left⟩ := (Option.any_eq_true _ _).mp counted
  refine ⟨c, run, adasStay_stored, two, succeeded, l, found, ?_⟩
  rw [of_decide_eq_true none_left]
  decide

/-- Where both read the record before either of them saves it, the stay is off the count once. -/
theorem stay_taken_off_once :
    ∃ c, (quiet (.start (storing adasStay))).rehearse {} Unfailing
        (twice [0, 1, 0, 1, 0, 1, 0, 1, 0, 1, 0, 1]) = some c ∧
      adasStay.StoredIn (storing adasStay) ∧
      (∀ task ∈ c.tasks, task.request.Cancels adasStay.reservation ∧ task.HasSucceeded) ∧
      ∃ l, c.platform.stores.loyalty? "ada" = some l ∧ l.reservationCount.toInt = 1 := by
  obtain ⟨c, run, checked⟩ := (Option.any_eq_true (fun c : Traffic => decide (c.tasks.length = 2 ∧
      ∀ task ∈ c.tasks, task.request.Cancels adasStay.reservation ∧ task.HasSucceeded))
    ((quiet (.start (storing adasStay))).rehearse {} Unfailing
      (twice [0, 1, 0, 1, 0, 1, 0, 1, 0, 1, 0, 1]))).mp (by decide +kernel)
  obtain ⟨two, succeeded⟩ := of_decide_eq_true checked
  obtain ⟨-, canceled⟩ := cancellations_race adasStay_stored run fun task member =>
    (succeeded task member).1
  obtain ⟨-, -, l, found, least, most⟩ := canceled (by
    rintro none_there
    rw [none_there] at two
    cases two) fun task member => by
      obtain ⟨-, a, done⟩ := succeeded task member
      exact ⟨_, done⟩
  have timely : (quiet (.start (storing adasStay))).lateReads {} Unfailing adasStay
      (twice [0, 1, 0, 1, 0, 1, 0, 1, 0, 1, 0, 1]) = 0 := by decide +kernel
  have two_at_first : adasStay.count = 2 := by decide
  rw [timely, two_at_first] at least
  rw [two_at_first] at most
  exact ⟨c, run, adasStay_stored, succeeded, l, found, by omega⟩

end Traffic

end HotelBooking
