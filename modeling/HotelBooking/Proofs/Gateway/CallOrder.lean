import HotelBooking.Proofs.Gateway.Outline
import HotelBooking.Proofs.Gateway.Session
import Mathlib.Data.List.Forall2

/-!
# The order of calls

Booking and cancelling make their calls in a fixed order, whatever the services answer, and
however their answers contradict each other. `Course` says which conversations are possible:
an operation goes through its plan to the end, or declines to go on, or fails at a call and
then makes no other calls than those that take back what it has written, the latest first.

Conversations with services of which nothing is known are those that meet the demand
`anyhow`; `Program.ensures_exchanges` carries what is ensured over to every handler.
-/

namespace HotelBooking

variable {α σ : Type}

/-- A call and what came of it. -/
structure Exchange where
  call : Call
  outcome : Outcome call.Answer

namespace Program

/-- The calls of a program that a handler carries out, in order. -/
def exchanges (h : Handler σ) : Program α → σ → List Exchange
  | done _, _ => []
  | call c next, s =>
    let (o, s) := h.answer c s
    ⟨c, o⟩ :: (next o).exchanges h s
  | fresh next, s =>
    let (u, s) := h.draw s
    (next u).exchanges h s
  | log _ next, s => next.exchanges h s

end Program

/-- Nothing is known of any answer. What is kept is the conversation so far. -/
def anyhow : Demand (List Exchange) where
  call c K xs := ∀ o, K o (xs ++ [⟨c, o⟩])
  draw K xs := ∀ uid, K uid xs
  write _ xs := xs
  call_mono weaker h o := weaker _ _ (h o)
  draw_mono weaker h uid := weaker _ _ (h uid)

/-- What is ensured whatever is answered holds of every conversation with a handler. -/
theorem Program.ensures_exchanges {Q : α → List Exchange → Prop} {p : Program α}
    {xs : List Exchange} (ensured : p.Ensures anyhow Q xs) (h : Handler σ) (s : σ) :
    Q (p.run h s).value (xs ++ p.exchanges h s) := by
  induction p generalizing xs s with
  | done a =>
      rw [exchanges, List.append_nil]
      exact ensured
  | call c next ih =>
      have rest := ih _ (ensured (h.answer c s).1) (h.answer c s).2
      rwa [List.append_assoc] at rest
  | fresh next ih => exact ih _ (ensured (h.draw s).1) (h.draw s).2
  | log line next ih => exact ih ensured s

/-- The same of a whole operation. -/
theorem Operation.ensures_exchanges {Q : Outcome α → List Exchange → Prop} {op : Operation α}
    (ensured : op.Ensures anyhow Q []) (h : Handler σ) (s : σ) :
    Q (op.run.run h s).value (op.run.exchanges h s) :=
  Program.ensures_exchanges ((Operation.ensures_run op []).mpr ensured) h s

namespace Call

/-- What is asked by a call, whichever row it is about. -/
inductive Kind where
  | listHotels
  | getHotelById
  | getHotelByUid
  | listReservations
  | getReservation
  | createReservation
  | updateReservation
  | createPayment
  | getPayment
  | updatePayment
  | getLoyalty
  | updateLoyalty
  deriving DecidableEq

def kind : Call → Kind
  | listHotels .. => .listHotels
  | getHotelById _ => .getHotelById
  | getHotelByUid _ => .getHotelByUid
  | listReservations _ => .listReservations
  | getReservation _ => .getReservation
  | createReservation _ => .createReservation
  | updateReservation _ => .updateReservation
  | createPayment _ => .createPayment
  | getPayment _ => .getPayment
  | updatePayment _ => .updatePayment
  | getLoyalty _ => .getLoyalty
  | updateLoyalty _ => .updateLoyalty

end Call

namespace Exchange

def kind (x : Exchange) : Call.Kind := x.call.kind

/-- The call can have changed what is stored. -/
def isMutating (x : Exchange) : Bool := x.call.isMutating

/-- The call was answered, or failed in a way that is put up with. -/
def Passed (tolerated : Exchange → Prop) (x : Exchange) : Prop :=
  (∃ a, x.outcome = .ok a) ∨ tolerated x

end Exchange

/-! ## The course of a saga -/

/-- A call takes back what another one has written: a new row is marked as canceled, and a
canceled row is put back as it was read before. -/
inductive TakesBack (forward : List Exchange) : Exchange → Call → Prop
  | payment {price : Int32} {p : Payment} :
      TakesBack forward ⟨.createPayment price, .ok p⟩ (.updatePayment p.cancel)
  | reservation {draft r : Reservation} :
      TakesBack forward ⟨.createReservation draft, .ok r⟩ (.updateReservation r.cancel)
  | canceledReservation {uid : Uid} {r : Reservation}
      (read : ⟨.getReservation uid, .ok r⟩ ∈ forward) :
      TakesBack forward ⟨.updateReservation r.cancel, .ok ()⟩ (.updateReservation r)
  | canceledPayment {uid : Uid} {p : Payment} (read : ⟨.getPayment uid, .ok p⟩ ∈ forward) :
      TakesBack forward ⟨.updatePayment p.cancel, .ok ()⟩ (.updatePayment p)

/-- What is done about the calls that went forward when the next one fails: nothing, or each
that has written is taken back, the latest first. -/
def Unwinds (compensating : Bool) (forward undone : List Exchange) : Prop :=
  if compensating then
    List.Forall₂ (TakesBack forward) (forward.filter Exchange.isMutating).reverse
      (undone.map Exchange.call)
  else undone = []

section Course

variable (plan : List Call.Kind) (tolerated : Exchange → Prop)
  (declines : List Exchange → Outcome α → Prop)

/-- An operation goes forward by its plan: all of its calls have passed, and none gave it a
reason to stop. -/
structure Going (forward : List Exchange) : Prop where
  planned : forward.map Exchange.kind <+: plan
  passed : ∀ x ∈ forward, x.Passed tolerated
  undeclined : ∀ early, early <+: forward → ∀ o, ¬ declines early o

/-- The conversations of an operation, with what it comes to. -/
inductive Course (compensating : Bool) : List Exchange → Outcome α → Prop
  /-- The plan is carried out. -/
  | completed {forward : List Exchange} {a : α} (going : Going plan tolerated declines forward)
      (whole : forward.map Exchange.kind = plan) : Course compensating forward (.ok a)
  /-- The last answer is a reason not to go on. -/
  | declined {forward : List Exchange} {x : Exchange} {o : Outcome α}
      (going : Going plan tolerated declines forward)
      (planned : forward.map Exchange.kind ++ [x.kind] <+: plan) (passed : x.Passed tolerated)
      (reason : declines (forward ++ [x]) o) : Course compensating (forward ++ [x]) o
  /-- A call fails, and with it the operation. -/
  | failed {forward undone : List Exchange} {c : Call} {e : ServiceError}
      (going : Going plan tolerated declines forward)
      (planned : forward.map Exchange.kind ++ [c.kind] <+: plan)
      (untolerated : ¬ tolerated ⟨c, .error e⟩) (unwinds : Unwinds compensating forward undone) :
      Course compensating (forward ++ ⟨c, .error e⟩ :: undone) (.error e)

/-- A conversation takes its course, and is over as soon as there is a reason to stop. -/
structure Conversation (compensating : Bool) (xs : List Exchange) (o : Outcome α) : Prop where
  course : Course plan tolerated declines compensating xs o
  stops : ∀ early o', early <+: xs → declines early o' → xs = early ∧ o = o'

variable {plan tolerated declines}

/-- Reasons to stop that come of calls that passed, and say what to stop with, are heeded. -/
theorem Course.conversation {compensating : Bool} {xs : List Exchange} {o : Outcome α}
    (course : Course plan tolerated declines compensating xs o)
    (settled : ∀ early o, declines early o → ∀ x ∈ early, x.Passed tolerated)
    (single : ∀ early o o', declines early o → declines early o' → o = o') :
    Conversation plan tolerated declines compensating xs o where
  course := course
  stops := by
    intro early o' prior reason
    cases course with
    | completed going whole => exact absurd reason (going.undeclined early prior o')
    | declined going planned passed last =>
        rcases List.prefix_concat_iff.mp prior with rfl | before
        · exact ⟨rfl, single _ _ _ last reason⟩
        · exact absurd reason (going.undeclined early before o')
    | @failed forward undone c e going planned untolerated unwinds =>
        have upTo : forward ++ [⟨c, .error e⟩] <+: forward ++ ⟨c, .error e⟩ :: undone :=
          ⟨undone, by simp⟩
        have unpassed : ⟨c, .error e⟩ ∉ early := by
          intro member
          rcases settled early o' reason _ member with ⟨a, answered⟩ | put_up
          · cases answered
          · exact untolerated put_up
        have before : early <+: forward := by
          rcases List.prefix_or_prefix_of_prefix prior upTo with short | long
          · rcases List.prefix_concat_iff.mp short with rfl | before
            · exact absurd (List.mem_append_right _ List.mem_cons_self) unpassed
            · exact before
          · exact absurd (long.subset (List.mem_append_right _ List.mem_cons_self)) unpassed
        exact absurd reason (going.undeclined early before o')

theorem going_nil (on : ∀ o, ¬ declines [] o) : Going plan tolerated declines [] where
  planned := List.nil_prefix
  passed _ member := nomatch member
  undeclined := by
    intro early prior
    rwa [List.prefix_nil.mp prior]

theorem Going.snoc {forward : List Exchange} {x : Exchange}
    (going : Going plan tolerated declines forward)
    (planned : forward.map Exchange.kind ++ [x.kind] <+: plan) (passed : x.Passed tolerated)
    (on : ∀ o, ¬ declines (forward ++ [x]) o) : Going plan tolerated declines (forward ++ [x]) where
  planned := by rwa [List.map_append]
  passed := by
    intro y member
    rcases List.mem_append.mp member with before | last
    · exact going.passed y before
    · rwa [List.mem_singleton.mp last]
  undeclined := by
    intro early prior
    rcases List.prefix_concat_iff.mp prior with rfl | before
    · exact on
    · exact going.undeclined early before

end Course

namespace Gateway

open Operation

variable {plan : List Call.Kind} {tolerated : Exchange → Prop}
  {declines : List Exchange → Outcome α → Prop} {options : GatewayOptions}

/-- Undoing steps makes one call for each, in order, whatever becomes of it. -/
theorem undo_asks (saga : String) (steps : List SagaStep) (xs : List Exchange) :
    (undo saga steps).Ensures anyhow (fun _ ys => ∃ undone, ys = xs ++ undone ∧
      undone.map Exchange.call = steps.map fun step => undoing step.undo) xs := by
  induction steps generalizing xs with
  | nil => exact ⟨[], (List.append_nil xs).symm, rfl⟩
  | cons step steps ih =>
      rw [ensures_undo_cons]
      intro o
      refine (ih (xs ++ [⟨undoing step.undo, o⟩])).mono ?_
      rintro - _ ⟨undone, rfl, asked⟩
      exact ⟨⟨undoing step.undo, o⟩ :: undone, by simp, by simp [asked]⟩

/-- The steps of a saga are the calls that have written. -/
def Records (forward : List Exchange) (saga : Saga) : Prop :=
  List.Forall₂ (fun x step => TakesBack forward x (undoing step.undo))
    (forward.filter Exchange.isMutating) saga.steps

/-- A call of a saga fails, and the saga is unwound. -/
theorem course_of_unwind {β : Type} {saga : Saga} {forward : List Exchange} {c : Call}
    {e : ServiceError} {next : β → List Exchange → Prop}
    (going : Going plan tolerated declines forward)
    (planned : forward.map Exchange.kind ++ [c.kind] <+: plan)
    (untolerated : ¬ tolerated ⟨c, .error e⟩) (begun : saga.isEmpty = false)
    (records : Records forward saga) :
    orUnwind anyhow options saga (fun o xs => Course plan tolerated declines
      options.compensateFailedSagas xs o) next (.error e) (forward ++ [⟨c, .error e⟩]) := by
  by_cases on : options.compensateFailedSagas
  · refine (ensures_unwind_compensating on begun _ _).mpr ((undo_asks _ _ _).mono ?_)
    rintro - _ ⟨undone, rfl, asked⟩
    change Course _ _ _ _ (forward ++ [⟨c, .error e⟩] ++ undone) _
    rw [List.append_assoc, List.singleton_append]
    refine .failed going planned untolerated ?_
    rw [Unwinds, if_pos on, asked, List.forall₂_map_right_iff, Saga.unwindOrder,
      List.forall₂_reverse_iff]
    exact records
  · have off := Bool.eq_false_iff.mpr on
    refine (ensures_unwind_leaving off begun _ _).mpr ?_
    exact .failed going planned untolerated (by rw [Unwinds, if_neg on])

/-- A step of a saga is taken, or the saga is unwound. -/
theorem course_settle {saga : Saga} {forward : List Exchange} {c : Call}
    {next : c.Answer → List Exchange → Prop} (going : Going plan tolerated declines forward)
    (planned : forward.map Exchange.kind ++ [c.kind] <+: plan)
    (untolerated : ∀ e, ¬ tolerated ⟨c, .error e⟩) (begun : saga.isEmpty = false)
    (records : Records forward saga) (answered : ∀ a, next a (forward ++ [⟨c, .ok a⟩])) :
    anyhow.call c (orUnwind anyhow options saga (fun o xs => Course plan tolerated declines
      options.compensateFailedSagas xs o) next) forward := by
  intro o
  cases o with
  | ok a => exact answered a
  | error e => exact course_of_unwind going planned (untolerated e) begun records

/-- A call before which nothing was written is answered, or the operation fails. -/
theorem course_ask {forward : List Exchange} {c : Call} {next : c.Answer → List Exchange → Prop}
    (going : Going plan tolerated declines forward)
    (planned : forward.map Exchange.kind ++ [c.kind] <+: plan)
    (untolerated : ∀ e, ¬ tolerated ⟨c, .error e⟩)
    (unwritten : forward.filter Exchange.isMutating = [])
    (answered : ∀ a, next a (forward ++ [⟨c, .ok a⟩])) :
    anyhow.call c (onOk (fun o xs => Course plan tolerated declines
      options.compensateFailedSagas xs o) next) forward := by
  intro o
  cases o with
  | ok a => exact answered a
  | error e =>
      refine .failed going planned (untolerated e) ?_
      unfold Unwinds
      rw [unwritten]
      split
      · exact .nil
      · rfl

/-! ## Booking -/

def bookingPlan : List Call.Kind :=
  [.getHotelByUid, .getLoyalty, .createPayment, .createReservation, .updateLoyalty]

/-- A guest may be without a loyalty record. -/
inductive Newcomer : Exchange → Prop
  | intro {name : String} {e : ServiceError} (missing : e.isNotFound = true) :
      Newcomer ⟨.getLoyalty name, .error e⟩

/-- The stay has no price, which shows when the hotel and the discount are known. -/
inductive Unpriced (stay : StayRequest) : List Exchange → Outcome BookingReceipt → Prop
  | intro {uid : Uid} {name : String} {hotel : Hotel} {o : Outcome Loyalty}
      {existing : Option Loyalty} {e : ServiceError} (told : recordIn o = .ok existing)
      (price : Pricing.stayPrice stay.nights hotel.price
        ((existing.map Loyalty.discount).getD 0) = .error e) :
      Unpriced stay [⟨.getHotelByUid uid, .ok hotel⟩, ⟨.getLoyalty name, o⟩] (.error e)

section Booking

variable {uid : Uid} {name : String} {stay : StayRequest} {hotel : Hotel} {o : Outcome Loyalty}
  {discount price : Int32} {l : Loyalty}

theorem failed_of_recordIn {e : ServiceError} (told : recordIn o = .error e) :
    o = .error e ∧ e.isNotFound = false := by
  cases o with
  | ok l => cases told
  | error e' =>
      rw [recordIn] at told
      split at told
      · cases told
      · cases told
        exact ⟨rfl, Bool.eq_false_iff.mpr ‹_›⟩

theorem passed_of_recordIn {existing : Option Loyalty} (told : recordIn o = .ok existing) :
    Exchange.Passed Newcomer ⟨.getLoyalty name, o⟩ := by
  cases o with
  | ok l => exact .inl ⟨l, rfl⟩
  | error e =>
      rw [recordIn] at told
      split at told
      · exact .inr ⟨‹_›⟩
      · cases told

theorem Unpriced.settled {early : List Exchange} {o : Outcome BookingReceipt}
    (unpriced : Unpriced stay early o) : ∀ x ∈ early, x.Passed Newcomer := by
  obtain ⟨told, -⟩ := unpriced
  intro x member
  rcases List.mem_pair.mp member with rfl | rfl
  · exact .inl ⟨_, rfl⟩
  · exact passed_of_recordIn told

theorem Unpriced.single {early : List Exchange} {o o' : Outcome BookingReceipt}
    (unpriced : Unpriced stay early o) (unpriced' : Unpriced stay early o') : o = o' := by
  obtain ⟨told, price⟩ := unpriced
  obtain ⟨told', price'⟩ := unpriced'
  cases told.symm.trans told'
  cases price.symm.trans price'
  rfl

theorem bookPriced_course
    (going : Going bookingPlan Newcomer (Unpriced stay)
      [⟨.getHotelByUid uid, .ok hotel⟩, ⟨.getLoyalty name, o⟩]) :
    (bookPriced options name stay hotel discount l price).Ensures anyhow
      (fun o xs => Course bookingPlan Newcomer (Unpriced stay) options.compensateFailedSagas xs o)
      [⟨.getHotelByUid uid, .ok hotel⟩, ⟨.getLoyalty name, o⟩] := by
  rw [ensures_bookPriced]
  refine course_ask going ⟨_, rfl⟩ nofun rfl fun p => ?_
  have going := going.snoc (x := ⟨.createPayment price, .ok p⟩) ⟨_, rfl⟩ (.inl ⟨p, rfl⟩) nofun
  intro drawn
  rw [ensures_reserve]
  refine course_settle going ⟨_, rfl⟩ nofun rfl (.cons .payment .nil) fun r => ?_
  have going := going.snoc (x := ⟨.createReservation _, .ok r⟩) ⟨_, rfl⟩ (.inl ⟨r, rfl⟩) nofun
  rw [ensures_countStay]
  refine course_settle going ⟨_, rfl⟩ nofun rfl (.cons .payment (.cons .reservation .nil))
    fun l => ?_
  have going := going.snoc (x := ⟨.updateLoyalty _, .ok l⟩) ⟨_, rfl⟩ (.inl ⟨l, rfl⟩) nofun
  exact .completed going rfl

theorem bookAt_course (going : Going bookingPlan Newcomer (Unpriced stay)
      [⟨.getHotelByUid uid, .ok hotel⟩]) :
    (bookAt options name stay hotel).Ensures anyhow
      (fun o xs => Course bookingPlan Newcomer (Unpriced stay) options.compensateFailedSagas xs o)
      [⟨.getHotelByUid uid, .ok hotel⟩] := by
  rw [ensures_bookAt]
  intro o
  cases told : recordIn o with
  | error e =>
      obtain ⟨rfl, other⟩ := failed_of_recordIn told
      refine .failed going ⟨_, rfl⟩ (fun ⟨missing⟩ => ?_) ?_
      · cases other.symm.trans missing
      · cases options.compensateFailedSagas
        · exact rfl
        · exact .nil
  | ok existing =>
      have passed : Exchange.Passed Newcomer ⟨.getLoyalty name, o⟩ := passed_of_recordIn told
      simp only [onOk_ok]
      cases priced : Pricing.stayPrice stay.nights hotel.price
          ((existing.map Loyalty.discount).getD 0) with
      | error e => exact .declined going ⟨_, rfl⟩ passed ⟨told, priced⟩
      | ok price =>
          refine bookPriced_course (going.snoc ⟨_, rfl⟩ passed ?_)
          rintro _ ⟨told', unpriced⟩
          cases told.symm.trans told'
          cases priced.symm.trans unpriced

end Booking

/-- How a booking may go: a request that is turned down causes no call at all. -/
def BooksInOrder (options : GatewayOptions) (username : String) (request : BookingRequest)
    (o : Outcome BookingReceipt) (xs : List Exchange) : Prop :=
  match requireUsername username, StayRequest.check request with
  | .error e, _ => xs = [] ∧ o = .error e
  | .ok _, .error report => xs = [] ∧ o = .error (.validation report)
  | .ok _, .ok stay =>
    Conversation bookingPlan Newcomer (Unpriced stay) options.compensateFailedSagas xs o

theorem books_inOrder (username : String) (request : BookingRequest) :
    (book options username request).Ensures anyhow (BooksInOrder options username request) [] := by
  unfold BooksInOrder
  cases required : requireUsername username with
  | error e =>
      rw [ensures_book, required]
      exact ⟨rfl, rfl⟩
  | ok name =>
      cases checked : StayRequest.check request with
      | error report =>
          rw [ensures_book, required, checked]
          exact ⟨rfl, rfl⟩
      | ok stay =>
          have course : (book options username request).Ensures anyhow
              (fun o xs => Course bookingPlan Newcomer (Unpriced stay)
                options.compensateFailedSagas xs o) [] := by
            have going : Going bookingPlan Newcomer (Unpriced stay) [] := going_nil nofun
            rw [ensures_book, required, checked]
            refine course_ask going ⟨_, rfl⟩ nofun rfl fun hotel => ?_
            exact bookAt_course (going.snoc ⟨_, rfl⟩ (.inl ⟨hotel, rfl⟩) nofun)
          exact course.mono fun _ _ course => course.conversation (fun _ _ => Unpriced.settled)
            fun _ _ _ => Unpriced.single

/-! ## Cancelling -/

def cancelingPlan : List Call.Kind :=
  [.getReservation, .updateReservation, .getPayment, .updatePayment, .getLoyalty, .updateLoyalty]

/-- There is nothing to cancel for this guest. -/
inductive Unconcerned (uid : Uid) (name : String) : List Exchange → Outcome Unit → Prop
  | foreign {r : Reservation} (other : r.isOwnedBy name = false) :
      Unconcerned uid name [⟨.getReservation uid, .ok r⟩] (.error (.foreignReservation uid name))
  | canceled {r : Reservation} (own : r.isOwnedBy name = true) (already : r.status = .canceled) :
      Unconcerned uid name [⟨.getReservation uid, .ok r⟩] (.ok ())

/-- No failure of a call is put up with. -/
abbrev NoneTolerated (_ : Exchange) : Prop := False

section Cancelling

variable {uid : Uid} {name : String} {r : Reservation}

/-- A reservation that this guest need not cancel is the end of a cancellation. -/
theorem declined_at_once {compensating : Bool} {x : Exchange} {o : Outcome Unit}
    (going : Going cancelingPlan NoneTolerated (Unconcerned uid name) [])
    (kind : x.kind = .getReservation) (answered : ∃ a, x.outcome = .ok a)
    (reason : Unconcerned uid name [x] o) :
    Course cancelingPlan NoneTolerated (Unconcerned uid name) compensating [x] o :=
  Course.declined going ⟨_, congrArg (· :: _) kind⟩ (.inl answered) reason

theorem Unconcerned.settled {early : List Exchange} {o : Outcome Unit}
    (unconcerned : Unconcerned uid name early o) : ∀ x ∈ early, x.Passed NoneTolerated := by
  cases unconcerned <;> simp [Exchange.Passed]

theorem Unconcerned.single {early : List Exchange} {o o' : Outcome Unit}
    (unconcerned : Unconcerned uid name early o) (unconcerned' : Unconcerned uid name early o') :
    o = o' := by
  cases unconcerned with
  | foreign other =>
      cases unconcerned' with
      | foreign => rfl
      | canceled own => cases own.symm.trans other
  | canceled own =>
      cases unconcerned' with
      | foreign other => cases own.symm.trans other
      | canceled => rfl

theorem cancelCharge_course (going : Going cancelingPlan NoneTolerated (Unconcerned uid name)
      [⟨.getReservation uid, .ok r⟩, ⟨.updateReservation r.cancel, .ok ()⟩]) :
    (cancelCharge options name r).Ensures anyhow
      (fun o xs => Course cancelingPlan NoneTolerated (Unconcerned uid name)
        options.compensateFailedSagas xs o)
      [⟨.getReservation uid, .ok r⟩, ⟨.updateReservation r.cancel, .ok ()⟩] := by
  have restored {more : List Exchange} :
      TakesBack (⟨.getReservation uid, .ok r⟩ :: more) ⟨.updateReservation r.cancel, .ok ()⟩
        (.updateReservation r) := .canceledReservation List.mem_cons_self
  rw [ensures_cancelCharge]
  refine course_settle going ⟨_, rfl⟩ nofun rfl (.cons restored .nil) fun p => ?_
  have going := going.snoc (x := ⟨.getPayment _, .ok p⟩) ⟨_, rfl⟩ (.inl ⟨p, rfl⟩) nofun
  rw [ensures_voidCharge]
  refine course_settle going ⟨_, rfl⟩ nofun rfl (.cons restored .nil) fun _ => ?_
  have going := going.snoc (x := ⟨.updatePayment p.cancel, .ok ()⟩) ⟨_, rfl⟩ (.inl ⟨(), rfl⟩) nofun
  have recharged {more : List Exchange} : TakesBack
      (⟨.getReservation uid, .ok r⟩ :: ⟨.updateReservation r.cancel, .ok ()⟩ ::
        ⟨.getPayment r.paymentUid, .ok p⟩ :: more) ⟨.updatePayment p.cancel, .ok ()⟩
      (.updatePayment p) :=
    .canceledPayment (List.mem_cons_of_mem _ (List.mem_cons_of_mem _ List.mem_cons_self))
  rw [ensures_releaseStay]
  refine course_settle going ⟨_, rfl⟩ nofun rfl (.cons restored (.cons recharged .nil)) fun l => ?_
  have going := going.snoc (x := ⟨.getLoyalty _, .ok l⟩) ⟨_, rfl⟩ (.inl ⟨l, rfl⟩) nofun
  refine course_settle going ⟨_, rfl⟩ nofun rfl (.cons restored (.cons recharged .nil)) fun l => ?_
  have going := going.snoc (x := ⟨.updateLoyalty _, .ok l⟩) ⟨_, rfl⟩ (.inl ⟨l, rfl⟩) nofun
  exact .completed going rfl

theorem cancelOwned_course (own : r.isOwnedBy name = true)
    (going : Going cancelingPlan NoneTolerated (Unconcerned uid name) []) :
    (cancelOwned options name r).Ensures anyhow
      (fun o xs => Course cancelingPlan NoneTolerated (Unconcerned uid name)
        options.compensateFailedSagas xs o) [⟨.getReservation uid, .ok r⟩] := by
  rw [ensures_cancelOwned]
  split_ifs with already
  · exact declined_at_once going rfl ⟨r, rfl⟩ (.canceled own already)
  have going := going.snoc (x := ⟨.getReservation uid, .ok r⟩) ⟨_, rfl⟩ (.inl ⟨r, rfl⟩) (by
    rintro _ (other | ⟨_, canceled⟩)
    · cases own.symm.trans other
    · exact already canceled)
  refine course_ask going ⟨_, rfl⟩ nofun rfl fun _ => ?_
  exact cancelCharge_course (going.snoc ⟨_, rfl⟩ (.inl ⟨(), rfl⟩) nofun)

end Cancelling

/-- How a cancellation may go: one that is turned down causes no call at all. -/
def CancelsInOrder (options : GatewayOptions) (uidText username : String) (o : Outcome Unit)
    (xs : List Exchange) : Prop :=
  match requireUsername username, parseUid uidText with
  | .error e, _ => xs = [] ∧ o = .error e
  | .ok _, .error e => xs = [] ∧ o = .error e
  | .ok name, .ok uid =>
    Conversation cancelingPlan NoneTolerated (Unconcerned uid name)
      options.compensateFailedSagas xs o

theorem cancels_inOrder (uidText username : String) :
    (cancel options uidText username).Ensures anyhow
      (CancelsInOrder options uidText username) [] := by
  unfold CancelsInOrder
  cases required : requireUsername username with
  | error e =>
      rw [ensures_cancel, required]
      exact ⟨rfl, rfl⟩
  | ok name =>
      cases parsed : parseUid uidText with
      | error e =>
          rw [ensures_cancel, required, onOk_ok, parsed]
          exact ⟨rfl, rfl⟩
      | ok uid =>
          have course : (cancel options uidText username).Ensures anyhow
              (fun o xs => Course cancelingPlan NoneTolerated (Unconcerned uid name)
                options.compensateFailedSagas xs o) [] := by
            have going : Going cancelingPlan NoneTolerated (Unconcerned uid name) [] :=
              going_nil nofun
            rw [ensures_cancel, required, onOk_ok, parsed]
            refine course_ask going ⟨_, rfl⟩ nofun rfl fun r => ?_
            by_cases own : r.isOwnedBy name
            · rw [if_pos own]
              exact cancelOwned_course own going
            · rw [if_neg own]
              exact declined_at_once going rfl ⟨r, rfl⟩ (.foreign (Bool.eq_false_iff.mpr own))
          exact course.mono fun _ _ course => course.conversation
            (fun _ _ => Unconcerned.settled) fun _ _ _ => Unconcerned.single

/-- The calls of a booking that succeeds. -/
example : ((book {} "ada" weekend).run.exchanges .inProcess ⟨{}, { stream := .ofNat }⟩).map
    Exchange.kind = bookingPlan := by
  decide +kernel

end Gateway

end HotelBooking
