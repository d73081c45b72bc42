import HotelBooking.Proofs.Routes.Answering

/-!
# What comes back to the caller

An answer is taken for what the service has said. A value is read back from its own text; that
something is missing is told by the status, and the caller knows by itself what it asked for;
every other error is a status that tells of no success. So a call over HTTP does to the stores
what the call in process does, and comes to the same as far as the caller can see.
-/

namespace HotelBooking

open Http

variable {α : Type}

/-- What comes of a call over HTTP where in process it comes to this: the same value, the same
word of what is missing, and of any other error only that the service has failed. -/
inductive Outcome.Relayed (service : ServiceName) : Outcome α → Outcome α → Prop
  | ok (a : α) : Relayed service (.ok a) (.ok a)
  | notFound (what : String) :
      Relayed service (.error (.notFound what)) (.error (.notFound what))
  | failed {e : ServiceError} (present : e.isNotFound = false) (message : String) :
      Relayed service (.error e) (.error (.remote service.text message))

theorem Memory.isNotFound_of_pageOf {hotels : List Hotel} {page size : Int64} {e : ServiceError}
    (h : Memory.pageOf hotels page size = .error e) : e.isNotFound = false := by
  rw [Memory.pageOf, pageOffset] at h
  split at h
  · cases h
    rfl
  · cases offset : int64? ((page.toInt - 1) * size.toInt) with
    | none =>
        rw [offset] at h
        cases h
        rfl
    | some n =>
        rw [offset] at h
        cases h

namespace Call

variable {c : Call} {fresh : Uid} {s : Stores} {e : ServiceError}

/-- A value is read back from the answer that carries it. -/
theorem decode_json [Wire α] [Wire.Faithful α] (c : Call) (status : Nat) (a : α) :
    decode α c (.json status a) = .ok a := by
  simp only [decode, Response.json, Wire.ofText_toText]

theorem interpret_json [Wire α] (c : Call) {status : Nat}
    (success : status = 200 ∨ status = 201) (a : α) :
    c.interpret (some (Response.json status a).delivered) = c.accept (.json status a) := by
  rcases success with rfl | rfl <;>
    simp [interpret, Response.delivered, Response.isSuccess, Response.json]

theorem interpret_reply (c : Call) (a : c.Answer) :
    c.interpret (some (c.reply a).delivered) = .ok a := by
  cases c with
  | updateReservation | updatePayment => rfl
  | createReservation | createPayment =>
      rw [reply, interpret_json _ (.inr rfl), accept, decode_json]
  | _ => rw [reply, interpret_json _ (.inl rfl), accept, decode_json]

/-- A call over HTTP comes to what the service answers to its request. -/
theorem perform_asked {base : ServiceName → String} (server : IsServer (base c.service))
    (sendable : ∀ name, c.onBehalfOf? = some name → IsSendable name) :
    (c.overHttp base (reliable fresh)).perform s =
      (c.interpret (some (Stores.respond c.service fresh c.asked s).1.delivered),
        (Stores.respond c.service fresh c.asked s).2) := by
  have asked : c.request? (base c.service) = some c.asked := request?_of_isServer server sendable
  have overHttp : c.overHttp base (reliable fresh) = ExceptT.mk (do
      return c.interpret (← reliable fresh c.service (received c.asked))) := by
    rw [Call.overHttp, asked]
  rw [overHttp, received_asked sendable]
  rfl

/-- A call of a carried name over HTTP is answered by what it comes to in process. -/
theorem perform_overHttp {base : ServiceName → String} (server : IsServer (base c.service))
    (carried : ∀ name, c.onBehalfOf? = some name → IsCarried name) :
    (c.overHttp base (reliable fresh)).perform s =
      (c.interpret (some (Response.ofOutcome c.reply (c.served fresh s).1).delivered),
        (c.served fresh s).2) := by
  rw [perform_asked server fun name named => (carried name named).sendable, respond_asked carried]

/-- An error is told from success, and that something is missing from other errors. -/
theorem relayed_ofError (missed : e.isNotFound → c.missing = .error e) :
    Outcome.Relayed c.service (.error e) (c.interpret (some (Response.ofError e).delivered)) := by
  cases e with
  | notFound what =>
      have told : c.interpret (some (Response.ofError (.notFound what)).delivered) =
          .error (.notFound what) := missed rfl
      rw [told]
      exact .notFound what
  | invalidParameters reason => exact .failed rfl _
  | validation report => exact .failed rfl _
  | remote service message => exact .failed rfl _
  | storage message => exact .failed rfl _
  | internal message => exact .failed rfl _

theorem missing_of_foundOr {o : Option c.Answer} (failed : foundOr c.label o = .error e)
    (single : c.missing = .error (.notFound c.label)) : c.missing = .error e := by
  rw [eq_notFound_of_foundOr failed, single]

/-- A service that misses something misses what the call is about. -/
theorem missing_of_served (failed : (c.served fresh s).1 = .error e) (missed : e.isNotFound) :
    c.missing = .error e := by
  have present {e' : ServiceError} (same : e' = e) (other : e'.isNotFound = false) : False := by
    subst same
    rw [other] at missed
    cases missed
  cases c with
  | listHotels page size =>
      rw [served_listHotels] at failed
      split at failed
      · exact (present (Except.error.inj failed) rfl).elim
      · cases paged : Memory.pageOf s.reservation.hotels page size with
        | ok items =>
            rw [paged] at failed
            cases failed
        | error e' =>
            rw [paged] at failed
            exact (present (Except.error.inj failed) (Memory.isNotFound_of_pageOf paged)).elim
  | getHotelById id =>
      rw [served_getHotelById] at failed
      exact missing_of_foundOr failed rfl
  | getHotelByUid uid =>
      rw [served_getHotelByUid] at failed
      exact missing_of_foundOr failed rfl
  | listReservations name => cases failed
  | getReservation uid =>
      rw [served_getReservation] at failed
      exact missing_of_foundOr failed rfl
  | createReservation r =>
      rw [served_createReservation] at failed
      split_ifs at failed <;> exact (present (Except.error.inj failed) rfl).elim
  | updateReservation r =>
      rw [served_updateReservation] at failed
      exact missing_of_foundOr failed rfl
  | createPayment price =>
      rw [served_createPayment] at failed
      split_ifs at failed <;> exact (present (Except.error.inj failed) rfl).elim
  | getPayment uid =>
      rw [served_getPayment] at failed
      exact missing_of_foundOr failed rfl
  | updatePayment p =>
      rw [served_updatePayment] at failed
      split_ifs at failed
      · exact (present (Except.error.inj failed) rfl).elim
      · exact missing_of_foundOr failed rfl
  | getLoyalty name =>
      rw [served_getLoyalty] at failed
      exact missing_of_foundOr failed rfl
  | updateLoyalty l =>
      rw [served_updateLoyalty] at failed
      split_ifs at failed
      exact (present (Except.error.inj failed) rfl).elim

/-- A call of a carried name over HTTP comes to what the call in process comes to, and leaves
the same stores. -/
theorem relayed_overHttp {base : ServiceName → String} (server : IsServer (base c.service))
    (carried : ∀ name, c.onBehalfOf? = some name → IsCarried name) (fresh : Uid) (s : Stores) :
    Outcome.Relayed c.service (c.served fresh s).1
        ((c.overHttp base (reliable fresh)).perform s).1 ∧
      ((c.overHttp base (reliable fresh)).perform s).2 = (c.served fresh s).2 := by
  rw [perform_overHttp server carried]
  refine ⟨?_, rfl⟩
  cases came : (c.served fresh s).1 with
  | ok a =>
      rw [Response.ofOutcome, interpret_reply]
      exact .ok a
  | error e => exact relayed_ofError (missing_of_served came)

end Call

end HotelBooking
