import HotelBooking.Proofs.Gateway.Relayed
import HotelBooking.Proofs.Gateway.Rounds
import HotelBooking.Proofs.Routes.Visits

/-!
# What guests learn of failures

A failure behind the gateway is told to guests as one and the same answer, whichever service it
befell, of which kind it is and what its text says. `ServiceError.told?` is what they may know
of an error. Services that behave alike but for the rest of it are asked the same by the
gateway, in the course of an operation and when the steps of a saga are undone, and the guest
is answered the same.

The operations are tied to themselves within the leeway of such errors, so what is left to show
is that an answer says no more of an outcome than guests may know.
-/

namespace HotelBooking

open Http Routes

variable {α β σ τ : Type}

/-! ## What may be known -/

/-- What guests may know of an error: of a failure behind the gateway, nothing. -/
def ServiceError.told? : ServiceError → Option ServiceError
  | remote .. | storage _ | internal _ => none
  | e => some e

/-- What guests may know of an outcome. -/
def Outcome.told (o : Outcome α) : Except (Option ServiceError) α :=
  o.mapError ServiceError.told?

namespace ServiceError

variable {e e' : ServiceError}

theorem told?_eq_none_iff : e.told? = none ↔
    (∃ service message, e = .remote service message) ∨ (∃ message, e = .storage message) ∨
      ∃ message, e = .internal message := by
  cases e <;> simp [told?]

/-- Of two errors that tell the same, either each is the other or nothing is told of both. -/
theorem eq_or_hidden_of_told (same : e'.told? = e.told?) :
    e' = e ∨ e.told? = none ∧ e'.told? = none := by
  cases told : e.told? with
  | none => exact .inr ⟨rfl, same.trans told⟩
  | some known =>
      have itself {e : ServiceError} (told : e.told? = some known) : e = known := by
        cases e <;> cases told <;> rfl
      exact .inl ((itself (same.trans told)).trans (itself told).symm)

theorem isNotFound_of_hidden (hidden : e.told? = none) : e.isNotFound = false := by
  cases e with
  | notFound => cases hidden
  | _ => rfl

theorem isNotFound_of_told (same : e'.told? = e.told?) : e'.isNotFound = e.isNotFound := by
  rcases eq_or_hidden_of_told same with rfl | ⟨hidden, hidden'⟩
  · rfl
  · rw [isNotFound_of_hidden hidden, isNotFound_of_hidden hidden']

end ServiceError

namespace Http.Response

/-- Of a failure behind the gateway, the answer says nothing. -/
theorem ofError_of_hidden {e : ServiceError} (hidden : e.told? = none) :
    ofError e = internalError := by
  rcases ServiceError.told?_eq_none_iff.mp hidden with ⟨_, _, rfl⟩ | ⟨_, rfl⟩ | ⟨_, rfl⟩ <;> rfl

theorem ofError_of_told {e e' : ServiceError} (same : e'.told? = e.told?) :
    ofError e' = ofError e := by
  rcases ServiceError.eq_or_hidden_of_told same with rfl | ⟨hidden, hidden'⟩
  · rfl
  · rw [ofError_of_hidden hidden, ofError_of_hidden hidden']

end Http.Response

/-! ## Services that behave alike -/

/-- Runs may differ in what guests are not told of errors. -/
def Leeway.discreet : Leeway where
  number := id
  asks _ := True
  names _ := True
  errors e e' := e'.told? = e.told?
  errors_refl _ := rfl
  isNotFound_eq same := ServiceError.isNotFound_of_told same

/-- From states that correspond, the services answer every call alike as far as guests may know,
draw the same identifiers, and go on to states that correspond. -/
structure Handler.TellAlike (h : Handler σ) (h' : Handler τ) (I : σ → τ → Prop) : Prop where
  answers {s : σ} {s' : τ} (correspond : I s s') (c : Call) :
    (h'.answer c s').1.told = (h.answer c s).1.told ∧ I (h.answer c s).2 (h'.answer c s').2
  draws {s : σ} {s' : τ} (correspond : I s s') :
    (h'.draw s').1 = (h.draw s).1 ∧ I (h.draw s).2 (h'.draw s').2

namespace Outcome

variable {o o' : Outcome α}

theorem alike_of_told {R : α → α → Prop} (refl : ∀ a, R a a) (same : o'.told = o.told) :
    Outcome.Alike .discreet R o o' := by
  cases o with
  | ok a =>
      cases o' with
      | ok a' => exact Except.ok.inj same ▸ refl a
      | error e' => cases same
  | error e =>
      cases o' with
      | ok a' => cases same
      | error e' => exact Except.error.inj same

/-- The answer to a guest says no more of an outcome than guests may know. -/
theorem Alike.ofOutcome (fits : Outcome.Alike .discreet Eq o o') (reply : α → Response) :
    Response.ofOutcome reply o' = Response.ofOutcome reply o := by
  cases o with
  | ok a =>
      cases o' with
      | ok a' => exact congrArg reply (fits : a = a').symm
      | error e' => exact fits.elim
  | error e =>
      cases o' with
      | ok a' => exact fits.elim
      | error e' => exact Response.ofError_of_told fits

end Outcome

section Runs

variable {h : Handler σ} {h' : Handler τ} {I : σ → τ → Prop} {s : σ} {s' : τ}

/-- A program that is tied to itself within the leeway makes the same calls to services that
behave alike, and comes to values that fit. -/
theorem Handler.TellAlike.run {R : α → α → Prop} {p : Program α} (alike : h.TellAlike h' I)
    (tied : Program.Tied Leeway.discreet.Ties R p p) (correspond : I s s') :
    R (p.run h s).value (p.run h' s').value ∧
      (p.exchanges h' s').map Exchange.call = (p.exchanges h s).map Exchange.call := by
  have answers (c c' : Call) (K : Outcome c.Answer → Outcome c'.Answer → Prop)
      (tie : Leeway.discreet.Ties c c' K) (s : σ) (s' : τ) (correspond : I s s') :
      K (h.answer c s).1 (h'.answer c' s').1 ∧ I (h.answer c s).2 (h'.answer c' s').2 := by
    refine tie.selfsame rfl fun c R _ fits => ?_
    obtain ⟨told, after⟩ := alike.answers correspond c
    exact ⟨Outcome.alike_of_told (fun a => fits a fun _ _ => trivial) told, after⟩
  obtain ⟨fits, -, calls⟩ := tied.abreast answers (fun _ _ => alike.draws) correspond
  have same : List.Forall₂ (fun x x' => Exchange.call x = Exchange.call x')
      (p.exchanges h s) (p.exchanges h' s') :=
    calls.imp fun x x' ⟨K, tie⟩ => tie.selfsame rfl fun _ _ _ _ => rfl
  rw [← List.forall₂_map_right_iff (R := fun x c => Exchange.call x = c),
    ← List.forall₂_map_left_iff (R := Eq), List.forall₂_eq_eq_eq] at same
  exact ⟨fits, same.symm⟩

end Runs

/-! ## Rounds of lookups -/

/-- However the lookups of a round are driven, as many have begun of either services at every
moment, and it is over at the same moment, with outcomes that tell the same; these are then what
the lookups come to when they are made one after another. -/
def Handler.RoundsAlike (h : Handler σ) (h' : Handler τ) (s : σ) (s' : τ) (concurrency : Nat)
    (lookup : β → Operation α) : Prop :=
  ∀ (items : List (β × Nat)) (schedule : List FanOut.Event),
    let driven := (FanOut.State.start concurrency (h.round lookup items s)).run schedule
    let driven' := (FanOut.State.start concurrency (h'.round lookup items s')).run schedule
    driven'.begun = driven.begun ∧ driven'.isOver = driven.isOver ∧
      Outcome.told driven'.result = Outcome.told driven.result ∧
      (driven.isOver → driven.result =
        ((Operation.lookupAll concurrency (items.map Prod.fst) lookup).run.run h s).value)

section Rounds

variable {h : Handler σ} {h' : Handler τ} {I : σ → τ → Prop} {s : σ} {s' : τ}
  {lookup : β → Operation α}
  (each : ∀ b s s', I s s' →
    Outcome.told ((lookup b).run.run h' s').value = Outcome.told ((lookup b).run.run h s).value ∧
      I ((lookup b).run.run h s).state ((lookup b).run.run h' s').state)

include each

/-- The lookups of a round tell the same, each one from where the one before it has left the
services. -/
theorem Handler.round_told (correspond : I s s') (items : List (β × Nat)) :
    (h'.round lookup items s').map (Work.mapError ServiceError.told?) =
      (h.round lookup items s).map (Work.mapError ServiceError.told?) := by
  induction items generalizing s s' with
  | nil => rfl
  | cons item items ih =>
      -- The next lookup begins in other states, which correspond again.
      obtain ⟨told, after⟩ := each item.1 s s' correspond
      exact congrArg₂ List.cons (congrArg (Work.mk item.2) told) (ih after)

/-- The machine of the fan-out is driven by no more of the errors than guests may know. -/
theorem Handler.roundsAlike_of_told (correspond : I s s') (concurrency : Nat) :
    h.RoundsAlike h' s s' concurrency lookup := by
  intro items schedule driven driven'
  have shown : driven'.mapError ServiceError.told? = driven.mapError ServiceError.told? := by
    rw [← FanOut.State.run_mapError, ← FanOut.State.run_mapError, ← FanOut.State.start_mapError,
      ← FanOut.State.start_mapError, Handler.round_told each correspond]
  refine ⟨?_, ?_, ?_, result_round h s lookup concurrency items schedule⟩
  · simpa only [FanOut.State.begun_mapError] using congrArg FanOut.State.begun shown
  · simpa only [FanOut.State.isOver_mapError] using congrArg FanOut.State.isOver shown
  · simpa only [FanOut.State.result_mapError, Outcome.told] using
      congrArg FanOut.State.result shown

end Rounds

/-! ## Answers to guests -/

/-- What the gateway does for a request is tied to itself, to the answer. -/
theorem tied_gatewayRespond (options : GatewayOptions) (r : Request) :
    Program.Tied Leeway.discreet.Ties Eq (gatewayRespond options r) (gatewayRespond options r) := by
  have answers := answers_gatewayRespond options r
  cases asked : GuestRequest.ofHttp? r with
  | none =>
      rw [asked] at answers
      obtain ⟨a, answered⟩ := answers
      rw [answered]
      exact .done rfl
  | some q =>
      rw [asked, Answers] at answers
      rw [answers]
      have tied : Operation.Tied .discreet Eq (q.operation options) (q.operation options) :=
        q.tied options (fun _ _ => trivial) fun _ _ => trivial
      refine tied.bind fun o o' fits => .done ?_
      exact congrArg (sent r) (Outcome.Alike.ofOutcome fits q.reply).symm

/-- A request for an operation is answered with what that comes to. -/
theorem value_gatewayRespond {q : GuestRequest} {r : Request}
    (asked : GuestRequest.ofHttp? r = some q) (options : GatewayOptions) (h : Handler σ) (s : σ) :
    ((gatewayRespond options r).run h s).value =
      sent r (Response.ofOutcome q.reply ((q.operation options).run.run h s).value) := by
  have answers := answers_gatewayRespond options r
  rw [asked, Answers] at answers
  rw [answers, Program.value_bind]
  rfl

/-- The gateway answers every request with what the operation that it asks for comes to, or
without a call. Of services that tell the same it asks the same, however many lookups it has in
flight, and it answers the guest the same; and where an operation fails for a reason that guests
are not told, the answer is a constant, of which `HEAD` shows no more than the status. -/
theorem failures_undisclosed {h : Handler σ} {h' : Handler τ} {I : σ → τ → Prop} {s : σ} {s' : τ}
    (alike : h.TellAlike h' I) (correspond : I s s') (options : GatewayOptions) (r : Request) :
    Answers options (sent r) (GuestRequest.ofHttp? r) (gatewayRespond options r) ∧
    ((gatewayRespond options r).run h' s').value = ((gatewayRespond options r).run h s).value ∧
    ((gatewayRespond options r).exchanges h' s').map Exchange.call =
      ((gatewayRespond options r).exchanges h s).map Exchange.call ∧
    (∀ t t', I t t' →
      h.RoundsAlike h' t t' options.fetchConcurrency (fun id => Operation.ask (.getHotelById id)) ∧
      h.RoundsAlike h' t t' options.fetchConcurrency (fun uid => Operation.ask (.getPayment uid))) ∧
    ∀ q e, GuestRequest.ofHttp? r = some q →
      ((q.operation options).run.run h s).value = .error e → e.told? = none →
        ((gatewayRespond options r).run h s).value.status = 500 ∧
          ((gatewayRespond options r).run h s).value.body =
            if r.method = .head then "" else "\x7b\"message\":\"Internal Server Error\"\x7d" := by
  obtain ⟨same, calls⟩ := alike.run (tied_gatewayRespond options r) correspond
  refine ⟨answers_gatewayRespond options r, same.symm, calls, ?_, ?_⟩
  · intro t t' correspond
    constructor
    · refine Handler.roundsAlike_of_told ?_ correspond _
      exact fun id _ _ correspond => alike.answers correspond (.getHotelById id)
    · refine Handler.roundsAlike_of_told ?_ correspond _
      exact fun uid _ _ correspond => alike.answers correspond (.getPayment uid)
  · intro q e asked failed hidden
    rw [value_gatewayRespond asked options h s, failed, Response.ofOutcome,
      Response.ofError_of_hidden hidden, sent]
    split_ifs
    · exact ⟨rfl, rfl⟩
    · exact ⟨rfl, by decide +kernel⟩

/-! ## Services that fail -/

/-- The services, but for calls of some kinds, which fail with an error. -/
def Handler.failing (h : Handler σ) (kinds : List Call.Kind) (e : ServiceError) : Handler σ where
  answer c s := if c.kind ∈ kinds then (.error e, s) else h.answer c s
  draw := h.draw

theorem Handler.tellAlike_failing (h : Handler σ) (kinds : List Call.Kind) {e e' : ServiceError}
    (same : e'.told? = e.told?) : (h.failing kinds e).TellAlike (h.failing kinds e') Eq where
  answers := by
    rintro s _ rfl c
    simp only [failing]
    split_ifs
    · exact ⟨congrArg Except.error same, rfl⟩
    · exact ⟨rfl, rfl⟩
  draws := by
    rintro s _ rfl
    exact ⟨rfl, rfl⟩

/-- Ada books a stay that cannot be kept, and her charge cannot be taken back; she cannot tell
which of the services has failed, nor of what. -/
theorem adas_setback_undisclosed :
    let failing := Handler.inProcess.failing [.createReservation, .updatePayment]
    let refused : ServiceError := .remote "reservation" "connection refused"
    let silent : ServiceError := .remote "payment" "timed out"
    let b : Backend := { stores := {}, supply := { stream := .ofNat } }
    let r : Request :=
      { method := .post
        path := "/api/v1/reservations"
        headers := [(userHeader, "ada"), (contentType, jsonType)]
        body := Wire.toText weekend }
    let p := gatewayRespond { compensateFailedSagas := true } r
    GuestRequest.ofHttp? r = some (.book "ada" weekend) ∧
      silent.told? = refused.told? ∧ silent ≠ refused ∧
      (p.exchanges (failing refused) b).map Exchange.kind =
        [.getHotelByUid, .getLoyalty, .createPayment, .createReservation, .updatePayment] ∧
      (p.run (failing silent) b).log ≠ (p.run (failing refused) b).log ∧
      (p.exchanges (failing silent) b).map Exchange.call =
        (p.exchanges (failing refused) b).map Exchange.call ∧
      (p.run (failing silent) b).value = (p.run (failing refused) b).value ∧
      (p.run (failing refused) b).value.status = 500 ∧
      (p.run (failing refused) b).value.body =
        "\x7b\"message\":\"Internal Server Error\"\x7d" := by
  intro failing refused silent b r p
  have asked : GuestRequest.ofHttp? r = some (.book "ada" weekend) := by decide +kernel
  have failed : (((GuestRequest.book "ada" weekend).operation
      { compensateFailedSagas := true }).run.run (failing refused) b).value = .error refused := by
    decide +kernel
  have alike : (failing refused).TellAlike (failing silent) Eq :=
    Handler.tellAlike_failing .inProcess _ rfl
  obtain ⟨-, same, calls, -, hidden⟩ :=
    failures_undisclosed alike (Eq.refl b) { compensateFailedSagas := true } r
  exact ⟨asked, rfl, by decide, by decide +kernel, by decide +kernel, calls, same,
    hidden _ _ asked failed rfl⟩

/-- A guest who asks with `HEAD` is told of a failure by the status alone. -/
theorem head_answered_without_body :
    let refused : ServiceError := .remote "loyalty" "connection refused"
    let h := Handler.inProcess.failing [.getLoyalty] refused
    let b : Backend := { stores := {}, supply := { stream := .ofNat } }
    let r : Request :=
      { method := .head, path := "/api/v1/loyalty", headers := [(userHeader, "ada")] }
    let answer := ((gatewayRespond {} r).run h b).value
    GuestRequest.ofHttp? r = some (.loyalty "ada") ∧
      (((GuestRequest.loyalty "ada").operation {}).run.run h b).value = .error refused ∧
      answer.status = 500 ∧ answer.body = "" ∧
      answer.body ≠ "\x7b\"message\":\"Internal Server Error\"\x7d" := by
  decide +kernel

end HotelBooking
