import HotelBooking.Proofs.Client.Relaying
import HotelBooking.Proofs.Gateway.CallOrder
import HotelBooking.Proofs.Gateway.SideBySide

/-!
# The gateway over HTTP

It makes no difference to the stores whether the services are in the process of the gateway or
behind HTTP, and next to none to guests. Every call of either run goes together with the same
call of the other, since names that a header carries are all that the gateway ever tells: the
guest's own, and that of the guest's own record. So the two runs go through the same states,
and come to the same but for what an error says that tells of nothing missing.
-/

namespace HotelBooking

open Http

variable {α β σ : Type}

/-! ## Runs side by side -/

namespace Program

/-- The states that a program goes through, from the one it starts in. -/
def states (h : Handler σ) : Program α → σ → List σ
  | done _, s => [s]
  | call c next, s => s :: (next (h.answer c s).1).states h (h.answer c s).2
  | fresh next, s => s :: (next (h.draw s).1).states h (h.draw s).2
  | log _ next, s => next.states h s

/-- Handlers whose states correspond, and that answer tied calls with outcomes that go together,
take tied programs through states that correspond to values that fit, by calls that are tied. -/
theorem Tied.abreast {τ : Type} {T : Tie} {R : α → β → Prop} {I : σ → τ → Prop} {p : Program α}
    {p' : Program β} {h : Handler σ} {h' : Handler τ}
    (answers : ∀ (c c' : Call) (K : Outcome c.Answer → Outcome c'.Answer → Prop), T c c' K →
      ∀ s s', I s s' → K (h.answer c s).1 (h'.answer c' s').1 ∧
        I (h.answer c s).2 (h'.answer c' s').2)
    (draws : ∀ s s', I s s' → (h'.draw s').1 = (h.draw s).1 ∧ I (h.draw s).2 (h'.draw s').2)
    (tied : Tied T R p p') {s : σ} {s' : τ} (start : I s s') :
    R (p.run h s).value (p'.run h' s').value ∧
      List.Forall₂ I (p.states h s) (p'.states h' s') ∧
      List.Forall₂ (fun x x' => ∃ K, T x.call x'.call K) (p.exchanges h s)
        (p'.exchanges h' s') := by
  induction tied generalizing s s' with
  | done fits => exact ⟨fits, .cons start .nil, .nil⟩
  | @call c c' next next' K tie later ih =>
      obtain ⟨outcome, after⟩ := answers c c' K tie s s' start
      obtain ⟨fits, states, calls⟩ := ih _ _ outcome after
      exact ⟨fits, .cons start states, .cons ⟨K, tie⟩ calls⟩
  | @fresh next next' later ih =>
      obtain ⟨same, after⟩ := draws s s' start
      obtain ⟨fits, states, calls⟩ := ih (h.draw s).1 after
      simp only [Program.run, Program.states, Program.exchanges, same]
      exact ⟨fits, .cons start states, calls⟩
  | log later ih => exact ih start

/-- Handlers that answer tied calls with outcomes that go together, and leave the same state
each time, take tied programs through the same states to values that fit. -/
theorem Tied.run {T : Tie} {R : α → β → Prop} {p : Program α} {p' : Program β} {h h' : Handler σ}
    (answers : ∀ (c c' : Call) (K : Outcome c.Answer → Outcome c'.Answer → Prop), T c c' K → ∀ s,
      K (h.answer c s).1 (h'.answer c' s).1 ∧ (h'.answer c' s).2 = (h.answer c s).2)
    (draws : h'.draw = h.draw) (tied : Tied T R p p') (s : σ) :
    p'.states h' s = p.states h s ∧ R (p.run h s).value (p'.run h' s).value := by
  have answered (c c' : Call) (K : Outcome c.Answer → Outcome c'.Answer → Prop) (tie : T c c' K)
      (s s' : σ) (same : s = s') :
      K (h.answer c s).1 (h'.answer c' s').1 ∧ (h.answer c s).2 = (h'.answer c' s').2 :=
    same ▸ (answers c c' K tie s).imp_right Eq.symm
  have drawn (s s' : σ) (same : s = s') :
      (h'.draw s').1 = (h.draw s).1 ∧ (h.draw s).2 = (h'.draw s').2 := by
    rw [draws, same]
    exact ⟨rfl, rfl⟩
  obtain ⟨fits, states, -⟩ := tied.abreast (I := Eq) answered drawn (Eq.refl s)
  rw [List.forall₂_eq_eq_eq] at states
  exact ⟨states.symm, fits⟩

end Program

/-! ## What a guest is told -/

/-- The same value and the same word of what is missing; any other error is as good as another. -/
def Outcome.Agree (o o' : Outcome α) : Prop :=
  (∀ a, o = .ok a ↔ o' = .ok a) ∧
    ∀ what, o = .error (.notFound what) ↔ o' = .error (.notFound what)

/-- Services behind HTTP are told names that a header carries, and tell what is missing. -/
def Leeway.relayed : Leeway where
  number := id
  asks _ := True
  names := IsCarried
  errors e e' := ∀ what, e = .notFound what ↔ e' = .notFound what
  errors_refl _ _ := Iff.rfl
  isNotFound_eq {e e'} same := by
    have missing (e : ServiceError) : e.isNotFound ↔ ∃ what, e = .notFound what := by
      cases e <;> simp [ServiceError.isNotFound]
    rw [Bool.eq_iff_iff, missing, missing]
    exact exists_congr fun what => (same what).symm

theorem Outcome.Alike.agree {o o' : Outcome α} (h : Outcome.Alike .relayed Eq o o') :
    o.Agree o' := by
  cases o with
  | ok a =>
      cases o' with
      | ok a' =>
          cases (h : a = a')
          exact ⟨fun _ => Iff.rfl, fun _ => Iff.rfl⟩
      | error e' => exact h.elim
  | error e =>
      cases o' with
      | ok a' => exact h.elim
      | error e' =>
          refine ⟨fun a => ⟨nofun, nofun⟩, fun what => ?_⟩
          rw [Except.error.injEq, Except.error.injEq]
          exact h what

theorem Outcome.Relayed.alike {service : ServiceName} {R : α → α → Prop} {o o' : Outcome α}
    (h : Outcome.Relayed service o o') (fits : ∀ a, o = .ok a → R a a) :
    Outcome.Alike .relayed R o o' := by
  cases h with
  | ok a => exact fits a rfl
  | notFound what => exact fun _ => Iff.rfl
  | failed present message =>
      intro what
      refine ⟨?_, nofun⟩
      rintro rfl
      cases present

section Calls

variable {c c' : Call} {K : Outcome c.Answer → Outcome c'.Answer → Prop}
  {base : ServiceName → String}

/-- The guest whose record a call is answered with. -/
def Call.recordOf? : (c : Call) → c.Answer → Option String
  | getLoyalty _, l | updateLoyalty _, l => some l.username
  | _, _ => none

/-- Records are of the guest that they are asked for or saved for. -/
theorem Call.onBehalfOf?_of_served {a : c.Answer} {name : String} {fresh : Uid} {s : Stores}
    (served : (c.served fresh s).1 = .ok a) (record : c.recordOf? a = some name) :
    c.onBehalfOf? = some name := by
  cases c with
  | getLoyalty guest =>
      rw [served_getLoyalty] at served
      have own : a.username = guest := Stores.username_of_loyalty? (eq_some_of_foundOr served)
      exact (congrArg some own.symm).trans record
  | updateLoyalty l =>
      rw [served_updateLoyalty] at served
      split_ifs at served
      cases served
      have own : (s.savedLoyalty l.recompute).username = l.username :=
        Stores.username_of_loyalty? (Stores.loyalty?_saveLoyalty_self l.recompute)
      exact (congrArg some own.symm).trans record
  | _ => cases record

/-- Where the numbers of rows count, a call goes together with itself alone, is on behalf of a
name that may be told, and has answers that go with themselves unless they are records of a name
that may not. -/
@[elab_as_elim]
theorem Leeway.Ties.selfsame {v : Leeway}
    {motive : (c c' : Call) → (Outcome c.Answer → Outcome c'.Answer → Prop) → Prop}
    (tie : v.Ties c c' K) (numbers : v.number = id)
    (same : ∀ (c : Call) (R : c.Answer → c.Answer → Prop),
      (∀ name, c.onBehalfOf? = some name → v.names name) →
      (∀ a, (∀ name, c.recordOf? a = some name → v.names name) → R a a) →
      motive c c (Outcome.Alike v R)) : motive c c' K := by
  obtain ⟨number, asks, names, errors, errors_refl, isNotFound_eq⟩ := v
  -- Rows that are alike now are the same row, number and all.
  obtain rfl : number = id := numbers
  have told {name : String} (named : names name) :
      ∀ guest, some name = some guest → names guest := by
    rintro _ ⟨⟩
    exact named
  cases tie with
  | listHotels page size => exact same (.listHotels page size) Eq nofun fun _ _ => rfl
  | getHotelById id => exact same (.getHotelById id) Eq nofun fun _ _ => rfl
  | getHotelByUid uid => exact same (.getHotelByUid uid) Eq nofun fun _ _ => rfl
  | listReservations named => exact same (.listReservations _) _ (told named) fun _ _ => rfl
  | getReservation => exact same (.getReservation _) _ nofun fun _ _ => rfl
  | @createReservation r r' alike named =>
      obtain rfl : r = r' := alike.symm
      exact same (.createReservation r) _ (told named) fun _ _ => rfl
  | @updateReservation r r' alike =>
      obtain rfl : r = r' := alike.symm
      exact same (.updateReservation r) Eq nofun fun _ _ => rfl
  | createPayment price => exact same (.createPayment price) _ nofun fun _ _ => rfl
  | getPayment uid => exact same (.getPayment uid) _ nofun fun _ _ => rfl
  | @updatePayment p p' alike =>
      obtain rfl : p = p' := alike.symm
      exact same (.updatePayment p) Eq nofun fun _ _ => rfl
  | getLoyalty named =>
      exact same (.getLoyalty _) _ (told named) fun _ named => ⟨rfl, named _ rfl⟩
  | @updateLoyalty l l' alike =>
      obtain ⟨alike, named⟩ := alike
      obtain rfl : l = l' := alike.symm
      exact same (.updateLoyalty l) _ (told named) fun _ named => ⟨rfl, named _ rfl⟩

/-- Calls that go together have outcomes that do when the one is made over HTTP. -/
theorem Leeway.Ties.overHttp (tie : Leeway.relayed.Ties c c' K)
    (server : ∀ service, IsServer (base service)) (fresh : Uid) (s : Stores) :
    K (c.served fresh s).1 ((c'.overHttp base (Call.reliable fresh)).perform s).1 ∧
      ((c'.overHttp base (Call.reliable fresh)).perform s).2 = (c.served fresh s).2 := by
  refine tie.selfsame rfl fun c R carried fits => ?_
  obtain ⟨outcome, same⟩ := Call.relayed_overHttp (server c.service) carried fresh s
  refine ⟨outcome.alike fun a served => fits a fun name record => ?_, same⟩
  exact carried name (Call.onBehalfOf?_of_served served record)

end Calls

theorem Handler.answer_overHttp (base : ServiceName → String) (c : Call) (b : Backend) :
    (overHttp base).answer c b =
      (((c.overHttp base (Call.reliable b.supply.draw.1)).perform b.stores).1,
        { stores := ((c.overHttp base (Call.reliable b.supply.draw.1)).perform b.stores).2
          supply := b.supply.draw.2 }) := by
  rw [overHttp]

/-- Over HTTP, with names that a header carries, every call comes to what it comes to in process
and leaves the same stores; and whatever guests ask of the gateway takes the services through the
same states, and is answered with the same values and the same word of what is missing. -/
theorem relayed_as_in_process {base : ServiceName → String}
    (server : ∀ service, IsServer (base service)) :
    (∀ (c : Call) (fresh : Uid) (s : Stores),
      (∀ name, c.onBehalfOf? = some name → IsCarried name) →
        Outcome.Relayed c.service (c.served fresh s).1
            ((c.overHttp base (Call.reliable fresh)).perform s).1 ∧
          ((c.overHttp base (Call.reliable fresh)).perform s).2 = (c.served fresh s).2) ∧
      ∀ (options : GatewayOptions) (requests : List GuestRequest) (b : Backend),
        (∀ r ∈ requests, ∀ name, r.guest? = some name → IsCarried name) →
          (Gateway.visit options requests).states (.overHttp base) b =
              (Gateway.visit options requests).states .inProcess b ∧
            List.Forall₂ (Reply.Rel fun _ => Outcome.Agree)
              ((Gateway.visit options requests).run .inProcess b).value
              ((Gateway.visit options requests).run (.overHttp base) b).value := by
  refine ⟨fun c fresh s carried => Call.relayed_overHttp (server c.service) carried fresh s, ?_⟩
  intro options requests b carried
  have tied : Program.Tied Leeway.relayed.Ties _ (Gateway.visit options requests)
      (Gateway.visit options requests) := Gateway.tied_visit (fun _ _ _ _ => trivial) carried
  have answers (c c' : Call) (K : Outcome c.Answer → Outcome c'.Answer → Prop)
      (tie : Leeway.relayed.Ties c c' K) (b : Backend) :
      K (Handler.inProcess.answer c b).1 ((Handler.overHttp base).answer c' b).1 ∧
        ((Handler.overHttp base).answer c' b).2 = (Handler.inProcess.answer c b).2 := by
    obtain ⟨outcome, same⟩ := tie.overHttp server b.supply.draw.1 b.stores
    rw [Handler.answer_inProcess, Handler.answer_overHttp, same]
    dsimp only
    exact ⟨outcome, rfl⟩
  obtain ⟨states, replies⟩ := tied.run answers rfl b
  exact ⟨states, replies.imp fun _ _ fits => fits.mono fun _ _ _ => Outcome.Alike.agree⟩

/-! ## Ada, who has two names -/

/-- Nobody knows of Ada, whose name has a blank in it, before she books, and then she sees what
she has booked: over HTTP as in process. -/
theorem ada_over_http :
    let base : ServiceName → String := fun _ => "http://localhost:8060/"
    let b : Backend := { stores := {}, supply := { stream := .ofNat } }
    let visit := Gateway.visit {}
      [.loyalty "Ada Lovelace", .book " Ada Lovelace" weekend, .guest "Ada Lovelace"]
    (∀ service, IsServer (base service)) ∧ IsCarried "Ada Lovelace" ∧
      ((Call.getLoyalty "Ada Lovelace").overHttp base (Call.reliable .nil)).perform {} =
        (.error (.notFound (Loyalty.label "Ada Lovelace")), {}) ∧
      (visit.run .inProcess b).value.map (fun reply => reply.outcome.toBool) =
        [false, true, true] ∧
      visit.states (.overHttp base) b = visit.states .inProcess b ∧
      List.Forall₂ (Reply.Rel fun _ => Outcome.Agree) (visit.run .inProcess b).value
        (visit.run (.overHttp base) b).value := by
  intro base b visit
  have server (service : ServiceName) : IsServer (base service) := ⟨by decide +kernel, by decide⟩
  have ada : IsCarried "Ada Lovelace" := ⟨by decide, by decide +kernel, by decide⟩
  have carried {guest : Option String} (of_ada : guest = some "Ada Lovelace") :
      ∀ name, guest = some name → IsCarried name := by
    rw [of_ada]
    rintro _ ⟨⟩
    exact ada
  obtain ⟨calls, visits⟩ := relayed_as_in_process server
  refine ⟨server, ada, ?_, by decide +kernel, visits _ _ b ?_⟩
  · obtain ⟨outcome, stores⟩ := calls (.getLoyalty "Ada Lovelace") .nil {} (carried rfl)
    have missing : ((Call.getLoyalty "Ada Lovelace").served .nil {}).1 =
        .error (.notFound (Loyalty.label "Ada Lovelace")) := by decide +kernel
    rw [missing] at outcome
    refine Prod.ext ?_ stores
    generalize (Action.perform _ _).1 = o at outcome ⊢
    cases outcome with
    | notFound => rfl
    | failed present => cases present
  · have from_ada : ∀ r ∈ [.loyalty "Ada Lovelace", .book " Ada Lovelace" weekend,
        .guest "Ada Lovelace"], GuestRequest.guest? r = some "Ada Lovelace" := by decide +kernel
    exact fun r member => carried (from_ada r member)

end HotelBooking
