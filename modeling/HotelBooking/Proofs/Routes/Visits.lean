import HotelBooking.Proofs.Gateway.Session
import HotelBooking.Routes.Gateway

/-!
# What guests ask for over HTTP

A request to the gateway asks for one operation or for none. `GuestRequest.ofHttp?` reads off
which: by the path, the method, and the query, header or body where the operation takes
something from there. A request for an operation is answered with what that comes to, and every
other request without a call to any service.

The purposes stand in a table beside the endpoints, so that each handler is compared with its
purpose alone.
-/

namespace HotelBooking

open Http Handling Routes

variable {α : Type}

namespace GuestRequest

/-- The purposes of a resource, by method: what a request is for, if it can be read. -/
abbrev Purposes := List (Method × (Request → Option GuestRequest))

/-- What the resources of the gateway are for, by the segments of their paths. -/
def purposes : List String → Purposes
  | ["manage", "health"] => [(.get, fun _ => none)]
  | ["api", "v1", "hotels"] =>
    [(.get, fun r => (pageQuery r.query).toOption.map fun (page, size) => .hotels page size)]
  | ["api", "v1", "me"] => [(.get, fun r => some (.guest (callerName r.headers)))]
  | ["api", "v1", "loyalty"] => [(.get, fun r => some (.loyalty (callerName r.headers)))]
  | ["api", "v1", "reservations"] =>
    [(.get, fun r => some (.bookings (callerName r.headers))),
      (.post, fun r =>
        (jsonBody BookingRequest r).toOption.map fun body => .book (callerName r.headers) body)]
  | ["api", "v1", "reservations", raw] =>
    if raw.isEmpty then []
    else
      [(.get, fun r => (Text.Percent.decode? raw).map fun uid =>
          .booking uid (callerName r.headers)),
        (.delete, fun r => (Text.Percent.decode? raw).map fun uid =>
          .cancel uid (callerName r.headers))]
  | _ => []

/-- The operation that a request to the gateway asks for; `HEAD` asks for what `GET` does. -/
def ofHttp? (r : Request) : Option GuestRequest :=
  ((purposes (segments r.path)).lookup (if r.method = .head then .get else r.method)).bind (· r)

/-- How an operation that succeeds is answered. -/
def reply : (q : GuestRequest) → q.Answer → Response
  | hotels .., .empty => .empty 204
  | hotels .., .page p => .json 200 p
  | guest _, g => .json 200 g
  | bookings _, views => .json 200 views
  | loyalty _, l => .json 200 l
  | booking .., view => .json 200 view
  | book .., receipt => .json 200 receipt
  | cancel .., _ => .empty 204

end GuestRequest

/-! ## Answers -/

theorem Program.bind_assoc {β γ : Type} (p : Program α) (f : α → Program β) (g : β → Program γ) :
    p >>= f >>= g = p >>= fun a => f a >>= g := by
  induction p with
  | done a => rfl
  | call c next ih => exact congrArg (Program.call c) (funext ih)
  | fresh next ih => exact congrArg Program.fresh (funext ih)
  | log line next ih => exact congrArg (Program.log line) ih

variable {options : GatewayOptions}

/-- The request is answered with what the operation that it asks for comes to, finished in some
way, or without any call. -/
def Answers (options : GatewayOptions) (finish : Response → Response)
    (asked : Option GuestRequest) (p : Program Response) : Prop :=
  match asked with
  | none => ∃ a, p = .done a
  | some q => p = do return finish (Response.ofOutcome q.reply (← (q.operation options).run))

theorem Answers.finish {first : Response → Response} {asked : Option GuestRequest}
    {p : Program Response} (h : Answers options first asked p) (next : Response → Response) :
    Answers options (fun a => next (first a)) asked (do return next (← p)) := by
  cases asked with
  | none =>
      obtain ⟨a, rfl⟩ := h
      exact ⟨next a, rfl⟩
  | some q =>
      rw [Answers] at h ⊢
      rw [h]
      exact Program.bind_assoc _ _ _

/-! ## Handlers -/

/-- The value of an operation is answered, or its error. -/
theorem answer_operation (op : Operation α) (reply : α → Response) :
    (do let a ← perform op; return reply a : Handling Program Response).answer =
      (do return Response.ofOutcome reply (← op.run) : Program Response) := by
  have computed (p : Program (Outcome α)) :
      (do let a ← perform (ExceptT.mk p); return reply a : Handling Program Response).answer =
        (do return Response.ofOutcome reply (← p) : Program Response) := by
    induction p with
    | done o => cases o <;> rfl
    | call c next ih => exact congrArg (Program.call c) (funext ih)
    | fresh next ih => exact congrArg Program.fresh (funext ih)
    | log line next ih => exact congrArg (Program.log line) ih
  exact computed op.run

/-- A handler that answers the requests that are for this. -/
def Serves (options : GatewayOptions) (h : Method × (Request → Handling Program Response))
    (purpose : Method × (Request → Option GuestRequest)) : Prop :=
  h.1 = purpose.1 ∧ ∀ r, Answers options id (purpose.2 r) (h.2 r).answer

theorem answers_operation (q : GuestRequest) :
    Answers options id (some q)
      (do let a ← perform (q.operation options); return q.reply a :
        Handling Program Response).answer :=
  answer_operation (q.operation options) q.reply

/-- What cannot be read is refused without a call. -/
theorem answers_refuse {β : Type} {x : Except Refusal β} {next : β → Handling Program Response}
    {ask : β → GuestRequest} (each : ∀ b, Answers options id (some (ask b)) (next b).answer) :
    Answers options id (x.toOption.map ask) (refuse x >>= next).answer := by
  cases x with
  | error e => exact ⟨e.response, rfl⟩
  | ok b => exact each b

theorem toOption_pathText (parameter raw : String) :
    (pathText parameter raw).toOption = Text.Percent.decode? raw := by
  rw [pathText]
  cases Text.Percent.decode? raw <;> rfl

theorem serves_offers : List.Forall₂ (Serves options) offers
    (GuestRequest.purposes ["api", "v1", "hotels"]) := by
  refine .cons ⟨rfl, fun _ => answers_refuse fun (page, size) => ?_⟩ .nil
  have answered : Answers options id (some (.hotels page size))
      (do
        let listing ← perform (Gateway.readHotels page size)
        return (GuestRequest.hotels page size).reply listing :
          Handling Program Response).answer := answers_operation (.hotels page size)
  -- The handler tells an empty listing apart by itself.
  convert answered using 4 with listing
  cases listing <;> rfl

theorem serves_bookings : List.Forall₂ (Serves options) (bookings options)
    (GuestRequest.purposes ["api", "v1", "reservations"]) :=
  .cons ⟨rfl, fun _ => answers_operation (.bookings _)⟩
    (.cons ⟨rfl, fun _ => answers_refuse fun body => answers_operation (.book _ body)⟩ .nil)

theorem serves_booking {raw : String} (filled : raw.isEmpty = false) :
    List.Forall₂ (Serves options) (booking options raw)
      (GuestRequest.purposes ["api", "v1", "reservations", raw]) := by
  rw [GuestRequest.purposes, filled]
  refine .cons ⟨rfl, fun _ => ?_⟩ (.cons ⟨rfl, fun _ => ?_⟩ .nil)
  · rw [← toOption_pathText "reservation_uid"]
    exact answers_refuse fun uid => answers_operation (.booking uid _)
  · rw [← toOption_pathText "reservation_uid"]
    exact answers_refuse fun uid => answers_operation (.cancel uid _)

/-- The resources of the gateway are there for their purposes, and for nothing else. -/
theorem serves_gatewaySite (path : List String) :
    List.Forall₂ (Serves options) ((gatewaySite options path).getD [])
      (GuestRequest.purposes path) := by
  unfold gatewaySite
  split
  · exact .cons ⟨rfl, fun _ => ⟨_, rfl⟩⟩ .nil
  · exact serves_offers
  · exact .cons ⟨rfl, fun _ => answers_operation (.guest _)⟩ .nil
  · exact .cons ⟨rfl, fun _ => answers_operation (.loyalty _)⟩ .nil
  · exact serves_bookings
  · rename_i raw
    cases filled : raw.isEmpty with
    | true =>
        rw [GuestRequest.purposes, filled]
        exact .nil
    | false => exact serves_booking filled
  · rw [GuestRequest.purposes]
    · exact .nil
    all_goals assumption

/-! ## Requests -/

/-- The answer to a request as the gateway sends it. -/
def sent (r : Request) (a : Response) : Response :=
  shared (if r.method = .head then a.withoutBody else a)

/-- Where handlers are there for their purposes, the handler of a method is for the purpose of
the method. -/
theorem handler?_of_serves {e : Endpoint Program} {purposes : GuestRequest.Purposes}
    (serves : List.Forall₂ (Serves options) e purposes) (method : Method) :
    Option.Rel (fun h ask => ∀ r, Answers options id (ask r) (h r).answer) (e.handler? method)
      (purposes.lookup method) := by
  induction serves with
  | nil => exact .none
  | @cons h purpose _ _ serves _ ih =>
      obtain ⟨same, answers⟩ := serves
      rw [Endpoint.handler?, List.lookup_cons, List.lookup_cons, same]
      split
      · exact .some answers
      · exact ih

theorem answers_respond {e : Endpoint Program} {purposes : GuestRequest.Purposes}
    (serves : List.Forall₂ (Serves options) e purposes) (r : Request) :
    Answers options (fun a => if r.method = .head then a.withoutBody else a)
      ((purposes.lookup (if r.method = .head then .get else r.method)).bind (· r))
      (e.respond r) := by
  have matched := handler?_of_serves serves (if r.method = .head then .get else r.method)
  rw [Endpoint.respond]
  generalize e.handler? _ = h at matched ⊢
  generalize purposes.lookup _ = ask at matched ⊢
  cases matched with
  | none => exact ⟨_, rfl⟩
  | some answers => exact (answers r).finish _

/-- No operation is asked for by `OPTIONS`. -/
theorem ofHttp?_options {r : Request} (options : r.method = .options) :
    GuestRequest.ofHttp? r = none := by
  have unlisted : (GuestRequest.purposes (segments r.path)).lookup .options = none := by
    unfold GuestRequest.purposes
    split
    case h_6 => split_ifs <;> rfl
    all_goals rfl
  rw [GuestRequest.ofHttp?, options, if_neg (by decide), unlisted]
  rfl

/-- The gateway answers every request with what the operation that it asks for comes to, or,
where it asks for none, without any call. -/
theorem answers_gatewayRespond (options : GatewayOptions) (r : Request) :
    Answers options (sent r) (GuestRequest.ofHttp? r) (gatewayRespond options r) := by
  rw [gatewayRespond]
  split_ifs with preflight
  · rw [ofHttp?_options preflight]
    exact ⟨_, rfl⟩
  · have serves : List.Forall₂ (Serves options) _ _ := serves_gatewaySite (segments r.path)
    refine Answers.finish ?_ shared
    rw [Site.respond]
    cases found : gatewaySite options (segments r.path) with
    | some e =>
        rw [found] at serves
        exact answers_respond serves r
    | none =>
        rw [found] at serves
        have nothing : GuestRequest.purposes (segments r.path) = [] :=
          List.forall₂_nil_left_iff.mp serves
        rw [GuestRequest.ofHttp?, nothing]
        exact ⟨_, rfl⟩

end HotelBooking
