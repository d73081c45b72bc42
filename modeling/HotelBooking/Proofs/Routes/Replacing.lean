import HotelBooking.Proofs.Routes.Answering

/-!
# What a PUT request changes

A PUT request names what it is about more than once: in the path or in a header, in the body,
and by the number in the body. Only the first of these counts, and the name in the body where no
caller is named. `Asks` says which update of the service a request comes to, and every request
that comes to none is refused without a look at the stores. So whatever is sent, at most the row
that the request addresses is changed, and sending it again changes nothing more.
-/

namespace HotelBooking

open Http Handling Routes

namespace Http

/-- The identifier at the end of a path to a resource. -/
def uidInPath? (resource : String) (r : Request) : Option Uid :=
  match segments r.path with
  | ["api", "v1", name, raw] =>
    if name = resource then (Text.Percent.decode? raw).bind Uid.ofText? else none
  | _ => none

/-- The guest whose record a request is about, given the name in its body. -/
def guestNamed (r : Request) (inBody : String) : String :=
  if (callerName r.headers).isEmpty then inBody else callerName r.headers

/-! ## Refusals -/

section Refusing

variable {σ α : Type} {r : Request}

theorem isSuccess_refusal (e : Refusal) : e.response.isSuccess = false := by
  cases e <;> rfl

theorem isSuccess_of_uidText {text : String} {a : Response} (refused : uidText text = .error a) :
    a.isSuccess = false := by
  rw [uidText] at refused
  split at refused
  · cases refused
  · cases refused
    rfl

theorem ofText?_of_uidText {text : String} {uid : Uid} (read : uidText text = .ok uid) :
    Uid.ofText? text = some uid := by
  rw [uidText] at read
  split at read
  · cases read
    assumption
  · cases read

theorem decode?_of_pathText {parameter raw text : String}
    (read : pathText parameter raw = .ok text) : Text.Percent.decode? raw = some text := by
  rw [pathText] at read
  split at read
  · cases read
    assumption
  · cases read

/-- An answer that is no success and leaves everything as it is, whatever identifier is new. -/
def Refuses (respond : Uid → StateM σ Response) : Prop :=
  ∃ a : Response, a.isSuccess = false ∧ ∀ fresh t, respond fresh t = (a, t)

theorem refuses_refuse {x : Except Refusal α} {e : Refusal} (refused : x = .error e)
    (next : α → Handling (StateM σ) Response) : Refuses fun _ => (refuse x >>= next).answer := by
  subst refused
  exact ⟨e.response, isSuccess_refusal e, fun _ _ => rfl⟩

theorem refuses_uidText {text : String} {a : Response} (refused : uidText text = .error a)
    (next : Uid → Handling (StateM σ) Response) :
    Refuses fun _ => (orAnswer (uidText text) >>= next).answer := by
  refine ⟨a, isSuccess_of_uidText refused, fun _ _ => ?_⟩
  rw [refused]
  rfl

/-- An endpoint, or none, that takes only these methods, and not PUT. -/
def TakesNoPut (methods? : Option (List Method)) (e? : Option (Endpoint (StateM σ))) : Prop :=
  e?.map (fun e => (e.methods, e.handler? .put)) = methods?.map fun methods => (methods, none)

theorem refuses_of_takesNoPut (site : Uid → Site (StateM σ)) {methods? : Option (List Method)}
    (put : r.method = .put) (taken : ∀ fresh, TakesNoPut methods? (site fresh (segments r.path))) :
    Refuses fun fresh => (site fresh).respond r := by
  cases methods? with
  | none =>
      refine ⟨.empty 404, rfl, fun fresh t => ?_⟩
      have led : site fresh (segments r.path) = none := Option.map_eq_none_iff.mp (taken fresh)
      show Site.respond (site fresh) r t = _
      rw [Site.respond, led]
      rfl
  | some methods =>
      refine ⟨methodNotAllowed methods, rfl, fun fresh t => ?_⟩
      obtain ⟨e, led, same⟩ := Option.map_eq_some_iff.mp (taken fresh)
      obtain ⟨rfl, missing⟩ := Prod.ext_iff.mp same
      change e.handler? .put = none at missing
      show Site.respond (site fresh) r t = _
      rw [Site.respond_of_endpoint led, Endpoint.respond, put, if_neg (by decide), missing]
      rfl

end Refusing

/-! ## What is asked for

Each site takes a PUT request in one place. -/

section Sites

variable {σ α : Type} [Wire α] {r : Request} {site : Uid → Site (StateM σ)}

/-- How a change of what the path names is handled. -/
def amend (parameter raw : String) (change : Uid → α → Handling (StateM σ) Response)
    (r : Request) : Handling (StateM σ) Response := do
  let text ← refuse (pathText parameter raw)
  let uid ← orAnswer (uidText text)
  let body ← refuse (jsonBody α r)
  change uid body

theorem Site.respond_of_handler {site : Site (StateM σ)} {e : Endpoint (StateM σ)}
    {h : Request → Handling (StateM σ) Response} (put : r.method = .put)
    (led : site (segments r.path) = some e) (found : e.handler? .put = some h) :
    site.respond r = (h r).answer := by
  rw [Site.respond_of_endpoint led, Endpoint.respond_of_handler (h := h)]
  · rw [put, found]
  · rw [put]
    exact nofun

theorem refused_or_amends (parameter raw : String) (r : Request)
    (change : Uid → α → Handling (StateM σ) Response) :
    Refuses (fun _ => (amend parameter raw change r).answer) ∨
      ∃ uid body, (Text.Percent.decode? raw).bind Uid.ofText? = some uid ∧
        jsonBody α r = .ok body ∧
        (amend parameter raw change r).answer = (change uid body).answer := by
  rw [amend]
  cases path : pathText parameter raw with
  | error e => exact .inl (refuses_refuse rfl _)
  | ok text =>
      rw [answer_refuse rfl]
      cases named : uidText text with
      | error a => exact .inl (named ▸ refuses_uidText named _)
      | ok uid =>
          rw [answer_orAnswer rfl]
          cases read : jsonBody α r with
          | error e => exact .inl (refuses_refuse rfl _)
          | ok body =>
              rw [answer_refuse rfl, decode?_of_pathText path]
              exact .inr ⟨uid, body, ofText?_of_uidText named, rfl, rfl⟩

/-- A site that takes a PUT request only for what an identifier in the path names. -/
theorem refused_or_changes (site : Uid → Site (StateM σ)) (resource parameter : String)
    (change : Uid → α → Handling (StateM σ) Response)
    (takes : ∀ fresh raw, ¬ raw.isEmpty → ∃ e, site fresh ["api", "v1", resource, raw] = some e ∧
      e.handler? .put = some (amend parameter raw change))
    (only : ∀ path : List String, (∀ raw, path = ["api", "v1", resource, raw] → raw.isEmpty) →
      ∃ methods?, ∀ fresh, TakesNoPut methods? (site fresh path))
    (put : r.method = .put) :
    Refuses (fun fresh => (site fresh).respond r) ∨
      ∃ uid body, uidInPath? resource r = some uid ∧ jsonBody α r = .ok body ∧
        ∀ fresh, (site fresh).respond r = (change uid body).answer := by
  by_cases named : ∃ raw, segments r.path = ["api", "v1", resource, raw] ∧ ¬ raw.isEmpty
  · obtain ⟨raw, path, filled⟩ := named
    have answered (fresh : Uid) :
        (site fresh).respond r = (amend parameter raw change r).answer := by
      obtain ⟨e, led, found⟩ := takes fresh raw filled
      exact Site.respond_of_handler put (path ▸ led) found
    rcases refused_or_amends parameter raw r change with refused | ⟨uid, body, found, read, whole⟩
    · simp only [answered]
      exact .inl refused
    · refine .inr ⟨uid, body, ?_, read, fun fresh => (answered fresh).trans whole⟩
      rw [uidInPath?, path]
      exact (if_pos rfl).trans found
  · obtain ⟨methods?, taken⟩ := only (segments r.path)
      fun raw path => by_contra fun filled => named ⟨raw, path, filled⟩
    exact .inl (refuses_of_takesNoPut site put taken)

theorem takesNoPut_reservationSite (service : ReservationService σ) {path : List String}
    (other : ∀ raw, path = ["api", "v1", "reservations", raw] → raw.isEmpty) :
    ∃ methods?, ∀ fresh, TakesNoPut methods? (reservationSite service fresh path) := by
  unfold reservationSite
  split
  · exact ⟨some [.get, .head], fun _ => rfl⟩
  · exact ⟨some [.get, .head], fun _ => rfl⟩
  · split
    · exact ⟨none, fun _ => rfl⟩
    · exact ⟨some [.get, .head], fun _ => rfl⟩
  · split
    · exact ⟨none, fun _ => rfl⟩
    · exact ⟨some [.get, .head], fun _ => rfl⟩
  · exact ⟨some [.get, .head, .post], fun _ => rfl⟩
  · rw [if_pos (other _ rfl)]
    exact ⟨none, fun _ => rfl⟩
  · exact ⟨none, fun _ => rfl⟩

theorem takesNoPut_paymentSite (service : PaymentService σ) {path : List String}
    (other : ∀ raw, path = ["api", "v1", "payment", raw] → raw.isEmpty) :
    ∃ methods?, ∀ fresh, TakesNoPut methods? (paymentSite service fresh path) := by
  unfold paymentSite
  split
  · exact ⟨some [.get, .head], fun _ => rfl⟩
  · exact ⟨some [.post], fun _ => rfl⟩
  · rw [if_pos (other _ rfl)]
    exact ⟨none, fun _ => rfl⟩
  · exact ⟨none, fun _ => rfl⟩

theorem takesNoPut_loyaltySite (service : LoyaltyService σ) {path : List String}
    (other : path ≠ ["api", "v1", "loyalty"]) :
    ∃ methods?, TakesNoPut methods? (loyaltySite service path) := by
  unfold loyaltySite
  split
  · exact ⟨some [.get, .head], rfl⟩
  · exact absurd rfl other
  · exact ⟨none, rfl⟩

/-- Only a record that can be read is saved, for the guest that the request names. -/
theorem refused_or_saves (service : LoyaltyService σ) (put : r.method = .put) :
    Refuses (fun _ => (loyaltySite service).respond r) ∨
      ∃ body, jsonBody Loyalty r = .ok body ∧
        (loyaltySite service).respond r =
          (do
            let saved ← perform (service.save { body with username := guestNamed r body.username })
            return .json 200 saved : Handling (StateM σ) Response).answer := by
  by_cases path : segments r.path = ["api", "v1", "loyalty"]
  · rw [Site.respond_of_handler put (e := loyalty service) (by rw [path]; rfl) rfl]
    cases read : jsonBody Loyalty r with
    | error e => exact .inl (refuses_refuse rfl _)
    | ok body =>
        refine .inr ⟨body, rfl, ?_⟩
        have own : forCaller (callerName r.headers) body =
            { body with username := guestNamed r body.username } := by
          unfold forCaller guestNamed
          split <;> rfl
        rw [answer_refuse rfl, own]
  · obtain ⟨methods?, taken⟩ := takesNoPut_loyaltySite service path
    exact .inl (refuses_of_takesNoPut (fun _ => loyaltySite service) put fun _ => taken)

end Sites

end Http

/-! ## The update that a request comes to -/

/-- The update that a request asks a service for. -/
inductive Asks (r : Request) : ServiceName → Call → Prop
  | reservation {uid : Uid} {body : Reservation}
      (addressed : uidInPath? "reservations" r = some uid)
      (read : jsonBody Reservation r = .ok body) :
      Asks r .reservation (.updateReservation { body with uid })
  | payment {uid : Uid} {body : Payment} (addressed : uidInPath? "payment" r = some uid)
      (read : jsonBody Payment r = .ok body) : Asks r .payment (.updatePayment { body with uid })
  | record {body : Loyalty} (read : jsonBody Loyalty r = .ok body) :
      Asks r .loyalty (.updateLoyalty { body with username := guestNamed r body.username })

open Memory in
/-- A PUT request is refused, or it is answered with what the update comes to. -/
theorem refused_or_asks {r : Request} (put : r.method = .put) (service : ServiceName) :
    Refuses (fun fresh => Stores.respond service fresh r) ∨
      ∃ c, Asks r service c ∧ ∀ fresh s, Stores.respond service fresh r s =
        (.ofOutcome c.reply (c.served fresh s).1, (c.served fresh s).2) := by
  cases service with
  | reservation =>
      rcases refused_or_changes (reservationSite reservationService) "reservations" _ _
        (fun _ _ filled => ⟨_, if_neg filled, rfl⟩)
        (fun _ => takesNoPut_reservationSite reservationService) put
        with ⟨a, failed, refused⟩ | ⟨uid, body, addressed, read, answered⟩
      · refine .inl ⟨a, failed, fun fresh s => ?_⟩
        simp only [Stores.respond, refused]
      · refine .inr ⟨_, .reservation addressed read, fun fresh s => ?_⟩
        rw [Call.served, Call.serve, Stores.perform_onReservation]
        simp only [Stores.respond, answered, Call.answer_discard]
        rfl
  | payment =>
      rcases refused_or_changes (paymentSite paymentService) "payment" _ _
        (fun _ _ filled => ⟨_, if_neg filled, rfl⟩)
        (fun _ => takesNoPut_paymentSite paymentService) put
        with ⟨a, failed, refused⟩ | ⟨uid, body, addressed, read, answered⟩
      · refine .inl ⟨a, failed, fun fresh s => ?_⟩
        simp only [Stores.respond, refused]
      · refine .inr ⟨_, .payment addressed read, fun fresh s => ?_⟩
        rw [Call.served, Call.serve, Stores.perform_onPayment]
        simp only [Stores.respond, answered, Call.answer_discard]
        rfl
  | loyalty =>
      rcases refused_or_saves loyaltyService put with ⟨a, failed, refused⟩ | ⟨body, read, answered⟩
      · refine .inl ⟨a, failed, fun fresh s => ?_⟩
        simp only [Stores.respond, refused fresh]
      · refine .inr ⟨_, .record read, fun fresh s => ?_⟩
        rw [Call.served, Call.serve, Stores.perform_onLoyalty]
        simp only [Stores.respond, answered, answer_perform]
        rfl

/-! ## What changes -/

/--
The stores after one change: the row that the request addresses gets what the body says, but for
its number and its key, or a record is added for a guest who had none.
-/
inductive Replaces (r : Request) (s : Stores) : ServiceName → Stores → Prop
  | reservation {uid : Uid} {body row : Reservation} {rows : List Reservation}
      (addressed : uidInPath? "reservations" r = some uid)
      (read : jsonBody Reservation r = .ok body) (found : s.reservation? uid = some row)
      (only : Rows.Replaced row { body with id := row.id, uid } s.reservations rows) :
      Replaces r s .reservation { s with reservation.reservations.rows := rows }
  | payment {uid : Uid} {body row : Payment} {rows : List Payment}
      (addressed : uidInPath? "payment" r = some uid)
      (read : jsonBody Payment r = .ok body) (found : s.payment? uid = some row)
      (only : Rows.Replaced row { row with status := body.status, price := body.price }
        s.payments rows) :
      Replaces r s .payment { s with payment.rows := rows }
  | record {body row : Loyalty} {rows : List Loyalty} (read : jsonBody Loyalty r = .ok body)
      (found : s.loyalty? (guestNamed r body.username) = some row)
      (only : Rows.Replaced row { row with
        reservationCount := body.recompute.reservationCount, status := body.recompute.status,
        discount := body.recompute.discount } s.members rows) :
      Replaces r s .loyalty { s with loyalty.rows := rows }
  | newRecord {body row : Loyalty} (read : jsonBody Loyalty r = .ok body)
      (missing : s.loyalty? (guestNamed r body.username) = none)
      (added : row = { body.recompute with
        id := s.loyalty.lastId + 1, username := guestNamed r body.username }) :
      Replaces r s .loyalty { s with loyalty := { rows := s.members ++ [row], lastId := row.id } }

section Changes

variable {r : Request} {service : ServiceName} {c : Call} (fresh : Uid) (s : Stores)

/-- An update that fails changes nothing, and one that succeeds the row that it is about. -/
theorem Asks.replaces (asks : Asks r service c) :
    (Response.ofOutcome c.reply (c.served fresh s).1).isSuccess = false ∧
        (c.served fresh s).2 = s ∨
      (Response.ofOutcome c.reply (c.served fresh s).1).isSuccess = true ∧
        Replaces r s service (c.served fresh s).2 := by
  cases asks with
  | @reservation uid body addressed read =>
      cases found : s.reservation? uid with
      | none =>
          rw [Call.served_updateReservation, found, Stores.putReservation_of_missing found]
          exact .inl ⟨rfl, rfl⟩
      | some row =>
          rw [Call.served_updateReservation_of_found fresh s found]
          have only := Rows.replaced_replaceFirst found fun stored =>
            { body with uid, id := stored.id }
          exact .inr ⟨rfl, .reservation addressed read found only⟩
  | @payment uid body addressed read =>
      rw [Call.served_updatePayment]
      split_ifs with negative
      · exact .inl ⟨rfl, rfl⟩
      cases found : s.payment? uid with
      | none =>
          rw [Stores.putPayment_of_missing found]
          exact .inl ⟨rfl, rfl⟩
      | some row =>
          have only := Rows.replaced_replaceFirst found fun stored =>
            { stored with status := body.status, price := body.price }
          exact .inr ⟨rfl, .payment addressed read found only⟩
  | @record body read =>
      rw [Call.served_updateLoyalty]
      split_ifs with blank
      · exact .inl ⟨rfl, rfl⟩
      refine .inr ⟨rfl, ?_⟩
      cases found : s.loyalty? (guestNamed r body.username) with
      | none =>
          simp only [Stores.saveLoyalty, Loyalty.recompute, found]
          exact .newRecord read found rfl
      | some row =>
          have only := Rows.replaced_replaceFirst found fun stored => { stored with
            reservationCount := body.recompute.reservationCount, status := body.recompute.status,
            discount := body.recompute.discount }
          simp only [Stores.saveLoyalty, Loyalty.recompute, found]
          exact .record read found only

/-- An update that is made again comes to the same and changes nothing more. -/
theorem Asks.served_again (asks : Asks r service c) (fresh' : Uid) :
    c.served fresh' (c.served fresh s).2 = c.served fresh s := by
  cases asks with
  | @reservation uid body addressed read =>
      rw [Call.served_updateReservation, Call.served_updateReservation,
        Stores.reservation?_putReservation_self, Stores.putReservation_putReservation rfl,
        Option.map_map]
  | @payment uid body addressed read =>
      rw [Call.served_updatePayment, Call.served_updatePayment]
      split_ifs with negative
      · rfl
      · rw [Stores.payment?_putPayment_self, Stores.putPayment_putPayment rfl, Option.map_map]
  | @record body read =>
      rw [Call.served_updateLoyalty, Call.served_updateLoyalty]
      split_ifs with blank
      · rfl
      · rw [Stores.savedLoyalty_saveLoyalty, Stores.saveLoyalty_saveLoyalty]

/--
Whatever it says in its path, headers and body, a PUT request that fails changes nothing, and
one that succeeds changes only the row that it addresses. Sent again, it is answered alike and
changes nothing more.
-/
theorem put_replaces_addressed (put : r.method = .put) (service : ServiceName) (fresh' : Uid) :
    ((Stores.respond service fresh r s).1.isSuccess = false →
        (Stores.respond service fresh r s).2 = s) ∧
      ((Stores.respond service fresh r s).1.isSuccess = true →
        Replaces r s service (Stores.respond service fresh r s).2) ∧
      Stores.respond service fresh' r (Stores.respond service fresh r s).2 =
        Stores.respond service fresh r s := by
  rcases refused_or_asks put service with ⟨a, failed, refused⟩ | ⟨c, asks, answered⟩
  · have unchanged (fresh : Uid) : Stores.respond service fresh r s = (a, s) := refused fresh s
    rw [unchanged fresh, unchanged fresh']
    exact ⟨fun _ => rfl, fun success => absurd (failed.symm.trans success) (by decide), rfl⟩
  · rw [answered fresh s, answered fresh', asks.served_again]
    refine ⟨fun failed => ?_, fun success => ?_, rfl⟩
    · rcases asks.replaces fresh s with ⟨-, same⟩ | ⟨success, -⟩
      · exact same
      · exact absurd (failed.symm.trans success) (by decide)
    · rcases asks.replaces fresh s with ⟨failed, -⟩ | ⟨-, replaced⟩
      · exact absurd (failed.symm.trans success) (by decide)
      · exact replaced

end Changes

/-- Two guests with a record each. -/
def Stores.twoGuests : Stores :=
  { loyalty := {
      rows := [{ Loyalty.newMember "anna" with id := 1 }, { Loyalty.newMember "bert" with id := 2 }]
      lastId := 2 } }

/-- What Anna sends to save a record that says that it is Bert's. -/
def savedByAnna : Request :=
  { method := .put, path := "/api/v1/loyalty",
    headers := [(userHeader, " anna "), (contentType, jsonType)],
    body := Wire.toText ({ Loyalty.newMember "bert" with id := 2, reservationCount := 12 }) }

theorem bert_left_alone :
    (Stores.respond .loyalty default savedByAnna .twoGuests).2.members =
        [{ id := 1, username := "anna", reservationCount := 12, status := .silver, discount := 7 },
          { Loyalty.newMember "bert" with id := 2 }] ∧
      Replaces savedByAnna .twoGuests .loyalty
        (Stores.respond .loyalty default savedByAnna .twoGuests).2 :=
  ⟨by decide +kernel,
    (put_replaces_addressed default .twoGuests rfl .loyalty default).2.1 (by decide +kernel)⟩

end HotelBooking
