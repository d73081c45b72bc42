import HotelBooking.Proofs.Http.Asking
import HotelBooking.Proofs.Service.Serving
import HotelBooking.Routes.Platform

/-!
# What the servers answer

The request of a call is answered with what the service makes of the call: its path leads to
the one endpoint for it, and path, query, header and body are read as what the call is about.
-/

namespace HotelBooking

open Http Handling

/-! ## Handlers -/

namespace Http

section Handlers

variable {σ α : Type} (s : σ)

theorem answer_refuse {x : Except Refusal α} {a : α} (read : x = .ok a)
    (next : α → Handling (StateM σ) Response) :
    (refuse x >>= next).answer = (next a).answer := by
  subst read
  rfl

theorem answer_orAnswer {x : Except Response α} {a : α} (read : x = .ok a)
    (next : α → Handling (StateM σ) Response) :
    (orAnswer x >>= next).answer = (next a).answer := by
  subst read
  rfl

/-- The value of an action is answered, or its error. -/
theorem answer_perform (a : Action σ α) (reply : α → Response) :
    (do let x ← perform a; return reply x : Handling (StateM σ) Response).answer s =
      (Response.ofOutcome reply (a.perform s).1, (a.perform s).2) := by
  have adapted : a.adapt Response.ofError = ExceptT.mk (Except.mapError Response.ofError <$> a) :=
    rfl
  unfold Action.perform ExceptT.run
  simp only [answer, perform, adapted, bind, ExceptT.bind, ExceptT.bindCont, StateT.bind,
    ExceptT.run, ExceptT.mk, Functor.map, StateT.map]
  rcases a s with ⟨_ | _, _⟩ <;> rfl

theorem Endpoint.respond_of_handler {e : Endpoint (StateM σ)} {r : Request}
    {h : Request → Handling (StateM σ) Response} (found : e.handler? r.method = some h)
    (whole : r.method ≠ .head) : e.respond r = (h r).answer := by
  rw [respond, if_neg whole, found]
  simp [whole]

theorem Site.respond_of_endpoint {site : Site (StateM σ)} {r : Request} {e : Endpoint (StateM σ)}
    (found : site (segments r.path) = some e) : site.respond r = e.respond r := by
  rw [Site.respond, found]

end Handlers

/-- A path that is put together of segments comes apart into them. -/
theorem segments_ofList {ps : List String} (some_parts : ps ≠ [])
    (solid : ∀ p ∈ ps, '/' ∉ p.toList) :
    segments (String.ofList (ps.flatMap fun p => '/' :: p.toList)) = ps := by
  have split (p : String) (ps : List String) (solid : ∀ q ∈ p :: ps, '/' ∉ q.toList) :
      Text.splitOn '/' (p.toList ++ ps.flatMap fun p => '/' :: p.toList) =
        p.toList :: ps.map String.toList := by
    induction ps generalizing p with
    | nil => simpa using Text.splitOn_of_not_mem (solid p List.mem_cons_self)
    | cons q ps ih =>
        rw [List.flatMap_cons, List.cons_append, Text.splitOn_append,
          Text.splitOn_of_not_mem (solid p List.mem_cons_self),
          ih q fun r member => solid r (List.mem_cons_of_mem p member)]
        rfl
  obtain ⟨p, ps, rfl⟩ := List.exists_cons_of_ne_nil some_parts
  have parts := Text.splitOn_append '/' [] (p.toList ++ ps.flatMap fun p => '/' :: p.toList)
  rw [List.nil_append] at parts
  rw [segments, String.toList_ofList, List.flatMap_cons, List.cons_append, parts, split p ps solid]
  simp [Text.splitOn]

end Http

namespace Call

/-- The segments of the path of a call, below the root of the interface. -/
def parts : Call → List String
  | listHotels .. => ["hotels"]
  | getHotelById id => ["hotels", "id", Decimal.ofInt id.toInt]
  | getHotelByUid uid => ["hotels", uid.toText]
  | listReservations _ | createReservation _ => ["reservations"]
  | getReservation uid => ["reservations", uid.toText]
  | updateReservation r => ["reservations", r.uid.toText]
  | createPayment _ => ["payment"]
  | getPayment uid => ["payment", uid.toText]
  | updatePayment p => ["payment", p.uid.toText]
  | getLoyalty _ | updateLoyalty _ => ["loyalty"]

theorem segments_asked (c : Call) : segments c.asked.path = "api" :: "v1" :: c.parts := by
  have path : c.asked.path =
      String.ofList (("api" :: "v1" :: c.parts).flatMap fun p => '/' :: p.toList) := by
    rw [← String.toList_inj, String.toList_ofList]
    cases c <;> simp [asked, resource, parts]
  rw [path, segments_ofList (List.cons_ne_nil _ _)]
  have uidText (u : Uid) : '/' ∉ u.toText.toList :=
    fun member => u.forall_mem_toText (P := (· ≠ '/')) (by decide) (by decide) _ member rfl
  have number := Decimal.not_mem_ofInt (c := '/') (by decide) (by decide)
  cases c <;> simp [parts, uidText, number]

/-! ## What the parts are read as -/

theorem pathText_toText (parameter : String) (u : Uid) :
    pathText parameter u.toText = .ok u.toText := by
  have plain : '%' ∉ u.toText.toList :=
    fun member => u.forall_mem_toText (P := (· ≠ '%')) (by decide) (by decide) _ member rfl
  rw [pathText, Text.Percent.decode?_of_not_mem plain]

theorem uidText_toText (u : Uid) : uidText u.toText = .ok u := by
  rw [uidText, Uid.ofText?_toText]

theorem pathNumber_ofInt (id : Int32) : pathNumber (Decimal.ofInt id.toInt) = .ok id := by
  have plain := Decimal.not_mem_ofInt (c := '%') (by decide) (by decide) id.toInt
  rw [pathNumber, Text.Percent.decode?_of_not_mem plain, Option.bind_some, Decimal.toInt?_ofInt,
    Option.bind_some, int32?_toInt]

theorem formFields_query (page size : Int) :
    Text.formFields ("page=" ++ Decimal.ofInt page ++ "&size=" ++ Decimal.ofInt size) =
      [("page", Decimal.ofInt page), ("size", Decimal.ofInt size)] := by
  have text : ("page=" ++ Decimal.ofInt page ++ "&size=" ++ Decimal.ofInt size).toList =
      ("page".toList ++ '=' :: (Decimal.ofInt page).toList) ++
        '&' :: ("size".toList ++ '=' :: (Decimal.ofInt size).toList) := by
    simp
  have field {name : String} (plain : '&' ∉ name.toList) (n : Int) :
      Text.splitOn '&' (name.toList ++ '=' :: (Decimal.ofInt n).toList) =
        [name.toList ++ '=' :: (Decimal.ofInt n).toList] := by
    apply Text.splitOn_of_not_mem
    rw [List.mem_append, List.mem_cons, not_or, not_or]
    exact ⟨plain, by decide, Decimal.not_mem_ofInt (by decide) (by decide) n⟩
  have value (n : Int) : Text.Percent.decodeForm (Decimal.ofInt n).toList = Decimal.ofInt n := by
    rw [Text.Percent.decodeForm_of_not_mem (Decimal.not_mem_ofInt (by decide) (by decide) n)
      (Decimal.not_mem_ofInt (by decide) (by decide) n), String.ofList_toList]
  have read (name : String) (plain : '=' ∉ name.toList ∧ '%' ∉ name.toList ∧ '+' ∉ name.toList)
      (n : Int) :
      (fun cut => (Text.Percent.decodeForm cut.1, Text.Percent.decodeForm (cut.2.getD [])))
          (Text.cutAt '=' (name.toList ++ '=' :: (Decimal.ofInt n).toList)) =
        (name, Decimal.ofInt n) := by
    rw [Text.cutAt_append plain.1]
    simp only [Option.getD_some, value, Text.Percent.decodeForm_of_not_mem plain.2.1 plain.2.2,
      String.ofList_toList]
  rw [Text.formFields, text, Text.splitOn_append, field (by decide), field (by decide),
    ← read "page" (by decide), ← read "size" (by decide)]
  rfl

theorem pageQuery_query? (page size : Int64) :
    pageQuery (listHotels page size).query? = .ok (page, size) := by
  rw [query?, pageQuery, Option.getD_some, formFields_query]
  simp [onlyValue?, int64?_toInt]

/-! ## The answers -/

/-- How a service answers a call that succeeds. -/
def reply : (c : Call) → c.Answer → Response
  | listHotels .., p => .json 200 p
  | getHotelById _, h | getHotelByUid _, h => .json 200 h
  | listReservations _, rs => .json 200 rs
  | getReservation _, r => .json 200 r
  | createReservation _, r => .json 201 r
  | updateReservation _, _ | updatePayment _, _ => .empty 204
  | createPayment _, p => .json 201 p
  | getPayment _, p => .json 200 p
  | getLoyalty _, l | updateLoyalty _, l => .json 200 l

section Answers

open Memory Routes

variable {σ α : Type} {fresh : Uid}

/-- A path leads to an endpoint, and there the handler of the method does all the work. -/
theorem respond_of_found {site : Site (StateM σ)} {c : Call} {e : Endpoint (StateM σ)}
    {h : Request → Handling (StateM σ) Response} (led : site ("api" :: "v1" :: c.parts) = some e)
    (found : e.handler? c.method = some h) : site.respond c.asked = (h c.asked).answer := by
  have whole : c.asked.method ≠ .head := by cases c <;> exact nofun
  rw [Site.respond_of_endpoint (c.segments_asked ▸ led), Endpoint.respond_of_handler found whole]

theorem isEmpty_toText (u : Uid) : u.toText.isEmpty = false := by
  rw [Uid.toText, ← Bool.not_eq_true, String.isEmpty_iff, ← String.toList_inj, String.toList_ofList]
  intro empty
  have := u.length_chars
  rw [empty] at this
  cases this

theorem isEmpty_ofInt (n : Int) : (Decimal.ofInt n).isEmpty = false := by
  rw [Decimal.ofInt, ← Bool.not_eq_true, String.isEmpty_iff, ← String.toList_inj,
    String.toList_ofList]
  cases n with
  | ofNat n => exact Decimal.digits_ne_nil n
  | negSucc n => exact List.cons_ne_nil _ _

/-- An endpoint for one thing is led to by its identifier. -/
theorem led_of_toText {E : Type} (u : Uid) (e : E) :
    (if u.toText.isEmpty then none else some e) = some e := by
  rw [isEmpty_toText]
  rfl

theorem led_of_ofInt {E : Type} (id : Int32) (e : E) :
    (if (Decimal.ofInt id.toInt).isEmpty then none else some e) = some e := by
  rw [isEmpty_ofInt]
  rfl

/-- The request of a call is answered with what an action of the service comes to. -/
def AnsweredBy (site : Site (StateM σ)) (c : Call) (a : Action σ c.Answer) : Prop :=
  ∀ t, site.respond c.asked t = (.ofOutcome c.reply (a.perform t).1, (a.perform t).2)

/-- An answer that says nothing needs no value. -/
theorem answer_discard (b : Action σ α) (r : Response) (t : σ) :
    (do let _ ← perform b; return r : Handling (StateM σ) Response).answer t =
      (.ofOutcome (fun _ => r) ((do let _ ← b : Action σ Unit).perform t).1,
        ((do let _ ← b : Action σ Unit).perform t).2) := by
  rw [answer_perform, Action.perform_bind]
  rcases b.perform t with ⟨_ | _, _⟩ <;> rfl

/-! The reservation service. -/

theorem answeredBy_listHotels (page size : Int64) :
    AnsweredBy (reservationSite reservationService fresh) (listHotels page size)
      (reservationService.hotelPage page size) := by
  intro t
  have read : pageQuery (listHotels page size).asked.query = .ok (page, size) :=
    pageQuery_query? page size
  rw [respond_of_found (c := listHotels page size) rfl rfl, answer_refuse read]
  exact answer_perform t _ _

theorem answeredBy_getHotelById (id : Int32) :
    AnsweredBy (reservationSite reservationService fresh) (getHotelById id)
      (reservationService.hotelById id) := by
  intro t
  rw [respond_of_found (c := getHotelById id) (led_of_ofInt id _) rfl,
    answer_refuse (pathNumber_ofInt id)]
  exact answer_perform t _ _

theorem answeredBy_getHotelByUid (uid : Uid) :
    AnsweredBy (reservationSite reservationService fresh) (getHotelByUid uid)
      (reservationService.hotelByUid uid) := by
  intro t
  rw [respond_of_found (c := getHotelByUid uid) (led_of_toText uid _) rfl,
    answer_refuse (pathText_toText _ uid), answer_orAnswer (uidText_toText uid)]
  exact answer_perform t _ _

theorem answeredBy_listReservations {name : String} (carried : IsCarried name) :
    AnsweredBy (reservationSite reservationService fresh) (listReservations name)
      (reservationService.ofUser name) := by
  intro t
  rw [respond_of_found (c := listReservations name) rfl rfl]
  simp only [callerName_asked (c := listReservations name) rfl carried.sendable, carried.heard]
  exact answer_perform t _ _

theorem answeredBy_getReservation (uid : Uid) :
    AnsweredBy (reservationSite reservationService fresh) (getReservation uid)
      (reservationService.byUid uid) := by
  intro t
  rw [respond_of_found (c := getReservation uid) (led_of_toText uid _) rfl,
    answer_refuse (pathText_toText _ uid), answer_orAnswer (uidText_toText uid)]
  exact answer_perform t _ _

theorem answeredBy_createReservation (r : Reservation) :
    AnsweredBy (reservationSite reservationService fresh) (createReservation r)
      (reservationService.create fresh r) := by
  intro t
  rw [respond_of_found (c := createReservation r) rfl rfl,
    answer_refuse (jsonBody_asked (c := createReservation r) rfl)]
  exact answer_perform t _ _

theorem answeredBy_updateReservation (r : Reservation) :
    AnsweredBy (reservationSite reservationService fresh) (updateReservation r) (do
      let _ ← reservationService.update r) := by
  intro t
  rw [respond_of_found (c := updateReservation r) (led_of_toText r.uid _) rfl,
    answer_refuse (pathText_toText _ r.uid), answer_orAnswer (uidText_toText r.uid),
    answer_refuse (jsonBody_asked (c := updateReservation r) rfl)]
  exact answer_discard (reservationService.update r) _ t

/-! The payment service. -/

theorem answeredBy_createPayment (price : Int32) :
    AnsweredBy (paymentSite paymentService fresh) (createPayment price)
      (paymentService.create fresh price) := by
  intro t
  rw [respond_of_found (c := createPayment price) rfl rfl,
    answer_refuse (jsonBody_asked (c := createPayment price) rfl)]
  exact answer_perform t _ _

theorem answeredBy_getPayment (uid : Uid) :
    AnsweredBy (paymentSite paymentService fresh) (getPayment uid) (paymentService.byUid uid) := by
  intro t
  rw [respond_of_found (c := getPayment uid) (led_of_toText uid _) rfl,
    answer_refuse (pathText_toText _ uid), answer_orAnswer (uidText_toText uid)]
  exact answer_perform t _ _

theorem answeredBy_updatePayment (p : Payment) :
    AnsweredBy (paymentSite paymentService fresh) (updatePayment p) (do
      let _ ← paymentService.update p) := by
  intro t
  rw [respond_of_found (c := updatePayment p) (led_of_toText p.uid _) rfl,
    answer_refuse (pathText_toText _ p.uid), answer_orAnswer (uidText_toText p.uid),
    answer_refuse (jsonBody_asked (c := updatePayment p) rfl)]
  exact answer_discard (paymentService.update p) _ t

/-! The loyalty service. -/

theorem answeredBy_getLoyalty {name : String} (sendable : IsSendable name) :
    AnsweredBy (loyaltySite loyaltyService) (getLoyalty name)
      (loyaltyService.ofUser (heard name)) := by
  intro t
  rw [respond_of_found (c := getLoyalty name) rfl rfl]
  simp only [callerName_asked (c := getLoyalty name) rfl sendable]
  exact answer_perform t _ _

/-- A record is saved under its own name, even where the header does not tell the name. -/
theorem answeredBy_updateLoyalty {l : Loyalty} (sendable : IsSendable l.username) :
    AnsweredBy (loyaltySite loyaltyService) (updateLoyalty l) (loyaltyService.save l) := by
  intro t
  have own : forCaller (heard l.username) l = l := by
    unfold forCaller heard
    by_cases plain : l.username.toList.all isPlainChar
    · rw [if_pos plain]
      split <;> rfl
    · rw [if_neg plain]
      rfl
  rw [respond_of_found (c := updateLoyalty l) rfl rfl,
    answer_refuse (jsonBody_asked (c := updateLoyalty l) rfl)]
  simp only [callerName_asked (c := updateLoyalty l) rfl sendable, own]
  exact answer_perform t _ _

end Answers

section Respond

open Memory Routes

variable {fresh : Uid} {s : Stores}

theorem respond_reservation {c : Call} {a : Action ReservationStore c.Answer}
    (answered : AnsweredBy (reservationSite reservationService fresh) c a)
    (serves : c.serve fresh = Stores.onReservation a) :
    Stores.respond .reservation fresh c.asked s =
      (.ofOutcome c.reply (c.served fresh s).1, (c.served fresh s).2) := by
  rw [served, serves, Stores.perform_onReservation]
  simp only [Stores.respond, answered s.reservation]

theorem respond_payment {c : Call} {a : Action (Table Payment) c.Answer}
    (answered : AnsweredBy (paymentSite paymentService fresh) c a)
    (serves : c.serve fresh = Stores.onPayment a) :
    Stores.respond .payment fresh c.asked s =
      (.ofOutcome c.reply (c.served fresh s).1, (c.served fresh s).2) := by
  rw [served, serves, Stores.perform_onPayment]
  simp only [Stores.respond, answered s.payment]

theorem respond_loyalty {c : Call} {a : Action (Table Loyalty) c.Answer}
    (answered : AnsweredBy (loyaltySite loyaltyService) c a)
    (serves : c.serve fresh = Stores.onLoyalty a) :
    Stores.respond .loyalty fresh c.asked s =
      (.ofOutcome c.reply (c.served fresh s).1, (c.served fresh s).2) := by
  rw [served, serves, Stores.perform_onLoyalty]
  simp only [Stores.respond, answered s.loyalty]

/-- Over HTTP a service is asked for what a call is about, and answers what it comes to. -/
theorem respond_asked {c : Call} (carried : ∀ name, c.onBehalfOf? = some name → IsCarried name) :
    Stores.respond c.service fresh c.asked s =
      (.ofOutcome c.reply (c.served fresh s).1, (c.served fresh s).2) := by
  cases c with
  | listHotels page size => exact respond_reservation (answeredBy_listHotels page size) rfl
  | getHotelById id => exact respond_reservation (answeredBy_getHotelById id) rfl
  | getHotelByUid uid => exact respond_reservation (answeredBy_getHotelByUid uid) rfl
  | listReservations name =>
      exact respond_reservation (answeredBy_listReservations (carried name rfl)) rfl
  | getReservation uid => exact respond_reservation (answeredBy_getReservation uid) rfl
  | createReservation r => exact respond_reservation (answeredBy_createReservation r) rfl
  | updateReservation r => exact respond_reservation (answeredBy_updateReservation r) rfl
  | createPayment price => exact respond_payment (answeredBy_createPayment price) rfl
  | getPayment uid => exact respond_payment (answeredBy_getPayment uid) rfl
  | updatePayment p => exact respond_payment (answeredBy_updatePayment p) rfl
  | getLoyalty name =>
      have carried := carried name rfl
      have answered := answeredBy_getLoyalty carried.sendable
      rw [carried.heard] at answered
      exact respond_loyalty answered rfl
  | updateLoyalty l =>
      exact respond_loyalty (answeredBy_updateLoyalty (carried l.username rfl).sendable) rfl

end Respond

end Call

end HotelBooking
