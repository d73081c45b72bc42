import HotelBooking.Proofs.Gateway.Interference
import HotelBooking.Proofs.Gateway.Reading

/-!
# Operations one after another

A `GuestRequest` is anything a guest can ask of the gateway. A `Session` is a finite sequence of
requests, by whichever guests, each carried out to its end before the next one begins; an
`Entry` keeps what a request came to and the lines it wrote.

`Session.invariant` leaves one obligation for what holds after every request: that each
operation ensures it. Of the seven operations five only look, and
`GuestRequest.ensures_of_writes` leaves those that book and cancel.
-/

namespace HotelBooking

inductive GuestRequest where
  | hotels (page size : Int64)
  | guest (username : String)
  | bookings (username : String)
  | loyalty (username : String)
  | booking (uidText username : String)
  | book (username : String) (request : BookingRequest)
  | cancel (uidText username : String)
  deriving DecidableEq, Inhabited

namespace GuestRequest

/-- The type of what a request comes to. -/
abbrev Answer : GuestRequest → Type
  | hotels .. => HotelListing
  | guest _ => GuestSummary
  | bookings _ => List BookingView
  | loyalty _ => LoyaltySummary
  | booking .. => BookingView
  | book .. => BookingReceipt
  | cancel .. => Unit

def operation (options : GatewayOptions) : (r : GuestRequest) → Operation r.Answer
  | hotels page size => Gateway.readHotels page size
  | guest username => Gateway.readGuest options username
  | bookings username => Gateway.readBookings options username
  | loyalty username => Gateway.readLoyalty username
  | booking uidText username => Gateway.readBooking uidText username
  | book username request => Gateway.book options username request
  | cancel uidText username => Gateway.cancel options uidText username

/-- The guest that a request is from, by the trimmed name, if it is from anyone. -/
def guest? : GuestRequest → Option String
  | hotels .. => none
  | guest username | bookings username | loyalty username | booking _ username
  | book username _ | cancel _ username => (Gateway.requireUsername username).toOption

variable {σ : Type}

/-- Operations ensure what is asked of them if the two that write do, and reading calls keep
something that comes to the same. -/
theorem ensures_of_writes {D : Demand σ} {J : σ → Prop}
    {Q : (r : GuestRequest) → Outcome r.Answer → σ → Prop} {s : σ} {options : GatewayOptions}
    (kept : ∀ (c : Call) (s : σ), c.isMutating = false → J s → D.call c (fun _ => J) s)
    (weaker : ∀ r o s, J s → Q r o s)
    (booking : ∀ username request,
      (Gateway.book options username request).Ensures D (Q (.book username request)) s)
    (canceling : ∀ uidText username,
      (Gateway.cancel options uidText username).Ensures D (Q (.cancel uidText username)) s)
    (h : J s) (r : GuestRequest) : (r.operation options).Ensures D (Q r) s := by
  have looks (reads : (r.operation options).Reads) : (r.operation options).Ensures D (Q r) s :=
    (Operation.ensures_of_reads reads kept h).mono (weaker r)
  cases r with
  | hotels page size => exact looks (Gateway.reads_readHotels page size)
  | guest username => exact looks (Gateway.reads_readGuest options username)
  | bookings username => exact looks (Gateway.reads_readBookings options username)
  | loyalty username => exact looks (Gateway.reads_readLoyalty username)
  | booking uidText username => exact looks (Gateway.reads_readBooking username uidText)
  | book username request => exact booking username request
  | cancel uidText username => exact canceling uidText username

end GuestRequest

/-- What a request came to, and the lines written on the way. -/
structure Entry where
  request : GuestRequest
  outcome : Outcome request.Answer
  log : List LogLine

variable {options : GatewayOptions} {faults : Faults}

inductive Session (options : GatewayOptions) (faults : Faults) (start : Platform) :
    List Entry → Platform → Prop
  | nil : Session options faults start [] start
  | snoc {entries : List Entry} {w w' : Platform} (before : Session options faults start entries w)
      (entry : Entry) (run : Completes faults (entry.request.operation options).run w
        entry.outcome entry.log w') :
      Session options faults start (entries ++ [entry]) w'

/-- What holds at the start and outlasts every operation holds after every session. -/
theorem Session.invariant (Inv : List Entry → Platform → Prop) {start w : Platform}
    {entries : List Entry} (initially : Inv [] start)
    (each : ∀ (entries : List Entry) (w : Platform) (r : GuestRequest), Inv entries w →
      (r.operation options).Ensures (Terms.alone.demand faults)
        (fun o s => Inv (entries ++ [⟨r, o, s.log⟩]) s.platform) ⟨w, [], []⟩)
    (session : Session options faults start entries w) : Inv entries w := by
  induction session with
  | nil => exact initially
  | snoc before entry run ih =>
      obtain ⟨own, after⟩ := Operation.ensures_completes (each _ _ entry.request ih) run
      exact after

section Rehearsal

variable (options) (faults) [∀ log (c : Call) (m : Mishap c.Answer), Decidable (faults log c m)]

/-- Carry requests out on cue, one after another. -/
def rehearseAll : List (GuestRequest × List Cue) → Platform → List Entry →
    Option (List Entry × Platform)
  | [], w, entries => some (entries, w)
  | (r, cues) :: plan, w, entries => do
    let (o, log, w) ← rehearse faults cues w ⟨[], (r.operation options).run⟩
    rehearseAll plan w (entries ++ [⟨r, o, log⟩])

variable {options faults}

theorem Session.rehearsed {plan : List (GuestRequest × List Cue)} {start w w' : Platform}
    {entries entries' : List Entry} (before : Session options faults start entries w)
    (h : rehearseAll options faults plan w entries = some (entries', w')) :
    Session options faults start entries' w' := by
  induction plan generalizing w entries with
  | nil =>
      cases h
      exact before
  | cons item plan ih =>
      obtain ⟨⟨o, log, w''⟩, first, rest⟩ := Option.bind_eq_some_iff.mp h
      exact ih (before.snoc ⟨item.1, o, log⟩ (steps_of_rehearse first)) rest

variable (options) (faults)

/-- A rehearsal that passes a check is a session that passes it. -/
theorem Session.exists_of_rehearseAll (plan : List (GuestRequest × List Cue)) (start : Platform)
    (check : List Entry → Platform → Bool)
    (passed : (rehearseAll options faults plan start []).any fun (entries, w) => check entries w) :
    ∃ entries w, Session options faults start entries w ∧ check entries w := by
  obtain ⟨⟨entries, w⟩, h, checked⟩ := (Option.any_eq_true _ _).mp passed
  exact ⟨entries, w, Session.nil.rehearsed h, checked⟩

/-- The same for a session that one more program follows. -/
theorem Session.exists_followed {α : Type} (plan : List (GuestRequest × List Cue))
    (start : Platform) (p : Program α) (cues : List Cue) (check : List Entry → α → Platform → Bool)
    (passed : (rehearseAll options faults plan start []).any fun (entries, w) =>
      (rehearse faults cues w ⟨[], p⟩).any fun (a, _, w') => check entries a w') :
    ∃ entries w a log w', Session options faults start entries w ∧
      Completes faults p w a log w' ∧ check entries a w' := by
  obtain ⟨⟨entries, w⟩, h, passed⟩ := (Option.any_eq_true _ _).mp passed
  obtain ⟨a, log, w', run, checked⟩ := Completes.exists_of_rehearse faults p w cues
    (fun a _ w' => check entries a w') passed
  exact ⟨entries, w, a, log, w', Session.nil.rehearsed h, run, checked⟩

end Rehearsal

/-- A reading call of a program alone only takes an identifier. -/
theorem alone_reading {c : Call} (reading : c.isMutating = false) {J : Moment → Prop}
    {s : Moment} (honest : faults.Honest)
    (h : ∀ s', s.Leads s' → s'.stores = s.stores → J s') :
    (Terms.alone.demand faults).call c (fun _ => J) s :=
  alone_look honest (fun fresh => Call.served_reading fresh s.stores reading) (fun _ => h)
    fun _ _ _ _ => h

/-- A reservation that was fetched is the one that is stored. -/
theorem alone_getReservation {uid : Uid} {J : Moment → Prop} {s : Moment} (honest : faults.Honest)
    (h : ∀ s', s.Leads s' → s'.stores = s.stores → J s') :
    (Terms.alone.demand faults).call (.getReservation uid) (fun o s => J s ∧
      ∀ r, o = .ok r → r.uid = uid ∧ s.stores.reservation? r.uid = some r) s := by
  apply alone_look honest fun fresh => Call.served_reading fresh s.stores rfl
  · intro fresh s' leads stores
    refine ⟨h s' leads stores, ?_⟩
    intro r answer
    rw [Call.served_getReservation] at answer
    have found := eq_some_of_foundOr answer
    have same := Stores.uid_of_reservation? found
    rw [stores, same]
    exact ⟨rfl, found⟩
  · intro m e _ _ s' leads stores
    refine ⟨h s' leads stores, ?_⟩
    intro r impossible
    cases impossible

/-! ## A weekend in the demo hotel

What the rehearsals below and in later modules book. -/

def weekend : BookingRequest :=
  { hotelUid := demoHotelUid.toText, startDate := "2026-05-01", endDate := "2026-05-03" }

/-- Cues for calls that nothing befalls, with identifiers from the first number on. -/
def smoothly (first count : Nat) : List Cue :=
  (List.range' first count).map fun n => { fresh := .ofNat n }

/-- A cue for a call that is lost. -/
def losing (n : Nat) : Cue :=
  { fresh := .ofNat n, mishap := fun _ => some (.lost (.internal "lost")) }

/-- A cue for a call whose answer is lost. -/
def unanswering (n : Nat) : Cue :=
  { fresh := .ofNat n, mishap := fun _ => some (.unanswered (.internal "unanswered")) }

end HotelBooking
