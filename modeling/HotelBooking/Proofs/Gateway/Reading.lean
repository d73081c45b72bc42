import HotelBooking.Gateway.Operations
import HotelBooking.Proofs.Gateway.Ensures

/-!
# Operations that only look

Five of the seven operations make no call that can change a store, draw nothing and write
nothing. Whatever such calls keep is kept by the whole operation, so that nothing has to
be said about these five one by one.
-/

namespace HotelBooking

variable {α β σ : Type}

namespace Program

/-- The program does nothing but make calls that read. -/
inductive Reads : Program α → Prop
  | done (a : α) : Reads (done a)
  | call {c : Call} {next : Outcome c.Answer → Program α} (reading : c.isMutating = false)
      (later : ∀ o, Reads (next o)) : Reads (call c next)

theorem Reads.bind {p : Program α} {f : α → Program β} (first : p.Reads)
    (second : ∀ a, (f a).Reads) : (p >>= f).Reads := by
  induction first with
  | done a => exact second a
  | call reading _ ih => exact .call reading ih

/-- What reading calls keep, a program that only reads keeps. -/
theorem ensures_of_reads {D : Demand σ} {J : σ → Prop} {p : Program α} {s : σ}
    (reads : p.Reads)
    (kept : ∀ (c : Call) (s : σ), c.isMutating = false → J s → D.call c (fun _ => J) s)
    (h : J s) : p.Ensures D (fun _ => J) s := by
  induction reads generalizing s with
  | done => exact h
  | call reading _ ih => exact D.call_mono (fun o s => ih o) (kept _ s reading h)

end Program

namespace Operation

/-- The operation does nothing but make calls that read. -/
def Reads (op : Operation α) : Prop := Program.Reads op.run

theorem reads_pure (a : α) : Reads (pure a : Operation α) :=
  Program.Reads.done (Except.ok a)

theorem reads_throw (e : ServiceError) : Reads (throw e : Operation α) :=
  Program.Reads.done (Except.error e)

theorem reads_ofOutcome (o : Outcome α) : Reads (ofOutcome o) :=
  Program.Reads.done o

theorem reads_ask (c : Call) (reading : c.isMutating = false) : Reads (ask c) :=
  .call reading .done

theorem reads_attempt (c : Call) (reading : c.isMutating = false) : Reads (attempt c) :=
  .call reading fun o => Program.Reads.done (Except.ok o)

theorem reads_bind {op : Operation α} {f : α → Operation β} (first : Reads op)
    (second : ∀ a, Reads (f a)) : Reads (op >>= f) := by
  unfold Reads
  rw [ExceptT.run_bind]
  apply Program.Reads.bind first
  intro o
  cases o with
  | ok a => exact second a
  | error e => exact Program.Reads.done (Except.error e)

theorem reads_lookupAll {work : β → Operation α} (each : ∀ b, Reads (work b))
    (concurrency : Nat) (items : List β) : Reads (lookupAll concurrency items work) := by
  rw [lookupAll_eq_lookupEach]
  induction items with
  | nil => exact reads_pure []
  | cons b bs ih =>
      exact reads_bind (each b) fun a => reads_bind ih fun as => reads_pure (a :: as)

/-- What every lookup keeps, looking up many things keeps. -/
theorem ensures_lookupAll {D : Demand σ} {J : σ → Prop} {work : β → Operation α}
    {items : List β} {s : σ} (concurrency : Nat)
    (each : ∀ b ∈ items, ∀ s, J s → (work b).Ensures D (fun _ => J) s) (h : J s) :
    (lookupAll concurrency items work).Ensures D (fun _ => J) s := by
  rw [lookupAll_eq_lookupEach]
  induction items generalizing s with
  | nil => exact (ensures_pure [] s).mpr h
  | cons b bs ih =>
      rw [lookupEach, ensures_bind]
      apply (each b List.mem_cons_self s h).mono
      intro o s₁ h₁
      cases o with
      | error e => exact h₁
      | ok a =>
          rw [onOk_ok, ensures_bind]
          apply (ih (fun b' member => each b' (List.mem_cons_of_mem _ member)) h₁).mono
          intro o s₂ h₂
          cases o with
          | error e => exact h₂
          | ok as => exact (ensures_pure _ s₂).mpr h₂

theorem ensures_of_reads {D : Demand σ} {J : σ → Prop} {op : Operation α} {s : σ}
    (reads : Reads op)
    (kept : ∀ (c : Call) (s : σ), c.isMutating = false → J s → D.call c (fun _ => J) s)
    (h : J s) : Ensures D (fun _ => J) op s :=
  (ensures_run op s).mp (Program.ensures_of_reads reads kept h)

end Operation

namespace Gateway

open Operation

variable (options : GatewayOptions) (username : String)

theorem reads_readHotels (page size : Int64) : Reads (readHotels page size) := by
  unfold readHotels
  split
  · exact reads_throw _
  · exact reads_bind (reads_ask (.listHotels page size) rfl) fun listing => reads_pure _

theorem reads_ownedReservation (uid : Uid) : Reads (ownedReservation uid username) := by
  apply reads_bind (reads_ask (.getReservation uid) rfl)
  intro r
  split
  · exact reads_pure r
  · exact reads_throw _

theorem reads_bookingViews : Reads (bookingViews options username) := by
  have hotelOf (id : Int32) : Reads (ask (.getHotelById id)) := reads_ask _ rfl
  have paymentOf (uid : Uid) : Reads (ask (.getPayment uid)) := reads_ask _ rfl
  apply reads_bind (reads_ask (.listReservations username) rfl)
  intro reservations
  apply reads_bind (reads_lookupAll hotelOf _ _)
  intro hotels
  apply reads_bind (reads_lookupAll paymentOf _ _)
  intro payments
  exact reads_pure _

theorem reads_loyalty? : Reads (loyalty? username) := by
  apply reads_bind (reads_attempt (.getLoyalty username) rfl)
  intro o
  cases o with
  | ok l => exact reads_pure _
  | error e =>
      by_cases missing : e.isNotFound
      · simp only [missing, if_true]
        exact reads_pure none
      · simp only [missing]
        exact reads_throw e

theorem reads_readGuest : Reads (readGuest options username) := by
  apply reads_bind (reads_ofOutcome _)
  intro name
  apply reads_bind (reads_bookingViews options name)
  intro views
  exact reads_bind (reads_loyalty? name) fun loyalty => reads_pure _

theorem reads_readBookings : Reads (readBookings options username) :=
  reads_bind (reads_ofOutcome _) fun name => reads_bookingViews options name

theorem reads_readLoyalty : Reads (readLoyalty username) := by
  apply reads_bind (reads_ofOutcome _)
  intro name
  exact reads_bind (reads_ask (.getLoyalty name) rfl) fun l => reads_pure _

theorem reads_readBooking (uidText : String) : Reads (readBooking uidText username) := by
  apply reads_bind (reads_ofOutcome _)
  intro name
  apply reads_bind (reads_ofOutcome _)
  intro uid
  apply reads_bind (reads_ownedReservation name uid)
  intro r
  apply reads_bind (reads_ask (.getHotelById r.hotelId) rfl)
  intro h
  exact reads_bind (reads_ask (.getPayment r.paymentUid) rfl) fun p => reads_pure _

end Gateway

end HotelBooking
