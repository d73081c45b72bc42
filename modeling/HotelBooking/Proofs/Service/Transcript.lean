import HotelBooking.Proofs.Service.Serving
import Mathlib.Data.List.Induction

/-!
# Transcripts of the services

`Call.Written` says once what a call can do to the stores: a call that reads, or that is
refused, leaves them alone, and every other call makes one change and succeeds. Whatever
every change keeps is kept by calls, and so by any number of them in a row.

A `Transcript` is a service desk's record of such a row of calls: each call with its
outcome, in order, and the stores that they leave. Nothing is assumed of the calls: they
may ask for anything, fail, or be given any identifier for a new row.
-/

namespace HotelBooking

namespace Call

variable {fresh : Uid} {s : Stores} {c : Call}

/-- The ways in which a call can come to an outcome and to the stores that it leaves. -/
inductive Written (fresh : Uid) (s : Stores) : (c : Call) → Outcome c.Answer × Stores → Prop where
  | read {c : Call} (reading : c.isMutating = false) (o : Outcome c.Answer) :
      Written fresh s c (o, s)
  | refused {c : Call} (e : ServiceError) : Written fresh s c (.error e, s)
  | reserved {r : Reservation} (named : Text.isBlankText r.username = false)
      (ordered : r.startDate ≤ r.endDate) :
      Written fresh s (createReservation r)
        (.ok (s.newReservation (identified fresh r)), s.addReservation (identified fresh r))
  | rebooked {r stored : Reservation} (found : s.reservation? r.uid = some stored) :
      Written fresh s (updateReservation r) (.ok (), s.putReservation r)
  | charged {price : Int32} (nonneg : 0 ≤ price) :
      Written fresh s (createPayment price)
        (.ok (s.newPayment (.charge fresh price)), s.addPayment (.charge fresh price))
  | recharged {p : Payment} (nonneg : 0 ≤ p.price) :
      Written fresh s (updatePayment p) (.ok (), s.putPayment p)
  | saved {l : Loyalty} (named : Text.isBlankText l.username = false) :
      Written fresh s (updateLoyalty l)
        (.ok (s.savedLoyalty l.recompute), s.saveLoyalty l.recompute)

theorem written (fresh : Uid) (s : Stores) (c : Call) : Written fresh s c (c.served fresh s) := by
  cases writes : c.isMutating with
  | false =>
      have unchanged : c.served fresh s = ((c.served fresh s).1, s) :=
        Prod.ext rfl (served_reading fresh s writes)
      rw [unchanged]
      exact .read writes _
  | true =>
      cases c with
      | createReservation r =>
          rw [served_createReservation]
          split_ifs with blank ordered taken
          · exact .refused _
          · exact .refused _
          · exact .reserved (by simpa using blank) ordered
          · exact .refused _
      | updateReservation r =>
          rw [served_updateReservation]
          cases found : s.reservation? r.uid with
          | some stored => exact .rebooked found
          | none =>
              rw [Stores.putReservation_of_missing found]
              exact .refused _
      | createPayment price =>
          rw [served_createPayment]
          split_ifs with negative taken
          · exact .refused _
          · exact .refused _
          · exact .charged (Int32.not_lt.mp negative)
      | updatePayment p =>
          rw [served_updatePayment]
          split_ifs with negative
          · exact .refused _
          cases found : s.payment? p.uid with
          | some stored => exact .recharged (Int32.not_lt.mp negative)
          | none =>
              rw [Stores.putPayment_of_missing found]
              exact .refused _
      | updateLoyalty l =>
          rw [served_updateLoyalty]
          split_ifs with blank
          · exact .refused _
          · exact .saved (by simpa using blank)
      | _ => cases writes

/-- A call that fails has changed nothing. -/
theorem stores_of_error {e : ServiceError} (failed : (c.served fresh s).1 = .error e) :
    (c.served fresh s).2 = s := by
  have h := written fresh s c
  generalize c.served fresh s = answer at h failed
  cases h with
  | read => rfl
  | refused => rfl
  | _ => cases failed

end Call

/-- A call and what it came to. -/
structure Transcript.Entry where
  call : Call
  outcome : Outcome call.Answer

/-- Calls with their outcomes, in order, and the stores that they left. -/
structure Transcript where
  entries : List Transcript.Entry := []
  stores : Stores

namespace Transcript

variable {start : Stores} {calls : List (Uid × Call)}

/-- One more call is served. -/
def serve (t : Transcript) (fresh : Uid) (c : Call) : Transcript where
  entries := t.entries ++ [⟨c, (c.served fresh t.stores).1⟩]
  stores := (c.served fresh t.stores).2

/-- The calls, each with the identifier that it may need, one after the other. -/
def of (start : Stores) (calls : List (Uid × Call)) : Transcript :=
  calls.foldl (fun t call => t.serve call.1 call.2) { stores := start }

theorem of_append_singleton (fresh : Uid) (c : Call) :
    of start (calls ++ [(fresh, c)]) = (of start calls).serve fresh c := by
  simp [of]

/-- What the stores hold at the start and every call keeps is kept by all. -/
theorem invariant {I : Transcript → Prop} (init : I { stores := start })
    (step : ∀ t fresh c, I t → I (t.serve fresh c)) (calls : List (Uid × Call)) :
    I (of start calls) := by
  induction calls using List.reverseRecOn with
  | nil => exact init
  | append_singleton calls call ih =>
      rw [of_append_singleton]
      exact step _ call.1 call.2 ih

/-- Every entry is a call served with the stores that the calls before it had left. -/
theorem exists_of_mem_entries {e : Transcript.Entry} (member : e ∈ (of start calls).entries) :
    ∃ front fresh c, front ++ [(fresh, c)] <+: calls ∧
      e = ⟨c, (c.served fresh (of start front).stores).1⟩ := by
  induction calls using List.reverseRecOn with
  | nil => cases member
  | append_singleton calls call ih =>
      rw [of_append_singleton] at member
      rcases List.mem_append.mp member with earlier | last
      · obtain ⟨front, fresh, c, shorter, rfl⟩ := ih earlier
        exact ⟨front, fresh, c, shorter.trans (List.prefix_append calls [call]), rfl⟩
      · exact ⟨calls, call.1, call.2, List.prefix_rfl, List.mem_singleton.mp last⟩

/-- A transcript only grows. -/
theorem entries_subset {front : List (Uid × Call)} (shorter : front <+: calls) :
    (of start front).entries ⊆ (of start calls).entries := by
  obtain ⟨rest, rfl⟩ := shorter
  induction rest using List.reverseRecOn with
  | nil => simp
  | append_singleton rest call ih =>
      rw [← List.append_assoc, of_append_singleton]
      exact fun e member => List.mem_append_left _ (ih member)

end Transcript

end HotelBooking
