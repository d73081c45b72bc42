import HotelBooking.Proofs.Service.Transcript
import HotelBooking.Proofs.Store.Accounts

/-!
# What the services keep

The rows that the services store come from callers who may send anything. Whatever they
send and however often, a charge is never negative, and a guest has one loyalty record,
which follows the last count sent for it and keeps its number.

Reservations are another matter: a new one is checked, one that is put in the place of
another is not. So the stored reservations are regular exactly as long as those that were
put in place were.
-/

namespace HotelBooking

/-! ## Reservations -/

/-- A reservation of a named guest, with dates in order. -/
structure Reservation.Regular (r : Reservation) : Prop where
  named : Text.isBlankText r.username = false
  ordered : r.startDate ≤ r.endDate

namespace Reservation.Regular

variable {r : Reservation}

theorem identified (h : r.Regular) (fresh : Uid) : (Call.identified fresh r).Regular := by
  unfold Call.identified
  split
  · exact ⟨h.named, h.ordered⟩
  · exact h

/-- Numbers do not matter. -/
theorem renumbered (h : r.Regular) (id : Int32) : { r with id }.Regular := ⟨h.named, h.ordered⟩

theorem of_renumbered {id : Int32} (h : { r with id }.Regular) : r.Regular := ⟨h.named, h.ordered⟩

end Reservation.Regular

namespace Transcript

variable {t : Transcript} {fresh : Uid} {c : Call} {start : Stores} {calls : List (Uid × Call)}

/-- A stored reservation was stored before, was checked, or was put in the place of one. -/
theorem regular_or_put {r : Reservation} (member : r ∈ (t.serve fresh c).stores.reservations) :
    r ∈ t.stores.reservations ∨ r.Regular ∨
      ∃ r' id, r = { r' with id } ∧
        ⟨.updateReservation r', .ok ()⟩ ∈ (t.serve fresh c).entries := by
  have h := Call.written fresh t.stores c
  unfold serve at member ⊢
  generalize c.served fresh t.stores = answer at h member
  cases h with
  | reserved named ordered =>
      rcases List.mem_append.mp member with old | new
      · exact .inl old
      · cases List.mem_singleton.mp new
        exact .inr (.inl (((Reservation.Regular.mk named ordered).identified fresh).renumbered _))
  | @rebooked r' =>
      rcases Table.mem_replaceFirst member with old | ⟨stored, -, rfl⟩
      · exact .inl old
      · exact .inr (.inr ⟨r', stored.id, rfl, by simp⟩)
  | _ => exact .inl member

/-- What a reservation that was successfully put in the place of another becomes is stored. -/
theorem stored_of_put {r : Reservation}
    (done : ((Call.updateReservation r).served fresh t.stores).1 = .ok ()) :
    ∃ id, { r with id } ∈ (t.serve fresh (.updateReservation r)).stores.reservations := by
  rw [Call.served_updateReservation] at done
  cases found : t.stores.reservation? r.uid with
  | none => simp [found, foundOr] at done
  | some stored =>
      have put : (t.stores.putReservation r).reservation? r.uid = some { r with id := stored.id } :=
        (Stores.reservation?_putReservation_self r).trans (congrArg _ found)
      refine ⟨stored.id, ?_⟩
      rw [serve, Call.served_updateReservation]
      exact Stores.mem_of_reservation? put

/-- The stored reservations are regular if those are that were put in the place of others. -/
def RegularIfPut (t : Transcript) : Prop :=
  (∀ r, ⟨.updateReservation r, .ok ()⟩ ∈ t.entries → r.Regular) →
    ∀ r ∈ t.stores.reservations, r.Regular

theorem RegularIfPut.serve (h : t.RegularIfPut) (fresh : Uid) (c : Call) :
    (t.serve fresh c).RegularIfPut := by
  intro puts r member
  rcases regular_or_put member with old | checked | ⟨r', id, rfl, put⟩
  · exact h (fun r put => puts r (List.mem_append_left _ put)) r old
  · exact checked
  · exact (puts r' put).renumbered id

/-- The reservations of a store that was empty at first are regular all along exactly if
every reservation is that was successfully put in the place of another. -/
theorem regular_iff (s : Stores) (calls : List (Uid × Call)) :
    (∀ front, front <+: calls →
      ∀ r ∈ (of { s with reservation.reservations := {} } front).stores.reservations,
        r.Regular) ↔
      ∀ r, ⟨.updateReservation r, .ok ()⟩ ∈
        (of { s with reservation.reservations := {} } calls).entries → r.Regular := by
  have init : RegularIfPut { stores := { s with reservation.reservations := {} } } :=
    fun _ => List.forall_mem_nil _
  generalize ({ s with reservation.reservations := {} } : Stores) = start at init ⊢
  constructor
  · intro regular r put
    obtain ⟨front, fresh, c, shorter, entry⟩ := exists_of_mem_entries put
    injection entry with call outcome
    subst call
    obtain ⟨id, member⟩ := stored_of_put (eq_of_heq outcome).symm
    rw [← of_append_singleton] at member
    exact (regular _ shorter _ member).of_renumbered
  · intro puts front shorter
    have kept := invariant init (fun _ fresh c h => RegularIfPut.serve h fresh c) front
    exact kept fun r put => puts r (entries_subset shorter put)

/-- A stay is put in place with its dates reversed, or under a name that is blank, and both
are stored. -/
theorem irregular_after_put :
    let arrival : Date := ⟨2026, 5, 1, by decide⟩
    let departure : Date := ⟨2026, 5, 3, by decide⟩
    let stay : Reservation := .draft (.ofNat 1) "ada" (.ofNat 2) 1 .paid arrival departure
    let replaced (r : Reservation) := of {} [(.ofNat 3, .createReservation stay),
      (.ofNat 4, .updateReservation r)]
    (∃ r ∈ (replaced { stay with startDate := departure, endDate := arrival }).stores.reservations,
        ¬ r.startDate ≤ r.endDate) ∧
      ∃ r ∈ (replaced { stay with username := " " }).stores.reservations,
        Text.isBlankText r.username := by
  decide +kernel

/-! ## Charges and loyalty records -/

/-- The record that an entry successfully saved, and what came to be stored for it. -/
def Entry.saved? : Entry → Option (Loyalty × Loyalty)
  | ⟨.updateLoyalty l, .ok stored⟩ => some (l, stored)
  | _ => none

/-- What was successfully saved under a name, with what came to be stored, in order. -/
def savesOf (t : Transcript) (name : String) : List (Loyalty × Loyalty) :=
  (t.entries.filterMap Entry.saved?).filter (·.1.username == name)

theorem savesOf_append (e : Entry) (s : Stores) (name : String) :
    savesOf ⟨t.entries ++ [e], s⟩ name =
      t.savesOf name ++ e.saved?.toList.filter (·.1.username == name) := by
  cases saved : e.saved? <;> simp [savesOf, saved]

/-- The record of a guest after these saves: it keeps the number that it was given first, and
its count is the last one sent, where that is not negative. -/
inductive Follows : List (Loyalty × Loyalty) → Option Loyalty → Prop where
  | unsaved : Follows [] none
  | saved {saves : List (Loyalty × Loyalty)} {first last : Loyalty × Loyalty} {l : Loyalty}
      (begun : saves.head? = some first) (ended : saves.getLast? = some last)
      (number : l.id = first.2.id)
      (count : l.reservationCount.toInt = max last.1.reservationCount.toInt 0) :
      Follows saves (some l)

theorem Follows.eq_none {saves : List (Loyalty × Loyalty)} {record : Option Loyalty}
    (h : Follows saves record) (unsaved : saves = []) : record = none := by
  cases h with
  | unsaved => rfl
  | saved begun =>
      rw [unsaved] at begun
      cases begun

theorem Follows.exists_record {saves : List (Loyalty × Loyalty)} {record : Option Loyalty}
    {first last : Loyalty × Loyalty} (h : Follows saves record)
    (begun : saves.head? = some first) (ended : saves.getLast? = some last) :
    ∃ l, record = some l ∧ l.id = first.2.id ∧
      l.reservationCount.toInt = max last.1.reservationCount.toInt 0 := by
  cases h with
  | unsaved => cases begun
  | saved begun' ended' number count =>
      cases begun.symm.trans begun'
      cases ended.symm.trans ended'
      exact ⟨_, rfl, number, count⟩

/-- One more save is followed by what comes to be stored. -/
theorem Follows.save {saves : List (Loyalty × Loyalty)} {s : Stores} {l : Loyalty}
    (h : Follows saves (s.loyalty? l.username)) :
    Follows (saves ++ [(l, s.savedLoyalty l.recompute)]) (some (s.savedLoyalty l.recompute)) := by
  have count : (s.savedLoyalty l.recompute).reservationCount.toInt =
      max l.reservationCount.toInt 0 := by
    rw [Stores.reservationCount_savedLoyalty, Loyalty.toInt_count_recompute]
  generalize record : s.loyalty? l.username = o at h
  cases h with
  | unsaved => exact .saved List.head?_cons List.getLast?_singleton rfl count
  | @saved _ first _ _ begun _ number _ =>
      have nonempty : saves ≠ [] := by
        rintro rfl
        cases begun
      have still : (saves ++ [(l, s.savedLoyalty l.recompute)]).head? = some first := by
        rwa [List.head?_append_of_ne_nil saves nonempty]
      refine .saved still List.getLast?_concat ?_ count
      rw [Stores.savedLoyalty, Loyalty.username_recompute, record]
      exact number

/-- The records after what was saved under each name: one for each guest, in order. -/
structure Recorded (saves : String → List (Loyalty × Loyalty)) (members : List Loyalty) :
    Prop where
  named : ∀ l ∈ members, Text.isBlankText l.username = false
  counted : ∀ l ∈ members, 0 ≤ l.reservationCount.toInt
  tiered : ∀ l ∈ members, l.Tiered
  alone : (members.map Loyalty.username).Nodup
  follows : ∀ name, Follows (saves name) (members.find? (·.username == name))

theorem recorded_nil (s : Stores) : Recorded (savesOf { stores := s }) [] where
  named := nofun
  counted := nofun
  tiered := nofun
  alone := List.nodup_nil
  follows _ := .unsaved

theorem Recorded.save {s : Stores} {l : Loyalty} (h : Recorded t.savesOf s.members)
    (named : Text.isBlankText l.username = false) :
    Recorded (savesOf ⟨t.entries ++ [⟨.updateLoyalty l, .ok (s.savedLoyalty l.recompute)⟩],
      s.saveLoyalty l.recompute⟩) (s.saveLoyalty l.recompute).members where
  named l' member := by
    rcases Stores.mem_members_saveLoyalty member with old | rfl
    · exact h.named l' old
    · rwa [Stores.username_savedLoyalty]
  counted l' member := by
    rcases Stores.mem_members_saveLoyalty member with old | rfl
    · exact h.counted l' old
    · rw [Stores.reservationCount_savedLoyalty, Loyalty.toInt_count_recompute]
      exact Int.le_max_right ..
  tiered := Stores.tiered_saveLoyalty h.tiered (Loyalty.tiered_recompute l)
  alone := Stores.nodup_saveLoyalty _ h.alone
  follows name := by
    change Follows _ ((s.saveLoyalty l.recompute).loyalty? name)
    rw [savesOf_append]
    by_cases same : l.username = name
    · subst same
      have record := Stores.loyalty?_saveLoyalty_self (s := s) l.recompute
      rw [Loyalty.username_recompute] at record
      rw [record]
      simpa [Entry.saved?] using (h.follows l.username).save
    · have other : (s.saveLoyalty l.recompute).loyalty? name = s.loyalty? name :=
        Stores.loyalty?_saveLoyalty_of_ne (Ne.symm same)
      rw [other, Stores.loyalty?]
      simpa [Entry.saved?, same] using h.follows name

/-- What the services keep of charges and loyalty records, whatever they are sent. -/
structure Kept (t : Transcript) : Prop where
  priced : ∀ p ∈ t.stores.payments, 0 ≤ p.price
  recorded : Recorded t.savesOf t.stores.members

/-- An entry that saves no record and leaves charges in order. -/
theorem Kept.unsaved {e : Entry} {s : Stores} (h : t.Kept) (unsaved : e.saved? = none)
    (members : s.members = t.stores.members) (priced : ∀ p ∈ s.payments, 0 ≤ p.price) :
    Kept ⟨t.entries ++ [e], s⟩ where
  priced := priced
  recorded := by
    have saves : savesOf ⟨t.entries ++ [e], s⟩ = t.savesOf := by
      funext name
      simp [savesOf_append, unsaved]
    rw [saves, members]
    exact h.recorded

theorem Kept.serve (h : t.Kept) (fresh : Uid) (c : Call) : (t.serve fresh c).Kept := by
  have written := Call.written fresh t.stores c
  unfold Transcript.serve
  generalize c.served fresh t.stores = answer at written
  cases written with
  | read reading o =>
      have unsaved : Entry.saved? ⟨c, o⟩ = none := by
        cases c with
        | updateLoyalty => cases reading
        | _ => rfl
      exact h.unsaved unsaved rfl h.priced
  | refused e =>
      have unsaved : Entry.saved? ⟨c, .error e⟩ = none := by cases c <;> rfl
      exact h.unsaved unsaved rfl h.priced
  | reserved => exact h.unsaved rfl rfl h.priced
  | rebooked => exact h.unsaved rfl rfl h.priced
  | charged nonneg =>
      refine h.unsaved rfl rfl fun p member => ?_
      rcases List.mem_append.mp member with old | new
      · exact h.priced p old
      · cases List.mem_singleton.mp new
        exact nonneg
  | recharged nonneg =>
      refine h.unsaved rfl rfl fun p member => ?_
      rcases Table.mem_replaceFirst member with old | ⟨stored, -, rfl⟩
      · exact h.priced p old
      · exact nonneg
  | saved named => exact ⟨h.priced, h.recorded.save named⟩

/-- Whatever is asked of stores without charges and loyalty records: no charge is negative,
every record is that of a named guest with a count that is not negative and the tier and
discount of its count, and a name has one record if anything was ever saved under it, with the
number it was given first and the count that was sent last. A call that fails changes nothing. -/
theorem keeps_records (s : Stores) (calls : List (Uid × Call)) :
    let t := of { s with payment := {}, loyalty := {} } calls
    (∀ p ∈ t.stores.payments, 0 ≤ p.price.toInt) ∧
    (∀ l ∈ t.stores.members, Text.isBlankText l.username = false ∧
      0 ≤ l.reservationCount.toInt ∧
      (l.status, l.discount) =
        if l.reservationCount.toInt ≤ 10 then (.bronze, 5)
        else if l.reservationCount.toInt ≤ 20 then (.silver, 7)
        else (.gold, 10)) ∧
    (∀ name, t.savesOf name = [] → t.stores.members.filter (·.username == name) = []) ∧
    (∀ name first last, (t.savesOf name).head? = some first →
      (t.savesOf name).getLast? = some last →
      ∃ l, t.stores.members.filter (·.username == name) = [l] ∧ l.id = first.2.id ∧
        l.reservationCount.toInt = max 0 last.1.reservationCount.toInt) ∧
    ∀ fresh (c : Call) e, (c.served fresh t.stores).1 = .error e →
      (c.served fresh t.stores).2 = t.stores := by
  intro t
  have kept : t.Kept := by
    refine invariant ?_ (fun t fresh c h => h.serve fresh c) calls
    exact ⟨by simp [Stores.payments], recorded_nil _⟩
  obtain ⟨priced, recorded⟩ := kept
  have only (name : String) := Table.filter_of_nodup (k := name) recorded.alone
  refine ⟨fun p member => Int32.le_iff_toInt_le.mp (priced p member), fun l member => ?_,
    fun name unsaved => ?_, fun name first last begun ended => ?_,
    fun _ _ _ => Call.stores_of_error⟩
  · exact ⟨recorded.named l member, recorded.counted l member,
      (recorded.tiered l member).eq_of_count⟩
  · rw [only, (recorded.follows name).eq_none unsaved]
    rfl
  · obtain ⟨l, record, number, count⟩ := (recorded.follows name).exists_record begun ended
    exact ⟨l, by rw [only, record]; rfl, number, by rw [count, Int.max_comm]⟩

/-- The second record keeps the number of the first one and is counted anew, and the one for
nobody is refused. -/
example :
    (of {} [(.ofNat 1, .updateLoyalty ⟨7, "ada", 12, .gold, 0⟩),
      (.ofNat 2, .updateLoyalty ⟨9, "ada", 25, .bronze, 5⟩),
      (.ofNat 3, .updateLoyalty ⟨0, " ", 1, .bronze, 5⟩)]).stores.members =
      [⟨1, "ada", 25, .gold, 10⟩] := by
  decide +kernel

end Transcript

end HotelBooking
