import HotelBooking.Proofs.Date.Grammar
import HotelBooking.Proofs.StayRequest
import HotelBooking.Proofs.Uid.Grammar

/-!
# The rules for a booking request

There are four of them. The report on a request has one entry for every rule that it breaks, in
the order of the rules, and no other; a request that breaks none is the stay that its fields
write. The rules are stated by the ways to write identifiers and dates, not by how they are read.
-/

namespace HotelBooking

open Text (trim Padded)

namespace StayRequest

inductive Rule where
  | hotelUid
  | startDate
  | endDate
  /-- A stay does not end before it begins. -/
  | period
  deriving DecidableEq

namespace Rule

/-- The rules in the order of their entries. -/
def inOrder : List Rule := [.hotelUid, .startDate, .endDate, .period]

/-- The entry for a broken rule. -/
def entry : Rule → FieldError
  | .hotelUid => ⟨"hotelUid", "invalid uid"⟩
  | .startDate => ⟨"startDate", "invalid date format"⟩
  | .endDate => ⟨"endDate", "invalid date format"⟩
  | .period => ⟨"startDate", "invalid date period"⟩

/-- The request breaks a rule. -/
def Broken (request : BookingRequest) : Rule → Prop
  | .hotelUid => ∀ uid : Uid, ¬ uid.Form (trim request.hotelUid).toList
  | .startDate => ∀ d : Date, ¬ d.Form (trim request.startDate).toList
  | .endDate => ∀ d : Date, ¬ d.Form (trim request.endDate).toList
  | .period => ∃ start stop : Date, start.Form (trim request.startDate).toList ∧
      stop.Form (trim request.endDate).toList ∧ ¬ start ≤ stop

/-- Two requests have the same fields as far as a rule is about them. -/
def Alike (a b : BookingRequest) : Rule → Prop
  | .hotelUid => a.hotelUid = b.hotelUid
  | .startDate => a.startDate = b.startDate
  | .endDate => a.endDate = b.endDate
  | .period => a.startDate = b.startDate ∧ a.endDate = b.endDate

theorem Alike.broken_iff {a b : BookingRequest} {rule : Rule} (alike : rule.Alike a b) :
    rule.Broken a ↔ rule.Broken b := by
  cases rule <;> simp only [Alike] at alike <;> simp only [Broken, alike]

theorem entry_injective {rule rule' : Rule} (same : rule.entry = rule'.entry) : rule = rule' := by
  revert same
  cases rule <;> cases rule' <;> decide

theorem mem_inOrder (rule : Rule) : rule ∈ inOrder := by
  cases rule <;> decide

end Rule

/-! ## The check -/

section Reading

variable (request : BookingRequest)

def uidRead : Option Uid := Uid.ofText? (trim request.hotelUid)

def startRead : Option Date := Date.ofText? .tight (trim request.startDate)

def endRead : Option Date := Date.ofText? .tight (trim request.endDate)

/-- What the check finds wrong. -/
def findings : List FieldError :=
  missing (uidRead request) (invalidUid "hotelUid") ++
    missing (startRead request) (invalidDate "startDate") ++
    missing (endRead request) (invalidDate "endDate") ++
    misordered (startRead request) (endRead request)

end Reading

variable {request : BookingRequest} {stay : StayRequest}

theorem broken_hotelUid : Rule.Broken request .hotelUid ↔ uidRead request = none := by
  rw [Option.eq_none_iff_forall_ne_some]
  exact forall_congr' fun _ => not_congr Uid.ofText?_eq_some_iff.symm

theorem broken_startDate : Rule.Broken request .startDate ↔ startRead request = none := by
  rw [Option.eq_none_iff_forall_ne_some]
  exact forall_congr' fun _ => not_congr Date.ofText?_eq_some_iff.symm

theorem broken_endDate : Rule.Broken request .endDate ↔ endRead request = none := by
  rw [Option.eq_none_iff_forall_ne_some]
  exact forall_congr' fun _ => not_congr Date.ofText?_eq_some_iff.symm

theorem broken_period : Rule.Broken request .period ↔
    misordered (startRead request) (endRead request) ≠ [] := by
  simp only [Rule.Broken, ← Date.ofText?_eq_some_iff]
  change (∃ start stop, startRead request = some start ∧ endRead request = some stop ∧ _) ↔ _
  cases startRead request <;> cases endRead request <;> simp [misordered]

instance : DecidablePred (Rule.Broken request)
  | .hotelUid => decidable_of_iff _ broken_hotelUid.symm
  | .startDate => decidable_of_iff _ broken_startDate.symm
  | .endDate => decidable_of_iff _ broken_endDate.symm
  | .period => decidable_of_iff _ broken_period.symm

theorem misordered_eq (start stop : Option Date) :
    misordered start stop = if misordered start stop ≠ [] then [invalidPeriod] else [] := by
  cases start with
  | none => rfl
  | some start =>
      cases stop with
      | none => rfl
      | some stop => by_cases ordered : start ≤ stop <;> simp [misordered, ordered]

/-- What is found wrong are the entries of the broken rules. -/
theorem findings_eq (request : BookingRequest) :
    findings request = (Rule.inOrder.filter (Rule.Broken request)).map Rule.entry := by
  rw [findings, misordered_eq]
  simp only [missing, Option.isNone_iff_eq_none, ← broken_hotelUid, ← broken_startDate,
    ← broken_endDate, ← broken_period, Rule.inOrder, List.filter_cons, List.filter_nil,
    decide_eq_true_eq]
  split_ifs <;> rfl

theorem check_eq_ok_iff : check request = .ok stay ↔ uidRead request = some stay.hotelUid ∧
    startRead request = some stay.startDate ∧ endRead request = some stay.endDate ∧
    stay.startDate ≤ stay.endDate := by
  constructor
  · intro passed
    have ordered := ordered_of_check passed
    simp only [check] at passed
    split at passed
    · rename_i uid start stop _
      cases passed
      exact ⟨uid, start, stop, ordered⟩
    · cases passed
  · rintro ⟨uid, start, stop, ordered⟩
    rw [uidRead] at uid
    rw [startRead] at start
    rw [endRead] at stop
    simp [check, uid, start, stop, missing, misordered, ordered]

theorem check_eq_error {report : ValidationReport} (refused : check request = .error report) :
    report = { blankReport with errors := findings request } := by
  simp only [check] at refused
  split at refused
  · cases refused
  · cases refused
    simp only [findings, uidRead, startRead, endRead]

/-- The entries of the report, if there is one. -/
def entries : Except ValidationReport StayRequest → List FieldError
  | .ok _ => []
  | .error report => report.errors

theorem entries_check (request : BookingRequest) : entries (check request) = findings request := by
  cases checked : check request with
  | error report => rw [entries, check_eq_error checked]
  | ok stay =>
      obtain ⟨uid, start, stop, ordered⟩ := check_eq_ok_iff.mp checked
      simp [entries, findings, uid, start, stop, missing, misordered, ordered]

/-- A rule has its entry in the report exactly when it is broken. -/
theorem entry_mem_entries {rule : Rule} :
    rule.entry ∈ entries (check request) ↔ rule.Broken request := by
  rw [entries_check, findings_eq, List.mem_map]
  constructor
  · rintro ⟨rule', member, same⟩
    rw [← Rule.entry_injective same]
    exact of_decide_eq_true (List.mem_filter.mp member).2
  · intro broken
    exact ⟨rule, List.mem_filter.mpr ⟨rule.mem_inOrder, decide_eq_true broken⟩, rfl⟩

/-- The check does not see blanks at the ends of fields. -/
theorem check_of_padded {other : BookingRequest} (uid : Padded request.hotelUid other.hotelUid)
    (start : Padded request.startDate other.startDate)
    (stop : Padded request.endDate other.endDate) : check other = check request := by
  simp only [check, Text.trim_of_padded uid, Text.trim_of_padded start, Text.trim_of_padded stop]

/-! ## Asking again -/

/-- The request for what the receipt shows. -/
def again (receipt : BookingReceipt) : BookingRequest :=
  { hotelUid := receipt.hotelUid.toText, startDate := receipt.startDate,
    endDate := receipt.endDate }

/-- The texts of a stay with dates in order, in whatever years, are read back. -/
theorem check_written (ordered : stay.startDate ≤ stay.endDate) :
    check { hotelUid := stay.hotelUid.toText, startDate := stay.startDate.toText,
            endDate := stay.endDate.toText } = .ok stay := by
  simp [check_eq_ok_iff, uidRead, startRead, endRead, ordered]

/-- A request is accepted exactly when it breaks no rule, and otherwise reported rule by rule.
Blanks at the ends of its fields count for nothing, and what a receipt shows of an accepted stay,
in whatever years it is, is accepted as that stay. -/
theorem check_exact (request : BookingRequest) :
    (∀ stay, check request = .ok stay ↔ stay.hotelUid.Form (trim request.hotelUid).toList ∧
      stay.startDate.Form (trim request.startDate).toList ∧
      stay.endDate.Form (trim request.endDate).toList ∧ stay.startDate ≤ stay.endDate) ∧
    (∀ report, check request = .error report →
      report.message = "invalid reservation request data" ∧
      report.errors = (Rule.inOrder.filter (Rule.Broken request)).map Rule.entry) ∧
    (∀ other rule, Rule.Alike request other rule →
      (rule.entry ∈ entries (check request) ↔ rule.entry ∈ entries (check other))) ∧
    (∀ other : BookingRequest, Padded request.hotelUid other.hotelUid →
      Padded request.startDate other.startDate → Padded request.endDate other.endDate →
      check other = check request) ∧
    ∀ stay, check request = .ok stay → 0 ≤ stay.nights ∧
      ∀ r : Reservation, r.startDate = stay.startDate → r.endDate = stay.endDate →
        ∀ discount p, check (again (.assemble r stay.hotelUid discount p)) = .ok stay := by
  refine ⟨?_, ?_, ?_, ?_, ?_⟩
  · intro stay
    rw [check_eq_ok_iff, uidRead, startRead, endRead, Uid.ofText?_eq_some_iff,
      Date.ofText?_eq_some_iff, Date.ofText?_eq_some_iff]
  · intro report refused
    obtain rfl := check_eq_error refused
    exact ⟨rfl, findings_eq request⟩
  · intro other rule alike
    rw [entry_mem_entries, entry_mem_entries, alike.broken_iff]
  · intro other
    exact check_of_padded
  · intro stay passed
    have ordered := ordered_of_check passed
    refine ⟨Date.nightsUntil_nonneg ordered, ?_⟩
    intro r start stop discount p
    rw [← check_written ordered, ← start, ← stop]
    rfl

/-- Where the identifier cannot be read, the dates are looked at all the same. -/
example : entries (check
      { hotelUid := "none", startDate := "2024-1-05", endDate := " +2024-01-4" }) =
    [Rule.hotelUid, Rule.period].map Rule.entry := by
  decide +kernel

end StayRequest

end HotelBooking
