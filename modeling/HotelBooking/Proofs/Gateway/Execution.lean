import HotelBooking.Gateway.Operations
import HotelBooking.Proofs.Service.Serving
import Mathlib.Logic.Relation

/-!
# Programs under way

How the programs of the gateway are carried out on the services over stores in memory,
one call at a time, when calls may fail and other programs may come between. A `Platform`
is what all programs share. A `Thread` is a program with the lines it has written, and
`Step` is one call, one identifier drawn or one line written.

Fresh identifiers are any that are not taken yet, so that a step relation needs no
hypothesis on where they come from. What may go wrong is a parameter: `Faults` says which
mishaps may befall a call, given the lines that its program has written so far. A saga
that undoes its steps has written that a step failed before it makes its first call, so
that faults can tell compensations from the steps that go forward.

`rehearse` carries a program out as told by a list of cues. It is what evaluates runs on
concrete stores, and `steps_of_rehearse` says that each is one of the runs in question.
-/

namespace HotelBooking

/-- The stores of the services, and the identifiers that are taken. -/
structure Platform where
  stores : Stores
  used : List Uid
  deriving DecidableEq

namespace Platform

/-- The platform with these stores on which no identifier has been drawn yet. -/
def start (s : Stores) : Platform := ⟨s, s.uids⟩

/-- The identifiers that occur in the stores are taken. -/
def Known (w : Platform) : Prop := ∀ uid ∈ w.stores.uids, uid ∈ w.used

theorem known_start (s : Stores) : (start s).Known := fun _ member => member

theorem Known.unknown {w : Platform} (known : w.Known) {fresh : Uid} (unused : fresh ∉ w.used) :
    fresh ∉ w.stores.uids := fun member => unused (known fresh member)

/-- Identifiers new to the stores are to be taken. -/
theorem Known.grow {w : Platform} (known : w.Known) {stores : Stores} {used : List Uid}
    (kept : ∀ uid ∈ w.used, uid ∈ used)
    (new : ∀ uid ∈ stores.uids, uid ∈ w.stores.uids ∨ uid ∈ used) : Known ⟨stores, used⟩ := by
  intro uid member
  rcases new uid member with old | taken
  · exact kept uid (known uid old)
  · exact taken

/-- A call on the platform, with the identifier that a new row may need. -/
def answer (w : Platform) (fresh : Uid) (c : Call) (mishap : Option (Mishap c.Answer)) :
    Outcome c.Answer × Platform :=
  let action := match mishap with
    | none => c.serve fresh
    | some m => m.befall (c.serve fresh)
  ((action.perform w.stores).1, ⟨(action.perform w.stores).2, fresh :: w.used⟩)

variable {w : Platform} {fresh : Uid} {c : Call} {e : ServiceError}

theorem answer_none : w.answer fresh c none =
    ((c.served fresh w.stores).1, ⟨(c.served fresh w.stores).2, fresh :: w.used⟩) := rfl

theorem answer_lost : w.answer fresh c (some (.lost e)) =
    (.error e, ⟨w.stores, fresh :: w.used⟩) := rfl

/-- An error of the service's own comes before the loss of its answer. -/
theorem answer_unanswered_eq : w.answer fresh c (some (.unanswered e)) =
    ((c.served fresh w.stores).1.bind fun _ => .error e,
      ⟨(c.served fresh w.stores).2, fresh :: w.used⟩) := by
  simp only [answer, Mishap.befall, Action.perform_bind, Call.served]
  rcases (c.serve fresh).perform w.stores with ⟨_ | _, _⟩ <;> rfl

theorem answer_unanswered : ∃ e', w.answer fresh c (some (.unanswered e)) =
    (.error e', ⟨(c.served fresh w.stores).2, fresh :: w.used⟩) := by
  rw [answer_unanswered_eq]
  cases (c.served fresh w.stores).1 <;> exact ⟨_, rfl⟩

end Platform

namespace Mishap

variable {α : Type}

/-- The call fails, whether or not it reached the service. -/
def IsFailure (m : Mishap α) : Prop := (∃ e, m = .lost e) ∨ ∃ e, m = .unanswered e

/-- The call fails without reaching the service. -/
def IsLoss (m : Mishap α) : Prop := ∃ e, m = .lost e

/-- The call takes effect, and fails all the same. -/
def IsUnanswered (m : Mishap α) : Prop := ∃ e, m = .unanswered e

/-- The call fails without reaching the service, and not as if something were missing. -/
def IsPlainLoss (m : Mishap α) : Prop := ∃ e, m = .lost e ∧ e.isNotFound = false

/-- The call fails, before or after it takes effect, and not as if something were missing. -/
def IsPlainFailure (m : Mishap α) : Prop :=
  ∃ e, (m = .lost e ∨ m = .unanswered e) ∧ e.isNotFound = false

theorem IsPlainFailure.isFailure {m : Mishap α} (h : m.IsPlainFailure) : m.IsFailure := by
  obtain ⟨e, rfl | rfl, -⟩ := h
  · exact .inl ⟨e, rfl⟩
  · exact .inr ⟨e, rfl⟩

theorem IsPlainLoss.isPlainFailure {m : Mishap α} (h : m.IsPlainLoss) : m.IsPlainFailure := by
  obtain ⟨e, rfl, other⟩ := h
  exact ⟨e, .inl rfl, other⟩

theorem IsLoss.isFailure {m : Mishap α} (h : m.IsLoss) : m.IsFailure := .inl h

instance : DecidablePred (IsFailure (α := α))
  | .lost e => .isTrue (.inl ⟨e, rfl⟩)
  | .unanswered e => .isTrue (.inr ⟨e, rfl⟩)
  | .forged _ => .isFalse fun h => by rcases h with ⟨_, h⟩ | ⟨_, h⟩ <;> cases h

instance : DecidablePred (IsLoss (α := α))
  | .lost e => .isTrue ⟨e, rfl⟩
  | .unanswered _ | .forged _ => .isFalse fun ⟨_, h⟩ => nomatch h

instance : DecidablePred (IsUnanswered (α := α))
  | .unanswered e => .isTrue ⟨e, rfl⟩
  | .lost _ | .forged _ => .isFalse fun ⟨_, h⟩ => nomatch h

instance : DecidablePred (IsPlainLoss (α := α))
  | .lost e => decidable_of_iff (e.isNotFound = false) (by simp [IsPlainLoss])
  | .unanswered _ | .forged _ => .isFalse fun ⟨_, h, _⟩ => nomatch h

instance : DecidablePred (IsPlainFailure (α := α))
  | .lost e => decidable_of_iff (e.isNotFound = false) (by simp [IsPlainFailure])
  | .unanswered e => decidable_of_iff (e.isNotFound = false) (by simp [IsPlainFailure])
  | .forged _ => .isFalse fun ⟨_, h, _⟩ => by rcases h with h | h <;> cases h

end Mishap

/-- The mishaps that may befall a call of a program that has written these lines. -/
abbrev Faults := List LogLine → (c : Call) → Mishap c.Answer → Prop

/-- Any call may fail, before or after it takes effect. -/
def Failing : Faults := fun _ _ m => m.IsFailure

instance (log : List LogLine) (c : Call) (m : Mishap c.Answer) : Decidable (Failing log c m) :=
  inferInstanceAs (Decidable m.IsFailure)

/-- Any call may be lost. -/
def Losing : Faults := fun _ _ m => m.IsLoss

instance (log : List LogLine) (c : Call) (m : Mishap c.Answer) : Decidable (Losing log c m) :=
  inferInstanceAs (Decidable m.IsLoss)

/-- No call fails. -/
def Unfailing : Faults := fun _ _ _ => False

instance (log : List LogLine) (c : Call) (m : Mishap c.Answer) : Decidable (Unfailing log c m) :=
  .isFalse id

namespace LogLine

/-- The line that a saga writes before it is unwound. -/
def IsStepFailed : LogLine → Prop
  | stepFailed .. => True
  | _ => False

instance : DecidablePred IsStepFailed
  | stepFailed .. => .isTrue trivial
  | stepsLeft .. | compensated .. | compensationFailed .. => .isFalse id

end LogLine

/-- Whether a program that has written these lines is undoing the steps of a saga. -/
def Undoing (log : List LogLine) : Prop := ∃ line ∈ log, line.IsStepFailed

instance (log : List LogLine) : Decidable (Undoing log) :=
  inferInstanceAs (Decidable (∃ line ∈ log, line.IsStepFailed))

theorem Undoing.append {log : List LogLine} (h : Undoing log) (line : LogLine) :
    Undoing (log ++ [line]) := by
  obtain ⟨failed, member, hline⟩ := h
  exact ⟨failed, List.mem_append_left _ member, hline⟩

theorem undoing_stepFailed (log : List LogLine) (saga : String) (e : ServiceError) :
    Undoing (log ++ [.stepFailed saga e]) :=
  ⟨_, List.mem_append_right _ List.mem_cons_self, trivial⟩

/-- A program under way and the lines it has written. -/
structure Thread (α : Type) where
  log : List LogLine
  rest : Program α

variable {α β : Type}

inductive Step (faults : Faults) : Platform × Thread α → Platform × Thread α → Prop
  | call {w : Platform} {log : List LogLine} {c : Call} {next : Outcome c.Answer → Program α}
      {fresh : Uid} (mishap : Option (Mishap c.Answer)) (unused : fresh ∉ w.used)
      (permitted : ∀ m, mishap = some m → faults log c m) :
      Step faults (w, ⟨log, .call c next⟩)
        ((w.answer fresh c mishap).2, ⟨log, next (w.answer fresh c mishap).1⟩)
  | draw {w : Platform} {log : List LogLine} {next : Uid → Program α} {fresh : Uid}
      (unused : fresh ∉ w.used) :
      Step faults (w, ⟨log, .fresh next⟩) (⟨w.stores, fresh :: w.used⟩, ⟨log, next fresh⟩)
  | write {w : Platform} {log : List LogLine} {line : LogLine} {next : Program α} :
      Step faults (w, ⟨log, .log line next⟩) (w, ⟨log ++ [line], next⟩)

/-- A program that nothing comes between: from its start to its end. -/
def Completes (faults : Faults) (p : Program α) (w : Platform) (a : α) (log : List LogLine)
    (w' : Platform) : Prop :=
  Relation.ReflTransGen (Step faults) (w, ⟨[], p⟩) (w', ⟨log, .done a⟩)

/-! ## Runs on cue -/

/-- What one step is to be given. -/
structure Cue where
  fresh : Uid
  mishap : (c : Call) → Option (Mishap c.Answer) := fun _ => none

section Rehearsal

variable (faults : Faults) [∀ log (c : Call) (m : Mishap c.Answer), Decidable (faults log c m)]

/-- Take a step on cue. There is no result when the program is done, an identifier is taken
already or a mishap may not befall the call. -/
def Thread.follow (cue : Cue) (w : Platform) : Thread α → Option (Platform × Thread α)
  | ⟨_, .done _⟩ => none
  | ⟨log, .log line next⟩ => some (w, ⟨log ++ [line], next⟩)
  | ⟨log, .fresh next⟩ =>
    if cue.fresh ∈ w.used then none
    else some (⟨w.stores, cue.fresh :: w.used⟩, ⟨log, next cue.fresh⟩)
  | ⟨log, .call c next⟩ =>
    if cue.fresh ∈ w.used ∨ ¬ (cue.mishap c).all fun m => faults log c m then none
    else
      let (o, w) := w.answer cue.fresh c (cue.mishap c)
      some (w, ⟨log, next o⟩)

/-- Carry a program out on cue. There is no result when the cues do not suffice. -/
def rehearse : List Cue → Platform → Thread α → Option (α × List LogLine × Platform)
  | _, w, ⟨log, .done a⟩ => some (a, log, w)
  | [], _, _ => none
  | cue :: cues, w, t => do
    let (w, t) ← t.follow faults cue w
    rehearse cues w t

variable {faults} {w w' : Platform} {t t' : Thread α} {cue : Cue}

theorem step_of_follow (h : t.follow faults cue w = some (w', t')) :
    Step faults (w, t) (w', t') := by
  obtain ⟨log, rest⟩ := t
  cases rest with
  | done a => cases h
  | log line next =>
      cases h
      exact .write
  | fresh next =>
      rw [Thread.follow] at h
      split at h
      · cases h
      · cases h
        exact .draw ‹_›
  | call c next =>
      rw [Thread.follow] at h
      split at h
      · cases h
      · rename_i open_
        rw [not_or, not_not] at open_
        cases h
        apply Step.call (cue.mishap c) open_.1
        intro m given
        simpa [given] using open_.2

theorem steps_of_rehearse {cues : List Cue} {log : List LogLine} {a : α}
    (h : rehearse faults cues w t = some (a, log, w')) :
    Relation.ReflTransGen (Step faults) (w, t) (w', ⟨log, .done a⟩) := by
  induction cues generalizing w t with
  | nil =>
      obtain ⟨_, rest⟩ := t
      cases rest <;> cases h
      exact .refl
  | cons cue cues ih =>
      obtain ⟨_, _ | _ | _ | _⟩ := t
      case done =>
        cases h
        exact .refl
      all_goals
        simp only [rehearse] at h
        obtain ⟨⟨w'', t''⟩, first, rest⟩ := Option.bind_eq_some_iff.mp h
        exact .head (step_of_follow first) (ih rest)

variable (faults) in
/-- A rehearsal that passes a check is a run that passes it. -/
theorem Completes.exists_of_rehearse (p : Program α) (w : Platform) (cues : List Cue)
    (check : α → List LogLine → Platform → Bool)
    (passed : (rehearse faults cues w ⟨[], p⟩).any fun (a, log, w') => check a log w') :
    ∃ a log w', Completes faults p w a log w' ∧ check a log w' := by
  obtain ⟨⟨a, log, w'⟩, h, checked⟩ := (Option.any_eq_true _ _).mp passed
  exact ⟨a, log, w', steps_of_rehearse h, checked⟩

end Rehearsal

end HotelBooking
