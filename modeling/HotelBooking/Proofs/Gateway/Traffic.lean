import HotelBooking.Proofs.Gateway.Session
import Mathlib.Logic.Function.Basic

/-!
# Operations at the same time

`Traffic` is any number of operations under way on one platform. They may arrive at any
moment, and every step is one step of one of them, so that calls of different operations
come in any order.

A `Discipline` is what keeps them out of each other's way: what holds at every moment, in
what ways the platform may change, and what being pending means for an identifier. An
identifier drawn for an operation stays pending until that operation itself settles it.
`Discipline.keeps` reduces all this to single operations: when each, on these terms,
does its part whatever the others do, then so do all of them together.
-/

namespace HotelBooking

/-- A request being carried out. -/
structure Task where
  request : GuestRequest
  thread : Thread (Outcome request.Answer)

/-- Requests being carried out on one platform. -/
structure Traffic where
  platform : Platform
  tasks : List Task

namespace Traffic

inductive Step (options : GatewayOptions) (faults : Faults) : Traffic → Traffic → Prop
  | arrive {w : Platform} {tasks : List Task} (r : GuestRequest) :
      Step options faults ⟨w, tasks⟩ ⟨w, tasks ++ [⟨r, ⟨[], (r.operation options).run⟩⟩]⟩
  | advance {w w' : Platform} {tasks : List Task} {i : Nat} {r : GuestRequest}
      {t t' : Thread (Outcome r.Answer)} (under_way : tasks[i]? = some ⟨r, t⟩)
      (step : HotelBooking.Step faults (w, t) (w', t')) :
      Step options faults ⟨w, tasks⟩ ⟨w', tasks.set i ⟨r, t'⟩⟩

/-- Any number of steps. -/
def Reaches (options : GatewayOptions) (faults : Faults) : Traffic → Traffic → Prop :=
  Relation.ReflTransGen (Step options faults)

/-- The platform before the first request. -/
def quiet (w : Platform) : Traffic := ⟨w, []⟩

/-! ## Traffic on cue -/

/-- What is to happen next: a request arrives, or one under way takes a step. -/
inductive Move where
  | arrive (r : GuestRequest)
  | advance (i : Nat) (cue : Cue)

section Rehearsal

variable (options : GatewayOptions) (faults : Faults)
  [∀ log (c : Call) (m : Mishap c.Answer), Decidable (faults log c m)]

def follow (c : Traffic) : Move → Option Traffic
  | .arrive r => some ⟨c.platform, c.tasks ++ [⟨r, ⟨[], (r.operation options).run⟩⟩]⟩
  | .advance i cue => do
    let task ← c.tasks[i]?
    let (w, t) ← task.thread.follow faults cue c.platform
    return ⟨w, c.tasks.set i ⟨task.request, t⟩⟩

def rehearse (moves : List Move) (c : Traffic) : Option Traffic :=
  moves.foldlM (follow options faults) c

variable {options faults} {c c' : Traffic}

theorem step_of_follow {move : Move} (h : c.follow options faults move = some c') :
    Step options faults c c' := by
  cases move with
  | arrive r =>
      cases h
      exact .arrive r
  | advance i cue =>
      obtain ⟨⟨r, t⟩, under_way, h⟩ := Option.bind_eq_some_iff.mp h
      obtain ⟨⟨w', t'⟩, step, h⟩ := Option.bind_eq_some_iff.mp h
      cases h
      exact .advance under_way (HotelBooking.step_of_follow step)

theorem reaches_of_rehearse {moves : List Move} (h : rehearse options faults moves c = some c') :
    Reaches options faults c c' := by
  induction moves generalizing c with
  | nil =>
      cases h
      exact .refl
  | cons move moves ih =>
      rw [rehearse, List.foldlM_cons] at h
      obtain ⟨c'', first, rest⟩ := Option.bind_eq_some_iff.mp h
      exact .head (step_of_follow first) (ih rest)

variable (options) (faults)

/-- A rehearsal that passes a check reaches traffic that passes it. -/
theorem exists_of_rehearse (moves : List Move) (c : Traffic) (check : Traffic → Bool)
    (passed : (rehearse options faults moves c).any check) :
    ∃ c', Reaches options faults c c' ∧ check c' := by
  obtain ⟨c', h, checked⟩ := (Option.any_eq_true _ _).mp passed
  exact ⟨c', reaches_of_rehearse h, checked⟩

end Rehearsal

end Traffic

/-- How operations share a platform. -/
structure Discipline where
  /-- What holds at every moment. -/
  holds : Platform → Prop
  /-- How the platform may have changed since. -/
  later : Platform → Platform → Prop
  /-- What nobody but the operation that drew an identifier may put an end to. -/
  pending : Uid → Platform → Prop
  later_refl : ∀ w, later w w
  later_trans : ∀ {w w' w''}, later w w' → later w' w'' → later w w''

namespace Discipline

variable (d : Discipline) {options : GatewayOptions} {faults : Faults}

def terms : Terms where
  rely own w w' := d.holds w' ∧ d.later w w' ∧ ∀ u ∈ own, d.pending u w → d.pending u w'
  guarantee own w w' :=
    d.holds w' ∧ d.later w w' ∧ ∀ u ∈ w.used, u ∉ own → d.pending u w → d.pending u w'
  rely_trans first second :=
    ⟨second.1, d.later_trans first.2.1 second.2.1,
      fun u member before => second.2.2 u member (first.2.2 u member before)⟩

/-- The identifiers drawn for each operation: all taken, and none drawn for two. -/
structure Drawn (own : Nat → List Uid) (used : List Uid) : Prop where
  taken : ∀ i, ∀ u ∈ own i, u ∈ used
  apart : ∀ i j u, u ∈ own i → u ∈ own j → i = j

section Drawn

variable {own : Nat → List Uid} {used used' : List Uid} (h : Drawn own used)

include h

/-- Whatever was drawn for an operation that is no more is nobody's. -/
theorem Drawn.clear (n : Nat) : Drawn (Function.update own n []) used := by
  have old {i : Nat} {u : Uid} (member : u ∈ Function.update own n [] i) : u ∈ own i := by
    by_cases same : i = n
    · rw [same, Function.update_self] at member
      cases member
    · rwa [Function.update_of_ne same] at member
  exact ⟨fun i u member => h.taken i u (old member),
    fun i j u mine yours => h.apart i j u (old mine) (old yours)⟩

/-- The identifier drawn is nobody else's. -/
theorem Drawn.draw {fresh : Uid} (n : Nat) (unused : fresh ∉ used) (taken : fresh ∈ used')
    (kept : ∀ u ∈ used, u ∈ used') : Drawn (Function.update own n (fresh :: own n)) used' := by
  have old {i : Nat} {u : Uid} (member : u ∈ Function.update own n (fresh :: own n) i) :
      u ∈ own i ∨ u = fresh ∧ i = n := by
    by_cases same : i = n
    · rw [same, Function.update_self] at member
      rcases List.mem_cons.mp member with new | old
      · exact .inr ⟨new, same⟩
      · exact .inl (same ▸ old)
    · rw [Function.update_of_ne same] at member
      exact .inl member
  constructor
  · intro i u member
    rcases old member with old | ⟨rfl, -⟩
    · exact kept u (h.taken i u old)
    · exact taken
  · intro i j u mine yours
    rcases old mine with mine' | ⟨new, here⟩ <;> rcases old yours with yours' | ⟨new', here'⟩
    · exact h.apart i j u mine' yours'
    · exact absurd (new' ▸ h.taken i u mine') unused
    · exact absurd (new ▸ h.taken j u yours') unused
    · exact here.trans here'.symm

end Drawn

end Discipline

/-- What more the operations of each request keep to where a discipline is kept, and what
they come to. -/
structure Roles (d : Discipline) where
  moves : GuestRequest → List Uid → Platform → Platform → Prop
  post : (r : GuestRequest) → Outcome r.Answer → Platform → Prop
  outlasts : ∀ {r : GuestRequest} {o : Outcome r.Answer} {w w' : Platform},
    post r o w → d.later w w' → post r o w'

namespace Roles

variable {d : Discipline} (k : Roles d) {options : GatewayOptions} {faults : Faults}

def terms (r : GuestRequest) : Terms :=
  { d.terms with
    guarantee := fun own w w' => d.terms.guarantee own w w' ∧ k.moves r own w w' }

/-- The operation of a request does its part. -/
def Plays (options : GatewayOptions) (faults : Faults) (r : GuestRequest) (w : Platform) : Prop :=
  (r.operation options).Ensures ((k.terms r).demand faults)
    (fun o s => k.post r o s.platform) ⟨w, [], []⟩

/-- Every operation under way does its part, with the identifiers drawn for it so far. -/
structure Underway (faults : Faults) (own : Nat → List Uid) (c : Traffic) : Prop where
  holds : d.holds c.platform
  drawn : Discipline.Drawn own c.platform.used
  ensured : ∀ (i : Nat) (r : GuestRequest) (t : Thread (Outcome r.Answer)),
    c.tasks[i]? = some ⟨r, t⟩ →
    t.rest.Ensures ((k.terms r).demand faults) (fun o s => k.post r o s.platform)
      ⟨c.platform, t.log, own i⟩

variable {k} {own : Nat → List Uid} {c c' : Traffic} {w w' : Platform} {tasks : List Task}

theorem Underway.quiet (holds : d.holds w) : k.Underway faults (fun _ => []) (.quiet w) where
  holds := holds
  drawn := ⟨fun _ _ member => (nomatch member), fun _ _ _ member => nomatch member⟩
  ensured _ _ _ under_way := nomatch under_way

/-- What an operation came to still holds. -/
theorem Underway.post (h : k.Underway faults own c) {i : Nat} {r : GuestRequest}
    {log : List LogLine} {o : Outcome r.Answer} (done : c.tasks[i]? = some ⟨r, ⟨log, .done o⟩⟩) :
    k.post r o c.platform :=
  h.ensured i r _ done

/-- An operation arrives, and nothing has been drawn for it. -/
theorem Underway.arrive (h : k.Underway faults own ⟨w, tasks⟩) (r : GuestRequest)
    (plays : k.Plays options faults r w) :
    k.Underway faults (Function.update own tasks.length [])
      ⟨w, tasks ++ [⟨r, ⟨[], (r.operation options).run⟩⟩]⟩ where
  holds := h.holds
  drawn := h.drawn.clear tasks.length
  ensured i r' t under_way := by
    by_cases new : i = tasks.length
    · subst new
      rw [List.getElem?_concat_length] at under_way
      cases under_way
      rw [Function.update_self]
      exact (Operation.ensures_run _ _).mpr plays
    · rw [Function.update_of_ne new]
      refine h.ensured i r' t ?_
      have bound := (List.getElem?_eq_some_iff.mp under_way).1
      rw [List.length_append, List.length_singleton] at bound
      rwa [List.getElem?_append_left (by omega)] at under_way

/-- What may be done by whoever has drawn nothing of this operation's, it bears. -/
theorem Underway.bears (h : k.Underway faults own ⟨w, tasks⟩) {theirs : List Uid} {j : Nat}
    (apart : ∀ u ∈ own j, u ∉ theirs) (kept : d.terms.guarantee theirs w w') {r : GuestRequest}
    {t : Thread (Outcome r.Answer)} (under_way : tasks[j]? = some ⟨r, t⟩) :
    t.rest.Ensures ((k.terms r).demand faults) (fun o s => k.post r o s.platform)
      ⟨w', t.log, own j⟩ := by
  obtain ⟨holds, later, others⟩ := kept
  have relied : d.terms.rely (own j) w w' :=
    ⟨holds, later, fun u mine => others u (h.drawn.taken j u mine) (apart u mine)⟩
  have stable : ∀ (o : Outcome r.Answer) (s : Moment) (w : Platform), k.post r o s.platform →
      (k.terms r).rely s.own s.platform w → k.post r o w :=
    fun _ _ _ before relies => k.outlasts before relies.2.1
  exact ensures_after stable (h.ensured j r t under_way) relied

/-- One operation takes a step; the others bear it. -/
theorem Underway.advance (h : k.Underway faults own ⟨w, tasks⟩) {i : Nat} {r : GuestRequest}
    {t t' : Thread (Outcome r.Answer)} (under_way : tasks[i]? = some ⟨r, t⟩)
    (step : Step faults (w, t) (w', t')) :
    ∃ drawn, k.Underway faults (Function.update own i drawn) ⟨w', tasks.set i ⟨r, t'⟩⟩ ∧
      (∀ u ∈ drawn, u ∈ own i ∨ u ∉ w.used) ∧
      (w' = w ∨ (k.terms r).guarantee (own i) w w') := by
  have bound := (List.getElem?_eq_some_iff.mp under_way).1
  have undisturbed : (k.terms r).rely (own i) w w :=
    ⟨h.holds, d.later_refl w, fun _ _ before => before⟩
  obtain ⟨own', next, ⟨rfl, rfl⟩ | ⟨kept, fresh, unused, taken, rfl⟩⟩ :=
    ensures_step undisturbed (h.ensured i r t under_way) step
  · refine ⟨own i, ⟨h.holds, ?_, ?_⟩, fun _ member => .inl member, .inl rfl⟩
    · rw [Function.update_eq_self]
      exact h.drawn
    · intro j r' u at_j
      rw [Function.update_eq_self]
      by_cases same : j = i
      · subst same
        rw [List.getElem?_set_self bound] at at_j
        cases at_j
        exact next
      · rw [List.getElem?_set_ne (Ne.symm same)] at at_j
        exact h.ensured j r' u at_j
  · refine ⟨fresh :: own i, ⟨kept.1.1, h.drawn.draw i unused taken (used_of_step step), ?_⟩, ?_,
      .inr kept⟩
    · intro j r' u at_j
      by_cases same : j = i
      · subst same
        rw [List.getElem?_set_self bound] at at_j
        cases at_j
        rw [Function.update_self]
        exact next
      · rw [List.getElem?_set_ne (Ne.symm same)] at at_j
        rw [Function.update_of_ne same]
        have apart : ∀ u ∈ own j, u ∉ own i := fun u mine yours =>
          same (h.drawn.apart j i u mine yours)
        exact h.bears apart kept.1 at_j
    · intro u member
      rcases List.mem_cons.mp member with rfl | old
      · exact .inr unused
      · exact .inl old

/-- Whatever happens next, every operation goes on doing its part. -/
theorem Underway.step (h : k.Underway faults own c) (each : ∀ r w, d.holds w →
      k.Plays options faults r w) (step : Traffic.Step options faults c c') :
    ∃ own', k.Underway faults own' c' ∧
      (∀ i, ∀ u ∈ own' i, u ∈ own i ∨ u ∉ c.platform.used) ∧
      (c'.platform = c.platform ∨ ∃ i, ∃ task ∈ c'.tasks,
        (k.terms task.request).guarantee (own i) c.platform c'.platform) := by
  cases step with
  | @arrive w tasks r =>
      refine ⟨_, h.arrive r (each r w h.holds), ?_, .inl rfl⟩
      intro i u member
      by_cases new : i = tasks.length
      · rw [new, Function.update_self] at member
        cases member
      · rw [Function.update_of_ne new] at member
        exact .inl member
  | @advance w w' tasks i r t t' under_way step =>
      obtain ⟨drawn, after, new, kept⟩ := h.advance under_way step
      refine ⟨_, after, ?_, kept.imp_right fun kept => ⟨i, ⟨r, t'⟩, ?_, kept⟩⟩
      · intro j u member
        by_cases same : j = i
        · rw [same, Function.update_self] at member
          rw [same]
          exact new u member
        · rw [Function.update_of_ne same] at member
          exact .inl member
      · have bound := (List.getElem?_eq_some_iff.mp under_way).1
        exact List.mem_set bound ⟨r, t'⟩

/-- So do they in all that follows, and the platform only changes as it may. -/
theorem Underway.reaches (h : k.Underway faults own c) (each : ∀ r w, d.holds w →
      k.Plays options faults r w) (reached : Traffic.Reaches options faults c c') :
    (∃ own', k.Underway faults own' c') ∧ d.later c.platform c'.platform := by
  induction reached with
  | refl => exact ⟨⟨own, h⟩, d.later_refl _⟩
  | tail _ step ih =>
      obtain ⟨⟨own', before⟩, later⟩ := ih
      obtain ⟨own'', after, -, same | ⟨_, _, _, kept⟩⟩ := before.step each step
      · rw [same]
        exact ⟨⟨own'', after⟩, later⟩
      · exact ⟨⟨own'', after⟩, d.later_trans later kept.1.2.1⟩

end Roles

/-- Nothing is asked but the discipline. -/
def Discipline.roles (d : Discipline) : Roles d where
  moves _ _ _ _ := True
  post _ _ _ := True
  outlasts _ _ := trivial

theorem Discipline.terms_roles (d : Discipline) (r : GuestRequest) : d.roles.terms r = d.terms := by
  simp only [Roles.terms, roles, and_true]

/-- When every operation does its part, what holds before the first of them holds at every
moment, and the platform only changes as it may. -/
theorem Discipline.keeps (d : Discipline) {options : GatewayOptions} {faults : Faults}
    {c : Traffic} {w : Platform} (each : ∀ (r : GuestRequest) (w : Platform), d.holds w →
      (r.operation options).Ensures (d.terms.demand faults) (fun _ _ => True) ⟨w, [], []⟩)
    (initially : d.holds w) (reached : Traffic.Reaches options faults (.quiet w) c) :
    d.holds c.platform ∧
      ∀ c', Traffic.Reaches options faults c c' → d.later c.platform c'.platform := by
  have plays (r : GuestRequest) (w : Platform) (h : d.holds w) :
      d.roles.Plays options faults r w := by
    rw [Roles.Plays, d.terms_roles]
    exact each r w h
  obtain ⟨⟨own, there⟩, -⟩ := (Roles.Underway.quiet initially).reaches plays reached
  exact ⟨there.holds, fun c' onward => (there.reaches plays onward).2⟩

end HotelBooking
