import HotelBooking.Proofs.Gateway.Traffic

/-!
# A program in company

One program that is carried out amid the operations of others. Its own steps follow cues,
and between two of them the others may take any number of theirs. The program may be
anything, be it a single operation whose calls never fail or everything that a guest does
in a day.

Where the others keep to a discipline, the program finds them within its terms, as long as
nothing was drawn for it and for one of them both.
-/

namespace HotelBooking

variable {α : Type} {options : GatewayOptions} {theirs : Faults}

namespace Traffic

variable {c c' : Traffic}

theorem used_of_step (step : Step options theirs c c') :
    ∀ u ∈ c.platform.used, u ∈ c'.platform.used := by
  cases step with
  | arrive => exact fun _ member => member
  | advance _ step => exact HotelBooking.used_of_step step

/-- No request is forgotten. -/
theorem requests_of_step (step : Step options theirs c c') :
    c.tasks.map Task.request <+: c'.tasks.map Task.request := by
  cases step with
  | @arrive w tasks r => exact ⟨[r], by simp⟩
  | @advance w w' tasks i r t t' under_way _ =>
      have same : (tasks.set i ⟨r, t'⟩).map Task.request = tasks.map Task.request := by
        apply List.ext_getElem?
        intro j
        by_cases here : j = i
        · subst here
          obtain ⟨bound, at_j⟩ := List.getElem?_eq_some_iff.mp under_way
          simp [bound, at_j]
        · simp [List.getElem?_set_ne (Ne.symm here)]
      exact same ▸ List.prefix_rfl

theorem requests_of_reaches (reached : Reaches options theirs c c') :
    c.tasks.map Task.request <+: c'.tasks.map Task.request := by
  induction reached with
  | refl => exact List.prefix_rfl
  | tail _ step ih => exact ih.trans (requests_of_step step)

/-- What is so of all requests in the end was so of all at first. -/
theorem forall_of_prefix {P : GuestRequest → Prop}
    (kept : c.tasks.map Task.request <+: c'.tasks.map Task.request)
    (h : ∀ task ∈ c'.tasks, P task.request) : ∀ task ∈ c.tasks, P task.request := by
  intro task member
  obtain ⟨task', member', same⟩ := List.mem_map.mp (kept.subset (List.mem_map_of_mem member))
  exact same ▸ h task' member'

end Traffic

/-- From where a program is amid others to where it is after the steps that were cued. -/
inductive Amid (options : GatewayOptions) (theirs mine : Faults)
    [∀ log (c : Call) (m : Mishap c.Answer), Decidable (mine log c m)] :
    List Cue → Traffic × Thread α → Traffic × Thread α → Prop
  | rest {c c' : Traffic} {t : Thread α} (others : Traffic.Reaches options theirs c c') :
      Amid options theirs mine [] (c, t) (c', t)
  | step {cue : Cue} {cues : List Cue} {c c' : Traffic} {w : Platform} {t t' : Thread α}
      {finish : Traffic × Thread α} (others : Traffic.Reaches options theirs c c')
      (own : t.follow mine cue c'.platform = some (w, t'))
      (later : Amid options theirs mine cues (⟨w, c'.tasks⟩, t') finish) :
      Amid options theirs mine (cue :: cues) (c, t) finish

namespace Amid

variable {mine : Faults} [∀ log (c : Call) (m : Mishap c.Answer), Decidable (mine log c m)]
  {cues : List Cue} {start finish : Traffic × Thread α}

theorem requests (amid : Amid options theirs mine cues start finish) :
    start.1.tasks.map Task.request <+: finish.1.tasks.map Task.request := by
  induction amid with
  | rest others => exact Traffic.requests_of_reaches others
  | step others _ _ ih => exact (Traffic.requests_of_reaches others).trans ih

end Amid

section Rehearsal

variable (options) (theirs) (mine : Faults)
  [∀ log (c : Call) (m : Mishap c.Answer), Decidable (theirs log c m)]
  [∀ log (c : Call) (m : Mishap c.Answer), Decidable (mine log c m)]

/-- Carry a program out on cue, with what the others are to do before each of its steps and
after the last. -/
def accompany : List (List Traffic.Move × Cue) → List Traffic.Move → Traffic × Thread α →
    Option (Traffic × Thread α)
  | [], last, (c, t) => do
    let c ← c.rehearse options theirs last
    return (c, t)
  | (moves, cue) :: later, last, (c, t) => do
    let c ← c.rehearse options theirs moves
    let (w, t) ← t.follow mine cue c.platform
    accompany later last (⟨w, c.tasks⟩, t)

variable {options} {theirs} {mine}

theorem amid_of_accompany {plan : List (List Traffic.Move × Cue)} {last : List Traffic.Move}
    {start finish : Traffic × Thread α}
    (h : accompany options theirs mine plan last start = some finish) :
    Amid options theirs mine (plan.map Prod.snd) start finish := by
  obtain ⟨c, t⟩ := start
  induction plan generalizing c t with
  | nil =>
      obtain ⟨c', others, rest⟩ := Option.bind_eq_some_iff.mp h
      cases rest
      exact .rest (Traffic.reaches_of_rehearse others)
  | cons item plan ih =>
      obtain ⟨c', others, rest⟩ := Option.bind_eq_some_iff.mp h
      obtain ⟨⟨w, t'⟩, own, later⟩ := Option.bind_eq_some_iff.mp rest
      exact .step (Traffic.reaches_of_rehearse others) own (ih _ _ later)

variable (options) (theirs) (mine)

/-- A rehearsal that passes a check is a run that passes it. -/
theorem Amid.exists_of_accompany (plan : List (List Traffic.Move × Cue))
    (last : List Traffic.Move) (start : Traffic × Thread α) (check : Traffic → Thread α → Bool)
    (passed : (accompany options theirs mine plan last start).any fun (c, t) => check c t) :
    ∃ c t, Amid options theirs mine (plan.map Prod.snd) start (c, t) ∧ check c t := by
  obtain ⟨⟨c, t⟩, h, checked⟩ := (Option.any_eq_true _ _).mp passed
  exact ⟨c, t, amid_of_accompany h, checked⟩

end Rehearsal

namespace Roles

variable {d : Discipline} {k : Roles d} {own : Nat → List Uid} {c c' : Traffic} {drawn : List Uid}

/-- Nothing was drawn both for the program and for an operation of others. -/
structure Underway.Beside (own : Nat → List Uid) (drawn : List Uid) (c : Traffic) : Prop where
  taken : ∀ u ∈ drawn, u ∈ c.platform.used
  apart : ∀ i, ∀ u ∈ own i, u ∉ drawn

/-- Nothing was drawn for a program that has not begun. -/
theorem Underway.beside_nil : Underway.Beside own [] c where
  taken _ drawn := absurd drawn List.not_mem_nil
  apart _ _ _ := List.not_mem_nil

/-- What every step of the others looks like to the program, all their steps look like. -/
theorem Underway.seen (h : k.Underway theirs own c) (beside : Underway.Beside own drawn c)
    (each : ∀ r w, d.holds w → k.Plays options theirs r w) {L : Platform → Platform → Prop}
    {P : GuestRequest → Prop} (refl : ∀ w, L w w)
    (trans : ∀ {w w' w''}, L w w' → L w' w'' → L w w'')
    (look : ∀ {r own w w'}, P r → (∀ u ∈ drawn, u ∈ w.used ∧ u ∉ own) →
      (k.terms r).guarantee own w w' → L w w')
    (reached : Traffic.Reaches options theirs c c')
    (by_others : ∀ task ∈ c'.tasks, P task.request) :
    ∃ own', k.Underway theirs own' c' ∧ Underway.Beside own' drawn c' ∧
      L c.platform c'.platform := by
  induction reached with
  | refl => exact ⟨own, h, beside, refl _⟩
  | @tail b c' _ step ih =>
      have before := Traffic.forall_of_prefix (Traffic.requests_of_step step) by_others
      obtain ⟨own₁, underway, beside₁, seen⟩ := ih before
      obtain ⟨own₂, after, new, changed⟩ := underway.step each step
      refine ⟨own₂, after, ⟨?_, ?_⟩, ?_⟩
      · exact fun u member => Traffic.used_of_step step u (beside₁.taken u member)
      · intro i u theirs mine
        rcases new i u theirs with old | unused
        · exact beside₁.apart i u old mine
        · exact unused (beside₁.taken u mine)
      · rcases changed with same | ⟨i, task, member, kept⟩
        · exact same ▸ seen
        · apply trans seen (look (by_others task member) _ kept)
          exact fun u mine => ⟨beside₁.taken u mine, fun theirs => beside₁.apart i u theirs mine⟩

/-- The program takes a step; the others bear it. -/
theorem Underway.withstands (h : k.Underway theirs own c) (beside : Underway.Beside own drawn c)
    {w : Platform} {drawn' : List Uid} (kept : d.terms.guarantee drawn c.platform w)
    (used : ∀ u ∈ c.platform.used, u ∈ w.used)
    (new : ∀ u ∈ drawn', u ∈ w.used ∧ (u ∈ drawn ∨ u ∉ c.platform.used)) :
    k.Underway theirs own ⟨w, c.tasks⟩ ∧ Underway.Beside own drawn' ⟨w, c.tasks⟩ := by
  refine ⟨⟨kept.1, ⟨?_, h.drawn.apart⟩, ?_⟩, fun u member => (new u member).1, ?_⟩
  · exact fun i u member => used u (h.drawn.taken i u member)
  · exact fun i r t under_way => h.bears (beside.apart i) kept under_way
  · intro i u theirs mine
    rcases (new u mine).2 with old | unused
    · exact beside.apart i u theirs old
    · exact unused (h.drawn.taken i u theirs)

/-- A program that does its part by itself comes amid others to what it ensures. -/
theorem Underway.ensures_amid {mine : Faults}
    [∀ log (c : Call) (m : Mishap c.Answer), Decidable (mine log c m)]
    {Q : α → Moment → Prop}
    (stable : ∀ a s w, Q a s → d.terms.rely s.own s.platform w → Q a { s with platform := w })
    (each : ∀ r w, d.holds w → k.Plays options theirs r w) {cues : List Cue}
    {start finish : Traffic × Thread α} (amid : Amid options theirs mine cues start finish)
    (h : k.Underway theirs own start.1) (beside : Underway.Beside own drawn start.1)
    (ensured : start.2.rest.Ensures (d.terms.demand mine) Q
      ⟨start.1.platform, start.2.log, drawn⟩) :
    ∃ drawn', finish.2.rest.Ensures (d.terms.demand mine) Q
      ⟨finish.1.platform, finish.2.log, drawn'⟩ := by
  let L (drawn : List Uid) (w w' : Platform) : Prop :=
    d.later w w' ∧ ∀ u ∈ drawn, d.pending u w → d.pending u w'
  have carried {own : Nat → List Uid} {drawn : List Uid} {c c' : Traffic} {t : Thread α}
      (others : Traffic.Reaches options theirs c c') (h : k.Underway theirs own c)
      (beside : Underway.Beside own drawn c)
      (ensured : t.rest.Ensures (d.terms.demand mine) Q ⟨c.platform, t.log, drawn⟩) :
      ∃ own', k.Underway theirs own' c' ∧ Underway.Beside own' drawn c' ∧
        t.rest.Ensures (d.terms.demand mine) Q ⟨c'.platform, t.log, drawn⟩ := by
    obtain ⟨own', after, beside', later, pending⟩ := h.seen (L := L drawn) (P := fun _ => True)
      beside each (fun w => ⟨d.later_refl w, fun _ _ before => before⟩)
      (fun first second => ⟨d.later_trans first.1 second.1,
        fun u member before => second.2 u member (first.2 u member before)⟩)
      (fun _ apart kept => ⟨kept.1.2.1,
        fun u member => kept.1.2.2 u (apart u member).1 (apart u member).2⟩)
      others (fun _ _ => trivial)
    exact ⟨own', after, beside', ensures_after stable ensured ⟨after.holds, later, pending⟩⟩
  induction amid generalizing own drawn with
  | rest others =>
      obtain ⟨-, -, -, next⟩ := carried others h beside ensured
      exact ⟨drawn, next⟩
  | @step cue cues c c' w t t' finish others follows later ih =>
      obtain ⟨own₁, underway, beside₁, next⟩ := carried others h beside ensured
      have step := step_of_follow follows
      have undisturbed : d.terms.rely drawn c'.platform c'.platform :=
        ⟨underway.holds, d.later_refl _, fun _ _ before => before⟩
      obtain ⟨drawn', next', ⟨rfl, rfl⟩ | ⟨kept, fresh, unused, taken, rfl⟩⟩ :=
        ensures_step undisturbed next step
      · exact ih underway beside₁ next'
      · have used := HotelBooking.used_of_step step
        have new : ∀ u ∈ fresh :: drawn, u ∈ w.used ∧ (u ∈ drawn ∨ u ∉ c'.platform.used) := by
          intro u member
          rcases List.mem_cons.mp member with rfl | old
          · exact ⟨taken, .inr unused⟩
          · exact ⟨used u (beside₁.taken u old), .inl old⟩
        obtain ⟨after, beside₂⟩ := underway.withstands beside₁ kept used new
        exact ih after beside₂ next'

end Roles

end HotelBooking
