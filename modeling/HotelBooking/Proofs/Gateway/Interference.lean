import HotelBooking.Proofs.Gateway.Ensures

/-!
# Programs among others

What a program ensures when others may come between its calls. `Terms` say what the others
may do to the platform between two steps of a program and what each of its own steps must
keep to. Both may depend on the identifiers drawn for the program: a row that is stored
under one of them is its own until it hands it over.

A program that nothing interrupts is the case in which the others do nothing and every
step is in order. `ensures_step` carries what is ensured over one step, on any terms, and
`ensures_completes` over a whole run of a program alone.
-/

namespace HotelBooking

variable {α : Type}

/-- What a program has before it: the platform, the lines it has written and the
identifiers drawn for it. -/
structure Moment where
  platform : Platform
  log : List LogLine
  own : List Uid

namespace Moment

abbrev stores (s : Moment) : Stores := s.platform.stores

/-- The moment after one identifier was drawn and the stores came to be these. -/
def past (s : Moment) (fresh : Uid) (stores : Stores) : Moment :=
  ⟨⟨stores, fresh :: s.platform.used⟩, s.log, fresh :: s.own⟩

/-- Steps that write nothing lead from one moment to another. -/
structure Leads (s s' : Moment) : Prop where
  used : ∀ uid ∈ s.platform.used, uid ∈ s'.platform.used
  log : s'.log = s.log

theorem leads_past (s : Moment) (fresh : Uid) (stores : Stores) : s.Leads (s.past fresh stores) :=
  ⟨fun _ member => List.mem_cons_of_mem _ member, rfl⟩

/-- What was taken before the first moment is taken after the second. -/
theorem Leads.keeps {s s' : Moment} (leads : s.Leads s') {used : List Uid}
    (kept : ∀ uid ∈ used, uid ∈ s.platform.used) : ∀ uid ∈ used, uid ∈ s'.platform.used := by
  intro uid member
  exact leads.used uid (kept uid member)

theorem Leads.trans {s s' s'' : Moment} (first : s.Leads s') (second : s'.Leads s'') :
    s.Leads s'' where
  used := second.keeps first.used
  log := second.log.trans first.log

end Moment

structure Terms where
  /-- What others may do to the platform between two steps. -/
  rely : List Uid → Platform → Platform → Prop
  /-- What a step may do to it. -/
  guarantee : List Uid → Platform → Platform → Prop
  rely_trans : ∀ {own : List Uid} {w w' w'' : Platform},
    rely own w w' → rely own w' w'' → rely own w w''

namespace Terms

variable (terms : Terms) (faults : Faults)

/-- What is asked of a program on these terms, whichever faults befall its calls. -/
def demand : Demand Moment where
  call c K s := ∀ w, terms.rely s.own s.platform w → ∀ fresh ∉ w.used,
    ∀ mishap : Option (Mishap c.Answer), (∀ m, mishap = some m → faults s.log c m) →
      terms.guarantee s.own w (w.answer fresh c mishap).2 ∧
        K (w.answer fresh c mishap).1 ⟨(w.answer fresh c mishap).2, s.log, fresh :: s.own⟩
  draw K s := ∀ w, terms.rely s.own s.platform w → ∀ fresh ∉ w.used,
    terms.guarantee s.own w ⟨w.stores, fresh :: w.used⟩ ∧
      K fresh ⟨⟨w.stores, fresh :: w.used⟩, s.log, fresh :: s.own⟩
  write line s := { s with log := s.log ++ [line] }
  call_mono weaker h w others fresh unused mishap permitted :=
    (h w others fresh unused mishap permitted).imp_right (weaker _ _)
  draw_mono weaker h w others fresh unused := (h w others fresh unused).imp_right (weaker _ _)

/-- Nothing comes between the steps of the program. -/
def alone : Terms where
  rely _ w w' := w' = w
  guarantee _ _ _ := True
  rely_trans := fun first second => second.trans first

end Terms

/-- No answer is made up. -/
def Faults.Honest (faults : Faults) : Prop :=
  ∀ log c m, faults log c m → m.IsFailure

variable {terms : Terms} {faults : Faults}

/-- A call that is answered by its service, or fails with or without reaching it. -/
theorem demand_call {c : Call} {K : Outcome c.Answer → Moment → Prop} {s : Moment}
    (honest : faults.Honest)
    (served : ∀ w, terms.rely s.own s.platform w → ∀ fresh ∉ w.used,
      let after : Platform := ⟨(c.served fresh w.stores).2, fresh :: w.used⟩
      terms.guarantee s.own w after ∧
        K (c.served fresh w.stores).1 ⟨after, s.log, fresh :: s.own⟩ ∧
        ∀ e, faults s.log c (.unanswered e) →
          ∀ e', K (.error e') ⟨after, s.log, fresh :: s.own⟩)
    (lost : ∀ w, terms.rely s.own s.platform w → ∀ fresh ∉ w.used,
      ∀ e, faults s.log c (.lost e) →
        terms.guarantee s.own w ⟨w.stores, fresh :: w.used⟩ ∧
          K (.error e) ⟨⟨w.stores, fresh :: w.used⟩, s.log, fresh :: s.own⟩) :
    (terms.demand faults).call c K s := by
  intro w others fresh unused mishap permitted
  obtain ⟨kept, answered, failed⟩ := served w others fresh unused
  cases mishap with
  | none =>
      rw [Platform.answer_none]
      exact ⟨kept, answered⟩
  | some m =>
      rcases honest _ _ _ (permitted m rfl) with ⟨e, rfl⟩ | ⟨e, rfl⟩
      · rw [Platform.answer_lost]
        exact lost w others fresh unused e (permitted _ rfl)
      · obtain ⟨e', answer⟩ := @Platform.answer_unanswered w fresh c e
        rw [answer]
        exact ⟨kept, failed e (permitted _ rfl) e'⟩

/-- The same for a program that nothing interrupts. -/
theorem alone_call {c : Call} {K : Outcome c.Answer → Moment → Prop} {s : Moment}
    (honest : faults.Honest)
    (served : ∀ fresh ∉ s.platform.used,
      K (c.served fresh s.stores).1 (s.past fresh (c.served fresh s.stores).2))
    (lost : ∀ fresh ∉ s.platform.used, ∀ e, faults s.log c (.lost e) →
      K (.error e) (s.past fresh s.stores))
    (unanswered : ∀ fresh ∉ s.platform.used, ∀ e, faults s.log c (.unanswered e) →
      ∀ e', K (.error e') (s.past fresh (c.served fresh s.stores).2)) :
    (Terms.alone.demand faults).call c K s := by
  apply demand_call honest
  · rintro w rfl fresh unused
    exact ⟨trivial, served fresh unused, unanswered fresh unused⟩
  · rintro w rfl fresh unused e permitted
    exact ⟨trivial, lost fresh unused e permitted⟩

theorem alone_draw {K : Uid → Moment → Prop} {s : Moment}
    (next : ∀ fresh ∉ s.platform.used, ∀ s', s.Leads s' → fresh ∈ s'.platform.used →
      s'.stores = s.stores → K fresh s') :
    (Terms.alone.demand faults).draw K s := by
  rintro w rfl fresh unused
  exact ⟨trivial, next fresh unused (s.past fresh s.stores) (s.leads_past fresh s.stores)
    List.mem_cons_self rfl⟩

/-- A call of a program alone that its service carries out, if the call gets there. -/
theorem alone_effect {c : Call} {a : Uid → c.Answer} {stores : Uid → Stores}
    {K : Outcome c.Answer → Moment → Prop} {s : Moment} (honest : faults.Honest)
    (effect : ∀ fresh ∉ s.platform.used, c.served fresh s.stores = (.ok (a fresh), stores fresh))
    (done : ∀ fresh ∉ s.platform.used, ∀ s', s.Leads s' → fresh ∈ s'.platform.used →
      s'.stores = stores fresh → K (.ok (a fresh)) s')
    (lost : ∀ e, faults s.log c (.lost e) → ∀ s', s.Leads s' → s'.stores = s.stores →
      K (.error e) s')
    (unanswered : ∀ e, faults s.log c (.unanswered e) → ∀ fresh ∉ s.platform.used,
      ∀ s', s.Leads s' → fresh ∈ s'.platform.used → s'.stores = stores fresh →
        ∀ e', K (.error e') s') :
    (Terms.alone.demand faults).call c K s := by
  apply alone_call honest
  · intro fresh unused
    rw [effect fresh unused]
    exact done fresh unused _ (s.leads_past fresh _) List.mem_cons_self rfl
  · intro fresh _ e permitted
    exact lost e permitted _ (s.leads_past fresh _) rfl
  · intro fresh unused e permitted e'
    rw [effect fresh unused]
    exact unanswered e permitted fresh unused _ (s.leads_past fresh _) List.mem_cons_self rfl e'

/-- A call of a program alone that changes nothing, whatever comes of it. An error that comes
of it is the service's own, or else the fault that befell the call. -/
theorem alone_look {c : Call} {K : Outcome c.Answer → Moment → Prop} {s : Moment}
    (honest : faults.Honest) (idle : ∀ fresh, (c.served fresh s.stores).2 = s.stores)
    (served : ∀ fresh, ∀ s', s.Leads s' → s'.stores = s.stores →
      K (c.served fresh s.stores).1 s')
    (failed : ∀ m e, faults s.log c m → (∀ e', m = .lost e' → e = e') → ∀ s', s.Leads s' →
      s'.stores = s.stores → K (.error e) s') :
    (Terms.alone.demand faults).call c K s := by
  apply alone_call honest
  · intro fresh _
    exact served fresh _ (s.leads_past fresh _) (idle fresh)
  · intro fresh _ e permitted
    refine failed _ e permitted ?_ _ (s.leads_past fresh _) rfl
    intro e' same
    cases same
    rfl
  · intro fresh _ e permitted e'
    refine failed _ e' permitted ?_ _ (s.leads_past fresh _) (idle fresh)
    intro _ impossible
    cases impossible

/-- What every call keeps, a program alone keeps. -/
theorem alone_kept {J : Stores → Prop} (honest : faults.Honest)
    (kept : ∀ (c : Call) fresh s, J s → J (c.served fresh s).2) {p : Program α} {s : Moment}
    (h : J s.stores) : p.Ensures (Terms.alone.demand faults) (fun _ s => J s.stores) s := by
  induction p generalizing s with
  | done a => exact h
  | call c next ih =>
      apply alone_call honest
      · intro fresh _
        exact ih _ (kept c fresh s.stores h)
      · intro fresh _ e _
        exact ih _ h
      · intro fresh _ e _ e'
        exact ih _ (kept c fresh s.stores h)
  | fresh next ih =>
      apply alone_draw
      intro f _ s' _ _ stores
      exact ih f (stores ▸ h)
  | log line next ih => exact ih h

/-! ## From step to step -/

/-- What a program ensures outlasts what the others do. -/
theorem ensures_after {Q : α → Moment → Prop} {p : Program α} {s : Moment} {w : Platform}
    (stable : ∀ a s w, Q a s → terms.rely s.own s.platform w → Q a { s with platform := w })
    (h : p.Ensures (terms.demand faults) Q s) (others : terms.rely s.own s.platform w) :
    p.Ensures (terms.demand faults) Q { s with platform := w } := by
  induction p generalizing s with
  | done a => exact stable a s w h others
  | call c next ih => exact fun w' more => h w' (terms.rely_trans others more)
  | fresh next ih => exact fun w' more => h w' (terms.rely_trans others more)
  | log line next ih => exact ih h others

/-- No step forgets that an identifier is taken. -/
theorem used_of_step {w w' : Platform} {t t' : Thread α} (step : Step faults (w, t) (w', t')) :
    ∀ uid ∈ w.used, uid ∈ w'.used := by
  cases step with
  | call =>
      intro u member
      exact List.mem_cons_of_mem _ member
  | draw =>
      intro u member
      exact List.mem_cons_of_mem _ member
  | write =>
      intro u member
      exact member

/-- A step keeps to the terms, and what is left of the program ensures what it did. -/
theorem ensures_step {Q : α → Moment → Prop} {w w' : Platform} {t t' : Thread α}
    {own : List Uid} (undisturbed : terms.rely own w w)
    (h : t.rest.Ensures (terms.demand faults) Q ⟨w, t.log, own⟩)
    (step : Step faults (w, t) (w', t')) :
    ∃ own', t'.rest.Ensures (terms.demand faults) Q ⟨w', t'.log, own'⟩ ∧
      (own' = own ∧ w' = w ∨ terms.guarantee own w w' ∧
        ∃ fresh ∉ w.used, fresh ∈ w'.used ∧ own' = fresh :: own) := by
  cases step with
  | call mishap unused permitted =>
      obtain ⟨kept, next⟩ := h w undisturbed _ unused mishap permitted
      exact ⟨_, next, .inr ⟨kept, _, unused, List.mem_cons_self, rfl⟩⟩
  | draw unused =>
      obtain ⟨kept, next⟩ := h w undisturbed _ unused
      exact ⟨_, next, .inr ⟨kept, _, unused, List.mem_cons_self, rfl⟩⟩
  | write => exact ⟨own, h, .inl ⟨rfl, rfl⟩⟩

/-- A run of a program alone ends in what the program ensures. -/
theorem ensures_completes {Q : α → Moment → Prop} {p : Program α} {w w' : Platform} {a : α}
    {log : List LogLine} (h : p.Ensures (Terms.alone.demand faults) Q ⟨w, [], []⟩)
    (run : Completes faults p w a log w') : ∃ own, Q a ⟨w', log, own⟩ := by
  have carried : ∀ start finish : Platform × Thread α,
      Relation.ReflTransGen (Step faults) start finish →
      (∃ own, start.2.rest.Ensures (Terms.alone.demand faults) Q ⟨start.1, start.2.log, own⟩) →
      ∃ own, finish.2.rest.Ensures (Terms.alone.demand faults) Q
        ⟨finish.1, finish.2.log, own⟩ := by
    intro start finish steps begun
    induction steps with
    | refl => exact begun
    | tail _ step ih =>
        obtain ⟨own, before⟩ := ih
        obtain ⟨own', after, -⟩ := ensures_step rfl before step
        exact ⟨own', after⟩
  exact carried _ _ run ⟨[], h⟩

/-- The same of an operation. -/
theorem Operation.ensures_completes {Q : Outcome α → Moment → Prop} {op : Operation α}
    {w w' : Platform} {o : Outcome α} {log : List LogLine}
    (h : op.Ensures (Terms.alone.demand faults) Q ⟨w, [], []⟩)
    (run : Completes faults op.run w o log w') : ∃ own, Q o ⟨w', log, own⟩ :=
  HotelBooking.ensures_completes ((Operation.ensures_run op _).mpr h) run

end HotelBooking
