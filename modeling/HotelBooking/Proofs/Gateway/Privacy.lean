import HotelBooking.Proofs.Gateway.Keeping
import HotelBooking.Proofs.Gateway.Mirrored

/-!
# Guests do not affect one another

Two runs of what one guest does, each in its own company, from stores that are alike to
that guest. However much the stores and the company differ otherwise, the guest is given
the same outcomes and leaves stores that are alike again.

Between two steps of the guest's the others leave alone what is the guest's and what was
drawn for the guest's operation. A step of the guest's is a pair of tied calls, one in
either run, and these leave the stores alike. `InStep` is what holds of the two runs at
every moment.
-/

namespace HotelBooking

variable {α β : Type} {options : GatewayOptions} {name : String}

/-! ## What one guest asks for -/

/-- The requests are this guest's, as far as they are anyone's. -/
def AllFrom (name : String) (requests : List GuestRequest) : Prop :=
  ∀ r ∈ requests, ∀ guest, r.guest? = some guest → guest = name

/-- What one of several requests names. -/
def Named (requests : List GuestRequest) (uid : Uid) : Prop :=
  ∃ r ∈ requests, r.named? = some uid

/-- What is lawful for one guest is lawful for whoever counts as that guest. -/
theorem Call.Lawful.of_guest {c : Call} {guest guest' : Option String} {own : List Uid}
    {w : Platform} (h : c.Lawful guest own w) (same : ∀ name, guest = some name →
      guest' = some name) : c.Lawful guest' own w := by
  have belongs {u : Uid} (h : w.stores.Belongs guest own u) : w.stores.Belongs guest' own u :=
    h.imp_left fun ⟨r, member, owner, refers⟩ => ⟨r, member, same _ owner, refers⟩
  cases c with
  | listHotels | getHotelById | getHotelByUid | getReservation | createPayment => trivial
  | listReservations | getLoyalty | updateLoyalty => exact same _ h
  | createReservation | updateReservation => exact h.imp_left (same _)
  | getPayment => exact belongs h
  | updatePayment => exact h.imp_left belongs

theorem lawfully_of_guest {guest guest' : Option String} {Q : α → Moment → Prop} {p : Program α}
    {s : Moment} (h : p.Ensures (lawfully guest) Q s)
    (same : ∀ name, guest = some name → guest' = some name) :
    p.Ensures (lawfully guest') Q s := by
  induction p generalizing s with
  | done a => exact h
  | call c next ih =>
      refine ⟨h.1.of_guest same, ?_⟩
      exact (unbound.demand Failing).call_mono (fun o s => ih o) h.2
  | fresh next ih => exact (unbound.demand Failing).draw_mono (fun u s => ih u) h
  | log line next ih => exact ih h

namespace Gateway

theorem visit_lawful {requests : List GuestRequest} (from_guest : AllFrom name requests)
    (s : Moment) :
    (visit options requests).Ensures (lawfully (some name)) (fun _ _ => True) s := by
  induction requests generalizing s with
  | nil => trivial
  | cons r requests ih =>
      have here : ∀ guest, r.guest? = some guest → some name = some guest :=
        fun guest of_guest => congrArg some (from_guest r List.mem_cons_self guest of_guest).symm
      rw [visit, Program.ensures_bind]
      apply (lawfully_of_guest ((Operation.ensures_run _ _).mpr (r.lawful options s)) here).mono
      intro o s' _
      rw [Program.ensures_bind]
      apply (ih (fun r' member => from_guest r' (List.mem_cons_of_mem _ member)) s').mono
      exact fun _ _ _ => trivial

/-- Without any leeway in errors the replies are the same. -/
theorem tied_visit_eq {asks : Uid → Prop} {requests : List GuestRequest}
    (asked : ∀ uid, Named requests uid → asks uid) :
    Program.Tied (Leeway.guest asks).Ties Eq (visit options requests) (visit options requests) := by
  have tied : Program.Tied (Leeway.guest asks).Ties _ (visit options requests)
      (visit options requests) :=
    tied_visit (fun r member uid named => asked uid ⟨r, member, named⟩) fun _ _ _ _ => trivial
  apply tied.mono
  intro replies replies' fit
  rw [← List.forall₂_eq_eq_eq]
  apply fit.imp
  rintro _ _ ⟨alike⟩
  rename_i o o'
  cases o <;> cases o'
  · exact congrArg _ (congrArg Except.error alike)
  · exact alike.elim
  · exact alike.elim
  · exact congrArg _ (congrArg Except.ok alike)

end Gateway

/-! ## One run -/

/-- What others may do beside a guest for whom these identifiers were drawn. -/
structure Platform.Spares (name : String) (drawn : List Uid) (w w' : Platform) : Prop where
  lasts : w.Lasts w'
  pending : ∀ u ∈ drawn, w.stores.Unmentioned u →
    w'.stores.Unmentioned u ∧ w'.stores.payment? u = w.stores.payment? u
  untouched : w.stores.Unshared → w.stores.Untouched name w'.stores

namespace Platform

variable {drawn : List Uid} {w w' w'' : Platform}

theorem Spares.refl (w : Platform) : w.Spares name drawn w where
  lasts := .refl w
  pending _ _ before := ⟨before, rfl⟩
  untouched _ := .refl name w.stores

theorem Spares.trans (first : w.Spares name drawn w') (second : w'.Spares name drawn w'') :
    w.Spares name drawn w'' where
  lasts := first.lasts.trans second.lasts
  pending u member before := by
    obtain ⟨between, same⟩ := first.pending u member before
    obtain ⟨after, same'⟩ := second.pending u member between
    exact ⟨after, same'.trans same⟩
  untouched unshared :=
    (first.untouched unshared).trans (second.untouched (first.lasts.unshared unshared))

end Platform

/-- What belongs to the guest belonged to the guest before others did anything. -/
theorem Stores.Belongs.of_spares {drawn : List Uid} {w w' : Platform} {u : Uid}
    (spares : w.Spares name drawn w') (unshared : w.stores.Unshared)
    (h : w'.stores.Belongs (some name) drawn u) : w.stores.Belongs (some name) drawn u := by
  rcases Stores.belongs_some.mp h with ⟨r, member, refers⟩ | ⟨mine, pending⟩
  · rw [(spares.untouched unshared).reservations] at member
    exact Stores.belongs_some.mpr (.inl ⟨r, member, refers⟩)
  · refine .inr ⟨mine, fun r member => ?_⟩
    obtain ⟨i, at_i⟩ := List.getElem?_of_mem member
    obtain ⟨r', at_i', same⟩ := spares.lasts.reservations i r at_i
    have := pending r' (List.mem_of_getElem? at_i')
    rwa [same.uid, same.paymentUid] at this

/-- Stores are as alike to the guest as they were before others did anything. -/
theorem Stores.AlikeAmid.spared {drawn : List Uid} {w w' : Platform} {s : Stores}
    (h : AlikeAmid name drawn s w.stores) (unshared : w.stores.Unshared)
    (spares : w.Spares name drawn w') : AlikeAmid name drawn s w'.stores where
  hotels := spares.lasts.hotels.trans h.hotels
  reservations := by
    rw [(spares.untouched unshared).reservations]
    exact h.reservations
  payments u belongs belongs' := by
    have before := belongs'.of_spares spares unshared
    have same : w'.stores.payment? u = w.stores.payment? u := by
      rcases belongs_some.mp before with ⟨r, member, rfl⟩ | ⟨mine, pending⟩
      · exact (spares.untouched unshared).payments r member
      · exact (spares.pending u mine pending).2
    rw [same]
    exact h.payments u belongs before
  loyalty := by
    rw [(spares.untouched unshared).loyalty]
    exact h.loyalty

/-- A program of the guest's that makes lawful calls only, in company that does the same. -/
structure Visiting (name : String) (drawn : List Uid) (c : Traffic) (t : Thread α) : Prop where
  company : ∃ own, conduct.Underway Failing own c ∧ Roles.Underway.Beside own drawn c
  unshared : c.platform.stores.Unshared
  lawful : t.rest.Ensures (lawfully (some name)) (fun _ _ => True) ⟨c.platform, t.log, drawn⟩

/-- A program stays lawful while others keep to the discipline. -/
theorem lawfully_after {guest : Option String} {p : Program α} {s : Moment} {w : Platform}
    (h : p.Ensures (lawfully guest) (fun _ _ => True) s)
    (others : lasting.terms.rely s.own s.platform w) :
    p.Ensures (lawfully guest) (fun _ _ => True) { s with platform := w } := by
  induction p generalizing s with
  | done a => trivial
  | call c next ih =>
      exact ⟨h.1.onward (onward_of_relied others), fun w' more => h.2 w'
        (lasting.terms.rely_trans others more)⟩
  | fresh next ih => exact fun w' more => h w' (lasting.terms.rely_trans others more)
  | log line next ih => exact ih h others

/-! ## Turns -/

/-- What a guest is given for one step: an identifier, and the error if a call is lost. -/
structure Turn where
  fresh : Uid
  lost : Option ServiceError := none
  deriving DecidableEq

def Turn.cue (turn : Turn) : Cue := ⟨turn.fresh, fun _ => turn.lost.map .lost⟩

section Turns

variable {turn : Turn} {w w' : Platform} {log : List LogLine} {t : Thread α}

theorem follow_call {c : Call} {next : Outcome c.Answer → Program α}
    (h : Thread.follow Losing turn.cue w ⟨log, .call c next⟩ = some (w', t)) :
    turn.fresh ∉ w.used ∧ w' = (w.answer turn.fresh c (turn.lost.map .lost)).2 ∧
      t = ⟨log, next (w.answer turn.fresh c (turn.lost.map .lost)).1⟩ := by
  rw [Thread.follow] at h
  split at h
  · cases h
  · rename_i open_
    cases h
    exact ⟨fun used => open_ (.inl used), rfl, rfl⟩

theorem follow_fresh {next : Uid → Program α}
    (h : Thread.follow Losing turn.cue w ⟨log, .fresh next⟩ = some (w', t)) :
    turn.fresh ∉ w.used ∧ w' = ⟨w.stores, turn.fresh :: w.used⟩ ∧ t = ⟨log, next turn.fresh⟩ := by
  rw [Thread.follow] at h
  split at h
  · cases h
  · rename_i unused
    cases h
    exact ⟨unused, rfl, rfl⟩

theorem isLoss_of_lost {c : Call} {m : Mishap c.Answer} (given : turn.lost.map .lost = some m) :
    m.IsLoss := by
  obtain ⟨e, -, rfl⟩ := Option.map_eq_some_iff.mp given
  exact ⟨e, rfl⟩

end Turns

namespace Visiting

variable {drawn : List Uid} {c c' : Traffic} {t t' : Thread α}

theorem start {s : Stores} (unshared : s.Unshared) {requests : List GuestRequest}
    (from_guest : AllFrom name requests) :
    Visiting name [] (.quiet (.start s)) ⟨[], Gateway.visit options requests⟩ where
  company := ⟨_, .quiet (Platform.known_start s), Roles.Underway.beside_nil⟩
  unshared := unshared
  lawful := Gateway.visit_lawful from_guest _

/-- Others do something. -/
theorem meanwhile (h : Visiting name drawn c t) (reached : Traffic.Reaches options Failing c c')
    (by_others : ∀ task ∈ c'.tasks, task.request.guest? ≠ some name) :
    Visiting name drawn c' t ∧ c.platform.Spares name drawn c'.platform := by
  obtain ⟨own, underway, beside⟩ := h.company
  obtain ⟨own', underway', beside', spares⟩ := underway.seen beside (fun r w _ => plays_conduct r w)
    (L := Platform.Spares name drawn) (P := fun r => r.guest? ≠ some name)
    Platform.Spares.refl Platform.Spares.trans
    (fun other apart kept => ⟨kept.2.lasts,
      fun u member => kept.2.pending u (apart u member).1 (apart u member).2,
      fun unshared => kept.2.others unshared name other⟩) reached by_others
  refine ⟨⟨⟨own', underway', beside'⟩, spares.lasts.unshared h.unshared, ?_⟩, spares⟩
  exact lawfully_after h.lawful ⟨underway'.holds, spares.lasts, fun u member before =>
    (spares.pending u member before).1⟩

/-- The platform as the guest finds it, nothing having come between. -/
theorem undisturbed (h : Visiting name drawn c t) :
    lasting.terms.rely drawn c.platform c.platform := by
  obtain ⟨own, underway, -⟩ := h.company
  exact ⟨underway.holds, .refl _, fun _ _ before => before⟩

theorem unknown (h : Visiting name drawn c t) {fresh : Uid} (unused : fresh ∉ c.platform.used) :
    fresh ∉ c.platform.stores.uids :=
  h.undisturbed.1.unknown unused

/-- The guest does something that respects others. -/
theorem steps (h : Visiting name drawn c t) {stores : Stores} {fresh : Uid}
    (unused : fresh ∉ c.platform.used)
    (respects : c.platform.Respects (some name) drawn ⟨stores, fresh :: c.platform.used⟩)
    (lawful : t'.rest.Ensures (lawfully (some name)) (fun _ _ => True)
      ⟨⟨stores, fresh :: c.platform.used⟩, t'.log, fresh :: drawn⟩) :
    Visiting name (fresh :: drawn) ⟨⟨stores, fresh :: c.platform.used⟩, c.tasks⟩ t' := by
  obtain ⟨own, underway, beside⟩ := h.company
  have new : ∀ u ∈ fresh :: drawn, u ∈ fresh :: c.platform.used ∧
      (u ∈ drawn ∨ u ∉ c.platform.used) := by
    intro u member
    rcases List.mem_cons.mp member with rfl | old
    · exact ⟨List.mem_cons_self, .inr unused⟩
    · exact ⟨List.mem_cons_of_mem _ (beside.taken u old), .inl old⟩
  exact ⟨⟨own, underway.withstands beside respects.grants (kept_drawn _ fresh) new⟩,
    respects.lasts.unshared h.unshared, lawful⟩

/-- The guest makes a call, which may be lost. -/
theorem call {log : List LogLine} {call : Call} {next : Outcome call.Answer → Program α}
    (h : Visiting name drawn c ⟨log, .call call next⟩) {fresh : Uid}
    (unused : fresh ∉ c.platform.used) {mishap : Option (Mishap call.Answer)}
    (loss : ∀ m, mishap = some m → m.IsLoss) :
    call.Lawful (some name) drawn c.platform ∧
      c.platform.Lasts (c.platform.answer fresh call mishap).2 ∧
      Visiting name (fresh :: drawn) ⟨(c.platform.answer fresh call mishap).2, c.tasks⟩
        ⟨log, next (c.platform.answer fresh call mishap).1⟩ := by
  obtain ⟨lawful, later⟩ := h.lawful
  have failure : ∀ m, mishap = some m → m.IsFailure := fun m given => (loss m given).isFailure
  have respects := lawful.respects_answer h.undisturbed.1 unused failure
  exact ⟨lawful, respects.lasts, h.steps unused respects
    (later _ h.undisturbed fresh unused mishap failure).2⟩

/-- The guest draws an identifier. -/
theorem draw {log : List LogLine} {next : Uid → Program α}
    (h : Visiting name drawn c ⟨log, .fresh next⟩) {fresh : Uid}
    (unused : fresh ∉ c.platform.used) :
    c.platform.Lasts ⟨c.platform.stores, fresh :: c.platform.used⟩ ∧
      Visiting name (fresh :: drawn) ⟨⟨c.platform.stores, fresh :: c.platform.used⟩, c.tasks⟩
        ⟨log, next fresh⟩ := by
  have respects : c.platform.Respects (some name) drawn
      ⟨c.platform.stores, fresh :: c.platform.used⟩ := .same h.undisturbed.1 (kept_drawn _ fresh)
  exact ⟨respects.lasts, h.steps unused respects (h.lawful _ h.undisturbed fresh unused).2⟩

theorem write {log : List LogLine} {line : LogLine} {next : Program α}
    (h : Visiting name drawn c ⟨log, .log line next⟩) :
    Visiting name drawn c ⟨log ++ [line], next⟩ :=
  { h with lawful := h.lawful }

/-- Whatever the guest does next. -/
theorem follows (h : Visiting name drawn c t) {turn : Turn} {w : Platform}
    (next : t.follow Losing turn.cue c.platform = some (w, t')) :
    ∃ drawn', Visiting name drawn' ⟨w, c.tasks⟩ t' ∧ c.platform.Lasts w := by
  obtain ⟨log, rest⟩ := t
  cases rest with
  | done a => cases next
  | call call rest =>
      obtain ⟨unused, rfl, rfl⟩ := follow_call next
      obtain ⟨-, lasts, after⟩ := h.call unused fun _ => isLoss_of_lost
      exact ⟨_, after, lasts⟩
  | fresh rest =>
      obtain ⟨unused, rfl, rfl⟩ := follow_fresh next
      obtain ⟨lasts, after⟩ := h.draw unused
      exact ⟨_, after, lasts⟩
  | log line rest =>
      cases next
      exact ⟨_, h.write, .refl _⟩

/-- Nothing is lost in whatever the guest and others do. -/
theorem lasts {turns : List Turn} (h : Visiting name drawn c t)
    (amid : Amid options Failing Losing (turns.map Turn.cue) (c, t) (c', t'))
    (by_others : ∀ task ∈ c'.tasks, task.request.guest? ≠ some name) :
    c.platform.Lasts c'.platform := by
  induction turns generalizing drawn c t with
  | nil =>
      cases amid with
      | rest others => exact (h.meanwhile others by_others).2.lasts
  | cons turn turns ih =>
      cases amid with
      | step others own later =>
          have by_others' := Traffic.forall_of_prefix (P := fun r => r.guest? ≠ some name)
            later.requests by_others
          obtain ⟨between, spares⟩ := h.meanwhile others by_others'
          obtain ⟨drawn', after, grown⟩ := between.follows own
          exact spares.lasts.trans (grown.trans (ih after later))

end Visiting

/-! ## Two runs -/

/-- The value of a program that is done. -/
def Program.done? : Program α → Option α
  | done a => some a
  | _ => none

theorem Program.done?_eq_some {p : Program α} {a : α} : p.done? = some a ↔ p = .done a := by
  cases p <;> simp [done?]

/-- Tied programs of the same values are done at the same time. -/
theorem Program.Tied.done_iff {T : Tie} {p p' : Program α} (h : Tied T Eq p p') {a : α} :
    p = .done a ↔ p' = .done a := by
  cases h with
  | done same => rw [same]
  | call | fresh | log => exact ⟨nofun, nofun⟩

/-- What holds of two runs of what the guest does. -/
structure InStep (name : String) (asks : Uid → Prop) (drawn : List Uid) (c c' : Traffic)
    (t : Thread α) (t' : Thread β) (R : α → β → Prop) : Prop where
  left : Visiting name drawn c t
  right : Visiting name drawn c' t'
  alike : Stores.AlikeAmid name drawn c.platform.stores c'.platform.stores
  tied : Program.Tied (Leeway.guest asks).Ties R t.rest t'.rest

namespace InStep

variable {asks : Uid → Prop} {drawn : List Uid} {c c' c₁ c₁' : Traffic} {t u : Thread α}
  {t' u' : Thread β} {R : α → β → Prop} {w w' : Platform}

/-- Others do something in either run. -/
theorem meanwhile (h : InStep name asks drawn c c' t t' R)
    (reached : Traffic.Reaches options Failing c c₁)
    (by_others : ∀ task ∈ c₁.tasks, task.request.guest? ≠ some name)
    (reached' : Traffic.Reaches options Failing c' c₁')
    (by_others' : ∀ task ∈ c₁'.tasks, task.request.guest? ≠ some name) :
    InStep name asks drawn c₁ c₁' t t' R := by
  obtain ⟨left, spares⟩ := h.left.meanwhile reached by_others
  obtain ⟨right, spares'⟩ := h.right.meanwhile reached' by_others'
  have alike := h.alike.spared h.right.unshared spares'
  exact ⟨left, right, (alike.symm.spared h.left.unshared spares).symm, h.tied⟩

/-- The guest takes the same turn in both runs. -/
theorem follows (h : InStep name asks drawn c c' t t' R) {turn : Turn}
    (owned : c.platform.stores.Owned name asks) (owned' : c'.platform.stores.Owned name asks)
    (next : t.follow Losing turn.cue c.platform = some (w, u))
    (next' : t'.follow Losing turn.cue c'.platform = some (w', u')) :
    ∃ drawn', InStep name asks drawn' ⟨w, c.tasks⟩ ⟨w', c'.tasks⟩ u u' R := by
  obtain ⟨left, right, alike, tied⟩ := h
  obtain ⟨log, p⟩ := t
  obtain ⟨log', p'⟩ := t'
  cases tied with
  | done => cases next
  | @call call call' rest rest' K tie later =>
      obtain ⟨unused, rfl, rfl⟩ := follow_call next
      obtain ⟨unused', rfl, rfl⟩ := follow_call next'
      obtain ⟨lawful, -, after⟩ := left.call unused fun _ => isLoss_of_lost
      obtain ⟨lawful', -, after'⟩ := right.call unused' fun _ => isLoss_of_lost
      obtain ⟨outcome, alike'⟩ := tie.answered alike lawful lawful' (left.unknown unused)
        (right.unknown unused') owned owned' turn.lost
      exact ⟨_, after, after', alike', later _ _ outcome⟩
  | fresh later =>
      obtain ⟨unused, rfl, rfl⟩ := follow_fresh next
      obtain ⟨unused', rfl, rfl⟩ := follow_fresh next'
      exact ⟨_, (left.draw unused).2, (right.draw unused').2,
        alike.drawn (left.unknown unused) (right.unknown unused'), later _⟩
  | log later =>
      cases next
      cases next'
      exact ⟨_, left.write, right.write, alike, later⟩

/-- The guest takes the same turns in both runs, amid others in either. -/
theorem amid {turns : List Turn} (h : InStep name asks drawn c c' t t' R)
    (amid : Amid options Failing Losing (turns.map Turn.cue) (c, t) (c₁, u))
    (amid' : Amid options Failing Losing (turns.map Turn.cue) (c', t') (c₁', u'))
    (by_others : ∀ task ∈ c₁.tasks, task.request.guest? ≠ some name)
    (by_others' : ∀ task ∈ c₁'.tasks, task.request.guest? ≠ some name)
    (owned : c₁.platform.stores.Owned name asks) (owned' : c₁'.platform.stores.Owned name asks) :
    ∃ drawn', InStep name asks drawn' c₁ c₁' u u' R := by
  induction turns generalizing drawn c c' t t' with
  | nil =>
      cases amid with
      | rest others =>
          cases amid' with
          | rest others' => exact ⟨_, h.meanwhile others by_others others' by_others'⟩
  | cons turn turns ih =>
      cases amid with
      | step others own later =>
          cases amid' with
          | step others' own' later' =>
              have between := h.meanwhile others
                (Traffic.forall_of_prefix (P := fun r => r.guest? ≠ some name) later.requests
                  by_others) others'
                (Traffic.forall_of_prefix (P := fun r => r.guest? ≠ some name) later'.requests
                  by_others')
              have rest : Amid options Failing Losing ((turn :: turns).map Turn.cue) (_, t)
                  (c₁, u) := .step .refl own later
              have rest' : Amid options Failing Losing ((turn :: turns).map Turn.cue) (_, t')
                  (c₁', u') := .step .refl own' later'
              have lasts := between.left.lasts rest by_others
              have lasts' := between.right.lasts rest' by_others'
              obtain ⟨drawn', after⟩ := between.follows (owned.earlier lasts.toGrows)
                (owned'.earlier lasts'.toGrows) own own'
              exact ih after later later'

end InStep

/-- Everything that a guest does, twice, from stores that are alike to the guest, each time
amid others. Where the guest names no reservation but the guest's own and those that do not
exist, the guest's operations come to the same and leave stores that are alike to the guest.
At no moment of either run do others change a row of the guest's. -/
theorem guests_apart {requests : List GuestRequest} {turns : List Turn} {s s' : Stores}
    {c c' : Traffic} {t t' : Thread (List Reply)} (from_guest : AllFrom name requests)
    (alike : Stores.AlikeFor name s s') (unshared : s.Unshared) (unshared' : s'.Unshared)
    (amid : Amid options Failing Losing (turns.map Turn.cue)
      (.quiet (.start s), ⟨[], Gateway.visit options requests⟩) (c, t))
    (amid' : Amid options Failing Losing (turns.map Turn.cue)
      (.quiet (.start s'), ⟨[], Gateway.visit options requests⟩) (c', t'))
    (by_others : ∀ task ∈ c.tasks, task.request.guest? ≠ some name)
    (by_others' : ∀ task ∈ c'.tasks, task.request.guest? ≠ some name)
    (owned : c.platform.stores.Owned name (Named requests))
    (owned' : c'.platform.stores.Owned name (Named requests)) :
    (∀ replies, t.rest = .done replies ↔ t'.rest = .done replies) ∧
      Stores.AlikeFor name c.platform.stores c'.platform.stores ∧
      ∀ c₁, Traffic.Reaches options Failing c c₁ →
        (∀ task ∈ c₁.tasks, task.request.guest? ≠ some name) →
        c.platform.stores.Untouched name c₁.platform.stores := by
  have start : InStep name (Named requests) [] (.quiet (.start s)) (.quiet (.start s'))
      ⟨[], Gateway.visit options requests⟩ ⟨[], Gateway.visit options requests⟩ Eq :=
    ⟨.start unshared from_guest, .start unshared' from_guest, alike.amid,
      Gateway.tied_visit_eq fun _ named => named⟩
  obtain ⟨drawn, left, right, alike', tied⟩ :=
    start.amid amid amid' by_others by_others' owned owned'
  refine ⟨?_, alike'.alikeFor, ?_⟩
  · exact fun replies => tied.done_iff
  · intro c₁ reached by_others₁
    exact (left.meanwhile reached by_others₁).2.untouched left.unshared

/-! ## Ada with and without Bob -/

instance (requests : List GuestRequest) : Decidable (AllFrom name requests) :=
  inferInstanceAs (Decidable (∀ r ∈ requests, ∀ guest ∈ r.guest?, guest = name))

instance (requests : List GuestRequest) (s : Stores) : Decidable (s.Owned name (Named requests)) :=
  decidable_of_iff (∀ r ∈ requests, ∀ uid ∈ r.named?, ∀ row ∈ s.reservation? uid,
      row.username = name)
    ⟨fun h uid ⟨r, member, named⟩ => h r member uid named,
      fun h r member uid named => h uid ⟨r, member, named⟩⟩

/-- Ada books, has a call lost as she cancels, and looks at what she has. The second time the
stores hold a booking of Bob's, and between her calls he books once more and tries to cancel
what is hers. -/
theorem ada_beside_bob :
    let options : GatewayOptions := { compensateFailedSagas := true }
    let mine := (Uid.ofNat 4).toText
    let requests : List GuestRequest := [.book "ada" weekend, .cancel mine " ada", .guest "ada"]
    let lost : Turn := { fresh := .ofNat 9, lost := some (.internal "lost") }
    let turns : List Turn := (List.range' 1 8).map (fun n => { fresh := .ofNat n }) ++ [lost] ++
      (List.range' 10 7).map (fun n => { fresh := .ofNat n })
    let day : Date := ⟨2026, 5, 1, by decide⟩
    let bobs : Stores := ((({} : Stores).addPayment (.charge (.ofNat 202) 100)).addReservation
      (.draft (.ofNat 201) "bob" (.ofNat 202) 1 .paid day day)).saveLoyalty (.newMember "bob")
    ∃ c t c' t' replies,
      Amid options Failing Losing (turns.map Turn.cue)
        (.quiet (.start {}), ⟨[], Gateway.visit options requests⟩) (c, t) ∧
      Amid options Failing Losing (turns.map Turn.cue)
        (.quiet (.start bobs), ⟨[], Gateway.visit options requests⟩) (c', t') ∧
      c.platform.stores.reservations.map Reservation.username = ["ada"] ∧
      c'.platform.stores.reservations.map Reservation.username = ["bob", "bob", "ada"] ∧
      t.rest = .done replies ∧ t'.rest = .done replies ∧
      replies.map (fun reply => reply.outcome.toBool) = [true, false, true] ∧
      Stores.AlikeFor "ada" c.platform.stores c'.platform.stores := by
  intro options mine requests lost turns day bobs
  let steps (i count first : Nat) : List Traffic.Move := (smoothly first count).map (.advance i)
  let company : List (List Traffic.Move) :=
    [.arrive (.book "bob" weekend) :: steps 0 4 101, [], [], steps 0 2 105, [],
      .arrive (.cancel mine "bob") :: steps 1 1 107] ++ .replicate 10 []
  let check (names : List String) (c : Traffic) (t : Thread (List Reply)) : Bool :=
    decide (c.platform.stores.reservations.map Reservation.username = names) &&
      c.tasks.all (fun task => task.request.guest? ≠ some "ada") &&
      decide (c.platform.stores.Owned "ada" (Named requests)) &&
      t.rest.done?.any fun replies =>
        replies.map (fun reply => reply.outcome.toBool) = [true, false, true]
  obtain ⟨c, t, amid, checked⟩ := Amid.exists_of_accompany options Failing Losing
    ((List.replicate 16 []).zip (turns.map Turn.cue)) []
    (.quiet (.start {}), ⟨[], Gateway.visit options requests⟩) (check ["ada"]) (by decide +kernel)
  obtain ⟨c', t', amid', checked'⟩ := Amid.exists_of_accompany options Failing Losing
    (company.zip (turns.map Turn.cue)) []
    (.quiet (.start bobs), ⟨[], Gateway.visit options requests⟩) (check ["bob", "bob", "ada"])
    (by decide +kernel)
  simp only [check, Bool.and_eq_true, decide_eq_true_eq, List.all_eq_true] at checked checked'
  obtain ⟨⟨⟨names, others⟩, owned⟩, finished⟩ := checked
  obtain ⟨⟨⟨names', others'⟩, owned'⟩, -⟩ := checked'
  obtain ⟨replies, done, outcomes⟩ := (Option.any_eq_true _ _).mp finished
  change Amid options Failing Losing (turns.map Turn.cue) _ _ at amid amid'
  have alike : Stores.AlikeFor "ada" {} bobs :=
    ⟨rfl, by decide +kernel, fun _ impossible => (nomatch impossible), by decide +kernel⟩
  obtain ⟨same, alike', -⟩ := guests_apart (by decide +kernel) alike (by decide +kernel)
    (by decide +kernel) amid amid' others others' owned owned'
  have done' := Program.done?_eq_some.mp done
  exact ⟨c, t, c', t', replies, amid, amid', names, names', done', (same replies).mp done',
    of_decide_eq_true outcomes, alike'⟩

end HotelBooking
