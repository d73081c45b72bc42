import HotelBooking.Proofs.Postgres.Rows

/-!
# What is fetched

A statement that is sent moves the session on by one answer, whatever that is. What is then
fetched from the rows of the answer is what they show, in the server's order, and where one of
the rows that are read shows nothing, the storage is blamed.
-/

namespace HotelBooking.Postgres

/-! ## Fetching -/

/-- The session once a statement was sent and answered. -/
def Session.after (session : Session) (st : Statement) : Session :=
  { answers := session.answers.drop 1, sent := session.sent ++ [st] }

/-- What the server answers to the next statement: rows, or its complaint. -/
def Session.answer (session : Session) : Outcome (List Row) :=
  match session.answers.head?.getD (.rows []) with
  | .rows rows => .ok rows
  | .failure message => .error (databaseError message)

section Fetching

variable {α β : Type} {st : Statement} {read : Row → Outcome α} {convert : α → Outcome β}
  {session : Session} {rows : List Row} {row : Row}

theorem perform_execute : (execute st).perform session = (session.answer, session.after st) := by
  have step : (execute st).perform session =
      ((match session.answers.head?.getD (.rows []) with
        | .rows rows => return rows
        | .failure message => throw (databaseError message) : Action Session (List Row)).perform
        (session.after st)) := rfl
  rw [step, Session.answer]
  cases session.answers.head?.getD (.rows []) <;> rfl

theorem perform_settled_bind (o : Outcome α) (f : α → Action Session β) :
    (settled o >>= f).perform session =
      match o with
      | .ok a => (f a).perform session
      | .error e => (.error e, session) := by
  rw [Action.perform_bind]
  cases o <;> rfl

theorem perform_fetchAll :
    (fetchAll st read convert).perform session =
      (do (← (← session.answer).mapM read).mapM convert, session.after st) := by
  rw [fetchAll, Action.perform_bind, perform_execute]
  cases session.answer with
  | error e => rfl
  | ok rows =>
      refine (perform_settled_bind _ _).trans ?_
      show _ = (rows.mapM read >>= fun found => found.mapM convert, session.after st)
      cases rows.mapM read <;> rfl

theorem perform_fetchOptional :
    (fetchOptional st read convert).perform session =
      (session.answer >>= fun rows => rows.head?.mapM fun row => read row >>= convert,
        session.after st) := by
  rw [fetchOptional, Action.perform_bind, perform_execute]
  cases session.answer with
  | error e => rfl
  | ok rows =>
      cases rows with
      | nil => rfl
      | cons row rows =>
          refine (perform_settled_bind _ _).trans ?_
          show _ = (some <$> (read row >>= convert), session.after st)
          cases read row >>= convert <;> rfl

theorem perform_fetchOne :
    (fetchOne st read convert).perform session =
      (session.answer >>= fun rows =>
        match rows with
        | [] => .error noRow
        | row :: _ => read row >>= convert, session.after st) := by
  rw [fetchOne, Action.perform_bind, perform_fetchOptional]
  cases session.answer with
  | error e => rfl
  | ok rows =>
      cases rows with
      | nil => rfl
      | cons row rows =>
          have read_first : (Except.ok (row :: rows) >>= fun rows : List Row =>
              rows.head?.mapM fun row => read row >>= convert) =
              some <$> (read row >>= convert) := rfl
          show _ = (read row >>= convert, session.after st)
          rw [read_first]
          cases read row >>= convert <;> rfl

end Fetching

/-! ## What is read from an answer -/

section Answers

variable {ρ τ β : Type} {layout : Layout ρ τ} {read : Row → Outcome β} {convert : β → Outcome ρ}
  {st : Statement} {session : Session} {row : Row} {rows more : List Row} {e : ρ}

namespace Layout.Decodes

theorem fetchOne_of_shows (decodes : layout.Decodes read convert)
    (answered : session.answer = .ok (row :: more)) (shows : layout.Shows row e) :
    ((fetchOne st read convert).perform session).1 = .ok e := by
  rw [perform_fetchOne, answered]
  exact (decodes.ok_iff row e).mpr shows

theorem fetchOptional_of_shows (decodes : layout.Decodes read convert)
    (answered : session.answer = .ok (row :: more)) (shows : layout.Shows row e) :
    ((fetchOptional st read convert).perform session).1 = .ok (some e) := by
  have decoded := (decodes.ok_iff row e).mpr shows
  rw [perform_fetchOptional, answered]
  show (some <$> (read row >>= convert)) = .ok (some e)
  rw [decoded]
  rfl

/-- A row that shows nothing cannot be read. -/
theorem fetchOptional_of_unreadable (decodes : layout.Decodes read convert)
    (answered : session.answer = .ok (row :: more)) (never : ∀ e, ¬ layout.Shows row e) :
    ∃ reason, ((fetchOptional st read convert).perform session).1 = .error (.storage reason) := by
  have blames := (decodes.blames_read row).bind decodes.blames_convert
  obtain ⟨reason, failed⟩ := blames.refused fun e decoded =>
    never e ((decodes.ok_iff row e).mp decoded)
  refine ⟨reason, ?_⟩
  rw [perform_fetchOptional, answered]
  show (some <$> (read row >>= convert)) = .error (.storage reason)
  rw [failed]
  rfl

theorem mapM_eq_ok_iff (decodes : layout.Decodes read convert) {es : List ρ} :
    (rows.mapM read >>= fun found => found.mapM convert) = .ok es ↔
      List.Forall₂ layout.Shows rows es := by
  simp only [bind_eq_ok_iff, Postgres.mapM_eq_ok_iff]
  induction rows generalizing es with
  | nil =>
      constructor
      · rintro ⟨_, ⟨⟩, ⟨⟩⟩
        exact .nil
      · rintro ⟨⟩
        exact ⟨[], .nil, .nil⟩
  | cons row rows ih =>
      constructor
      · rintro ⟨_, _ | ⟨first, others⟩, _ | ⟨converted, more⟩⟩
        refine .cons ((decodes.ok_iff _ _).mp (bind_eq_ok_iff.mpr ⟨_, first, converted⟩)) ?_
        exact ih.mp ⟨_, others, more⟩
      · rintro (_ | ⟨shows, others⟩)
        obtain ⟨b, first, converted⟩ := bind_eq_ok_iff.mp ((decodes.ok_iff _ _).mpr shows)
        obtain ⟨found, others, more⟩ := ih.mpr others
        exact ⟨b :: found, .cons first others, .cons converted more⟩

theorem fetchAll_of_shows (decodes : layout.Decodes read convert) {es : List ρ}
    (answered : session.answer = .ok rows) (shows : List.Forall₂ layout.Shows rows es) :
    ((fetchAll st read convert).perform session).1 = .ok es := by
  rw [perform_fetchAll, answered]
  exact decodes.mapM_eq_ok_iff.mpr shows

theorem fetchAll_of_unreadable (decodes : layout.Decodes read convert)
    (answered : session.answer = .ok rows) (member : row ∈ rows)
    (never : ∀ e, ¬ layout.Shows row e) :
    ∃ reason, ((fetchAll st read convert).perform session).1 = .error (.storage reason) := by
  have blames : BlamesStorage (rows.mapM read >>= fun found => found.mapM convert) :=
    (BlamesStorage.mapM decodes.blames_read).bind fun _ => .mapM decodes.blames_convert
  rw [perform_fetchAll, answered]
  refine blames.refused fun es decoded => ?_
  obtain ⟨i, bound, rfl⟩ := List.getElem_of_mem member
  have shows := decodes.mapM_eq_ok_iff.mp decoded
  exact never _ (shows.get bound (shows.length_eq ▸ bound))

end Layout.Decodes

end Answers

end HotelBooking.Postgres
