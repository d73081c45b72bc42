import HotelBooking.Proofs.Postgres.Session
import HotelBooking.Proofs.Postgres.Statement
import HotelBooking.Proofs.Store.Tables

/-!
# The tables over a database

A repository over a database writes a row by a statement and reads it back from the answer. That
these fit together is a matter of four lists: the columns of the text, its places, the parameters,
and the columns that are read. `Writes` says that they do, by what the text itself assigns, and
`Agrees` that a repository then returns what the one in memory does under the same number.
Lookups come to what the rows show.
-/

namespace HotelBooking.Postgres

open Keyed (Rules Repository View)

variable {σ ρ κ ι τ β : Type}

/-- The row has this number and holds in each column what the text of the statement assigns to
it. -/
structure Statement.Yields (st : Statement) (id : Int32) (row : Row) : Prop where
  numbered : row.lookup "id" = some (.int id.toInt)
  assigned : ∀ c ∈ st.assigned, row.lookup c.1 = c.2

/-- The action sends one statement, which some row can hold, and comes to a value by the number of
the one row that the server answers with. -/
structure Writes {α : Type} (action : Action Session α) (value : Int32 → α) (st : Statement) :
    Prop where
  sends : ∀ session, (action.perform session).2 = session.after st
  yields : ∀ id, ∃ row, st.Yields id row
  returns : ∀ session id row, session.answer = .ok [row] → st.Yields id row →
    (action.perform session).1 = .ok (value id)

section Writing

variable {layout : Layout ρ τ} {read : Row → Outcome β} {convert : β → Outcome ρ} {st : Statement}
  {values : Row} {value : Int32 → ρ} {id : Int32} {row : Row}

/-- The text of a statement assigns just these values, to different columns. -/
structure Statement.Assigns (st : Statement) (values : Row) : Prop where
  mem_iff : ∀ c, c ∈ st.assigned ↔ c ∈ values.map fun v => (v.1, some v.2)
  columns : ("id" :: values.map Prod.fst).Nodup

namespace Statement.Assigns

theorem yields_cons (assigns : st.Assigns values) (id : Int32) :
    st.Yields id (("id", .int id.toInt) :: values) where
  numbered := List.lookup_cons_self
  assigned c member := by
    have unique : ((("id", .int id.toInt) :: values : Row).map Prod.fst).Nodup := assigns.columns
    obtain ⟨v, assigned, rfl⟩ := List.mem_map.mp ((assigns.mem_iff c).mp member)
    exact Table.lookup_of_nodup unique (List.mem_cons_of_mem _ assigned)

theorem lookup (assigns : st.Assigns values) (yields : st.Yields id row) :
    ∀ v ∈ values, row.lookup v.1 = some v.2 := by
  intro v member
  exact yields.assigned _ ((assigns.mem_iff _).mpr (List.mem_map_of_mem member))

theorem writes_fetchOne (assigns : st.Assigns values) (decodes : layout.Decodes read convert)
    (shows : ∀ id row, row.lookup "id" = some (.int id.toInt) →
      (∀ v ∈ values, row.lookup v.1 = some v.2) → layout.Shows row (value id)) :
    Writes (fetchOne st read convert) value st where
  sends _ := by rw [perform_fetchOne]
  yields id := ⟨_, assigns.yields_cons id⟩
  returns _ id row answered yields :=
    decodes.fetchOne_of_shows answered (shows id row yields.numbered (assigns.lookup yields))

theorem writes_fetchOptional (assigns : st.Assigns values) (decodes : layout.Decodes read convert)
    (shows : ∀ id row, row.lookup "id" = some (.int id.toInt) →
      (∀ v ∈ values, row.lookup v.1 = some v.2) → layout.Shows row (value id)) :
    Writes (fetchOptional st read convert) (fun id => some (value id)) st where
  sends _ := by rw [perform_fetchOptional]
  yields id := ⟨_, assigns.yields_cons id⟩
  returns _ id row answered yields :=
    decodes.fetchOptional_of_shows answered (shows id row yields.numbered (assigns.lookup yields))

end Statement.Assigns

/-- The names of a table, of its key and of its columns are plain, and no column comes twice. -/
structure Statement.Plain (table : String) (key : String × Value) (values : Row)
    (returning : List String) : Prop where
  names : ∀ s ∈ table :: key.1 :: (values.map Prod.fst ++ returning), isName s
  columns : ("id" :: key.1 :: values.map Prod.fst).Nodup

namespace Statement.Plain

variable {table : String} {key : String × Value} {returning : List String}

theorem insert_assigns (plain : Plain table key values returning) :
    (insert table (key :: values) returning).Assigns (key :: values) where
  mem_iff c := by
    have names : ∀ s ∈ (insert table (key :: values) returning).names, isName s := plain.names
    rw [assigned_insert names]
  columns := plain.columns

theorem update_assigns (plain : Plain table key values returning) :
    (update table key values returning).Assigns (key :: values) where
  mem_iff c := by
    have names : ∀ s ∈ (update table key values returning).names, isName s := plain.names
    rw [assigned_update names, List.map_append, List.mem_append, List.map_singleton,
      List.mem_singleton, List.map_cons, List.mem_cons, or_comm]
  columns := plain.columns

end Statement.Plain

end Writing

/-! ## Reading -/

namespace Layout

/-- The status in the row is a text that stands for none. -/
def Unknown (layout : Layout ρ τ) (row : Row) : Prop :=
  ∃ text, row.lookup "status" = some (.text text) ∧ ∀ status, text ≠ layout.word status

/-- A lookup by key finds what the row shows. -/
structure Finds (layout : Layout ρ τ) (find : κ → Action Session (Option ρ)) : Prop where
  missing : ∀ key session, session.answer = .ok [] → ((find key).perform session).1 = .ok none
  shown : ∀ key session row more e, session.answer = .ok (row :: more) → layout.Shows row e →
    ((find key).perform session).1 = .ok (some e)
  unknown : ∀ key session row more, session.answer = .ok (row :: more) → layout.Unknown row →
    ∃ reason, ((find key).perform session).1 = .error (.storage reason)
  /-- The same of a row that shows nothing for whatever reason. -/
  unreadable : ∀ key session row more, session.answer = .ok (row :: more) →
    (∀ e, ¬ layout.Shows row e) →
    ∃ reason, ((find key).perform session).1 = .error (.storage reason)

/-- A search comes to what all rows show, in the server's order. -/
structure Lists (layout : Layout ρ τ) (search : ι → Action Session (List ρ)) : Prop where
  shown : ∀ what session rows es, session.answer = .ok rows →
    List.Forall₂ layout.Shows rows es → ((search what).perform session).1 = .ok es
  unknown : ∀ what session rows row, session.answer = .ok rows → row ∈ rows →
    layout.Unknown row → ∃ reason, ((search what).perform session).1 = .error (.storage reason)
  unreadable : ∀ what session rows row, session.answer = .ok rows → row ∈ rows →
    (∀ e, ¬ layout.Shows row e) →
    ∃ reason, ((search what).perform session).1 = .error (.storage reason)

section Reading

variable {layout : Layout ρ τ} {read : Row → Outcome β} {convert : β → Outcome ρ}

theorem not_shows_of_unknown
    (told : ∀ e, ∃ status, ("status", .text (layout.word status)) ∈ layout.cells e)
    {row : Row} (unknown : layout.Unknown row) (e : ρ) : ¬ layout.Shows row e := by
  obtain ⟨text, there, none⟩ := unknown
  obtain ⟨status, cell⟩ := told e
  intro shows
  have same := there.symm.trans (shows.1 _ cell)
  simp only [Option.some.injEq, Value.text.injEq] at same
  exact none status same

theorem Decodes.finds (decodes : layout.Decodes read convert)
    (told : ∀ e, ∃ status, ("status", .text (layout.word status)) ∈ layout.cells e)
    (select : κ → Statement) :
    layout.Finds fun key => fetchOptional (select key) read convert where
  missing _ _ answered := by
    rw [perform_fetchOptional, answered]
    rfl
  shown _ _ _ _ _ := decodes.fetchOptional_of_shows
  unknown _ _ _ _ answered unknown :=
    decodes.fetchOptional_of_unreadable answered (not_shows_of_unknown told unknown)
  unreadable _ _ _ _ := decodes.fetchOptional_of_unreadable

theorem Decodes.lists (decodes : layout.Decodes read convert)
    (told : ∀ e, ∃ status, ("status", .text (layout.word status)) ∈ layout.cells e)
    (select : ι → Statement) : layout.Lists fun what => fetchAll (select what) read convert where
  shown _ _ _ _ := decodes.fetchAll_of_shows
  unknown _ _ _ _ answered member unknown :=
    decodes.fetchAll_of_unreadable answered member (not_shows_of_unknown told unknown)
  unreadable _ _ _ _ := decodes.fetchAll_of_unreadable

end Reading

/-- The texts of the statements that write a table. -/
structure Texts where
  insert : String
  update : String

/-- A repository over the database returns what the one in memory does, where the server does
what these texts say, and reads what the rows show. -/
structure Agrees (layout : Layout ρ τ) (texts : Texts) (rules : Rules ρ κ ι)
    (repo : Repository Session ρ κ ι) (memory : Repository σ ρ κ ι) : Prop where
  insert : ∀ e, ∃ st, st.sql = texts.insert ∧ Writes (repo.insert e) (rules.numbered e) st
  inserted : ∀ e s stored, ((memory.insert e).perform s).1 = .ok stored →
    stored = rules.numbered e (rules.id stored)
  update : ∀ e, ∃ st, st.sql = texts.update ∧
    Writes (repo.update e) (fun id => some (rules.numbered e id)) st
  updated : ∀ e s stored, ((memory.update e).perform s).1 = .ok (some stored) →
    stored = rules.numbered e (rules.id stored)
  find : layout.Finds repo.find
  search : layout.Lists repo.search

end Layout

section InMemory

variable [DecidableEq κ] {rules : Rules ρ κ ι} {repo : Repository σ ρ κ ι} {view : View σ ρ}
  {e stored : ρ} {s : σ}

theorem inserted_of_implements (implements : repo.Implements rules view)
    (done : ((repo.insert e).perform s).1 = .ok stored) :
    stored = rules.numbered e (rules.id stored) := by
  obtain ⟨clash, performed⟩ := implements.insert e
  rw [performed] at done
  split at done
  · cases done
  · cases done
    rw [rules.id_numbered]

theorem updated_of_implements (implements : repo.Implements rules view)
    (replaces : ∀ stored sent, rules.key stored = rules.key sent →
      rules.revised stored sent = rules.numbered sent (rules.id stored))
    (done : ((repo.update e).perform s).1 = .ok (some stored)) :
    stored = rules.numbered e (rules.id stored) := by
  rw [implements.update] at done
  obtain ⟨old, found, rfl⟩ := Option.map_eq_some_iff.mp (Except.ok.inj done)
  rw [rules.id_revised]
  exact replaces old e (Table.key_of_find? found)

end InMemory

/-! ## The three tables -/

def reservationTexts : Layout.Texts where
  insert := "INSERT INTO reservation (reservation_uid, username, payment_uid, hotel_id, status, " ++
    "start_date, end_date) VALUES ($1, $2, $3, $4, $5, $6, $7) RETURNING id, reservation_uid, " ++
    "username, payment_uid, hotel_id, status, start_date, end_date"
  update := "UPDATE reservation SET username = $2, payment_uid = $3, hotel_id = $4, " ++
    "status = $5, start_date = $6, end_date = $7 WHERE reservation_uid = $1 RETURNING id, " ++
    "reservation_uid, username, payment_uid, hotel_id, status, start_date, end_date"

def paymentTexts : Layout.Texts where
  insert := "INSERT INTO payment (payment_uid, status, price) VALUES ($1, $2, $3) " ++
    "RETURNING id, payment_uid, status, price"
  update := "UPDATE payment SET status = $2, price = $3 WHERE payment_uid = $1 " ++
    "RETURNING id, payment_uid, status, price"

def loyaltyTexts : Layout.Texts where
  insert := "INSERT INTO loyalty (username, reservation_count, status, discount) " ++
    "VALUES ($1, $2, $3, $4) RETURNING id, username, reservation_count, status, discount"
  update := "UPDATE loyalty SET reservation_count = $2, status = $3, discount = $4 " ++
    "WHERE username = $1 RETURNING id, username, reservation_count, status, discount"

/-! A text has the names of columns and not the values, so those of any entity will do. -/

theorem reservation_texts (r : Reservation) :
    (Statement.insert "reservation" (reservationKey r.uid :: reservationValues r)
        reservationColumns).sql = reservationTexts.insert ∧
      (Statement.update "reservation" (reservationKey r.uid) (reservationValues r)
        reservationColumns).sql = reservationTexts.update := by
  show (Statement.insert "reservation" (reservationKey default :: reservationValues default)
        reservationColumns).sql = _ ∧
      (Statement.update "reservation" (reservationKey default) (reservationValues default)
        reservationColumns).sql = _
  decide +kernel

theorem payment_texts (p : Payment) :
    (Statement.insert "payment" (paymentKey p.uid :: paymentValues p) paymentColumns).sql =
        paymentTexts.insert ∧
      (Statement.update "payment" (paymentKey p.uid) (paymentValues p) paymentColumns).sql =
        paymentTexts.update := by
  show (Statement.insert "payment" (paymentKey default :: paymentValues default)
        paymentColumns).sql = _ ∧
      (Statement.update "payment" (paymentKey default) (paymentValues default)
        paymentColumns).sql = _
  decide +kernel

theorem loyalty_texts (l : Loyalty) :
    (Statement.insert "loyalty" (loyaltyKey l.username :: loyaltyValues l) loyaltyColumns).sql =
        loyaltyTexts.insert ∧
      (Statement.update "loyalty" (loyaltyKey l.username) (loyaltyValues l) loyaltyColumns).sql =
        loyaltyTexts.update := by
  show (Statement.insert "loyalty" (loyaltyKey default :: loyaltyValues default)
        loyaltyColumns).sql = _ ∧
      (Statement.update "loyalty" (loyaltyKey default) (loyaltyValues default)
        loyaltyColumns).sql = _
  decide +kernel

theorem reservation_plain (r : Reservation) :
    Statement.Plain "reservation" (reservationKey r.uid) (reservationValues r)
      reservationColumns where
  names := by
    show ∀ s ∈ "reservation" :: (reservationKey default).1 ::
      ((reservationValues default).map Prod.fst ++ reservationColumns), isName s
    decide
  columns := of_decide_eq_true rfl

theorem payment_plain (p : Payment) :
    Statement.Plain "payment" (paymentKey p.uid) (paymentValues p) paymentColumns where
  names := by
    show ∀ s ∈ "payment" :: (paymentKey default).1 ::
      ((paymentValues default).map Prod.fst ++ paymentColumns), isName s
    decide
  columns := of_decide_eq_true rfl

theorem loyalty_plain (l : Loyalty) :
    Statement.Plain "loyalty" (loyaltyKey l.username) (loyaltyValues l) loyaltyColumns where
  names := by
    show ∀ s ∈ "loyalty" :: (loyaltyKey default).1 ::
      ((loyaltyValues default).map Prod.fst ++ loyaltyColumns), isName s
    decide
  columns := of_decide_eq_true rfl

section Shown

variable {id : Int32} {row : Row} (numbered : row.lookup "id" = some (.int id.toInt))

include numbered

theorem shows_reservation {r : Reservation}
    (values : ∀ v ∈ reservationKey r.uid :: reservationValues r, row.lookup v.1 = some v.2) :
    reservationLayout.Shows row { r with id } := by
  simp only [reservationKey, reservationValues, List.forall_mem_cons] at values
  obtain ⟨uid, name, payment, hotel, status, first, last, -⟩ := values
  simp [Layout.Shows, reservationLayout, numbered, uid, name, payment, hotel, status, first, last]

theorem shows_payment {p : Payment}
    (values : ∀ v ∈ paymentKey p.uid :: paymentValues p, row.lookup v.1 = some v.2) :
    paymentLayout.Shows row { p with id } := by
  simp only [paymentKey, paymentValues, List.forall_mem_cons] at values
  obtain ⟨uid, status, price, -⟩ := values
  simp [Layout.Shows, paymentLayout, numbered, uid, status, price]

theorem shows_loyalty {l : Loyalty}
    (values : ∀ v ∈ loyaltyKey l.username :: loyaltyValues l, row.lookup v.1 = some v.2) :
    loyaltyLayout.Shows row { l with id } := by
  simp only [loyaltyKey, loyaltyValues, List.forall_mem_cons] at values
  obtain ⟨name, count, status, discount, -⟩ := values
  simp [Layout.Shows, loyaltyLayout, numbered, name, count, status, discount]

end Shown

theorem reservations_agree : reservationLayout.Agrees reservationTexts Reservation.rules
    reservations.keyed Memory.reservations.keyed where
  insert r := ⟨_, (reservation_texts r).1,
    (reservation_plain r).insert_assigns.writes_fetchOne reservation_decodes
      fun _ _ numbered => shows_reservation numbered⟩
  inserted _ _ _ := inserted_of_implements Memory.reservations_implements
  update r := ⟨_, (reservation_texts r).2,
    (reservation_plain r).update_assigns.writes_fetchOptional reservation_decodes
      fun _ _ numbered => shows_reservation numbered⟩
  updated _ _ _ := updated_of_implements Memory.reservations_implements fun _ _ _ => rfl
  find := reservation_decodes.finds (fun r => ⟨r.status, by simp [reservationLayout]⟩) _
  search := reservation_decodes.lists (fun r => ⟨r.status, by simp [reservationLayout]⟩) _

theorem payments_agree : paymentLayout.Agrees paymentTexts Payment.rules payments.keyed
    Memory.payments.keyed where
  insert p := ⟨_, (payment_texts p).1,
    (payment_plain p).insert_assigns.writes_fetchOne payment_decodes
      fun _ _ numbered => shows_payment numbered⟩
  inserted _ _ _ := inserted_of_implements Memory.payments_implements
  update p := ⟨_, (payment_texts p).2,
    (payment_plain p).update_assigns.writes_fetchOptional payment_decodes
      fun _ _ numbered => shows_payment numbered⟩
  updated _ _ _ := updated_of_implements Memory.payments_implements fun stored sent same => by
    have uid : stored.uid = sent.uid := same
    simp [Payment.rules, uid]
  find := payment_decodes.finds (fun p => ⟨p.status, by simp [paymentLayout]⟩) _
  search := ⟨nofun, nofun, nofun⟩

theorem loyalty_agrees : loyaltyLayout.Agrees loyaltyTexts Loyalty.rules loyalty.keyed
    Memory.loyalty.keyed where
  insert l := ⟨_, (loyalty_texts l).1,
    (loyalty_plain l).insert_assigns.writes_fetchOne loyalty_decodes
      fun _ _ numbered => shows_loyalty numbered⟩
  inserted _ _ _ := inserted_of_implements Memory.loyalty_implements
  update l := ⟨_, (loyalty_texts l).2,
    (loyalty_plain l).update_assigns.writes_fetchOptional loyalty_decodes
      fun _ _ numbered => shows_loyalty numbered⟩
  updated _ _ _ := updated_of_implements Memory.loyalty_implements fun stored sent same => by
    have name : stored.username = sent.username := same
    simp [Loyalty.rules, name]
  find := loyalty_decodes.finds (fun l => ⟨l.status, by simp [loyaltyLayout]⟩) _
  search := ⟨nofun, nofun, nofun⟩

/-- Over a database and in memory, the three tables come to the same where the server does what
the statements say. -/
theorem tables_agree :
    reservationLayout.Agrees reservationTexts Reservation.rules reservations.keyed
        Memory.reservations.keyed ∧
      paymentLayout.Agrees paymentTexts Payment.rules payments.keyed Memory.payments.keyed ∧
      loyaltyLayout.Agrees loyaltyTexts Loyalty.rules loyalty.keyed Memory.loyalty.keyed :=
  ⟨reservations_agree, payments_agree, loyalty_agrees⟩

end HotelBooking.Postgres
