import HotelBooking.Postgres.Tables
import HotelBooking.Proofs.Text.Width
import Mathlib.Data.List.Forall2

/-!
# What rows are read as

A `Layout` says which columns hold what of an entity. A row `Shows` an entity when its columns
hold what the layout says, where a null may stand for 0 in some of them; everything that the
tables read from a row is decided by that. A row that shows nothing, such as one whose status is
no known word, cannot be read, and only the storage is ever blamed for it.
-/

namespace HotelBooking.Postgres

section Outcomes

variable {α β : Type} {o : Outcome α} {f : α → Outcome β}

theorem bind_eq_ok_iff {b : β} : (o >>= f) = .ok b ↔ ∃ a, o = .ok a ∧ f a = .ok b := by
  cases o with
  | error e => exact ⟨nofun, fun ⟨_, failed, _⟩ => nomatch failed⟩
  | ok a => exact ⟨fun h => ⟨a, rfl, h⟩, fun ⟨_, same, h⟩ => Except.ok.inj same ▸ h⟩

/-- Only the storage is blamed for a failure. -/
def BlamesStorage (o : Outcome α) : Prop :=
  ∀ e, o = .error e → ∃ reason, e = .storage reason

theorem BlamesStorage.ok (a : α) : BlamesStorage (.ok a) :=
  nofun

theorem BlamesStorage.error (reason : String) :
    BlamesStorage (.error (.storage reason) : Outcome α) :=
  fun _ same => ⟨reason, (Except.error.inj same).symm⟩

/-- What never comes to a value fails, and the storage is blamed. -/
theorem BlamesStorage.refused (blames : BlamesStorage o) (never : ∀ a, o ≠ .ok a) :
    ∃ reason, o = .error (.storage reason) := by
  cases o with
  | error e =>
      obtain ⟨reason, rfl⟩ := blames e rfl
      exact ⟨reason, rfl⟩
  | ok a => exact absurd rfl (never a)

theorem BlamesStorage.bind (first : BlamesStorage o) (next : ∀ a, BlamesStorage (f a)) :
    BlamesStorage (o >>= f) := by
  cases o with
  | error e => exact fun _ same => Except.error.inj same ▸ first e rfl
  | ok a => exact next a

theorem mapM_eq_ok_iff {as : List α} {bs : List β} :
    as.mapM f = .ok bs ↔ List.Forall₂ (fun a b => f a = .ok b) as bs := by
  induction as generalizing bs with
  | nil => simp [pure, Except.pure, eq_comm]
  | cons a as ih =>
      simp only [List.mapM_cons, bind_eq_ok_iff, ih, pure, Except.pure, Except.ok.injEq]
      constructor
      · rintro ⟨b, first, bs, others, rfl⟩
        exact .cons first others
      · rintro (_ | ⟨first, others⟩)
        exact ⟨_, first, _, others, rfl⟩

theorem BlamesStorage.mapM {as : List α} (each : ∀ a, BlamesStorage (f a)) :
    BlamesStorage (as.mapM f) := by
  induction as with
  | nil => exact .ok _
  | cons a as ih =>
      rw [List.mapM_cons]
      exact (each a).bind fun _ => ih.bind fun _ => .ok _

end Outcomes

/-! ## Columns -/

section Columns

variable {α : Type} {read : Value → Option α} {write : α → Value} {row : Row} {name : String}

/-- The values of a column that are read, and what as. -/
structure Reads (read : Value → Option α) (write : α → Value) : Prop where
  read_iff : ∀ v a, read v = some a ↔ v = write a
  write_ne : ∀ a, write a ≠ .null

theorem reads_int32 : Reads Value.int32? fun n => .int n.toInt where
  read_iff v a := by
    cases v <;> simp [Value.int32?, int32?_eq_some_iff, eq_comm]
  write_ne _ := nofun

theorem reads_text : Reads Value.text? .text where
  read_iff v a := by cases v <;> simp [Value.text?]
  write_ne _ := nofun

theorem reads_uid : Reads Value.uid? .uid where
  read_iff v a := by cases v <;> simp [Value.uid?]
  write_ne _ := nofun

theorem reads_date : Reads Value.date? .date where
  read_iff v a := by cases v <;> simp [Value.date?]
  write_ne _ := nofun

theorem Row.take_eq_ok_iff (reads : Reads read write) {label : String} {v : Value} {a : α} :
    take label read v = .ok a ↔ v = write a := by
  rw [← reads.read_iff]
  unfold take
  split
  · simpa using mt (reads.read_iff .null a).mp (reads.write_ne a).symm
  · simp [*]
  · simp [*]

theorem Row.column_eq_ok_iff (reads : Reads read write) {a : α} :
    row.column name read = .ok a ↔ row.lookup name = some (write a) := by
  rw [column]
  cases row.lookup name with
  | none => simp
  | some v => simp [take_eq_ok_iff reads]

theorem Row.nullable_eq_ok_iff (reads : Reads read write) {o : Option α} :
    row.nullable name read = .ok o ↔
      (∃ a, o = some a ∧ row.lookup name = some (write a)) ∨
        o = none ∧ row.lookup name = some .null := by
  have mapped : (row.column name read).map some = .ok o ↔
      ∃ a, o = some a ∧ row.lookup name = some (write a) := by
    simp only [← column_eq_ok_iff reads]
    cases row.column name read <;> simp [Except.map, eq_comm]
  unfold nullable
  split
  · rename_i empty
    have not_written (a : α) : some .null ≠ some (write a) :=
      fun same => reads.write_ne a (Option.some.inj same).symm
    simp [empty, not_written, eq_comm]
  · rename_i filled
    rw [mapped]
    exact ⟨.inl, fun h => h.resolve_right fun ⟨_, empty⟩ => filled empty⟩

/-- A number that may be missing is read as 0 where it is. -/
theorem Row.exists_nullable {n : Int32} :
    (∃ o, row.nullable name Value.int32? = .ok o ∧ o.getD 0 = n) ↔
      row.lookup name = some (.int n.toInt) ∨ n = 0 ∧ row.lookup name = some .null := by
  simp only [nullable_eq_ok_iff reads_int32]
  constructor
  · rintro ⟨_, ⟨a, rfl, there⟩ | ⟨rfl, empty⟩, rfl⟩
    · exact .inl there
    · exact .inr ⟨rfl, empty⟩
  · rintro (there | ⟨rfl, empty⟩)
    · exact ⟨some n, .inl ⟨n, rfl, there⟩, rfl⟩
    · exact ⟨none, .inr ⟨rfl, empty⟩, rfl⟩

theorem Row.blames_take (label : String) (v : Value) : BlamesStorage (take label read v) := by
  unfold take
  split
  · exact .error _
  · exact .ok _
  · exact .error _

theorem Row.blames_column : BlamesStorage (row.column name read) := by
  rw [column]
  split
  · exact .error _
  · exact blames_take _ _

theorem Row.blames_nullable : BlamesStorage (row.nullable name read) := by
  rw [nullable]
  split
  · exact .ok _
  · exact blames_column.bind fun a => .ok _

end Columns

/-! ## Layouts -/

/-- What of an entity stands in which column, and how a status is told. -/
structure Layout (ρ τ : Type) where
  cells : ρ → Row
  /-- Numbers of columns in which a null stands for 0. -/
  nullable : ρ → List (String × Int32)
  word : τ → String

namespace Layout

variable {ρ τ : Type}

/-- The row holds in each column what the layout says. -/
def Shows (layout : Layout ρ τ) (row : Row) (e : ρ) : Prop :=
  (∀ c ∈ layout.cells e, row.lookup c.1 = some c.2) ∧
    ∀ c ∈ layout.nullable e,
      row.lookup c.1 = some (.int c.2.toInt) ∨ c.2 = 0 ∧ row.lookup c.1 = some .null

/-- Rows are read, in two steps, as what they show. -/
structure Decodes (layout : Layout ρ τ) {β : Type} (read : Row → Outcome β)
    (convert : β → Outcome ρ) : Prop where
  ok_iff : ∀ row e, (read row >>= convert) = .ok e ↔ layout.Shows row e
  blames_read : ∀ row, BlamesStorage (read row)
  blames_convert : ∀ b, BlamesStorage (convert b)

end Layout

def reservationLayout : Layout Reservation BookingStatus where
  cells r := [("id", .int r.id.toInt), ("reservation_uid", .uid r.uid),
    ("username", .text r.username), ("payment_uid", .uid r.paymentUid),
    ("status", .text r.status.word), ("start_date", .date r.startDate),
    ("end_date", .date r.endDate)]
  nullable r := [("hotel_id", r.hotelId)]
  word := BookingStatus.word

def paymentLayout : Layout Payment BookingStatus where
  cells p := [("id", .int p.id.toInt), ("payment_uid", .uid p.uid),
    ("status", .text p.status.word), ("price", .int p.price.toInt)]
  nullable _ := []
  word := BookingStatus.word

def loyaltyLayout : Layout Loyalty Tier where
  cells l := [("id", .int l.id.toInt), ("username", .text l.username),
    ("reservation_count", .int l.reservationCount.toInt), ("status", .text l.status.word),
    ("discount", .int l.discount.toInt)]
  nullable _ := []
  word := Tier.word

section Decoding

variable {w : String}

theorem bookingStatus_eq_ok_iff {s : BookingStatus} : bookingStatus w = .ok s ↔ w = s.word := by
  have known : BookingStatus.ofWord? w = some s ↔ w = s.word := by
    constructor
    · cases s <;> grind [BookingStatus.ofWord?, BookingStatus.word]
    · rintro rfl
      exact BookingStatus.ofWord?_word s
  rw [← known, bookingStatus]
  cases BookingStatus.ofWord? w <;> simp

theorem tier_eq_ok_iff {t : Tier} : tier w = .ok t ↔ w = t.word := by
  have known : Tier.ofWord? w = some t ↔ w = t.word := by
    constructor
    · cases t <;> grind [Tier.ofWord?, Tier.word]
    · rintro rfl
      exact Tier.ofWord?_word t
  rw [← known, tier]
  cases Tier.ofWord? w <;> simp

theorem blames_bookingStatus : BlamesStorage (bookingStatus w) := by
  unfold bookingStatus
  split
  · exact .ok _
  · exact .error _

theorem blames_tier : BlamesStorage (tier w) := by
  unfold tier
  split
  · exact .ok _
  · exact .error _

theorem reservation_decodes : reservationLayout.Decodes readReservation convertReservation where
  ok_iff row e := by
    simp only [readReservation, convertReservation, bind_eq_ok_iff, pure, Except.pure,
      Except.ok.injEq, Row.column_eq_ok_iff reads_int32, Row.column_eq_ok_iff reads_uid,
      Row.column_eq_ok_iff reads_text, Row.column_eq_ok_iff reads_date, bookingStatus_eq_ok_iff]
    constructor
    · rintro ⟨_, ⟨_, id, _, uid, _, name, _, payment, hotel, hotel_read, _, status, _, first, _,
        last, rfl⟩, _, rfl, rfl⟩
      have hotel := Row.exists_nullable.mp ⟨hotel, hotel_read, rfl⟩
      simp [Layout.Shows, reservationLayout, id, uid, name, payment, status, first, last, hotel]
    · rintro ⟨cells, nullable⟩
      obtain ⟨hotel, hotel_read, same⟩ := Row.exists_nullable.mpr
        (nullable ("hotel_id", e.hotelId) List.mem_cons_self)
      simp only [reservationLayout, List.forall_mem_cons] at cells
      obtain ⟨id, uid, name, payment, status, first, last, -⟩ := cells
      refine ⟨_, ⟨_, id, _, uid, _, name, _, payment, hotel, hotel_read, _, status, _, first, _,
        last, rfl⟩, _, rfl, ?_⟩
      rw [same]
  blames_convert _ := blames_bookingStatus.bind fun _ => .ok _
  blames_read _ :=
    Row.blames_column.bind fun _ => Row.blames_column.bind fun _ =>
      Row.blames_column.bind fun _ => Row.blames_column.bind fun _ =>
      Row.blames_nullable.bind fun _ => Row.blames_column.bind fun _ =>
      Row.blames_column.bind fun _ => Row.blames_column.bind fun _ => .ok _

theorem payment_decodes : paymentLayout.Decodes readPayment convertPayment where
  ok_iff row e := by
    simp only [readPayment, convertPayment, bind_eq_ok_iff, pure, Except.pure, Except.ok.injEq,
      Row.column_eq_ok_iff reads_int32, Row.column_eq_ok_iff reads_uid,
      Row.column_eq_ok_iff reads_text, bookingStatus_eq_ok_iff]
    constructor
    · rintro ⟨_, ⟨_, id, _, uid, _, status, _, price, rfl⟩, _, rfl, rfl⟩
      simp [Layout.Shows, paymentLayout, id, uid, status, price]
    · rintro ⟨cells, -⟩
      simp only [paymentLayout, List.forall_mem_cons] at cells
      obtain ⟨id, uid, status, price, -⟩ := cells
      exact ⟨_, ⟨_, id, _, uid, _, status, _, price, rfl⟩, _, rfl, rfl⟩
  blames_convert _ := blames_bookingStatus.bind fun _ => .ok _
  blames_read _ :=
    Row.blames_column.bind fun _ => Row.blames_column.bind fun _ =>
      Row.blames_column.bind fun _ => Row.blames_column.bind fun _ => .ok _

theorem loyalty_decodes : loyaltyLayout.Decodes readLoyalty convertLoyalty where
  ok_iff row e := by
    simp only [readLoyalty, convertLoyalty, bind_eq_ok_iff, pure, Except.pure, Except.ok.injEq,
      Row.column_eq_ok_iff reads_int32, Row.column_eq_ok_iff reads_text, tier_eq_ok_iff]
    constructor
    · rintro ⟨_, ⟨_, id, _, name, _, count, _, status, _, discount, rfl⟩, _, rfl, rfl⟩
      simp [Layout.Shows, loyaltyLayout, id, name, count, status, discount]
    · rintro ⟨cells, -⟩
      simp only [loyaltyLayout, List.forall_mem_cons] at cells
      obtain ⟨id, name, count, status, discount, -⟩ := cells
      exact ⟨_, ⟨_, id, _, name, _, count, _, status, _, discount, rfl⟩, _, rfl, rfl⟩
  blames_convert _ := blames_tier.bind fun _ => .ok _
  blames_read _ :=
    Row.blames_column.bind fun _ => Row.blames_column.bind fun _ =>
      Row.blames_column.bind fun _ => Row.blames_column.bind fun _ =>
      Row.blames_column.bind fun _ => .ok _

end Decoding

end HotelBooking.Postgres
