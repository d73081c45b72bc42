import HotelBooking.Proofs.Store.Rows
import HotelBooking.Store.Memory
import Mathlib.Algebra.GroupWithZero.Nat
import Mathlib.Data.List.Induction

/-!
# Tables with a unique key

Reservations, payments and loyalty records are kept by repositories of their own, each with its
own key and its own way to revise a row. `Rules` says these for one of them, and `Implements`
that its repository carries them out on a table. What then holds of the table is the same for
all: `Keeps` lists it for a `History` of requests with their outcomes, whatever was asked and
whatever numbers the entities came with. It is proved by an invariant that relates the rows to
the entries of the history, `Consistent`, which every request keeps.
-/

namespace HotelBooking.Keyed

variable {σ ρ κ ι : Type}

/-- How entities become rows: what they are found by, the number that a row is given, how a row
is revised by an entity of its key, and what else rows are searched by. -/
structure Rules (ρ κ ι : Type) where
  key : ρ → κ
  id : ρ → Int32
  numbered : ρ → Int32 → ρ
  /-- What a stored row becomes by an entity that is sent. -/
  revised : ρ → ρ → ρ
  selects : ι → ρ → Bool
  key_numbered : ∀ sent n, key (numbered sent n) = key sent
  id_numbered : ∀ sent n, id (numbered sent n) = n
  key_revised : ∀ stored sent, key stored = key sent → key (revised stored sent) = key stored
  id_revised : ∀ stored sent, id (revised stored sent) = id stored

/-- Where a store keeps the table. -/
structure View (σ ρ : Type) where
  table : σ → Table ρ
  put : Table ρ → σ → σ
  table_put : ∀ t s, table (put t s) = t
  put_table : ∀ s, put (table s) s = s

/-- What is asked of a repository. -/
inductive Request (ρ κ ι : Type) where
  | insert (sent : ρ)
  | update (sent : ρ)
  | find (key : κ)
  | search (what : ι)

def Request.isInsert : Request ρ κ ι → Bool
  | insert _ => true
  | _ => false

/-- What it comes to. -/
inductive Reply (ρ : Type) where
  | stored (row : ρ)
  | found (row : Option ρ)
  | selected (rows : List ρ)

structure Repository (σ ρ κ ι : Type) where
  insert : ρ → Action σ ρ
  update : ρ → Action σ (Option ρ)
  find : κ → Action σ (Option ρ)
  search : ι → Action σ (List ρ)

/-- Do what is asked. -/
def Repository.serve (repo : Repository σ ρ κ ι) : Request ρ κ ι → Action σ (Reply ρ)
  | .insert sent => do return .stored (← repo.insert sent)
  | .update sent => do return .found (← repo.update sent)
  | .find key => do return .found (← repo.find key)
  | .search what => do return .selected (← repo.search what)

/-! ## Histories -/

/-- A request and what it came to. -/
structure Entry (ρ κ ι : Type) where
  request : Request ρ κ ι
  outcome : Outcome (Reply ρ)

/-- Requests with their outcomes, in order, and the store that they left. -/
structure History (σ ρ κ ι : Type) where
  entries : List (Entry ρ κ ι) := []
  store : σ

namespace History

variable {repo : Repository σ ρ κ ι} {start : σ} {requests : List (Request ρ κ ι)}

/-- One more request is served. -/
def serve (repo : Repository σ ρ κ ι) (h : History σ ρ κ ι) (request : Request ρ κ ι) :
    History σ ρ κ ι where
  entries := h.entries ++ [⟨request, ((repo.serve request).perform h.store).1⟩]
  store := ((repo.serve request).perform h.store).2

/-- Requests served one after the other. -/
def of (repo : Repository σ ρ κ ι) (start : σ) (requests : List (Request ρ κ ι)) :
    History σ ρ κ ι :=
  requests.foldl (serve repo) { store := start }

theorem of_append_singleton (request : Request ρ κ ι) :
    of repo start (requests ++ [request]) = (of repo start requests).serve repo request := by
  simp [of]

end History

/-- The entity that was inserted and the row that it became, if it was. -/
def Entry.inserted? : Entry ρ κ ι → Option (ρ × ρ)
  | ⟨.insert sent, .ok (.stored row)⟩ => some (sent, row)
  | _ => none

/-- What was inserted, in order. -/
def inserted (entries : List (Entry ρ κ ι)) : List (ρ × ρ) :=
  entries.filterMap Entry.inserted?

theorem inserted_append (entries : List (Entry ρ κ ι)) (e : Entry ρ κ ι) :
    inserted (entries ++ [e]) = inserted entries ++ e.inserted?.toList := by
  cases there : e.inserted? <;> simp [inserted, there]

/-- No more is inserted than is asked for. -/
theorem length_inserted_le (repo : Repository σ ρ κ ι) (start : σ)
    (requests : List (Request ρ κ ι)) :
    (inserted (History.of repo start requests).entries).length ≤
      requests.countP Request.isInsert := by
  induction requests using List.reverseRecOn with
  | nil => exact Nat.le_refl 0
  | append_singleton requests request ih =>
      rw [History.of_append_singleton, History.serve, inserted_append, List.length_append,
        List.countP_append]
      refine Nat.add_le_add ih ?_
      cases request with
      | insert sent => exact Option.length_toList_le
      | _ => exact Nat.zero_le _

section Writing

variable [DecidableEq κ] (rules : Rules ρ κ ι)

/-- The row of a key after an entry. -/
def Entry.written (key : κ) (row : Option ρ) : Entry ρ κ ι → Option ρ
  | ⟨.insert sent, .ok (.stored new)⟩ => if rules.key sent = key then some new else row
  | ⟨.update sent, .ok _⟩ =>
    if rules.key sent = key then row.map fun stored => rules.revised stored sent else row
  | _ => row

/-- The row of a key as it was last written: what was inserted under it, revised by what it was
updated with since. -/
def lastWritten (key : κ) (entries : List (Entry ρ κ ι)) : Option ρ :=
  entries.foldl (Entry.written rules key) none

theorem lastWritten_append (key : κ) (entries : List (Entry ρ κ ι)) (e : Entry ρ κ ι) :
    lastWritten rules key (entries ++ [e]) =
      e.written rules key (lastWritten rules key entries) := by
  simp [lastWritten]

end Writing

/-! ## What a table keeps -/

section Keeping

variable [DecidableEq κ]

/-- The repository carries the rules out on the table of the store, and leaves the rest of the
store alone. -/
structure Repository.Implements (repo : Repository σ ρ κ ι) (rules : Rules ρ κ ι)
    (view : View σ ρ) : Prop where
  insert : ∀ sent, ∃ clash, ∀ s, (repo.insert sent).perform s =
    if ((view.table s).find? (rules.key · == rules.key sent)).isSome then
      (.error (.storage clash), s)
    else (.ok (rules.numbered sent ((view.table s).lastId + 1)),
      view.put ((view.table s).append (rules.numbered sent)).2 s)
  update : ∀ sent s, (repo.update sent).perform s =
    (.ok (((view.table s).find? (rules.key · == rules.key sent)).map fun stored =>
        rules.revised stored sent),
      view.put ((view.table s).modify (rules.key · == rules.key sent) fun stored =>
        rules.revised stored sent).2 s)
  find : ∀ key s, (repo.find key).perform s = (.ok ((view.table s).find? (rules.key · == key)), s)
  search : ∀ what s, (repo.search what).perform s =
    (.ok ((view.table s).rows.filter (rules.selects what)), s)

/-- What holds of a table after a history, and of what is asked of it next. -/
structure Keeps (repo : Repository σ ρ κ ι) (rules : Rules ρ κ ι) (view : View σ ρ)
    (h : History σ ρ κ ι) : Prop where
  /-- No key has two rows. -/
  unique : ((view.table h.store).rows.map rules.key).Nodup
  /-- The entity inserted as number `k`, counted from 1, became a row with that number. -/
  counted : ∀ (k : Nat) sent row, (inserted h.entries)[k]? = some (sent, row) →
    (rules.id row).toInt = k + 1 ∧ row = rules.numbered sent (rules.id row)
  /-- The rows are those that were inserted, in that order, with the numbers and the keys that
  they were inserted with. -/
  lasting : (view.table h.store).rows.map (fun row => (rules.id row, rules.key row)) =
    (inserted h.entries).map fun p => (rules.id p.2, rules.key p.2)
  ordered : (view.table h.store).rows.Pairwise fun a b => rules.id a < rules.id b
  /-- An entity with a stored key is refused. -/
  refused : ∀ sent, rules.key sent ∈ (view.table h.store).rows.map rules.key →
    ∃ reason, (repo.insert sent).perform h.store = (.error (.storage reason), h.store)
  /-- Any other becomes the last row, with the next number. -/
  added : ∀ sent, rules.key sent ∉ (view.table h.store).rows.map rules.key →
    ∃ row after, (repo.insert sent).perform h.store = (.ok row, after) ∧
      (rules.id row).toInt = (inserted h.entries).length + 1 ∧
      row = rules.numbered sent (rules.id row) ∧
      (view.table after).rows = (view.table h.store).rows ++ [row]
  /-- An update without a row to revise changes nothing. -/
  missed : ∀ sent, rules.key sent ∉ (view.table h.store).rows.map rules.key →
    (repo.update sent).perform h.store = (.ok none, h.store)
  /-- An update revises the row of its key, which keeps its number, its key and its place. -/
  revised : ∀ sent (i : Nat) row, (view.table h.store).rows[i]? = some row →
    rules.key row = rules.key sent →
    ∃ row' after, (repo.update sent).perform h.store = (.ok (some row'), after) ∧
      row' = rules.revised row sent ∧ rules.id row' = rules.id row ∧
      rules.key row' = rules.key row ∧
      (view.table after).rows = (view.table h.store).rows.set i row' ∧
      (view.table after).lastId = (view.table h.store).lastId
  /-- A row is found as it was last written. -/
  found : ∀ key, (repo.find key).perform h.store =
    (.ok (lastWritten rules key h.entries), h.store)
  /-- A search gives the rows that it is for, in their order. -/
  searched : ∀ what, (repo.search what).perform h.store =
    (.ok ((view.table h.store).rows.filter (rules.selects what)), h.store)

/-! ## The invariant -/

variable {repo : Repository σ ρ κ ι} {rules : Rules ρ κ ι} {view : View σ ρ}
  {entries : List (Entry ρ κ ι)} {t : Table ρ}

/-- The rows of a table are those that the entries of a history speak of. -/
structure Consistent (rules : Rules ρ κ ι) (entries : List (Entry ρ κ ι)) (t : Table ρ) :
    Prop where
  last : t.lastId.toInt = (inserted entries).length
  counted : ∀ (k : Nat) sent row, (inserted entries)[k]? = some (sent, row) →
    (rules.id row).toInt = k + 1 ∧ row = rules.numbered sent (rules.id row)
  lasting : t.rows.map (fun row => (rules.id row, rules.key row)) =
    (inserted entries).map fun p => (rules.id p.2, rules.key p.2)
  unique : (t.rows.map rules.key).Nodup
  written : ∀ key, t.find? (rules.key · == key) = lastWritten rules key entries

theorem consistent_nil (rules : Rules ρ κ ι) : Consistent rules [] {} where
  last := rfl
  counted := nofun
  lasting := rfl
  unique := List.nodup_nil
  written _ := rfl

theorem find?_eq_none_iff {key : κ} :
    t.find? (rules.key · == key) = none ↔ key ∉ t.rows.map rules.key := by
  simp [Table.find?, List.find?_eq_none]

theorem find?_isSome_iff {key : κ} :
    (t.find? (rules.key · == key)).isSome ↔ key ∈ t.rows.map rules.key := by
  rw [← not_iff_not, Option.not_isSome_iff_eq_none, find?_eq_none_iff]

namespace Consistent

/-- An entry that writes nothing. -/
theorem unwritten {e : Entry ρ κ ι} (h : Consistent rules entries t) (none : e.inserted? = none)
    (kept : ∀ key, e.written rules key (lastWritten rules key entries) =
      lastWritten rules key entries) :
    Consistent rules (entries ++ [e]) t := by
  have same : inserted (entries ++ [e]) = inserted entries := by
    rw [inserted_append, none, Option.toList_none, List.append_nil]
  exact {
    last := by rw [same]; exact h.last
    counted := by rw [same]; exact h.counted
    lasting := by rw [same]; exact h.lasting
    unique := h.unique
    written := fun key => by rw [lastWritten_append, kept]; exact h.written key }

/-- The number that the next row is given. -/
theorem toInt_next (h : Consistent rules entries t)
    (room : (inserted entries).length + 1 < 2 ^ 31) :
    (t.lastId + 1).toInt = (inserted entries).length + 1 := by
  rw [Int32.toInt_add, h.last]
  exact Int.bmod_eq_of_le (by simp; omega) (by simp; omega)

theorem append (h : Consistent rules entries t) {sent : ρ}
    (new : rules.key sent ∉ t.rows.map rules.key)
    (room : (inserted entries).length + 1 < 2 ^ 31) :
    Consistent rules (entries ++ [⟨.insert sent, .ok (.stored (t.append (rules.numbered sent)).1)⟩])
      (t.append (rules.numbered sent)).2 := by
  have number := h.toInt_next room
  have more :
      inserted (entries ++ [⟨.insert sent, .ok (.stored (t.append (rules.numbered sent)).1)⟩]) =
        inserted entries ++ [(sent, rules.numbered sent (t.lastId + 1))] := inserted_append _ _
  constructor
  case last =>
    rw [more, List.length_append]
    exact number
  case counted =>
    intro k sent' row at_k
    rw [more, List.getElem?_append] at at_k
    split_ifs at at_k with earlier
    · exact h.counted k sent' row at_k
    · rw [List.getElem?_singleton] at at_k
      split_ifs at at_k with here
      cases at_k
      rw [rules.id_numbered, number]
      exact ⟨by omega, rfl⟩
  case lasting =>
    rw [more]
    simp [Table.append, h.lasting]
  case unique =>
    rw [Table.append, List.map_append]
    refine h.unique.append (List.nodup_singleton _) ?_
    simpa [rules.key_numbered] using new
  case written =>
    intro key
    rw [lastWritten_append, ← h.written key]
    simp only [Entry.written, Table.append, Table.find?, List.find?_append, List.find?_singleton,
      rules.key_numbered, beq_iff_eq]
    split_ifs with own
    · subst own
      have missing := find?_eq_none_iff.mpr new
      rw [Table.find?] at missing
      rw [missing, Option.none_or]
    · rw [Option.or_none]

theorem revise (h : Consistent rules entries t) (sent : ρ) (row : Option ρ) :
    Consistent rules (entries ++ [⟨.update sent, .ok (.found row)⟩])
      (t.modify (rules.key · == rules.key sent) fun stored => rules.revised stored sent).2 := by
  have own (stored : ρ) (found : t.rows.find? (rules.key · == rules.key sent) = some stored) :
      rules.key stored = rules.key sent := Table.key_of_find? found
  have same : inserted (entries ++ [⟨.update sent, .ok (.found row)⟩]) = inserted entries := by
    rw [inserted_append]
    exact List.append_nil _
  constructor
  case last =>
    rw [same]
    exact h.last
  case counted =>
    rw [same]
    exact h.counted
  case lasting =>
    rw [same, ← h.lasting]
    refine Table.map_replaceFirst (fun row => (rules.id row, rules.key row)) fun stored found => ?_
    rw [rules.id_revised, rules.key_revised stored sent (own stored found)]
  case unique =>
    have keys := Table.map_replaceFirst rules.key fun stored found =>
      rules.key_revised stored sent (own stored found)
    rw [Table.modify, keys]
    exact h.unique
  case written =>
    intro key
    rw [lastWritten_append, ← h.written key]
    have keeps (stored : ρ) (found : rules.key stored = rules.key sent) :
        rules.key (rules.revised stored sent) = rules.key sent :=
      (rules.key_revised stored sent found).trans found
    simp only [Entry.written, Table.modify, Table.find?]
    split_ifs with own
    · subst own
      exact Table.find?_replaceFirst_self keeps
    · exact Table.find?_replaceFirst_of_ne keeps (Ne.symm own)

end Consistent

/-! ## Whole histories -/

/-- An action with a value to go on with. -/
theorem perform_map {α β : Type} (a : Action σ α) (f : α → β) (s : σ) :
    (do return f (← a) : Action σ β).perform s = ((a.perform s).1.map f, (a.perform s).2) := by
  rw [Action.perform_bind]
  rcases a.perform s with ⟨_ | _, _⟩ <;> rfl

theorem Consistent.serve {h : History σ ρ κ ι} (implements : repo.Implements rules view)
    (consistent : Consistent rules h.entries (view.table h.store))
    (room : (inserted h.entries).length + 1 < 2 ^ 31) (request : Request ρ κ ι) :
    Consistent rules (h.serve repo request).entries (view.table (h.serve repo request).store) := by
  unfold History.serve
  cases request with
  | insert sent =>
      obtain ⟨clash, performs⟩ := implements.insert sent
      rw [Repository.serve, perform_map, performs]
      by_cases taken : rules.key sent ∈ (view.table h.store).rows.map rules.key
      · rw [if_pos (find?_isSome_iff.mpr taken)]
        exact consistent.unwritten rfl fun _ => rfl
      · rw [if_neg (mt find?_isSome_iff.mp taken), view.table_put]
        exact consistent.append taken room
  | update sent =>
      rw [Repository.serve, perform_map, implements.update, view.table_put]
      exact consistent.revise sent _
  | find key =>
      rw [Repository.serve, perform_map, implements.find]
      exact consistent.unwritten rfl fun _ => rfl
  | search what =>
      rw [Repository.serve, perform_map, implements.search]
      exact consistent.unwritten rfl fun _ => rfl

theorem consistent_of (implements : repo.Implements rules view) {start : σ}
    (empty : view.table start = {}) (requests : List (Request ρ κ ι))
    (few : requests.countP Request.isInsert < 2 ^ 31 - 1) :
    Consistent rules (History.of repo start requests).entries
      (view.table (History.of repo start requests).store) := by
  induction requests using List.reverseRecOn with
  | nil =>
      rw [History.of, List.foldl_nil, empty]
      exact consistent_nil rules
  | append_singleton requests request ih =>
      rw [List.countP_append] at few
      have length := length_inserted_le repo start requests
      rw [History.of_append_singleton]
      exact (ih (by omega)).serve implements (by omega) request

/-- Numbers go up from row to row. -/
theorem Consistent.ordered (h : Consistent rules entries t) :
    t.rows.Pairwise fun a b => rules.id a < rules.id b := by
  have numbers : t.rows.map rules.id = (inserted entries).map fun p => rules.id p.2 := by
    have columns := congrArg (List.map Prod.fst) h.lasting
    rwa [List.map_map, List.map_map] at columns
  have rising : ((inserted entries).map fun p => rules.id p.2).Pairwise (· < ·) := by
    rw [List.pairwise_map, List.pairwise_iff_getElem]
    intro i j before after less
    have first : (rules.id (inserted entries)[i].2).toInt = i + 1 :=
      (h.counted i _ _ (List.getElem?_eq_getElem before)).1
    have second : (rules.id (inserted entries)[j].2).toInt = j + 1 :=
      (h.counted j _ _ (List.getElem?_eq_getElem after)).1
    rw [Int32.lt_iff_toInt_lt, first, second]
    omega
  rw [← numbers] at rising
  exact List.pairwise_map.mp rising

theorem Consistent.keeps {h : History σ ρ κ ι} (implements : repo.Implements rules view)
    (consistent : Consistent rules h.entries (view.table h.store))
    (room : (inserted h.entries).length + 1 < 2 ^ 31) : Keeps repo rules view h where
  unique := consistent.unique
  counted := consistent.counted
  lasting := consistent.lasting
  ordered := consistent.ordered
  refused sent taken := by
    obtain ⟨clash, performs⟩ := implements.insert sent
    exact ⟨clash, by rw [performs, if_pos (find?_isSome_iff.mpr taken)]⟩
  added sent new := by
    obtain ⟨clash, performs⟩ := implements.insert sent
    refine ⟨_, _, by rw [performs, if_neg (mt find?_isSome_iff.mp new)], ?_, ?_, ?_⟩
    · rw [rules.id_numbered]
      exact consistent.toInt_next room
    · rw [rules.id_numbered]
    · rw [view.table_put]
      rfl
  missed sent absent := by
    have missing := find?_eq_none_iff.mpr absent
    rw [implements.update, Table.modify_of_find?_eq_none missing, view.put_table, missing]
    rfl
  revised sent i row place own := by
    have found : (view.table h.store).find? (rules.key · == rules.key row) = some row :=
      Table.find?_of_nodup consistent.unique (List.mem_of_getElem? place)
    refine ⟨_, _, by rw [implements.update, ← own, found, Option.map_some], rfl,
      rules.id_revised row sent, rules.key_revised row sent own, ?_, ?_⟩
    · rw [view.table_put]
      exact Table.replaceFirst_eq_set consistent.unique place
    · rw [view.table_put]
      rfl
  found key := by rw [implements.find, consistent.written]
  searched := fun what => implements.search what h.store

/-- Whatever is asked of an empty store that has room for it, it keeps one table. -/
theorem keeps_of (implements : repo.Implements rules view) {start : σ}
    (empty : view.table start = {}) (requests : List (Request ρ κ ι))
    (few : requests.countP Request.isInsert < 2 ^ 31 - 1) :
    Keeps repo rules view (History.of repo start requests) := by
  have length := length_inserted_le repo start requests
  exact (consistent_of implements empty requests few).keeps implements (by omega)

end Keeping

end HotelBooking.Keyed
