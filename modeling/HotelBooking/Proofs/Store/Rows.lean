import HotelBooking.Store.Table
import Mathlib.Data.List.Nodup

/-!
# Rows under change

Tables change in two ways: a row is appended, or the first row of a key is replaced. The
lemmas say what either does to lookups, to a column and to the list as a whole.

`Evolves` is how a list of rows may look after any number of such changes: every position
still holds the row it held, up to a relation that changes respect, and new rows come
behind. Rows are compared by position, so nothing here needs keys to be unique. `Alike` is
such a relation: what part of a row is seen stays the same. `Replaced` is one change of one
row, with all the others left alone.
-/

namespace HotelBooking

namespace Table

variable {ρ κ : Type} {p : ρ → Bool} {change : ρ → ρ} {rows : List ρ} {row : ρ}

/-- The replaced row, with everything around it left alone. -/
theorem replaceFirst_eq_append (found : rows.find? p = some row) :
    ∃ before after, rows = before ++ row :: after ∧
      ∀ change, replaceFirst p change rows = before ++ change row :: after := by
  induction rows with
  | nil => cases found
  | cons r rs ih =>
      by_cases hr : p r
      · rw [List.find?_cons_of_pos hr] at found
        cases found
        exact ⟨[], rs, rfl, fun change => by simp [replaceFirst, hr]⟩
      · rw [List.find?_cons_of_neg hr] at found
        obtain ⟨before, after, rfl, replaced⟩ := ih found
        exact ⟨r :: before, after, rfl, fun change => by simp [replaceFirst, hr, replaced]⟩

/-- After a search in vain it is among the rows behind that one is replaced. -/
theorem replaceFirst_append (missing : rows.find? p = none) (more : List ρ) :
    replaceFirst p change (rows ++ more) = rows ++ replaceFirst p change more := by
  induction rows with
  | nil => rfl
  | cons r rs ih =>
      have hr : ¬ p r := List.find?_eq_none.mp missing r List.mem_cons_self
      rw [List.find?_cons_of_neg hr] at missing
      simp [replaceFirst, hr, ih missing]

theorem replaceFirst_of_find?_eq_none (missing : rows.find? p = none) :
    replaceFirst p change rows = rows := by
  simpa [replaceFirst] using @replaceFirst_append _ _ change _ missing []

/-- Changing a new row is as good as adding it changed. -/
theorem modify_append {t : Table ρ} {number : Int32 → ρ} (missing : t.find? p = none)
    (hit : p (number (t.lastId + 1))) :
    ((t.append number).2.modify p change).2 = (t.append fun id => change (number id)).2 := by
  have rows := @replaceFirst_append _ _ change _ missing [number (t.lastId + 1)]
  simp only [replaceFirst, hit, if_true] at rows
  simp only [append, modify, rows]

theorem modify_of_find?_eq_none {t : Table ρ} (missing : t.find? p = none) :
    (t.modify p change).2 = t := by
  simp [modify, replaceFirst_of_find?_eq_none missing]

theorem mem_replaceFirst {r : ρ} (member : r ∈ replaceFirst p change rows) :
    r ∈ rows ∨ ∃ found, rows.find? p = some found ∧ r = change found := by
  cases found : rows.find? p with
  | none => exact .inl (replaceFirst_of_find?_eq_none found ▸ member)
  | some row =>
      obtain ⟨before, after, rfl, replaced⟩ := replaceFirst_eq_append found
      rw [replaced] at member
      grind

/-- A column that the change respects stays as it is. -/
theorem map_replaceFirst {γ : Type} (column : ρ → γ)
    (same : ∀ r, rows.find? p = some r → column (change r) = column r) :
    (replaceFirst p change rows).map column = rows.map column := by
  cases found : rows.find? p with
  | none => rw [replaceFirst_of_find?_eq_none found]
  | some r =>
      obtain ⟨before, after, rfl, replaced⟩ := replaceFirst_eq_append found
      simp [replaced, same r found]

@[simp] theorem length_replaceFirst : (replaceFirst p change rows).length = rows.length := by
  simpa using congrArg List.length (map_replaceFirst (fun _ => ()) fun _ _ => rfl)

theorem replaceFirst_eq_self (same : ∀ r, rows.find? p = some r → change r = r) :
    replaceFirst p change rows = rows := by
  simpa using map_replaceFirst id same

/-- Of two replacements in the same place the second one counts. -/
theorem replaceFirst_replaceFirst {again : ρ → ρ} (keeps : ∀ r, p r → p (change r)) :
    replaceFirst p again (replaceFirst p change rows) =
      replaceFirst p (again ∘ change) rows := by
  induction rows with
  | nil => rfl
  | cons r rs ih => by_cases hr : p r <;> simp [replaceFirst, hr, keeps, ih]

/-! ## Lookups by key -/

section Keyed

variable [BEq κ] [LawfulBEq κ] {key : ρ → κ} {k l : κ}

theorem key_of_find? (found : rows.find? (key · == k) = some row) : key row = k := by
  simpa using List.find?_some found

/-- Where no two rows have the same key, a row is found under its own. -/
theorem find?_of_nodup (unique : (rows.map key).Nodup) (member : row ∈ rows) :
    rows.find? (key · == key row) = some row := by
  cases found : rows.find? (key · == key row) with
  | none => simpa using List.find?_eq_none.mp found row member
  | some r =>
      have same := List.inj_on_of_nodup_map unique (List.mem_of_find?_eq_some found) member
      rw [same (key_of_find? found)]

/-- Where no two rows have the same key, at most one is left of a key. -/
theorem filter_of_nodup (unique : (rows.map key).Nodup) :
    rows.filter (key · == k) = (rows.find? (key · == k)).toList := by
  induction rows with
  | nil => rfl
  | cons r rs ih =>
      obtain ⟨alone, unique⟩ := List.nodup_cons.mp unique
      by_cases hr : key r = k
      · have others : rs.filter (key · == k) = [] := by
          simp only [List.filter_eq_nil_iff, beq_iff_eq]
          exact fun r' member same => alone (List.mem_map.mpr ⟨r', member, same.trans hr.symm⟩)
        simp [hr, others]
      · simpa [hr] using ih unique

theorem find?_replaceFirst_self (keeps : ∀ r, key r = k → key (change r) = k) :
    (replaceFirst (key · == k) change rows).find? (key · == k) =
      (rows.find? (key · == k)).map change := by
  induction rows with
  | nil => rfl
  | cons r rs ih =>
      by_cases hr : key r = k
      · simp [replaceFirst, hr, keeps]
      · simp [replaceFirst, hr, ih]

theorem find?_replaceFirst_of_ne (keeps : ∀ r, key r = k → key (change r) = k)
    (other : l ≠ k) :
    (replaceFirst (key · == k) change rows).find? (key · == l) =
      rows.find? (key · == l) := by
  induction rows with
  | nil => rfl
  | cons r rs ih =>
      by_cases hr : key r = k
      · simp [replaceFirst, hr, keeps, other.symm]
      · simp [replaceFirst, hr, List.find?_cons, ih]

/-- Where no two rows have the same key, a row is replaced wherever it stands. -/
theorem replaceFirst_eq_set (unique : (rows.map key).Nodup) {i : Nat}
    (place : rows[i]? = some row) :
    replaceFirst (key · == key row) change rows = rows.set i (change row) := by
  induction rows generalizing i with
  | nil => cases place
  | cons r rs ih =>
      obtain ⟨alone, unique⟩ := List.nodup_cons.mp unique
      cases i with
      | zero =>
          cases place
          simp [replaceFirst]
      | succ i =>
          have member : key row ∈ rs.map key := List.mem_map_of_mem (List.mem_of_getElem? place)
          have other : key r ≠ key row := fun same => alone (same ▸ member)
          simp [replaceFirst, other, ih unique place]

/-- Where no two entries have the same key, each is looked up under its own. -/
theorem lookup_of_nodup {entries : List (κ × ρ)} (unique : (entries.map Prod.fst).Nodup)
    (member : (k, row) ∈ entries) : entries.lookup k = some row := by
  induction entries with
  | nil => cases member
  | cons e entries ih =>
      obtain ⟨alone, unique⟩ := List.nodup_cons.mp unique
      rcases List.mem_cons.mp member with rfl | later
      · exact List.lookup_cons_self
      · have other : k ≠ e.1 := fun same => alone (same ▸ List.mem_map_of_mem later)
        rw [List.lookup_cons, beq_false_of_ne other]
        exact ih unique later

end Keyed

end Table

/-! ## Rows over time -/

namespace Rows

variable {ρ : Type} {R : ρ → ρ → Prop} {rows rows' rows'' : List ρ}

/-- Every position still holds the row it held, up to `R`. -/
def Evolves (R : ρ → ρ → Prop) (rows rows' : List ρ) : Prop :=
  ∀ (i : Nat) (r : ρ), rows[i]? = some r → ∃ r', rows'[i]? = some r' ∧ R r r'

namespace Evolves

theorem refl (hR : ∀ r, R r r) (rows : List ρ) : Evolves R rows rows :=
  fun _ r found => ⟨r, found, hR r⟩

theorem trans (hR : ∀ {a b c}, R a b → R b c → R a c) (first : Evolves R rows rows')
    (second : Evolves R rows' rows'') : Evolves R rows rows'' := by
  intro i r found
  obtain ⟨r', found', step⟩ := first i r found
  obtain ⟨r'', found'', step'⟩ := second i r' found'
  exact ⟨r'', found'', hR step step'⟩

theorem mono {R' : ρ → ρ → Prop} (h : Evolves R rows rows') (weaker : ∀ {a b}, R a b → R' a b) :
    Evolves R' rows rows' := by
  intro i r found
  obtain ⟨r', found', step⟩ := h i r found
  exact ⟨r', found', weaker step⟩

theorem append (hR : ∀ r, R r r) (rows added : List ρ) : Evolves R rows (rows ++ added) := by
  intro i r found
  have bound := (List.getElem?_eq_some_iff.mp found).1
  exact ⟨r, by rw [List.getElem?_append_left bound, found], hR r⟩

theorem replaceFirst {p : ρ → Bool} {change : ρ → ρ} (hR : ∀ r, R r r)
    (step : ∀ r, rows.find? p = some r → R r (change r)) :
    Evolves R rows (Table.replaceFirst p change rows) := by
  cases found : rows.find? p with
  | none =>
      rw [Table.replaceFirst_of_find?_eq_none found]
      exact refl hR rows
  | some row =>
      obtain ⟨before, after, rfl, replaced⟩ := Table.replaceFirst_eq_append found
      rw [replaced]
      intro i r at_i
      by_cases here : i = before.length
      · subst here
        have : row = r := by simpa using at_i
        subst this
        exact ⟨change row, by simp, step row found⟩
      · refine ⟨r, ?_, hR r⟩
        rw [← at_i]
        grind

/-- The first row of a key stays the first row of that key. -/
theorem find? {κ : Type} [BEq κ] [LawfulBEq κ] {key : ρ → κ} {k : κ} {r : ρ}
    (h : Evolves R rows rows') (keeps : ∀ {a b}, R a b → key b = key a)
    (found : rows.find? (key · == k) = some r) :
    ∃ r', rows'.find? (key · == k) = some r' ∧ R r r' := by
  obtain ⟨hr, i, bound, rfl, earlier⟩ := List.find?_eq_some_iff_getElem.mp found
  obtain ⟨r', found', step⟩ := h i rows[i] (List.getElem?_eq_getElem bound)
  obtain ⟨bound', rfl⟩ := List.getElem?_eq_some_iff.mp found'
  refine ⟨rows'[i], List.find?_eq_some_iff_getElem.mpr ⟨?_, i, bound', rfl, ?_⟩, step⟩
  · rwa [keeps step]
  · intro j before
    obtain ⟨r', found'', step'⟩ := h j rows[j] (List.getElem?_eq_getElem (by omega))
    obtain ⟨_, rfl⟩ := List.getElem?_eq_some_iff.mp found''
    rw [keeps step']
    exact earlier j before

end Evolves

/-- One row is replaced by another, and everything around it is left alone. -/
def Replaced (row row' : ρ) (rows rows' : List ρ) : Prop :=
  ∃ before after, rows = before ++ row :: after ∧ rows' = before ++ row' :: after

theorem replaced_replaceFirst {p : ρ → Bool} {row : ρ} (found : rows.find? p = some row)
    (change : ρ → ρ) : Replaced row (change row) rows (Table.replaceFirst p change rows) := by
  obtain ⟨before, after, same, replaced⟩ := Table.replaceFirst_eq_append found
  exact ⟨before, after, same, replaced change⟩

variable {γ : Type} {seen : ρ → ρ} {r r' r'' : ρ}

/-- The rows are the same as far as `seen` shows them. -/
def Alike (seen : ρ → ρ) (r r' : ρ) : Prop := seen r' = seen r

instance [DecidableEq ρ] (seen : ρ → ρ) (r r' : ρ) : Decidable (Alike seen r r') :=
  inferInstanceAs (Decidable (seen r' = seen r))

namespace Alike

theorem refl (seen : ρ → ρ) (r : ρ) : Alike seen r r := rfl

theorem symm (h : Alike seen r r') : Alike seen r' r := Eq.symm h

theorem trans (first : Alike seen r r') (second : Alike seen r' r'') : Alike seen r r'' :=
  Eq.trans second first

/-- Rows that are alike agree in everything that is seen. -/
theorem column (h : Alike seen r r') (f : ρ → γ) (shown : ∀ r, f (seen r) = f r) : f r' = f r := by
  rw [← shown r', h, shown]

/-- What is found by what is seen of it is alike in lists that are. -/
theorem find? {p : ρ → Bool} (h : Alike (List.map seen) rows rows')
    (shown : ∀ r, p (seen r) = p r) : Alike (Option.map seen) (rows.find? p) (rows'.find? p) := by
  have blind (rows : List ρ) : (rows.find? p).map seen = (rows.map seen).find? p := by
    rw [List.find?_map, show p ∘ seen = p from funext shown]
  unfold Alike
  rw [blind, blind, h]

theorem option_map {o o' : Option ρ} {change change' : ρ → ρ} (h : Alike (Option.map seen) o o')
    (step : ∀ r r', Alike seen r r' → Alike seen (change r) (change' r')) :
    Alike (Option.map seen) (o.map change) (o'.map change') := by
  cases o with
  | none =>
      rw [Option.map_eq_none_iff.mp h]
      exact refl _ _
  | some r =>
      obtain ⟨r', rfl, alike⟩ := Option.map_eq_some_iff.mp h
      exact congrArg some (step r r' alike)

theorem append {added added' : ρ} (h : Alike (List.map seen) rows rows')
    (alike : Alike seen added added') :
    Alike (List.map seen) (rows ++ [added]) (rows' ++ [added']) := by
  unfold Alike
  rw [List.map_append, List.map_append, h, List.map_singleton, List.map_singleton, alike]

/-- Rows that are alike are replaced in the same place. -/
theorem replaceFirst {p : ρ → Bool} {change change' : ρ → ρ}
    (h : Alike (List.map seen) rows rows') (shown : ∀ r, p (seen r) = p r)
    (step : ∀ r r', Alike seen r r' → Alike seen (change r) (change' r')) :
    Alike (List.map seen) (Table.replaceFirst p change rows)
      (Table.replaceFirst p change' rows') := by
  induction rows generalizing rows' with
  | nil =>
      rw [List.map_eq_nil_iff.mp h]
      exact refl _ _
  | cons r rs ih =>
      obtain ⟨r', rs', rfl, alike, rest⟩ := List.map_eq_cons_iff.mp h
      have same : p r' = p r := column alike p shown
      rw [Table.replaceFirst, Table.replaceFirst, same]
      split
      · exact List.cons_eq_cons.mpr ⟨step r r' alike, rest⟩
      · exact List.cons_eq_cons.mpr ⟨alike, ih rest⟩

end Alike

end Rows

end HotelBooking
