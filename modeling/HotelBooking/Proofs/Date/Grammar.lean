import HotelBooking.Proofs.Date.Text
import Mathlib.Data.List.TakeWhile

/-!
# Which texts are dates

A text is read as a date, in the tight layout, exactly when it is one of the ways to write that
date: year, month and day with hyphens between them and any blanks in front of each, the year in
at most four digits or with a sign in any number of digits, month and day in one digit or two.
-/

namespace HotelBooking

open Text (Stops isBlank)

namespace Decimal

variable {n : Nat} {ds : List Char}

theorem isDigit_of_valueFrom? {acc : Nat} (read : valueFrom? acc ds = some n) :
    ∀ c ∈ ds, isDigit c := by
  induction ds generalizing acc with
  | nil => nofun
  | cons d ds ih =>
      obtain ⟨v, digit, rest⟩ := Option.bind_eq_some_iff.mp read
      rintro c (_ | ⟨_, member⟩)
      · simp [isDigit, digit]
      · exact ih rest c member

theorem isDigit_of_value? (read : value? ds = some n) : ∀ c ∈ ds, isDigit c := by
  cases ds with
  | nil => cases read
  | cons d ds => exact isDigit_of_valueFrom? read

theorem exists_cons_of_value? (read : value? ds = some n) :
    ∃ c cs, ds = c :: cs ∧ isDigit c := by
  cases ds with
  | nil => cases read
  | cons c cs => exact ⟨c, cs, rfl, isDigit_of_value? read c List.mem_cons_self⟩

end Decimal

namespace Date

/-! ## The ways to write a date -/

/-- The ways to write a year. -/
inductive YearForm : Int → List Char → Prop
  | unsigned {n : Nat} {ds : List Char} (value : Decimal.value? ds = some n)
      (short : ds.length ≤ 4) : YearForm n ds
  | positive {n : Nat} {ds : List Char} (value : Decimal.value? ds = some n) :
      YearForm n ('+' :: ds)
  | negative {n : Nat} {ds : List Char} (value : Decimal.value? ds = some n) :
      YearForm (-n) ('-' :: ds)

/-- The ways to write a month or a day. -/
def ShortForm (n : Nat) (ds : List Char) : Prop :=
  Decimal.value? ds = some n ∧ ds.length ≤ 2

/-- The same behind any blanks. -/
def Spaced (form : List Char → Prop) (cs : List Char) : Prop :=
  ∃ blanks text, cs = blanks ++ text ∧ (∀ c ∈ blanks, isBlank c) ∧ form text

/-- The ways to write a date. -/
def Form (d : Date) (cs : List Char) : Prop :=
  ∃ year month day, cs = year ++ '-' :: (month ++ '-' :: day) ∧
    Spaced (YearForm d.year) year ∧ Spaced (ShortForm d.month) month ∧
    Spaced (ShortForm d.day) day

/-! ## They are read -/

section Reading

variable {n width : Nat} {ds rest : List Char}

theorem skipBlanks_append {blanks : List Char} (blank : ∀ c ∈ blanks, isBlank c)
    (stops : Stops isBlank rest) : skipBlanks (blanks ++ rest) = rest :=
  Text.dropWhile_append blank stops

theorem limited?_append (value : Decimal.value? ds = some n) (short : ds.length ≤ width)
    (stops : Stops Decimal.isDigit rest) : limited? width (ds ++ rest) = some (n, rest) := by
  have cut : (ds ++ rest).take width = ds ++ rest.take (width - ds.length) := by
    rw [List.take_append, List.take_of_length_le short]
  have stops : Stops Decimal.isDigit (rest.take (width - ds.length)) := by
    intro c head
    apply stops c
    cases rest with
    | nil => simp at head
    | cons d rest =>
        cases room : width - ds.length with
        | zero => simp [room] at head
        | succ k => simpa [room] using head
  simp only [limited?, cut, Text.takeWhile_append (Decimal.isDigit_of_value? value) stops, value,
    Option.map_some, List.drop_left' rfl]

theorem unlimited?_append (value : Decimal.value? ds = some n)
    (stops : Stops Decimal.isDigit rest) : unlimited? (ds ++ rest) = some (n, rest) := by
  rw [unlimited?, Text.takeWhile_append (Decimal.isDigit_of_value? value) stops,
    Text.dropWhile_append (Decimal.isDigit_of_value? value) stops, value]
  rfl

/-- A number behind blanks is read up to where its digits end. -/
theorem limited?_of_spaced {cs : List Char} (form : Spaced (ShortForm n) cs)
    (stops : Stops Decimal.isDigit rest) :
    limited? 2 (skipBlanks (cs ++ rest)) = some (n, rest) := by
  obtain ⟨blanks, ds, rfl, blank, value, short⟩ := form
  have read := limited?_append value short stops
  obtain ⟨c, cs, rfl, digit⟩ := Decimal.exists_cons_of_value? value
  rw [List.cons_append] at read
  rwa [List.append_assoc, List.cons_append,
    skipBlanks_append blank (.cons (isBlank_of_isDigit digit))]

theorem year?_of_spaced {year : Int} {cs : List Char} (form : Spaced (YearForm year) cs)
    (stops : Stops Decimal.isDigit rest) : year? (cs ++ rest) = some (year, rest) := by
  obtain ⟨blanks, text, rfl, blank, form⟩ := form
  cases form with
  | @unsigned n ds value short =>
      have read := limited?_append value short stops
      obtain ⟨c, cs, rfl, digit⟩ := Decimal.exists_cons_of_value? value
      have plus : c ≠ '+' := by rintro rfl; exact absurd digit (by decide)
      have minus : c ≠ '-' := by rintro rfl; exact absurd digit (by decide)
      rw [List.cons_append] at read
      rw [year?, List.append_assoc, List.cons_append,
        skipBlanks_append blank (.cons (isBlank_of_isDigit digit))]
      simp [plus, minus, read]
  | positive value =>
      rw [year?, List.append_assoc, List.cons_append, skipBlanks_append blank (.cons (by decide))]
      simp [unlimited?_append value stops]
  | negative value =>
      rw [year?, List.append_assoc, List.cons_append, skipBlanks_append blank (.cons (by decide))]
      simp [unlimited?_append value stops]

end Reading

/-! ## Nothing else is read -/

section Read

variable {n width : Nat} {cs rest : List Char}

theorem exists_of_skipBlanks (cs : List Char) :
    ∃ blanks, cs = blanks ++ skipBlanks cs ∧ ∀ c ∈ blanks, isBlank c :=
  ⟨cs.takeWhile isBlank, List.takeWhile_append_dropWhile.symm, fun _ => List.mem_takeWhile_imp⟩

theorem form_of_limited? (read : limited? width cs = some (n, rest)) :
    ∃ ds, cs = ds ++ rest ∧ Decimal.value? ds = some n ∧ ds.length ≤ width := by
  obtain ⟨_, value, same⟩ := Option.map_eq_some_iff.mp read
  cases same
  have front : (cs.take width).takeWhile Decimal.isDigit <+: cs :=
    (List.takeWhile_prefix _).trans (List.take_prefix _ _)
  refine ⟨_, (List.prefix_iff_eq_append.mp front).symm, value, ?_⟩
  exact le_trans (List.takeWhile_prefix _).length_le (List.length_take_le _ _)

theorem form_of_unlimited? (read : unlimited? cs = some (n, rest)) :
    ∃ ds, cs = ds ++ rest ∧ Decimal.value? ds = some n := by
  obtain ⟨_, value, same⟩ := Option.map_eq_some_iff.mp read
  cases same
  exact ⟨_, List.takeWhile_append_dropWhile.symm, value⟩

theorem spaced_of_limited? (read : limited? 2 (skipBlanks cs) = some (n, rest)) :
    ∃ text, cs = text ++ rest ∧ Spaced (ShortForm n) text := by
  obtain ⟨blanks, whole, blank⟩ := exists_of_skipBlanks cs
  obtain ⟨ds, behind, form⟩ := form_of_limited? read
  refine ⟨blanks ++ ds, ?_, blanks, ds, rfl, blank, form⟩
  rw [List.append_assoc, ← behind]
  exact whole

theorem spaced_of_year? {year : Int} (read : year? cs = some (year, rest)) :
    ∃ text, cs = text ++ rest ∧ Spaced (YearForm year) text := by
  obtain ⟨blanks, whole, blank⟩ := exists_of_skipBlanks cs
  have spaced {text : List Char} (behind : skipBlanks cs = text ++ rest)
      (form : YearForm year text) : ∃ text, cs = text ++ rest ∧ Spaced (YearForm year) text := by
    refine ⟨blanks ++ text, ?_, blanks, text, rfl, blank, form⟩
    rw [List.append_assoc, ← behind]
    exact whole
  rw [year?] at read
  split at read
  all_goals
    obtain ⟨⟨n, left⟩, digits, same⟩ := Option.map_eq_some_iff.mp read
    cases same
  · rename_i behind
    obtain ⟨ds, rfl, value⟩ := form_of_unlimited? digits
    exact spaced behind (.negative value)
  · rename_i behind
    obtain ⟨ds, rfl, value⟩ := form_of_unlimited? digits
    exact spaced behind (.positive value)
  · obtain ⟨ds, behind, value, short⟩ := form_of_limited? digits
    exact spaced behind (.unsigned value short)

theorem eq_cons_of_hyphen? (read : Layout.tight.hyphen? cs = some rest) : cs = '-' :: rest := by
  rw [Layout.hyphen?, Layout.skip] at read
  split at read
  · cases read
    rfl
  · cases read

end Read

theorem of?_eq_some_iff {year : Int} {month day : Nat} {d : Date} :
    of? year month day = some d ↔ d.year = year ∧ d.month = month ∧ d.day = day := by
  constructor
  · intro made
    rw [of?] at made
    split at made
    · cases made
      exact ⟨rfl, rfl, rfl⟩
    · cases made
  · rintro ⟨rfl, rfl, rfl⟩
    exact of?_eq_some d

theorem ofChars?_eq_some_iff {cs : List Char} {d : Date} :
    ofChars? .tight cs = some d ↔ d.Form cs := by
  have hyphen (cs : List Char) : Stops Decimal.isDigit ('-' :: cs) := .cons (by decide)
  constructor
  · intro read
    simp only [ofChars?, Option.bind_eq_bind, Option.bind_eq_some_iff, Prod.exists] at read
    obtain ⟨year, cs₁, yearRead, cs₂, first, month, cs₃, monthRead, cs₄, second, day, cs₅,
      dayRead, last⟩ := read
    split at last
    · rename_i used_up
      obtain ⟨rfl, rfl, rfl⟩ := of?_eq_some_iff.mp last
      obtain ⟨yearText, rfl, yearForm⟩ := spaced_of_year? yearRead
      cases eq_cons_of_hyphen? first
      obtain ⟨monthText, rfl, monthForm⟩ := spaced_of_limited? monthRead
      cases eq_cons_of_hyphen? second
      obtain ⟨dayText, rfl, dayForm⟩ := spaced_of_limited? dayRead
      cases List.isEmpty_iff.mp used_up
      exact ⟨yearText, monthText, dayText, by simp, yearForm, monthForm, dayForm⟩
    · cases last
  · rintro ⟨year, month, day, rfl, yearForm, monthForm, dayForm⟩
    have dayRead := limited?_of_spaced dayForm .nil
    rw [List.append_nil] at dayRead
    simp [ofChars?, year?_of_spaced yearForm (hyphen _), hyphen?_cons,
      limited?_of_spaced monthForm (hyphen _), dayRead, Layout.skip]

/-- A text is read as a date exactly when it is a way to write it. -/
theorem ofText?_eq_some_iff {s : String} {d : Date} :
    ofText? .tight s = some d ↔ d.Form s.toList :=
  ofChars?_eq_some_iff

end Date

end HotelBooking
