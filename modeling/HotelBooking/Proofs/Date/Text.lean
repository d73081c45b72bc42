import HotelBooking.Date.Text
import HotelBooking.Proofs.Date.Calendar
import HotelBooking.Proofs.Text.Blank
import HotelBooking.Proofs.Text.Decimal

/-!
# The text of dates is read back

In either layout: the text of a date has no blanks, and its numbers have exactly the digits that
the reader of each may take. A year of more than four digits has a sign, behind which any number
of digits is taken.
-/

namespace HotelBooking.Date

open Text (Stops)

theorem isBlank_of_isDigit {c : Char} (digit : Decimal.isDigit c) : Text.isBlank c = false := by
  have range : 48 ≤ c.toNat ∧ c.toNat ≤ 57 := by
    simp only [Decimal.isDigit, Decimal.digit?] at digit
    split at digit
    · assumption
    · exact absurd digit (by decide)
  simp only [Text.isBlank, Bool.or_eq_false_iff, Bool.and_eq_false_iff, decide_eq_false_iff_not,
    beq_eq_false_iff_ne]
  omega

section Numbers

variable {width n : Nat} {cs : List Char}

/-- A number of as many digits as may be taken. -/
theorem limited?_padded (pos : 0 < width) (fits : n < 10 ^ width) :
    limited? width (Decimal.padded width n ++ cs) = some (n, cs) := by
  have long := Decimal.length_padded pos fits
  have taken := Text.takeWhile_append
    (@Decimal.isDigit_of_mem_padded width n) .nil
  rw [List.append_nil] at taken
  simp only [limited?, List.take_left' long, taken, Decimal.value?_padded, Option.map_some,
    List.drop_left' rfl]

theorem unlimited?_padded (stops : Stops Decimal.isDigit cs) :
    unlimited? (Decimal.padded width n ++ cs) = some (n, cs) := by
  rw [unlimited?, Text.takeWhile_append Decimal.isDigit_of_mem_padded stops,
    Text.dropWhile_append Decimal.isDigit_of_mem_padded stops, Decimal.value?_padded]
  rfl

theorem exists_padded_eq_cons (pos : 0 < width) (fits : n < 10 ^ width) :
    ∃ c cs, Decimal.padded width n = c :: cs ∧ Decimal.isDigit c := by
  have long := Decimal.length_padded pos fits
  obtain ⟨c, cs, written⟩ := List.exists_cons_of_length_pos (long ▸ pos)
  exact ⟨c, cs, written, Decimal.isDigit_of_mem_padded c (written ▸ List.mem_cons_self)⟩

/-- No blanks are passed over in front of a number. -/
theorem skipBlanks_padded (pos : 0 < width) (fits : n < 10 ^ width) :
    skipBlanks (Decimal.padded width n ++ cs) = Decimal.padded width n ++ cs := by
  obtain ⟨c, cs, written, digit⟩ := exists_padded_eq_cons pos fits
  rw [written]
  exact Stops.dropWhile (.cons (isBlank_of_isDigit digit))

end Numbers

theorem year?_yearChars (year : Int) {cs : List Char} (stops : Stops Decimal.isDigit cs) :
    year? (yearChars year ++ cs) = some (year, cs) := by
  match year with
  | .negSucc n =>
      change (unlimited? (Decimal.padded 4 (n + 1) ++ cs)).map _ = _
      rw [unlimited?_padded stops]
      rfl
  | .ofNat n =>
      rw [yearChars]
      split_ifs with short
      · have fits : n < 10 ^ 4 := by omega
        obtain ⟨c, ds, written, digit⟩ := exists_padded_eq_cons (by decide) fits
        have plus : c ≠ '+' := by rintro rfl; exact absurd digit (by decide)
        have minus : c ≠ '-' := by rintro rfl; exact absurd digit (by decide)
        have read : limited? 4 (Decimal.padded 4 n ++ cs) = some (n, cs) :=
          limited?_padded (by decide) fits
        rw [year?, skipBlanks_padded (by decide) fits]
        rw [written, List.cons_append] at read ⊢
        simp [plus, minus, read]
      · change (unlimited? (Decimal.padded 4 n ++ cs)).map _ = _
        rw [unlimited?_padded stops]
        rfl

theorem hyphen?_cons (layout : Layout) (cs : List Char) :
    layout.hyphen? ('-' :: cs) = some cs := by
  cases layout <;> rfl

@[simp] theorem ofText?_toText (layout : Layout) (d : Date) : ofText? layout d.toText = some d := by
  obtain ⟨-, -, -, month, day, last⟩ := d.real
  have days := daysInMonth_le d.year d.month
  have hyphen (cs : List Char) : Stops Decimal.isDigit ('-' :: cs) := .cons (by decide)
  have year := year?_yearChars d.year
    (hyphen (Decimal.padded 2 d.month ++ '-' :: Decimal.padded 2 d.day))
  have monthFits : d.month < 10 ^ 2 := by omega
  have dayFits : d.day < 10 ^ 2 := by omega
  have dayRead : limited? 2 (Decimal.padded 2 d.day ++ []) = some (d.day, []) :=
    limited?_padded (by decide) dayFits
  have daySkip : skipBlanks (Decimal.padded 2 d.day ++ []) = Decimal.padded 2 d.day ++ [] :=
    skipBlanks_padded (by decide) dayFits
  rw [List.append_nil] at dayRead daySkip
  have done : layout.skip [] = [] := by cases layout <;> rfl
  rw [ofText?, toText, String.toList_ofList, ofChars?, chars, List.append_assoc, List.cons_append,
    year]
  simp [hyphen?_cons, skipBlanks_padded (show 0 < 2 by decide) monthFits,
    limited?_padded (show 0 < 2 by decide) monthFits, daySkip, dayRead, done]

/-! ## The text has no blanks -/

theorem isBlank_of_mem_padded {width n : Nat} :
    ∀ c ∈ Decimal.padded width n, Text.isBlank c = false :=
  fun c member => isBlank_of_isDigit (Decimal.isDigit_of_mem_padded c member)

theorem isBlank_of_mem_yearChars (year : Int) : ∀ c ∈ yearChars year, Text.isBlank c = false := by
  have signed {sign : Char} {n : Nat} (plain : Text.isBlank sign = false) :
      ∀ c ∈ sign :: Decimal.padded 4 n, Text.isBlank c = false :=
    List.forall_mem_cons.mpr ⟨plain, isBlank_of_mem_padded⟩
  match year with
  | .negSucc n => exact signed (by decide)
  | .ofNat n =>
      rw [yearChars]
      split_ifs
      · exact isBlank_of_mem_padded
      · exact signed (by decide)

@[simp] theorem trim_toText (d : Date) : Text.trim d.toText = d.toText := by
  apply Text.trim_of_forall
  rw [toText, String.toList_ofList, chars]
  simp only [List.forall_mem_append, List.forall_mem_cons]
  exact ⟨⟨isBlank_of_mem_yearChars d.year, by decide, isBlank_of_mem_padded⟩, by decide,
    isBlank_of_mem_padded⟩

end HotelBooking.Date
