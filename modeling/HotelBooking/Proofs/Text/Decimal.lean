import HotelBooking.Text.Decimal
import Mathlib.Algebra.Group.Nat.Defs
import Mathlib.Data.List.Basic

/-!
# Runs of digits

A reader of numbers takes the run of digits at the front of a text. What is written in digits is
taken as a whole if no digit is behind it, and read as the number that was written, with leading
zeros or without.
-/

namespace HotelBooking

namespace Text

/-- The text does not begin with a character like this. -/
def Stops (p : Char → Bool) (cs : List Char) : Prop :=
  ∀ c ∈ cs.head?, p c = false

variable {p q : Char → Bool} {c : Char} {cs ds : List Char}

theorem Stops.nil : Stops p [] := nofun

theorem Stops.cons (h : p c = false) : Stops p (c :: cs) := by
  rintro _ ⟨⟩
  exact h

theorem Stops.mono (h : Stops p cs) (weaker : ∀ c, p c = false → q c = false) : Stops q cs :=
  fun c head => weaker c (h c head)

theorem Stops.takeWhile (h : Stops p cs) : cs.takeWhile p = [] := by
  cases cs with
  | nil => rfl
  | cons c cs => simp [h c rfl]

theorem Stops.dropWhile (h : Stops p cs) : cs.dropWhile p = cs := by
  cases cs with
  | nil => rfl
  | cons c cs => simp [h c rfl]

/-- A run that is in front of such a text ends with it. -/
theorem Stops.takeWhile_append (h : Stops p cs) : (ds ++ cs).takeWhile p = ds.takeWhile p := by
  induction ds with
  | nil => exact h.takeWhile
  | cons d ds ih => simp only [List.cons_append, List.takeWhile_cons, ih]

theorem Stops.dropWhile_append (h : Stops p cs) :
    (ds ++ cs).dropWhile p = ds.dropWhile p ++ cs := by
  induction ds with
  | nil => exact h.dropWhile
  | cons d ds ih =>
      simp only [List.cons_append, List.dropWhile_cons, ih]
      split <;> rfl

theorem takeWhile_append (all : ∀ d ∈ ds, p d) (stops : Stops p cs) :
    (ds ++ cs).takeWhile p = ds := by
  rw [List.takeWhile_append_of_pos all, stops.takeWhile, List.append_nil]

theorem dropWhile_append (all : ∀ d ∈ ds, p d) (stops : Stops p cs) :
    (ds ++ cs).dropWhile p = cs := by
  rw [List.dropWhile_append_of_pos all, stops.dropWhile]

end Text

namespace Decimal

theorem isDigit_digitChar {d : Nat} (h : d < 10) : isDigit (digitChar d) := by
  rw [isDigit, digit?_digitChar h]
  rfl

theorem isDigit_of_mem_digits {n : Nat} : ∀ c ∈ digits n, isDigit c := by
  fun_induction digits n with
  | case1 n small =>
      intro c member
      rw [List.mem_singleton.mp member]
      exact isDigit_digitChar small
  | case2 n _ ih =>
      intro c member
      rcases List.mem_append.mp member with front | last
      · exact ih c front
      · rw [List.mem_singleton.mp last]
        exact isDigit_digitChar (Nat.mod_lt n (by decide))

theorem exists_digits_eq_cons (n : Nat) : ∃ c cs, digits n = c :: cs ∧ isDigit c := by
  obtain ⟨c, cs, h⟩ := List.exists_cons_of_ne_nil (digits_ne_nil n)
  exact ⟨c, cs, h, isDigit_of_mem_digits c (h ▸ List.mem_cons_self)⟩

/-- Only zero itself is written with a zero in front. -/
theorem head?_digits_ne {n : Nat} (pos : 0 < n) : (digits n).head? ≠ some '0' := by
  fun_induction digits n with
  | case1 n small =>
      have : ∀ n : Fin 10, 0 < n.val → digitChar n.val ≠ '0' := by decide
      simpa using this ⟨n, small⟩ pos
  | case2 n large ih =>
      have front : 0 < n / 10 := Nat.div_pos (by omega) (by decide)
      rw [List.head?_append_of_ne_nil _ (digits_ne_nil _)]
      exact ih front

theorem length_digits_le {n width : Nat} (pos : 0 < width) (fits : n < 10 ^ width) :
    (digits n).length ≤ width := by
  fun_induction digits n generalizing width with
  | case1 n _ => exact pos
  | case2 n large ih =>
      obtain ⟨width, rfl⟩ := Nat.exists_eq_add_one.mpr pos
      cases width with
      | zero => omega
      | succ width =>
          have : (digits (n / 10)).length ≤ width + 1 :=
            ih width.succ_pos (by rw [Nat.pow_succ] at fits; omega)
          simp only [List.length_append, List.length_singleton]
          omega

@[simp] theorem toInt?_ofInt (n : Int) : toInt? (ofInt n) = some n := by
  rw [toInt?, ofInt, String.toList_ofList]
  match n with
  | .negSucc n => simp [signed, signedValue?, value?_digits, Int.negSucc_eq]
  | .ofNat n =>
      obtain ⟨c, cs, written, digit⟩ := exists_digits_eq_cons n
      have plus : c ≠ '+' := by rintro rfl; exact absurd digit (by decide)
      have minus : c ≠ '-' := by rintro rfl; exact absurd digit (by decide)
      have value := value?_digits n
      rw [written] at value
      simp [signed, written, signedValue?, plus, minus, value]

/-! ## With leading zeros -/

variable {width n : Nat}

theorem isDigit_of_mem_padded : ∀ c ∈ padded width n, isDigit c := by
  intro c member
  rcases List.mem_append.mp member with zero | digit
  · rw [List.eq_of_mem_replicate zero]
    decide
  · exact isDigit_of_mem_digits c digit

theorem value?_padded : value? (padded width n) = some n := by
  have zeros (k : Nat) : valueFrom? 0 (List.replicate k '0' ++ digits n) = some n := by
    induction k with
    | zero => exact valueFrom?_digits n
    | succ k ih => exact ih
  have read := zeros (width - (digits n).length)
  rw [← padded] at read
  have written : padded width n ≠ [] := by
    intro empty
    exact digits_ne_nil n (List.append_eq_nil_iff.mp empty).2
  cases h : padded width n with
  | nil => exact absurd h written
  | cons c cs =>
      rw [← read, h]
      rfl

theorem length_padded (pos : 0 < width) (fits : n < 10 ^ width) :
    (padded width n).length = width := by
  have := length_digits_le pos fits
  simp only [padded, List.length_append, List.length_replicate]
  omega

end Decimal

end HotelBooking
