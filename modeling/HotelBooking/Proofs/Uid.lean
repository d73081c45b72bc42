import HotelBooking.Proofs.Text.Blank
import HotelBooking.Uid
import Mathlib.Algebra.GroupWithZero.Nat

/-!
# The text of identifiers

An identifier is read back from its text. The text has no blanks at its ends, so it is
read back from a path as well.
-/

namespace HotelBooking.Uid

/-- Hyphens that were put between groups are taken away. -/
theorem unhyphenate?_hyphenate {n : Nat} {ns : List Nat} {cs : List Char}
    (fits : cs.length = n + ns.sum) :
    unhyphenate? (n :: ns) (hyphenate (n :: ns) cs) = some cs := by
  induction ns generalizing n cs with
  | nil =>
      have : cs.length = n := fits
      simp [hyphenate, unhyphenate?, this.symm]
  | cons m ns ih =>
      have short : n ≤ cs.length := by
        simp only [List.sum_cons] at fits
        omega
      have rest : (cs.drop n).length = m + ns.sum := by
        simp only [List.sum_cons] at fits
        rw [List.length_drop]
        omega
      have front : (cs.take n).length = n := List.length_take_of_le short
      rw [hyphenate, unhyphenate?, List.drop_left' front]
      simp only [ih rest, List.take_left' front, Option.map_some, List.take_append_drop]

theorem ofHex?_lower (u : Uid) : ofHex? (u.digits.map Hex.lower) = some u := by
  have read : (u.digits.map Hex.lower).mapM Hex.value? = some u.digits := by
    induction u.digits with
    | nil => rfl
    | cons d ds ih => simp [Hex.value?_lower, ih]
  rw [ofHex?, read]
  exact dif_pos u.length_digits

theorem length_chars (u : Uid) : u.chars.length = 36 := by
  have : (u.digits.map Hex.lower).length = 32 := by
    rw [List.length_map, u.length_digits]
  simp [chars, groups, hyphenate, this]

@[simp] theorem ofText?_toText (u : Uid) : ofText? u.toText = some u := by
  have grouped : unhyphenate? groups u.chars = some (u.digits.map Hex.lower) := by
    apply unhyphenate?_hyphenate
    rw [List.length_map, u.length_digits]
    rfl
  rw [ofText?, toText, String.toList_ofList, ofChars?]
  simp [length_chars, ofGrouped?, grouped, ofHex?_lower]

theorem mem_hyphenate {ns : List Nat} {cs : List Char} {c : Char} (member : c ∈ hyphenate ns cs) :
    c ∈ cs ∨ c = '-' := by
  induction ns, cs using hyphenate.induct with
  | case1 cs => simp [hyphenate] at member
  | case2 n cs => exact .inl (List.mem_of_mem_take member)
  | case3 n m ns cs ih =>
      simp only [hyphenate, List.mem_append, List.mem_cons] at member
      rcases member with front | rfl | rest
      · exact .inl (List.mem_of_mem_take front)
      · exact .inr rfl
      · exact (ih rest).imp_left List.mem_of_mem_drop

/-- The text is of hexadecimal digits and hyphens. -/
theorem forall_mem_chars {P : Char → Prop} (digit : ∀ d, P (Hex.lower d)) (hyphen : P '-')
    (u : Uid) : ∀ c ∈ u.chars, P c := by
  intro c member
  rcases mem_hyphenate member with written | rfl
  · obtain ⟨d, -, rfl⟩ := List.mem_map.mp written
    exact digit d
  · exact hyphen

@[simp] theorem trim_toText (u : Uid) : Text.trim u.toText = u.toText := by
  apply Text.trim_of_forall
  rw [toText, String.toList_ofList]
  exact u.forall_mem_chars (by decide) (by decide)

end HotelBooking.Uid
