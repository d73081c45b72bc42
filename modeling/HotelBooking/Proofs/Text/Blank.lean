import HotelBooking.Text.Blank
import Mathlib.Data.List.DropRight

/-!
# Trimming

What is trimmed once has no blanks at its ends, so trimming it again changes nothing.
-/

namespace HotelBooking.Text

variable {p : Char → Bool}

theorem stripBoth_eq (cs : List Char) : stripBoth p cs = (cs.dropWhile p).rdropWhile p := rfl

theorem dropWhile_stripBoth (cs : List Char) : (stripBoth p cs).dropWhile p = stripBoth p cs := by
  rw [List.dropWhile_eq_self_iff, stripBoth_eq]
  intro some_left
  have front := List.rdropWhile_prefix p (cs.dropWhile p)
  -- The first character left is the first one after the run that was dropped.
  rw [front.getElem some_left]
  exact List.dropWhile_eq_self_iff.mp (List.dropWhile_idempotent p cs) _

theorem stripBoth_stripBoth (cs : List Char) : stripBoth p (stripBoth p cs) = stripBoth p cs := by
  rw [stripBoth_eq, dropWhile_stripBoth, stripBoth_eq, List.rdropWhile_idempotent]

/-- What has been stripped of more characters has been stripped of fewer. -/
theorem stripBoth_of_narrower {q : Char → Bool} {cs : List Char} (stripped : stripBoth p cs = cs)
    (narrower : ∀ c, p c = false → q c = false) : stripBoth q cs = cs := by
  have front : cs.dropWhile p = cs := by
    have := dropWhile_stripBoth (p := p) cs
    rwa [stripped] at this
  have back : cs.rdropWhile p = cs := by rwa [stripBoth_eq, front] at stripped
  rw [List.dropWhile_eq_self_iff] at front
  rw [List.rdropWhile_eq_self_iff] at back
  have front' : cs.dropWhile q = cs := by
    rw [List.dropWhile_eq_self_iff]
    intro some_left
    simpa using narrower _ (by simpa using front some_left)
  have back' : cs.rdropWhile q = cs := by
    rw [List.rdropWhile_eq_self_iff]
    intro some_left
    simpa using narrower _ (by simpa using back some_left)
  rw [stripBoth_eq, front', back']

/-- Characters put at the ends that are stripped there leave no trace. -/
theorem stripBoth_append {front back cs : List Char} (before : ∀ c ∈ front, p c)
    (behind : ∀ c ∈ back, p c) : stripBoth p (front ++ cs ++ back) = stripBoth p cs := by
  rw [List.append_assoc, stripBoth_eq, List.dropWhile_append_of_pos before, stripBoth_eq,
    List.dropWhile_append]
  split_ifs with none_left
  · rw [List.isEmpty_iff.mp none_left, List.dropWhile_eq_nil_iff.mpr behind]
  · have behind : ∀ c ∈ back.reverse, p c := by simpa using behind
    rw [List.rdropWhile, List.rdropWhile, List.reverse_append, List.dropWhile_append_of_pos behind]

@[simp] theorem trim_trim (s : String) : trim (trim s) = trim s := by
  rw [trim, toList_trim, stripBoth_stripBoth, trim]

/-- The text with any blanks put at its ends. -/
def Padded (s t : String) : Prop :=
  ∃ front back : String, t = front ++ s ++ back ∧ (∀ c ∈ front.toList, isBlank c) ∧
    ∀ c ∈ back.toList, isBlank c

theorem trim_of_padded {s t : String} (padded : Padded s t) : trim t = trim s := by
  obtain ⟨front, back, rfl, before, behind⟩ := padded
  rw [trim, String.toList_append, String.toList_append, stripBoth_append before behind, trim]

/-- A text without blanks is trimmed. -/
theorem trim_of_forall {s : String} (h : ∀ c ∈ s.toList, isBlank c = false) : trim s = s := by
  have front : s.toList.dropWhile isBlank = s.toList := by
    rw [List.dropWhile_eq_self_iff]
    intro some_left
    simp [h _ (List.getElem_mem some_left)]
  have back : s.toList.rdropWhile isBlank = s.toList := by
    rw [List.rdropWhile_eq_self_iff]
    intro some_left
    simp [h _ (List.getLast_mem some_left)]
  rw [trim, stripBoth_eq, front, back, String.ofList_toList]

theorem isBlankText_trim (s : String) : isBlankText (trim s) = (trim s).isEmpty := by
  rw [isBlankText, trim_trim]

end HotelBooking.Text
