import HotelBooking.Proofs.Uid
import Mathlib.Data.List.Basic

/-!
# Which texts are identifiers

A text is read as an identifier exactly when it writes its thirty-two digits, in either case, in
one of four forms: the digits alone, in groups parted by hyphens, in such groups between braces,
or in such groups behind a scheme.
-/

namespace HotelBooking.Uid

variable {cs hs : List Char} {u : Uid}

/-- The characters are the digits of the identifier, in either case. -/
def Hexes (u : Uid) (hs : List Char) : Prop :=
  hs.map Hex.value? = u.digits.map some

/-- The ways to write an identifier. -/
inductive Form (u : Uid) : List Char → Prop
  | plain {hs : List Char} (hexes : u.Hexes hs) : Form u hs
  | grouped {hs : List Char} (hexes : u.Hexes hs) : Form u (hyphenate groups hs)
  | braced {hs : List Char} (hexes : u.Hexes hs) :
      Form u ('\x7b' :: (hyphenate groups hs ++ ['\x7d']))
  | schemed {hs front : List Char} (hexes : u.Hexes hs) (names : front.map Char.toLower = scheme) :
      Form u (front ++ hyphenate groups hs)

theorem Hexes.length (hexes : u.Hexes hs) : hs.length = 32 := by
  have := congrArg List.length hexes
  rwa [List.length_map, List.length_map, u.length_digits] at this

theorem length_hyphenate_groups (long : hs.length = 32) : (hyphenate groups hs).length = 36 := by
  simp [groups, hyphenate, long]

theorem mapM_eq_some_iff {α β : Type} {f : α → Option β} {as : List α} {bs : List β} :
    as.mapM f = some bs ↔ as.map f = bs.map some := by
  induction as generalizing bs with
  | nil => cases bs <;> simp
  | cons a as ih => cases bs <;> simp [Option.bind_eq_some_iff, ih]

theorem ofHex?_eq_some_iff : ofHex? cs = some u ↔ u.Hexes cs := by
  rw [Hexes, ← mapM_eq_some_iff, ofHex?]
  cases digits : cs.mapM Hex.value? with
  | none => simp
  | some ds =>
      obtain ⟨us, long⟩ := u
      simp only [Option.bind_eq_bind, Option.bind_some, Option.some.injEq]
      constructor
      · intro made
        split at made
        · cases made
          rfl
        · cases made
      · rintro rfl
        exact dif_pos long

/-- What is left of a text without its hyphens is that text, with hyphens, again. -/
theorem eq_hyphenate_of_unhyphenate? {n : Nat} {ns : List Nat}
    (parted : unhyphenate? (n :: ns) cs = some hs) :
    cs = hyphenate (n :: ns) hs ∧ hs.length = n + ns.sum := by
  induction ns generalizing n cs hs with
  | nil =>
      rw [unhyphenate?] at parted
      split at parted
      · rename_i long
        cases parted
        exact ⟨(List.take_of_length_le long.le).symm, long⟩
      · cases parted
  | cons m ns ih =>
      rw [unhyphenate?] at parted
      split at parted
      · rename_i rest hyphen
        obtain ⟨left, others, rfl⟩ := Option.map_eq_some_iff.mp parted
        obtain ⟨rfl, long⟩ := ih others
        have front : (cs.take n).length = n := by
          apply List.length_take_of_le
          by_contra short
          rw [List.drop_eq_nil_of_le (by omega)] at hyphen
          cases hyphen
        constructor
        · rw [hyphenate, List.take_left' front, List.drop_left' front, ← hyphen,
            List.take_append_drop]
        · rw [List.length_append, front, long, List.sum_cons]
      · cases parted

theorem ofGrouped?_eq_some_iff :
    ofGrouped? cs = some u ↔ ∃ hs, cs = hyphenate groups hs ∧ u.Hexes hs := by
  rw [ofGrouped?, Option.bind_eq_some_iff]
  constructor
  · rintro ⟨hs, parted, digits⟩
    exact ⟨hs, (eq_hyphenate_of_unhyphenate? parted).1, ofHex?_eq_some_iff.mp digits⟩
  · rintro ⟨hs, rfl, hexes⟩
    exact ⟨hs, unhyphenate?_hyphenate hexes.length, ofHex?_eq_some_iff.mpr hexes⟩

/-- The form follows from the length of the text. -/
theorem form_of_ofChars? (read : ofChars? cs = some u) : u.Form cs := by
  rw [ofChars?] at read
  split_ifs at read with plain braced schemed
  · exact .plain (ofHex?_eq_some_iff.mp read)
  · obtain ⟨-, opening, closing⟩ := braced
    obtain ⟨hs, inner, hexes⟩ := ofGrouped?_eq_some_iff.mp read
    cases cs with
    | nil => cases opening
    | cons c cs =>
        cases opening
        have nonempty : cs ≠ [] := by
          rintro rfl
          cases closing
        rw [List.getLast?_cons_of_ne_nil nonempty,
          List.getLast?_eq_some_getLast nonempty] at closing
        rw [List.drop_one, List.tail_cons] at inner
        rw [← List.dropLast_append_getLast nonempty, inner, Option.some.inj closing]
        exact .braced hexes
  · obtain ⟨hs, inner, hexes⟩ := ofGrouped?_eq_some_iff.mp read
    rw [← List.take_append_drop 9 cs, inner]
    exact .schemed hexes schemed.2
  · obtain ⟨hs, rfl, hexes⟩ := ofGrouped?_eq_some_iff.mp read
    exact .grouped hexes

theorem ofChars?_of_form (form : u.Form cs) : ofChars? cs = some u := by
  cases form with
  | plain hexes => rw [ofChars?, if_pos hexes.length, ofHex?_eq_some_iff.mpr hexes]
  | grouped hexes =>
      have long := length_hyphenate_groups hexes.length
      simp [ofChars?, long, ofGrouped?_eq_some_iff.mpr ⟨_, rfl, hexes⟩]
  | @braced hs hexes =>
      have long := length_hyphenate_groups hexes.length
      have closing : ('\x7b' :: (hyphenate groups hs ++ ['\x7d'])).getLast? = some '\x7d' := by
        rw [← List.cons_append, List.getLast?_concat]
      simp [ofChars?, long, closing, ofGrouped?_eq_some_iff.mpr ⟨_, rfl, hexes⟩]
  | @schemed hs front hexes names =>
      have long := length_hyphenate_groups hexes.length
      have nine : front.length = 9 := by
        rw [← List.length_map Char.toLower, names]
        rfl
      simp [ofChars?, long, nine, List.take_left' nine, List.drop_left' nine, names,
        ofGrouped?_eq_some_iff.mpr ⟨_, rfl, hexes⟩]

/-- A text is read as an identifier exactly when it is a way to write it. -/
theorem ofText?_eq_some_iff {s : String} : ofText? s = some u ↔ u.Form s.toList :=
  ⟨form_of_ofChars?, ofChars?_of_form⟩

end HotelBooking.Uid
