import HotelBooking.Proofs.Text.Decimal
import HotelBooking.Text.Percent

/-!
# Texts without escapes

A text without percent signs is what it says, in a path and, unless it has plus signs, in a form.
What is cut or split at a character comes apart where that character was put.
-/

namespace HotelBooking.Text

variable {sep : Char} {cs ds : List Char}

/-! ## Escapes -/

namespace Percent

theorem symbols_of_not_mem (plain : '%' ∉ cs) : symbols cs = cs.map .char := by
  induction cs with
  | nil => rfl
  | cons c cs ih =>
      rw [List.mem_cons, not_or] at plain
      rw [symbols.eq_2 _ _ fun _ _ _ same => absurd same.symm plain.1, ih plain.2, List.map_cons]

theorem decode_char (cs : List Char) : Symbol.decode none (cs.map .char) = cs.map some := by
  induction cs with
  | nil => rfl
  | cons c cs ih =>
      rw [List.map_cons, Symbol.decode]
      simp [Symbol.next, ih]

theorem decode?_of_not_mem {s : String} (plain : '%' ∉ s.toList) : decode? s = some s := by
  have whole (cs : List Char) : (cs.map some).mapM id = some cs := by
    induction cs with
    | nil => rfl
    | cons c cs ih => simp [ih]
  rw [decode?, symbols_of_not_mem plain, Symbol.strict?, decode_char, whole, Option.map_some,
    String.ofList_toList]

theorem decodeForm_of_not_mem (plain : '%' ∉ cs) (solid : '+' ∉ cs) :
    decodeForm cs = String.ofList cs := by
  have same : cs.map (fun c => if c = '+' then ' ' else c) = cs := by
    refine (List.map_congr_left fun c member => ?_).trans (List.map_id cs)
    rw [if_neg (ne_of_mem_of_not_mem member solid), id]
  rw [decodeForm, same, symbols_of_not_mem plain, Symbol.lossy, decode_char, List.map_map]
  simp [Function.comp_def]

end Percent

/-! ## Cutting and splitting -/

theorem cutAt_of_not_mem (absent : sep ∉ cs) : cutAt sep cs = (cs, none) := by
  have all : ∀ c ∈ cs, decide (c ≠ sep) = true := by
    intro c member
    simpa using ne_of_mem_of_not_mem member absent
  have rest := dropWhile_append all .nil
  rw [List.append_nil] at rest
  rw [cutAt, rest]

theorem cutAt_append (absent : sep ∉ cs) : cutAt sep (cs ++ sep :: ds) = (cs, some ds) := by
  have all : ∀ c ∈ cs, decide (c ≠ sep) = true := by
    intro c member
    simpa using ne_of_mem_of_not_mem member absent
  have stops : Stops (fun c => decide (c ≠ sep)) (sep :: ds) := .cons (by simp)
  rw [cutAt, dropWhile_append all stops, takeWhile_append all stops]

theorem splitOn_ne_nil (sep : Char) (cs : List Char) : splitOn sep cs ≠ [] := by
  cases cs with
  | nil => exact List.cons_ne_nil _ _
  | cons c cs =>
      rw [splitOn]
      split
      · exact List.cons_ne_nil _ _
      · split <;> exact List.cons_ne_nil _ _

theorem splitOn_of_not_mem (absent : sep ∉ cs) : splitOn sep cs = [cs] := by
  induction cs with
  | nil => rfl
  | cons c cs ih =>
      rw [List.mem_cons, not_or] at absent
      rw [splitOn, if_neg (Ne.symm absent.1), ih absent.2]

theorem splitOn_append (sep : Char) (cs ds : List Char) :
    splitOn sep (cs ++ sep :: ds) = splitOn sep cs ++ splitOn sep ds := by
  induction cs with
  | nil => simp [splitOn]
  | cons c cs ih =>
      rw [List.cons_append, splitOn, splitOn]
      split
      · rw [ih]; rfl
      · rw [ih]
        obtain ⟨p, ps, parts⟩ := List.exists_cons_of_ne_nil (splitOn_ne_nil sep cs)
        rw [parts]
        rfl

/-- The parts of a text are of its characters, the separators apart. -/
theorem mem_of_mem_splitOn {p : List Char} (part : p ∈ splitOn sep cs) : ∀ c ∈ p, c ∈ cs := by
  induction cs generalizing p with
  | nil =>
      rw [List.mem_singleton.mp part]
      exact fun _ => id
  | cons d cs ih =>
      rw [splitOn] at part
      split at part
      · rcases List.mem_cons.mp part with rfl | later
        · exact fun _ => nofun
        · exact fun c member => List.mem_cons_of_mem d (ih later c member)
      · obtain ⟨q, qs, parts⟩ := List.exists_cons_of_ne_nil (splitOn_ne_nil sep cs)
        rw [parts] at part ih
        intro c member
        rcases List.mem_cons.mp part with rfl | later
        · rcases List.mem_cons.mp member with rfl | behind
          · exact List.mem_cons_self
          · exact List.mem_cons_of_mem d (ih List.mem_cons_self c behind)
        · exact List.mem_cons_of_mem d (ih (List.mem_cons_of_mem q later) c member)

/-- Put together again, each part behind a separator. -/
theorem flatMap_splitOn (sep : Char) (cs : List Char) :
    (splitOn sep cs).flatMap (sep :: ·) = sep :: cs := by
  induction cs with
  | nil => rfl
  | cons c cs ih =>
      rw [splitOn]
      split
      · rename_i same
        rw [List.flatMap_cons, ih, same]
        rfl
      · obtain ⟨p, ps, parts⟩ := List.exists_cons_of_ne_nil (splitOn_ne_nil sep cs)
        rw [parts] at ih ⊢
        simp only [List.flatMap_cons, List.cons_append, List.cons.injEq, true_and] at ih ⊢
        rw [ih]

end HotelBooking.Text
