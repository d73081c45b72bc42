import HotelBooking.Json.Draft
import HotelBooking.Proofs.Text.Decimal

/-!
# Values that are written are read back

Reading the text of a value gives its draft: the whole value, undamaged. The text of an array or
an object is what its parts are written as, each in front of a comma or a closing bracket, so
everything is said of a text with more behind it. A numeral needs what is behind it to end it;
no other value looks that far.
-/

namespace HotelBooking

open Text (Stops)

namespace Draft

theorem spanDigits_append {ds rest : List Char} (digits : ∀ c ∈ ds, Decimal.isDigit c)
    (stops : Stops Decimal.isDigit rest) : spanDigits (ds ++ rest) = (ds, rest) := by
  rw [spanDigits, Text.takeWhile_append digits stops, Text.dropWhile_append digits stops]

/-! ## Numerals -/

/-- The characters that a numeral may go on with. -/
def goesOn (c : Char) : Bool :=
  Decimal.isDigit c || c = '.' || c = 'e' || c = 'E'

theorem whole?_digits (n : Nat) {rest : List Char} (stops : Stops Decimal.isDigit rest) :
    whole? (Decimal.digits n ++ rest) = some (n, rest) := by
  rw [whole?, spanDigits_append Decimal.isDigit_of_mem_digits stops]
  have unpadded : ¬ (1 < (Decimal.digits n).length ∧ (Decimal.digits n).head? = some '0') := by
    rintro ⟨long, zero⟩
    cases n with
    | zero =>
        rw [Decimal.digits, if_pos (by decide)] at long
        exact absurd long (by decide)
    | succ n => exact Decimal.head?_digits_ne n.succ_pos zero
  simp [unpadded, Decimal.value?_digits]

theorem fraction?_fractionChars (ds : List (Fin 10)) {rest : List Char}
    (noDigit : Stops Decimal.isDigit rest) (noPoint : Stops (· = '.') rest) :
    fraction? (Numeral.fractionChars ds ++ rest) = some (ds, rest) := by
  have digit (d : Fin 10) : Decimal.digit? (Decimal.digitChar d) = some d.val :=
    Decimal.digit?_digitChar d.isLt
  cases ds with
  | nil =>
      change fraction? rest = _
      rw [fraction?.eq_def]
      split
      · simpa using noPoint '.' rfl
      · rfl
  | cons d ds =>
      have written : ∀ c ∈ (d :: ds).map fun d : Fin 10 => Decimal.digitChar d.val,
          Decimal.isDigit c := by
        rintro _ member
        obtain ⟨d, -, rfl⟩ := List.mem_map.mp member
        exact Decimal.isDigit_digitChar d.isLt
      rw [Numeral.fractionChars, if_neg (by simp), List.cons_append, fraction?,
        spanDigits_append written noDigit]
      simp [List.filterMap_map, digit]

theorem exponent?_exponentChars (e : Option Int) {rest : List Char} (stops : Stops goesOn rest) :
    exponent? (Numeral.exponentChars e ++ rest) = some (e, rest) := by
  have noDigit : Stops Decimal.isDigit rest := stops.mono fun c h => by
    simp only [goesOn, Bool.or_eq_false_iff] at h
    exact h.1.1.1
  have span (n : Nat) : spanDigits (Decimal.digits n ++ rest) = (Decimal.digits n, rest) :=
    spanDigits_append Decimal.isDigit_of_mem_digits noDigit
  match e with
  | none =>
      cases rest with
      | nil => rfl
      | cons c rest =>
          have := stops c rfl
          simp only [goesOn, Bool.or_eq_false_iff, decide_eq_false_iff_not] at this
          simp [Numeral.exponentChars, exponent?, this.1.2, this.2]
  | some (.ofNat n) =>
      obtain ⟨c, cs, written, digit⟩ := Decimal.exists_digits_eq_cons n
      have plus : c ≠ '+' := by rintro rfl; exact absurd digit (by decide)
      have minus : c ≠ '-' := by rintro rfl; exact absurd digit (by decide)
      have span := span n
      rw [written, List.cons_append] at span
      have value := Decimal.value?_digits n
      rw [written] at value
      simp [Numeral.exponentChars, Decimal.signed, exponent?, written, plus, minus, span, value]
  | some (.negSucc n) =>
      simp [Numeral.exponentChars, Decimal.signed, exponent?, span, Decimal.value?_digits]
      omega

/-- Neither does an exponent look like more digits, nor what is behind it. -/
theorem stops_exponentChars (e : Option Int) {rest : List Char} (stops : Stops goesOn rest) :
    Stops (fun c => Decimal.isDigit c || c = '.') (Numeral.exponentChars e ++ rest) := by
  cases e with
  | none =>
      exact stops.mono fun c h => by
        simp only [goesOn, Bool.or_eq_false_iff] at h
        simp [h]
  | some e => exact .cons (by decide)

theorem stops_fractionChars (ds : List (Fin 10)) {rest : List Char}
    (stops : Stops Decimal.isDigit rest) :
    Stops Decimal.isDigit (Numeral.fractionChars ds ++ rest) := by
  cases ds with
  | nil => exact stops
  | cons d ds => exact .cons (by decide)

theorem numeral?_chars (n : Numeral) {rest : List Char} (stops : Stops goesOn rest) :
    numeral? (n.chars ++ rest) = some (n, rest) := by
  have ends := stops_exponentChars n.exponent stops
  have noDigit := ends.mono (q := Decimal.isDigit) fun c h => (Bool.or_eq_false_iff.mp h).1
  have noPoint := ends.mono (q := (· = '.')) fun c h => (Bool.or_eq_false_iff.mp h).2
  have unsigned := whole?_digits n.whole (stops_fractionChars n.fraction noDigit)
  have fraction := fraction?_fractionChars n.fraction noDigit noPoint
  have exponent := exponent?_exponentChars n.exponent stops
  obtain ⟨negative, whole, ds, e⟩ := n
  cases negative with
  | true =>
      simp only [Numeral.chars, if_true, List.append_assoc, List.cons_append, List.nil_append]
      simp [numeral?, unsigned, fraction, exponent]
  | false =>
      obtain ⟨c, cs, written, digit⟩ := Decimal.exists_digits_eq_cons whole
      have minus : c ≠ '-' := by rintro rfl; exact absurd digit (by decide)
      simp only [Numeral.chars, Bool.false_eq_true, if_false, List.append_assoc, List.nil_append]
      simp only [written, List.cons_append] at unsigned ⊢
      simp [numeral?, minus, unsigned, fraction, exponent]

/-! ## Strings -/

open Json (escape unicodeEscape)

theorem number?_padded : ∀ n : Fin 32, Hex.number? (Hex.padded Hex.lower 4 n) = some n.val := by
  decide

section Pieces

variable {c e x : Char} (cs : List Char)

theorem pieces_short (known : shortEscape? e = some x) :
    pieces ('\\' :: e :: cs) = (pieces cs).map fun (ps, rest) => (.char x :: ps, rest) := by
  have notUnit : e ≠ 'u' := by
    rintro rfl
    exact nomatch (show shortEscape? 'u' = none from rfl).symm.trans known
  rw [pieces.eq_def]
  simp only [Char.reduceEq, if_false, if_true, notUnit, known]
  cases pieces cs <;> rfl

theorem pieces_plain (quote : c ≠ '"') (backslash : c ≠ '\\') (control : ¬ c.toNat < 32) :
    pieces (c :: cs) = (pieces cs).map fun (ps, rest) => (.char c :: ps, rest) := by
  rw [pieces.eq_def]
  simp only [quote, backslash, control, if_false]
  cases pieces cs <;> rfl

theorem pieces_unit {h₁ h₂ h₃ h₄ : Char} {n : Nat} (read : Hex.number? [h₁, h₂, h₃, h₄] = some n) :
    pieces ('\\' :: 'u' :: h₁ :: h₂ :: h₃ :: h₄ :: cs) =
      (pieces cs).map fun (ps, rest) => (.unit n :: ps, rest) := by
  rw [pieces.eq_def]
  simp only [Char.reduceEq, if_false, if_true, read]
  cases pieces cs <;> rfl

theorem join?_unit (ps : List Piece) (control : c.toNat < 32) :
    join? (.unit c.toNat :: ps) = (join? ps).map (c :: ·) := by
  rw [join?.eq_def]
  simp only
  rw [if_pos (by omega), Char.ofNat_toNat]

end Pieces

/-- The escape of a character is read as one element, and that stands for the character. -/
theorem exists_piece (c : Char) :
    ∃ p : Piece,
      (∀ cs, pieces (escape c ++ cs) = (pieces cs).map fun (ps, rest) => (p :: ps, rest)) ∧
      ∀ ps, join? (p :: ps) = (join? ps).map (c :: ·) := by
  have named {n : Nat} (h : c.toNat = n) : Char.ofNat n = c := h ▸ Char.ofNat_toNat c
  unfold escape
  split_ifs with quote backslash b f n r t control
  · exact ⟨.char '"', fun cs => pieces_short cs rfl, fun _ => quote ▸ rfl⟩
  · exact ⟨.char '\\', fun cs => pieces_short cs rfl, fun _ => backslash ▸ rfl⟩
  · exact ⟨.char (Char.ofNat 8), fun cs => pieces_short cs rfl, fun _ => named b ▸ rfl⟩
  · exact ⟨.char (Char.ofNat 12), fun cs => pieces_short cs rfl, fun _ => named f ▸ rfl⟩
  · exact ⟨.char '\n', fun cs => pieces_short cs rfl, fun _ => n ▸ rfl⟩
  · exact ⟨.char '\r', fun cs => pieces_short cs rfl, fun _ => r ▸ rfl⟩
  · exact ⟨.char '\t', fun cs => pieces_short cs rfl, fun _ => t ▸ rfl⟩
  · exact ⟨.unit c.toNat, fun cs => pieces_unit cs (number?_padded ⟨_, control⟩),
      fun ps => join?_unit ps control⟩
  · exact ⟨.char c, fun cs => pieces_plain cs quote backslash control, fun _ => rfl⟩

theorem exists_pieces (cs : List Char) :
    ∃ ps, (∀ rest, pieces (cs.flatMap escape ++ '"' :: rest) = some (ps, rest)) ∧
      join? ps = some cs := by
  induction cs with
  | nil => exact ⟨[], fun rest => by rw [pieces.eq_def]; rfl, rfl⟩
  | cons c cs ih =>
      obtain ⟨p, read, stands⟩ := exists_piece c
      obtain ⟨ps, reads, stand⟩ := ih
      refine ⟨p :: ps, fun rest => ?_, ?_⟩
      · rw [List.flatMap_cons, List.append_assoc, read, reads]
        rfl
      · rw [stands, stand]
        rfl

/-- A string is read behind its opening quotation mark. -/
theorem text?_stringChars (s : String) (rest : List Char) :
    text? (s.toList.flatMap escape ++ '"' :: rest) = some (some s, rest) := by
  obtain ⟨ps, reads, stand⟩ := exists_pieces s.toList
  simp [text?, reads, stand]

end Draft

/-! ## Values -/

namespace Json

mutual

/-- The draft of a value, which is all there. -/
def draft : Json → Draft
  | null => .null
  | bool b => .bool b
  | number n => .number n
  | string s => .string (some s)
  | array items => .array (drafts items) true
  | object members => .object (memberDrafts members) true

def drafts : List Json → List Draft
  | [] => []
  | v :: vs => v.draft :: drafts vs

def memberDrafts : List (String × Json) → List (Option String × Draft)
  | [] => []
  | (k, v) :: ms => (some k, v.draft) :: memberDrafts ms

end

/-- A numeral begins with its sign or with a digit. -/
theorem exists_numeral_eq_cons (n : Numeral) :
    ∃ c cs, n.chars = c :: cs ∧ (c = '-' ∨ Decimal.isDigit c) := by
  obtain ⟨d, ds, written, digit⟩ := Decimal.exists_digits_eq_cons n.whole
  unfold Numeral.chars
  cases n.negative with
  | true => exact ⟨'-', _, rfl, .inl rfl⟩
  | false => exact ⟨d, _, by rw [written]; rfl, .inr digit⟩

/-- A value begins with neither a blank nor the end of an array. -/
theorem exists_chars_eq_cons (v : Json) :
    ∃ c cs, v.chars = c :: cs ∧ Draft.isSpace c = false ∧ c ≠ ']' := by
  match v with
  | null => exact ⟨_, _, rfl, by decide, by decide⟩
  | bool true => exact ⟨_, _, rfl, by decide, by decide⟩
  | bool false => exact ⟨_, _, rfl, by decide, by decide⟩
  | string s => exact ⟨_, _, rfl, by decide, by decide⟩
  | array [] => exact ⟨_, _, rfl, by decide, by decide⟩
  | array (v :: vs) => exact ⟨_, _, rfl, by decide, by decide⟩
  | object [] => exact ⟨_, _, rfl, by decide, by decide⟩
  | object (m :: ms) => exact ⟨_, _, rfl, by decide, by decide⟩
  | number n =>
      obtain ⟨c, cs, written, begins⟩ := exists_numeral_eq_cons n
      refine ⟨c, cs, by rw [chars, written], ?_, ?_⟩
      · rw [Bool.eq_false_iff]
        intro blank
        simp only [Draft.isSpace, Bool.or_eq_true, decide_eq_true_eq] at blank
        rcases blank with ((rfl | rfl) | rfl) | rfl <;> exact absurd begins (by decide)
      · rintro rfl
        exact absurd begins (by decide)

end Json

namespace Draft

open Json (draft drafts memberDrafts moreItems memberChars moreMembers)

theorem skipSpace_cons {c : Char} {cs : List Char} (h : isSpace c = false) :
    skipSpace (c :: cs) = c :: cs := by
  simp [skipSpace, h]

/-- No value of another kind begins like a numeral. -/
theorem value_of_numeral {fuel : Nat} {n : Numeral} {rest : List Char} (stops : Stops goesOn rest) :
    value (fuel + 1) (n.chars ++ rest) = (.number n, some rest) := by
  have read := numeral?_chars n stops
  obtain ⟨c, cs, written, begins⟩ := Json.exists_numeral_eq_cons n
  have blank : isSpace c = false := by
    obtain ⟨_, _, written', blank, -⟩ := Json.exists_chars_eq_cons (.number n)
    rw [Json.chars, written] at written'
    cases written'
    exact blank
  rw [written, List.cons_append] at read ⊢
  have begun {d : Char} {ds : List Char} (same : c :: (cs ++ rest) = d :: ds) :
      d = '-' ∨ Decimal.isDigit d := List.head_eq_of_cons_eq same ▸ begins
  rw [value, skipSpace_cons blank]
  split
  · exact absurd (begun ‹_›) (by decide)
  · exact absurd (begun ‹_›) (by decide)
  · exact absurd (begun ‹_›) (by decide)
  · exact absurd (begun ‹_›) (by decide)
  · exact absurd (begun ‹_›) (by decide)
  · exact absurd (begun ‹_›) (by decide)
  · rw [read]

/-- With this fuel, all that is written in so many characters is read. -/
structure Reads (fuel : Nat) : Prop where
  value : ∀ (v : Json) (rest : List Char), 2 * v.chars.length ≤ fuel → Stops goesOn rest →
    value fuel (v.chars ++ rest) = (v.draft, some rest)
  elements : ∀ (v : Json) (vs : List Json) (rest : List Char),
    2 * (v.chars ++ moreItems vs).length ≤ fuel →
    elements fuel (v.chars ++ (moreItems vs ++ rest)) = (drafts (v :: vs), some rest)
  entries : ∀ (m : String × Json) (ms : List (String × Json)) (rest : List Char),
    2 * (memberChars m ++ moreMembers ms).length ≤ fuel →
    entries fuel (memberChars m ++ (moreMembers ms ++ rest)) = (memberDrafts (m :: ms), some rest)

theorem stops_moreItems (vs : List Json) (rest : List Char) :
    Stops goesOn (moreItems vs ++ rest) := by
  cases vs <;> exact .cons (by decide)

theorem stops_moreMembers (ms : List (String × Json)) (rest : List Char) :
    Stops goesOn (moreMembers ms ++ rest) := by
  cases ms <;> exact .cons (by decide)

section Step

variable {fuel : Nat} (h : Reads fuel)

include h

theorem Reads.value_succ (v : Json) (rest : List Char) (enough : 2 * v.chars.length ≤ fuel + 1)
    (stops : Stops goesOn rest) :
    Draft.value (fuel + 1) (v.chars ++ rest) = (v.draft, some rest) := by
  cases v with
  | null => rfl
  | bool b => cases b <;> rfl
  | number n => exact value_of_numeral stops
  | string s =>
      rw [Json.chars, Json.stringChars, List.cons_append, List.cons_append, List.append_assoc,
        List.singleton_append, Draft.value, skipSpace_cons (by decide)]
      simp only [text?_stringChars]
      rfl
  | array vs =>
    cases vs with
    | nil => rfl
    | cons v vs =>
      simp only [Json.chars, List.cons_append, List.length_cons, List.length_append] at enough ⊢
      rw [List.append_assoc]
      have read := h.elements v vs rest (by simp only [List.length_append]; omega)
      obtain ⟨c, cs, written, blank, close⟩ := Json.exists_chars_eq_cons v
      rw [written, List.cons_append] at read ⊢
      rw [Draft.value, skipSpace_cons (by decide)]
      simp only [skipSpace_cons blank]
      split
      · exact absurd (List.head_eq_of_cons_eq ‹_›) close
      · rw [read]
        rfl
  | object ms =>
    cases ms with
    | nil => rfl
    | cons m ms =>
      simp only [Json.chars, List.cons_append, List.length_cons, List.length_append] at enough ⊢
      rw [List.append_assoc]
      have read := h.entries m ms rest (by simp only [List.length_append]; omega)
      obtain ⟨cs, written⟩ : ∃ cs, memberChars m ++ (moreMembers ms ++ rest) = '"' :: cs := by
        rw [memberChars]
        exact ⟨_, rfl⟩
      rw [written] at read ⊢
      rw [Draft.value, skipSpace_cons (by decide)]
      simp only [skipSpace_cons (show isSpace '"' = false from rfl)]
      split
      · exact absurd (List.head_eq_of_cons_eq ‹_›) (by decide)
      · rw [read]
        rfl

theorem Reads.elements_succ (v : Json) (vs : List Json) (rest : List Char)
    (enough : 2 * (v.chars ++ moreItems vs).length ≤ fuel + 1) :
    Draft.elements (fuel + 1) (v.chars ++ (moreItems vs ++ rest)) =
      (drafts (v :: vs), some rest) := by
  have first := h.value v (moreItems vs ++ rest)
  cases vs with
  | nil =>
      rw [Draft.elements, first _ (stops_moreItems [] rest)]
      · rfl
      · simp [moreItems] at enough
        omega
  | cons w ws =>
      simp only [moreItems, List.length_append, List.length_cons] at enough
      have later := h.elements w ws rest (by simp only [List.length_append]; omega)
      rw [Draft.elements, first (by omega) (stops_moreItems (w :: ws) rest)]
      simp only [moreItems, List.cons_append, skipSpace_cons (show isSpace ',' = false from rfl)]
      rw [List.append_assoc, later]
      rfl

theorem Reads.entries_succ (m : String × Json) (ms : List (String × Json)) (rest : List Char)
    (enough : 2 * (memberChars m ++ moreMembers ms).length ≤ fuel + 1) :
    Draft.entries (fuel + 1) (memberChars m ++ (moreMembers ms ++ rest)) =
      (memberDrafts (m :: ms), some rest) := by
  obtain ⟨k, v⟩ := m
  have first := h.value v (moreMembers ms ++ rest)
  have opened : memberChars (k, v) ++ (moreMembers ms ++ rest) =
      '"' :: (k.toList.flatMap Json.escape ++
        '"' :: ':' :: (v.chars ++ (moreMembers ms ++ rest))) := by
    simp [memberChars, Json.stringChars]
  rw [opened, Draft.entries, skipSpace_cons (by decide)]
  simp only [text?_stringChars, skipSpace_cons (show isSpace ':' = false from rfl)]
  simp only [memberChars, List.length_append, List.length_cons] at enough
  cases ms with
  | nil =>
      simp only [moreMembers, List.length_cons, List.length_nil] at enough
      rw [first (by omega) (stops_moreMembers [] rest)]
      rfl
  | cons m' ms =>
      simp only [moreMembers, List.length_append, List.length_cons] at enough
      have later := h.entries m' ms rest (by simp only [List.length_append]; omega)
      rw [first (by omega) (stops_moreMembers (m' :: ms) rest)]
      simp only [moreMembers, List.cons_append, skipSpace_cons (show isSpace ',' = false from rfl)]
      rw [List.append_assoc, later]
      rfl

end Step

theorem reads (fuel : Nat) : Reads fuel := by
  induction fuel with
  | zero =>
      have begun (v : Json) : 0 < v.chars.length := by
        obtain ⟨c, cs, written, -, -⟩ := Json.exists_chars_eq_cons v
        simp [written]
      constructor
      · intro v rest enough
        have := begun v
        omega
      · intro v vs rest enough
        have := begun v
        simp only [List.length_append] at enough
        omega
      · intro (k, v) ms rest enough
        have := begun v
        simp only [memberChars, List.length_append, List.length_cons] at enough
        omega
  | succ fuel ih => exact ⟨ih.value_succ, ih.elements_succ, ih.entries_succ⟩

/-- The text of a value is read to its end, as the draft of that value. -/
theorem ofText_render (v : Json) : ofText v.render = (v.draft, some []) := by
  have enough : 2 * v.chars.length ≤ 2 * v.render.toList.length + 1 := by
    rw [Json.render, String.toList_ofList]
    omega
  have read := (reads _).value v [] enough nofun
  rwa [List.append_nil, ← String.toList_ofList (l := v.chars)] at read

end Draft

end HotelBooking
