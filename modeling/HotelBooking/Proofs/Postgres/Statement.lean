import HotelBooking.Postgres.Statement
import HotelBooking.Proofs.Text.Decimal
import HotelBooking.Proofs.Text.Percent

/-!
# What the text of a statement assigns

A server is sent the text of a statement and its numbered parameters, and nothing else.
`assigned` reads back from these which column gets which value: in an insertion by position, in
an update by the equations behind `SET` and `WHERE`. For every statement whose names are plain,
that is what the statement was made of.
-/

namespace HotelBooking.Postgres

/-! ## Words -/

/-- Whether a character only stands between the words of a statement. -/
def isBetween (c : Char) : Bool :=
  c == ' ' || c == ',' || c == '(' || c == ')'

def wordsOf (cs : List Char) : List String :=
  ((Text.splitOn ' ' (cs.map fun c => if isBetween c then ' ' else c)).filter (· ≠ [])).map
    String.ofList

/-- The words of a text, in order. -/
def words (text : String) : List String :=
  wordsOf text.toList

section Words

variable {cs ds : List Char} {a b lit s : String}

theorem wordsOf_append_cons {c : Char} (between : isBetween c) :
    wordsOf (cs ++ c :: ds) = wordsOf cs ++ wordsOf ds := by
  simp [wordsOf, between, Text.splitOn_append]

theorem wordsOf_append_of_head? (front : ds.head?.any isBetween) :
    wordsOf (cs ++ ds) = wordsOf cs ++ wordsOf ds := by
  cases ds with
  | nil => cases front
  | cons c ds =>
      have alone : wordsOf ([] ++ c :: ds) = wordsOf ds := wordsOf_append_cons front
      rw [wordsOf_append_cons front, ← alone, List.nil_append]

theorem wordsOf_append_of_getLast? (back : cs.getLast?.any isBetween) :
    wordsOf (cs ++ ds) = wordsOf cs ++ wordsOf ds := by
  rcases cs.eq_nil_or_concat with rfl | ⟨cs, c, rfl⟩
  · cases back
  · have between : isBetween c := by simpa using back
    have alone : wordsOf (cs ++ [c]) = wordsOf cs := by
      rw [wordsOf_append_cons between]
      exact List.append_nil _
    rw [List.concat_eq_append, alone, List.append_assoc, List.singleton_append,
      wordsOf_append_cons between]

/-- A text that begins and ends between words. -/
def isApart (lit : String) : Bool :=
  lit.toList.head?.any isBetween && lit.toList.getLast?.any isBetween

theorem words_around (lit a b : String) (apart : isApart lit) :
    words (a ++ lit ++ b) = words a ++ words lit ++ words b := by
  obtain ⟨front, back⟩ := (Bool.and_eq_true ..).mp apart
  have text : (a ++ lit ++ b).toList = a.toList ++ (lit.toList ++ b.toList) := by simp
  rw [words, text, wordsOf_append_of_head?, wordsOf_append_of_getLast? back, ← List.append_assoc]
  · rfl
  · cases text : lit.toList with
    | nil => simp [text] at front
    | cons c cs => simpa [text] using front

theorem words_behind (lit b : String) (back : lit.toList.getLast?.any isBetween) :
    words (lit ++ b) = words lit ++ words b := by
  rw [words, String.toList_append, wordsOf_append_of_getLast? back]
  rfl

theorem words_of_solid (filled : s ≠ "") (solid : ∀ c ∈ s.toList, isBetween c = false) :
    words s = [s] := by
  have same : s.toList.map (fun c => if isBetween c then ' ' else c) = s.toList :=
    (List.map_congr_left fun c member => by simp [solid c member]).trans (List.map_id _)
  have whole : Text.splitOn ' ' s.toList = [s.toList] :=
    Text.splitOn_of_not_mem fun blank => absurd (solid ' ' blank) (by decide)
  have some_text : s.toList ≠ [] := fun none => filled (String.toList_eq_nil_iff.mp none)
  rw [words, wordsOf, same, whole]
  simp [some_text]

/-- Words with commas between them. -/
theorem words_commas (parts : List String) :
    words (Statement.commas parts) = parts.flatMap words := by
  induction parts with
  | nil => rfl
  | cons p ps ih =>
      cases ps with
      | nil => simp [Statement.commas]
      | cons q qs =>
          have text :
              Statement.commas (p :: q :: qs) = p ++ ", " ++ Statement.commas (q :: qs) := by
            simp [Statement.commas, String.intercalate_cons_cons]
          have comma : words ", " = [] := by decide
          rw [text, words_around ", " _ _ (by decide), comma, List.append_nil, ih,
            ← List.flatMap_cons]

theorem flatMap_words {parts : List String} (single : ∀ s ∈ parts, words s = [s]) :
    parts.flatMap words = parts := by
  induction parts with
  | nil => rfl
  | cons s parts ih =>
      obtain ⟨first, others⟩ := List.forall_mem_cons.mp single
      rw [List.flatMap_cons, first, ih others]
      rfl

end Words

/-! ## Names and places -/

/-- The characters of names: small letters, digits and underscores. -/
def isNameChar (c : Char) : Bool :=
  c.isLower || c.isDigit || c == '_'

/-- Whether a text may name a table or a column. -/
def isName (s : String) : Bool :=
  s != "" && s.toList.all isNameChar

/-- What keeps off four characters keeps off all that stand between words. -/
theorem isBetween_eq_false {P : Char → Prop} {c : Char} (h : P c)
    (off : ¬ P ' ' ∧ ¬ P ',' ∧ ¬ P '(' ∧ ¬ P ')') : isBetween c = false := by
  rw [← Bool.not_eq_true]
  intro between
  simp only [isBetween, Bool.or_eq_true, beq_iff_eq] at between
  rcases between with ((rfl | rfl) | rfl) | rfl
  · exact off.1 h
  · exact off.2.1 h
  · exact off.2.2.1 h
  · exact off.2.2.2 h

section Names

variable {s : String}

theorem words_of_name (name : isName s) : words s = [s] := by
  simp only [isName, Bool.and_eq_true, bne_iff_ne, List.all_eq_true] at name
  exact words_of_solid name.1 fun c member =>
    isBetween_eq_false (P := (isNameChar ·)) (name.2 c member) (by decide)

/-- A keyword is no name. -/
theorem ne_of_name {keyword : String} (name : isName s) (keyword_not : isName keyword = false) :
    s ≠ keyword := by
  rintro rfl
  exact absurd (name.symm.trans keyword_not) (by decide)

end Names

theorem toList_placeholder (n : Nat) :
    (Statement.placeholder n).toList = '$' :: Decimal.digits n := by
  simp [Statement.placeholder, Decimal.ofNat]

theorem placeholder_ne (n : Nat) {s : String} (other : s.toList.head? ≠ some '$') :
    Statement.placeholder n ≠ s := by
  rintro rfl
  rw [toList_placeholder] at other
  exact other rfl

theorem words_placeholder (n : Nat) :
    words (Statement.placeholder n) = [Statement.placeholder n] := by
  refine words_of_solid (fun none => ?_) fun c member => ?_
  · have := toList_placeholder n
    rw [none] at this
    cases this
  · rw [toList_placeholder] at member
    rcases List.mem_cons.mp member with rfl | digit
    · decide
    · exact isBetween_eq_false (P := (Decimal.isDigit ·)) (Decimal.isDigit_of_mem_digits c digit)
        (by decide)

theorem placeholder_inj {m n : Nat} (same : Statement.placeholder m = Statement.placeholder n) :
    m = n := by
  have digits := congrArg String.toList same
  rw [toList_placeholder, toList_placeholder, List.cons.injEq] at digits
  have value := congrArg Decimal.value? digits.2
  rw [Decimal.value?_digits, Decimal.value?_digits] at value
  exact Option.some.inj value

/-! ## Reading a text back -/

namespace Statement

/-- The columns and places that stand on the two sides of an equation. -/
def equations : List String → List (String × String)
  | column :: "=" :: place :: rest => (column, place) :: equations rest
  | _ :: rest => equations rest
  | [] => []

/-- The columns of a text, each with the place of the parameter that it is assigned. -/
def placed : List String → List (String × String)
  | "INSERT" :: "INTO" :: _ :: rest =>
    (rest.takeWhile (· ≠ "VALUES")).zip
      (((rest.dropWhile (· ≠ "VALUES")).drop 1).takeWhile (· ≠ "RETURNING"))
  | "UPDATE" :: _ :: "SET" :: rest => equations rest
  | _ => []

/-- The parameter that a place stands for. -/
def valueAt? (params : List Value) (place : String) : Option Value :=
  ((params.zipIdx 1).find? fun p => placeholder p.2 == place).map Prod.fst

/-- What the text of a statement, with its parameters, assigns to columns. -/
def assigned (s : Statement) : List (String × Option Value) :=
  (placed (words s.sql)).map fun p => (p.1, valueAt? s.params p.2)

theorem valueAt?_placeholder (params : List Value) (i : Nat) :
    valueAt? params (placeholder (i + 1)) = params[i]? := by
  have search (k : Nat) (params : List Value) (i : Nat) :
      ((params.zipIdx k).find? fun p => placeholder p.2 == placeholder (k + i)).map Prod.fst =
        params[i]? := by
    induction params generalizing k i with
    | nil => rfl
    | cons v vs ih =>
        cases i with
        | zero => simp
        | succ i =>
            have other : placeholder k ≠ placeholder (k + (i + 1)) := fun same => by
              have := placeholder_inj same
              omega
            have behind := ih (k + 1) i
            rw [List.zipIdx_cons, List.find?_cons_of_neg (by simpa using other)]
            simpa [Nat.add_assoc, Nat.add_comm 1] using behind
  rw [Nat.add_comm i 1]
  exact search 1 params i

/-! ### Insertions and updates -/

/-- The names that an insertion or an update mentions. -/
def names : Statement → List String
  | insert table values returning => table :: (values.map Prod.fst ++ returning)
  | update table key values returning => table :: key.1 :: (values.map Prod.fst ++ returning)
  | select .. | slice .. | count _ => []

/-- The columns of values with their places, which are counted from `n`. -/
def placesFrom (n : Nat) (values : Row) : List (String × String) :=
  (values.zipIdx n).map fun p => (p.1.1, placeholder p.2)

theorem zip_places (values : Row) :
    (values.map Prod.fst).zip ((List.range values.length).map fun i => placeholder (i + 1)) =
      placesFrom 1 values := by
  apply List.ext_getElem
  · simp [placesFrom]
  · intro i _ _
    simp [placesFrom, Nat.add_comm]

/-- Behind the values in front, every column has its own value. -/
theorem map_placesFrom (front : List Value) (values : Row) :
    (placesFrom (front.length + 1) values).map
        (fun p => (p.1, valueAt? (front ++ values.map Prod.snd) p.2)) =
      values.map fun v => (v.1, some v.2) := by
  apply List.ext_getElem
  · simp [placesFrom]
  · intro i _ _
    have place : front.length + 1 + i = (front.length + i) + 1 := by omega
    have bound : i < values.length := by simpa using ‹i < (values.map _).length›
    simp [placesFrom, place, valueAt?_placeholder, bound]

theorem equations_placed (pairs : List (String × String)) (rest : List String) :
    equations (pairs.flatMap (fun p => [p.1, "=", p.2]) ++ rest) = pairs ++ equations rest := by
  induction pairs with
  | nil => rfl
  | cons p pairs ih => exact congrArg (p :: ·) ih

theorem equations_of_ne {ws : List String} (none : ∀ w ∈ ws, w ≠ "=") : equations ws = [] := by
  induction ws with
  | nil => rfl
  | cons w ws ih =>
      obtain ⟨-, none⟩ := List.forall_mem_cons.mp none
      rw [equations, ih none]
      rintro place rest rfl
      exact none "=" List.mem_cons_self rfl

section Plain

variable {table : String} {key : String × Value} {values : Row} {returning : List String}

theorem words_insert (plain : ∀ s ∈ (insert table values returning).names, isName s) :
    words (insert table values returning).sql =
      "INSERT" :: "INTO" :: table :: (values.map Prod.fst ++
        "VALUES" :: (((List.range values.length).map fun i => placeholder (i + 1)) ++
        "RETURNING" :: returning)) := by
  simp only [names, List.forall_mem_cons, List.forall_mem_append] at plain
  obtain ⟨named, columns, shown⟩ := plain
  have text : (insert table values returning).sql =
      "INSERT INTO " ++ table ++ " (" ++ commas (values.map Prod.fst) ++ ") VALUES (" ++
        commas ((List.range values.length).map fun i => placeholder (i + 1)) ++ ") RETURNING " ++
        commas returning := rfl
  have into : words "INSERT INTO " = ["INSERT", "INTO"] := by decide
  have opening : words " (" = [] := by decide
  have between : words ") VALUES (" = ["VALUES"] := by decide
  have closing : words ") RETURNING " = ["RETURNING"] := by decide
  rw [text, words_around ") RETURNING " _ _ (by decide), words_around ") VALUES (" _ _ (by decide),
    words_around " (" _ _ (by decide), words_behind "INSERT INTO " _ (by decide), words_commas,
    words_commas, words_commas, flatMap_words, flatMap_words, flatMap_words, words_of_name named,
    into, opening, between, closing]
  · simp
  · exact fun c member => words_of_name (shown c member)
  · simp [words_placeholder]
  · exact fun c member => words_of_name (columns c member)

/-- An insertion, read back from its text, puts every value where it was to go. -/
theorem assigned_insert (plain : ∀ s ∈ (insert table values returning).names, isName s) :
    (insert table values returning).assigned = values.map fun v => (v.1, some v.2) := by
  have text := words_insert plain
  simp only [names, List.forall_mem_cons, List.forall_mem_append] at plain
  have columns : ∀ c ∈ values.map Prod.fst, decide (c ≠ "VALUES") = true := fun c member =>
    decide_eq_true (ne_of_name (plain.2.1 c member) (by decide))
  have places : ∀ p ∈ (List.range values.length).map fun i => placeholder (i + 1),
      decide (p ≠ "RETURNING") = true := by
    simpa using fun i _ => placeholder_ne (i + 1) (by decide)
  have read : placed (words (insert table values returning).sql) = placesFrom 1 values := by
    rw [text, placed, List.takeWhile_append_of_pos columns, List.dropWhile_append_of_pos columns,
      List.takeWhile_cons_of_neg (by decide), List.dropWhile_cons_of_neg (by decide),
      List.drop_one, List.tail_cons, List.takeWhile_append_of_pos places,
      List.takeWhile_cons_of_neg (by decide), List.append_nil, List.append_nil, zip_places]
  rw [assigned, read]
  exact map_placesFrom [] values

theorem words_update (plain : ∀ s ∈ (update table key values returning).names, isName s) :
    words (update table key values returning).sql =
      "UPDATE" :: table :: "SET" ::
        ((placesFrom 2 values).flatMap (fun p => [p.1, "=", p.2]) ++
        "WHERE" :: key.1 :: "=" :: placeholder 1 :: "RETURNING" :: returning) := by
  simp only [names, List.forall_mem_cons, List.forall_mem_append] at plain
  obtain ⟨named, keyed, columns, shown⟩ := plain
  have text : (update table key values returning).sql =
      "UPDATE " ++ table ++ " SET " ++
        commas ((values.zipIdx 2).map fun p => p.1.1 ++ " = " ++ placeholder p.2) ++
        " WHERE " ++ key.1 ++ " = " ++ placeholder 1 ++ " RETURNING " ++ commas returning := rfl
  have equals : words " = " = ["="] := by decide
  have clauses :
      ((values.zipIdx 2).map fun p => p.1.1 ++ " = " ++ placeholder p.2).flatMap words =
        (placesFrom 2 values).flatMap fun p => [p.1, "=", p.2] := by
    rw [placesFrom, List.flatMap_map, List.flatMap_map]
    refine List.flatMap_congr fun p member => ?_
    have column := columns p.1.1 (List.mem_map_of_mem (List.fst_mem_of_mem_zipIdx member))
    rw [words_around " = " _ _ (by decide), words_of_name column, words_placeholder, equals]
    rfl
  have updating : words "UPDATE " = ["UPDATE"] := by decide
  have setting : words " SET " = ["SET"] := by decide
  have choosing : words " WHERE " = ["WHERE"] := by decide
  have closing : words " RETURNING " = ["RETURNING"] := by decide
  rw [text, words_around " RETURNING " _ _ (by decide), words_around " = " _ _ (by decide),
    words_around " WHERE " _ _ (by decide), words_around " SET " _ _ (by decide),
    words_behind "UPDATE " _ (by decide), words_commas, words_commas, clauses, flatMap_words,
    words_of_name named, words_of_name keyed, words_placeholder, updating, setting, choosing,
    equals, closing]
  · simp
  · exact fun c member => words_of_name (shown c member)

/-- An update, read back from its text, puts every value where it was to go, in the row of its
key. -/
theorem assigned_update (plain : ∀ s ∈ (update table key values returning).names, isName s) :
    (update table key values returning).assigned =
      (values ++ [key]).map fun v => (v.1, some v.2) := by
  have text := words_update plain
  simp only [names, List.forall_mem_cons, List.forall_mem_append] at plain
  obtain ⟨-, keyed, -, shown⟩ := plain
  have others : ∀ w ∈ "RETURNING" :: returning, w ≠ "=" :=
    List.forall_mem_cons.mpr ⟨by decide, fun c member => ne_of_name (shown c member) (by decide)⟩
  have read : placed (words (update table key values returning).sql) =
      placesFrom 2 values ++ [(key.1, placeholder 1)] := by
    have behind :
        equations ("WHERE" :: key.1 :: "=" :: placeholder 1 :: "RETURNING" :: returning) =
          [(key.1, placeholder 1)] := by
      rw [equations, equations, equations_of_ne others]
      intro place rest same
      exact ne_of_name keyed (by decide) (List.cons.inj same).1
    rw [text, placed, equations_placed, behind]
  rw [assigned, read, List.map_append, List.map_append]
  refine congrArg₂ (· ++ ·) (map_placesFrom [key.2] values) ?_
  exact congrArg (fun v => [(key.1, v)]) (valueAt?_placeholder _ 0)

-- It is the text that is read: with its places exchanged it would assign otherwise.
example :
    placed (words "UPDATE payment SET status = $3, price = $2 WHERE payment_uid = $1") =
      [("status", "$3"), ("price", "$2"), ("payment_uid", "$1")] := by
  decide +kernel

end Plain

end Statement

end HotelBooking.Postgres
