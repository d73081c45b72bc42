import HotelBooking.Client.Exchange
import HotelBooking.Proofs.Text.Blank
import HotelBooking.Proofs.Text.Percent

/-!
# Addresses below a base

A base names a server if what stands behind it is asked of that server as it is. For a text of
letters, digits, hyphens and slashes it is enough that the root of the interface is: nothing in
such a text is escaped, moves in the path or ends it.
-/

namespace HotelBooking.Http

open Text (Stops splitOn cutAt)

/-- The characters of the paths below the root of an interface. -/
def isPathChar (c : Char) : Bool :=
  Decimal.isDigit c || ('a' ≤ c && c ≤ 'z') || c = '-' || c = '/'

section PathChar

variable {c : Char}

/-- What holds of those characters of ASCII holds of all. -/
theorem of_isPathChar {P : Char → Prop}
    (all : ∀ n : Fin 128, isPathChar (Char.ofNat n) → P (Char.ofNat n)) (h : isPathChar c) :
    P c := by
  have ascii : c.toNat < 128 := by
    simp only [isPathChar, Bool.or_eq_true, Bool.and_eq_true, decide_eq_true_eq] at h
    rcases h with ((digit | ⟨-, letter⟩) | rfl) | rfl
    · simp only [Decimal.isDigit, Decimal.digit?] at digit
      split at digit
      · omega
      · cases digit
    · have : c.toNat ≤ 'z'.toNat := letter
      exact Nat.lt_of_le_of_lt this (by decide)
    · decide
    · decide
  have same : Char.ofNat c.toNat = c := Char.ofNat_toNat c
  rw [← same] at h ⊢
  exact all ⟨c.toNat, ascii⟩ h

theorem isUnsafeInPath_of_isPathChar (h : isPathChar c) : Target.isUnsafeInPath c = false :=
  of_isPathChar (P := fun c => Target.isUnsafeInPath c = false) (by decide) h

/-- No such character is passed over, wherever it stands in a URL. -/
theorem kept_of_isPathChar (h : isPathChar c) :
    ¬ c.toNat ≤ 0x20 ∧ c ≠ '\t' ∧ c ≠ '\n' ∧ c ≠ '\r' :=
  of_isPathChar (P := fun c => ¬ c.toNat ≤ 0x20 ∧ c ≠ '\t' ∧ c ≠ '\n' ∧ c ≠ '\r') (by decide) h

theorem not_mem_of_isPathChar {cs : List Char} (plain : ∀ c ∈ cs, isPathChar c) {d : Char}
    (other : isPathChar d = false) : d ∉ cs := by
  intro member
  rw [plain d member] at other
  cases other

end PathChar

/-- The root of an interface, as characters. -/
def rootChars : List Char := "/api/v1".toList

theorem isPathChar_rootChars : ∀ c ∈ rootChars, isPathChar c :=
  List.all_eq_true.mp (by decide)

namespace Target

variable {r : List Char}

/-! ## The path -/

/-- Segments of such characters do not move. -/
theorem isMove_of_isPathChar {s : List Char} (plain : ∀ c ∈ s, isPathChar c) :
    isMove s = false := by
  have same : dots s = s := by
    induction s with
    | nil => rfl
    | cons c s ih =>
        have percent : c ≠ '%' := by
          rintro rfl
          exact absurd (plain '%' List.mem_cons_self) (by decide)
        rw [dots.eq_def]
        split
        · exact absurd (List.head_eq_of_cons_eq ‹_›) percent
        · exact absurd (List.head_eq_of_cons_eq ‹_›) percent
        · rename_i same
          cases same
          rw [ih fun d member => plain d (List.mem_cons_of_mem c member)]
        · cases ‹_›
  have dot : '.' ∉ s := not_mem_of_isPathChar plain (by decide)
  simp only [isMove, same, Bool.or_eq_false_iff, decide_eq_false_iff_not]
  constructor
  · rintro rfl
    exact dot List.mem_cons_self
  · rintro rfl
    exact dot List.mem_cons_self

/-- Once a segment that stays has been passed, nothing before it is touched any more. -/
theorem resolve_append {front back : List (List Char)} {s : List Char} (stays : isMove s = false)
    (h : ∀ s ∈ back, isMove s = false) (passed : List (List Char)) :
    resolve passed (front ++ s :: back) = resolve passed (front ++ [s]) ++ back := by
  induction front generalizing passed with
  | nil =>
      have all : ∀ t ∈ s :: back, isMove t = false := by
        rintro t (_ | ⟨_, later⟩)
        · exact stays
        · exact h t later
      have alone : ∀ t ∈ [s], isMove t = false := by
        rintro t (_ | ⟨_, ⟨⟩⟩)
        exact stays
      rw [List.nil_append, List.nil_append, resolve_of_forall all, resolve_of_forall alone,
        List.append_assoc]
      rfl
  | cons t front ih =>
      rw [List.cons_append, List.cons_append, resolve, resolve]
      have more (xs : List (List Char)) : (front ++ s :: xs).isEmpty = false := by simp
      simp only [more, Bool.false_eq_true, if_false]
      split <;> exact ih _

/-- The segments of a text that is empty or begins with a slash. -/
def segmentsOf (r : List Char) : List (List Char) :=
  if r.isEmpty then [] else splitOn '/' (r.drop 1)

/-- The text of a path that no base comes before. -/
structure IsPath (r : List Char) : Prop where
  plain : ∀ c ∈ r, isPathChar c
  begins : r = [] ∨ ∃ r', r = '/' :: r'

theorem IsPath.nil : IsPath [] :=
  ⟨nofun, .inl rfl⟩

theorem IsPath.plain_of_mem (h : IsPath r) {s : List Char} (member : s ∈ segmentsOf r) :
    ∀ c ∈ s, isPathChar c := by
  unfold segmentsOf at member
  split at member
  · cases member
  · exact fun c inside => h.plain c (List.mem_of_mem_drop (Text.mem_of_mem_splitOn member c inside))

theorem IsPath.flatMap_segmentsOf (h : IsPath r) :
    ((segmentsOf r).flatMap fun s => '/' :: Text.Percent.encode isUnsafeInPath s) = r := by
  have same : ∀ s ∈ segmentsOf r, '/' :: Text.Percent.encode isUnsafeInPath s = '/' :: s := by
    intro s member
    rw [Text.Percent.encode_of_forall fun c inside =>
      isUnsafeInPath_of_isPathChar (h.plain_of_mem member c inside)]
  rw [List.flatMap_def, List.map_congr_left same, ← List.flatMap_def]
  rcases h.begins with rfl | ⟨r, rfl⟩
  · rfl
  · exact Text.flatMap_splitOn '/' r

/-- The segments of a path in two parts. -/
theorem exists_segments (front : List Char) :
    ∃ segments : List (List Char), ∀ r, IsPath r →
      urlPath (front ++ (rootChars ++ r)) =
        (resolve [] (segments ++ "v1".toList :: segmentsOf r)).flatMap
          fun s => '/' :: Text.Percent.encode isUnsafeInPath s := by
  let slashed : List Char := front.map (fun c => if c = '\\' then '/' else c) ++ "/api".toList
  refine ⟨splitOn '/' (if slashed.head? = some '/' then slashed.drop 1 else slashed), fun r h => ?_⟩
  have same : r.map (fun c => if c = '\\' then '/' else c) = r := by
    refine (List.map_congr_left fun c member => ?_).trans (List.map_id r)
    rw [if_neg, id]
    rintro rfl
    exact absurd (h.plain _ member) (by decide)
  have whole : (front ++ (rootChars ++ r)).map (fun c => if c = '\\' then '/' else c) =
      slashed ++ '/' :: ("v1".toList ++ r) := by
    rw [List.map_append, List.map_append, same]
    simp [slashed, rootChars]
  have some_front : slashed ≠ [] := by simp [slashed]
  have split_r : splitOn '/' ("v1".toList ++ r) = "v1".toList :: segmentsOf r := by
    rcases h.begins with rfl | ⟨r, rfl⟩
    · rfl
    · rw [Text.splitOn_append]
      rfl
  unfold urlPath
  simp only [whole, List.head?_append_of_ne_nil _ some_front]
  split
  · rw [List.drop_append_of_le_length (List.length_pos_iff.mpr some_front), Text.splitOn_append,
      split_r]
  · rw [Text.splitOn_append, split_r]

/-- What is behind a segment of such characters is sent as it is. -/
theorem urlPath_append {front r : List Char} (h : IsPath r) :
    urlPath (front ++ (rootChars ++ r)) = urlPath (front ++ rootChars) ++ r := by
  obtain ⟨segments, split⟩ := exists_segments front
  have nothing := split [] .nil
  rw [List.append_nil] at nothing
  have stays : isMove "v1".toList = false := by decide
  rw [split r h,
    resolve_append stays fun s member => isMove_of_isPathChar (h.plain_of_mem member),
    List.flatMap_append, h.flatMap_segmentsOf, nothing]
  rfl

/-! ## The whole URL -/

theorem IsPath.not_mem (h : IsPath r) {c : Char} (other : isPathChar c = false) :
    c ∉ rootChars ++ r := by
  rw [List.mem_append, not_or]
  exact ⟨not_mem_of_isPathChar isPathChar_rootChars other, not_mem_of_isPathChar h.plain other⟩

/-- Neither mark of a URL's end stands in such a path. -/
theorem parts_append {front : List Char} (whole : '#' ∉ front) (asks : '?' ∉ front) (h : IsPath r) :
    parts (front ++ (rootChars ++ r)) = (front ++ (rootChars ++ r), none) := by
  have absent {c : Char} (absent : c ∉ front) (other : isPathChar c = false) :
      c ∉ front ++ (rootChars ++ r) := by
    rw [List.mem_append, not_or]
    exact ⟨absent, h.not_mem other⟩
  rw [parts, Text.cutAt_of_not_mem (absent whole (by decide)),
    Text.cutAt_of_not_mem (absent asks (by decide))]

theorem ofUrlPart_append {front : List Char} (whole : '#' ∉ front) (h : IsPath r)
    (root : ofUrlPart (front ++ rootChars) = { path := String.ofList rootChars }) :
    ofUrlPart (front ++ (rootChars ++ r)) = { path := String.ofList (rootChars ++ r) } := by
  have asks : '?' ∉ front := by
    intro member
    obtain ⟨a, b, rfl, first⟩ := List.eq_append_cons_of_mem member
    have absent : '#' ∉ a ++ '?' :: b ++ rootChars := by
      rw [List.mem_append, not_or]
      exact ⟨whole, by decide⟩
    rw [ofUrlPart, parts, Text.cutAt_of_not_mem absent, List.append_assoc, List.cons_append,
      Text.cutAt_append first] at root
    cases congrArg Target.query root
  have at_root := parts_append whole asks .nil
  rw [List.append_nil] at at_root
  have path := congrArg Target.path root
  simp only [ofUrlPart, at_root, String.ofList_inj] at path
  simp only [ofUrlPart, parts_append whole asks h, urlPath_append h, path, Option.map_none]

/-- What is passed over in a URL stands in front of the path, in the base. -/
theorem exists_cleaned (base : List Char) :
    ∃ front, (∀ c ∈ front, c ∈ base) ∧ ∀ r, IsPath r →
      cleaned (String.ofList (base ++ (rootChars ++ r))) = front ++ (rootChars ++ r) := by
  refine ⟨(base.dropWhile fun c => c.toNat ≤ 0x20).filter fun c => c ≠ '\t' ∧ c ≠ '\n' ∧ c ≠ '\r',
    fun c member => (List.dropWhile_sublist _).subset (List.mem_of_mem_filter member),
    fun r h => ?_⟩
  have plain : ∀ c ∈ rootChars ++ r, isPathChar c := by
    intro c member
    rcases List.mem_append.mp member with front | back
    · exact isPathChar_rootChars c front
    · exact h.plain c back
  have some_path : rootChars ++ r ≠ [] := by simp [rootChars]
  have stops : Stops (fun c => decide (c.toNat ≤ 0x20)) (rootChars ++ r) := .cons (by decide)
  have kept : (rootChars ++ r).filter (fun c => c ≠ '\t' ∧ c ≠ '\n' ∧ c ≠ '\r') = rootChars ++ r :=
    List.filter_eq_self.mpr fun c member => by simpa using (kept_of_isPathChar (plain c member)).2
  rw [cleaned, String.toList_ofList, Text.stripBoth_eq, stops.dropWhile_append,
    List.rdropWhile_eq_self_iff.mpr, List.filter_append, kept]
  intro some_text
  rw [List.getLast_append_of_ne_nil _ some_path]
  simpa using (kept_of_isPathChar (plain _ (List.getLast_mem some_path))).1

theorem exists_behindScheme? {front : List Char}
    (root : (behindScheme? (front ++ rootChars)).isSome) :
    ∃ rest, (∀ c ∈ rest, c ∈ front) ∧ ∀ r, IsPath r →
      behindScheme? (front ++ (rootChars ++ r)) =
        some ((rest ++ (rootChars ++ r)).dropWhile fun c => c = '/' || c = '\\') := by
  have colon : ':' ∈ front := by
    by_contra absent
    have none_there : ':' ∉ front ++ rootChars := by
      rw [List.mem_append, not_or]
      exact ⟨absent, by decide⟩
    rw [behindScheme?, Text.cutAt_of_not_mem none_there] at root
    cases root
  obtain ⟨scheme, rest, rfl, first⟩ := List.eq_append_cons_of_mem colon
  have cut (r : List Char) : behindScheme? (scheme ++ ':' :: rest ++ (rootChars ++ r)) =
      if ["http", "https"].contains (String.ofList (scheme.map Char.toLower)) then
        some ((rest ++ (rootChars ++ r)).dropWhile fun c => c = '/' || c = '\\')
      else none := by
    rw [behindScheme?, List.append_assoc, List.cons_append, Text.cutAt_append first]
    simp only [Option.bind_eq_bind, Option.bind_some, guard]
    split <;> rfl
  have ofWeb : ["http", "https"].contains (String.ofList (scheme.map Char.toLower)) := by
    by_contra other
    have at_root := cut []
    rw [List.append_nil, if_neg other] at at_root
    rw [at_root] at root
    cases root
  refine ⟨rest, fun c member => by simp [member], fun r _ => ?_⟩
  rw [cut, if_pos ofWeb]

section Base

variable {base : List Char}
  (root : ofUrl? (String.ofList (base ++ rootChars)) = some { path := String.ofList rootChars })

include root

/-- The server's name ends where the path begins, whatever path that is. -/
theorem exists_server :
    ∃ server : List Char, (∀ c ∈ server, c ∈ base) ∧ ∀ r, IsPath r →
      ofUrl? (String.ofList (base ++ (rootChars ++ r))) =
        if Authority.isReachable (server.takeWhile fun c => !endsAuthority c) then
          some (ofUrlPart (server.dropWhile (fun c => !endsAuthority c) ++ (rootChars ++ r)))
        else none := by
  obtain ⟨front, inBase, clean⟩ := exists_cleaned base
  have at_root := clean [] .nil
  rw [List.append_nil] at at_root
  have schemed : (behindScheme? (front ++ rootChars)).isSome := by
    rw [ofUrl?, at_root] at root
    cases behind : behindScheme? (front ++ rootChars) with
    | none =>
        rw [behind] at root
        cases root
    | some _ => rfl
  obtain ⟨rest, inFront, behind⟩ := exists_behindScheme? schemed
  -- Without a name of its own the server would be named by the first segment of the path.
  have named : rest.dropWhile (fun c => c = '/' || c = '\\') ≠ [] := by
    intro unnamed
    have path := behind [] .nil
    rw [List.append_nil, List.dropWhile_append, unnamed] at path
    rw [ofUrl?, at_root, path] at root
    exact absurd root (by decide)
  refine ⟨rest.dropWhile fun c => c = '/' || c = '\\',
    fun c member => inBase c (inFront c ((List.dropWhile_sublist _).subset member)),
    fun r h => ?_⟩
  have stops : Stops (fun c => !endsAuthority c) (rootChars ++ r) := .cons (by decide)
  rw [ofUrl?, clean r h, behind r h, List.dropWhile_append, if_neg (by simpa using named)]
  simp only [Option.bind_eq_bind, Option.bind_some, guard, stops.takeWhile_append,
    stops.dropWhile_append]
  split <;> rfl

/-- What is asked of a server whose base asks for the root of its interface. -/
theorem ofUrl?_append (whole : '#' ∉ base) (h : IsPath r) :
    ofUrl? (String.ofList (base ++ (rootChars ++ r))) =
      some { path := String.ofList (rootChars ++ r) } := by
  obtain ⟨server, inBase, authority⟩ := exists_server root
  have at_root := authority [] .nil
  rw [List.append_nil, root] at at_root
  have reachable : Authority.isReachable (server.takeWhile fun c => !endsAuthority c) := by
    by_contra unreachable
    rw [if_neg unreachable] at at_root
    cases at_root
  rw [if_pos reachable, Option.some_inj] at at_root
  have unmarked : '#' ∉ server.dropWhile fun c => !endsAuthority c :=
    fun member => whole (inBase _ ((List.dropWhile_sublist _).subset member))
  rw [authority r h, if_pos reachable, ofUrlPart_append unmarked h at_root.symm]

end Base

end Target

end HotelBooking.Http
