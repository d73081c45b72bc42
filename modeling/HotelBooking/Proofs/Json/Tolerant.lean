import HotelBooking.Json.Wire
import HotelBooking.Proofs.Json.Numeral
import HotelBooking.Proofs.Json.Parsing
import HotelBooking.Proofs.Store.Rows
import Mathlib.Data.List.Forall2

/-!
# Reading what was rearranged and added to

A draft tells a value if it says what the value says, except that the members of an object may
come in any order and that there may be members of other names with whatever values, on every
level. Whoever sends a value may add to it what the reader does not know yet, and whatever
stands in between may sort its members.

A type is tolerant if its values are read from every draft that tells them. A record is: its
fields are looked for by name, and what has another name is passed over.
-/

namespace HotelBooking

open Json (draft drafts memberDrafts)

namespace Draft

/-- The draft says what the value says, up to the order of members and to members of other
names. -/
inductive Tells : Json → Draft → Prop where
  | null : Tells .null .null
  | bool (b : Bool) : Tells (.bool b) (.bool b)
  | number (n : Numeral) : Tells (.number n) (.number n)
  | string (s : String) : Tells (.string s) (.string (some s))
  | array {vs : List Json} {items : List Draft} (told : List.Forall₂ Tells vs items) :
      Tells (.array vs) (.array items true)
  | object {ms : List (String × Json)} {known foreign all : List (String × Draft)}
      (named : known.map Prod.fst = ms.map Prod.fst)
      (told : List.Forall₂ Tells (ms.map Prod.snd) (known.map Prod.snd))
      (unnamed : ∀ d ∈ foreign, d.1 ∉ ms.map Prod.fst)
      (complete : ∀ d ∈ foreign, d.2.wellFormed)
      (mixed : all.Perm (known ++ foreign)) :
      Tells (.object ms) (.object (all.map fun d => (some d.1, d.2)) true)

end Draft

namespace Json

theorem memberDrafts_eq_map (ms : List (String × Json)) :
    memberDrafts ms = (ms.map fun m => (m.1, m.2.draft)).map fun d => (some d.1, d.2) := by
  induction ms with
  | nil => rfl
  | cons m ms ih => rw [memberDrafts, ih, List.map_cons, List.map_cons]

mutual

/-- A value that nobody reads is passed over, whatever it is. -/
theorem wellFormed_draft : (v : Json) → v.draft.wellFormed
  | null | bool _ | number _ | string _ => rfl
  | array vs => by
      rw [draft, Draft.wellFormed, wellFormed_drafts vs, Bool.and_self]
  | object ms => by
      rw [draft, Draft.wellFormed, wellFormed_memberDrafts ms, Bool.and_self]

theorem wellFormed_drafts : (vs : List Json) → Draft.itemsWellFormed (drafts vs)
  | [] => rfl
  | v :: vs => by
      rw [drafts, Draft.itemsWellFormed, wellFormed_draft v, wellFormed_drafts vs, Bool.and_self]

theorem wellFormed_memberDrafts : (ms : List (String × Json)) →
    Draft.membersWellFormed (memberDrafts ms)
  | [] => rfl
  | (_, v) :: ms => by
      rw [memberDrafts, Draft.membersWellFormed, Draft.memberWellFormed, wellFormed_draft v,
        wellFormed_memberDrafts ms, Bool.and_self]

end

/-- The members of a value may come in another order, and any other members may be added. -/
theorem tells_object {ms known foreign all : List (String × Json)}
    (named : known.map Prod.fst = ms.map Prod.fst)
    (told : List.Forall₂ (fun v w => w.draft.Tells v) (ms.map Prod.snd) (known.map Prod.snd))
    (unnamed : ∀ m ∈ foreign, m.1 ∉ ms.map Prod.fst) (mixed : all.Perm (known ++ foreign)) :
    (object all).draft.Tells (object ms) := by
  have mixed' := mixed.map fun m : String × Json => (m.1, m.2.draft)
  rw [List.map_append] at mixed'
  rw [draft, memberDrafts_eq_map]
  refine .object ?_ ?_ ?_ ?_ mixed'
  · rw [List.map_map]
    exact named
  · have drafts : (known.map fun m => (m.1, m.2.draft)).map Prod.snd =
        (known.map Prod.snd).map draft := by simp
    rw [drafts, List.forall₂_map_right_iff]
    exact told
  · rw [List.forall_mem_map]
    exact unnamed
  · rw [List.forall_mem_map]
    exact fun m _ => wellFormed_draft m.2

mutual

/-- The value as it was written is one way to tell it. -/
theorem tells_draft : (v : Json) → v.draft.Tells v
  | null => .null
  | bool b => .bool b
  | number n => .number n
  | string s => .string s
  | array vs => .array (tells_drafts vs)
  | object ms => tells_object rfl (tells_members ms) (List.forall_mem_nil _)
      (.of_eq (List.append_nil ms).symm)

theorem tells_drafts : (vs : List Json) → List.Forall₂ Draft.Tells vs (drafts vs)
  | [] => .nil
  | v :: vs => .cons (tells_draft v) (tells_drafts vs)

theorem tells_members : (ms : List (String × Json)) →
    List.Forall₂ (fun v w => w.draft.Tells v) (ms.map Prod.snd) (ms.map Prod.snd)
  | [] => .nil
  | (_, v) :: ms => .cons (tells_draft v) (tells_members ms)

end

end Json

namespace Wire

/-- Every draft that tells a value is read as that value. -/
class Tolerant (α : Type) [Wire α] : Prop where
  read_told (a : α) (d : Draft) : d.Tells (toJson a) → read d = .ok a

/-! ## Texts, numbers and lists -/

section Scalars

variable {α : Type} {parse : String → Option α} {s : String} {a : α} {d : Draft}

theorem readText_told (told : d.Tells (.string s)) (known : parse s = some a) :
    d.readText parse = .ok a := by
  cases told
  simp [Draft.readText, known]

theorem readWord_told (told : d.Tells (.string s)) (known : parse s = some a) :
    d.readWord parse = .ok a := by
  cases told
  simp [Draft.readWord, known]

/-- A reader of numbers goes on with one that 64 bits can hold. -/
theorem readInt_told {narrow : Int → Except Fault α} {n : Int} (told : d.Tells (Json.ofInt n))
    (low : -2 ^ 63 ≤ n) (high : n < 2 ^ 63) : (d.readInt >>= narrow) = narrow n := by
  have fits : n.natAbs < UInt64.size := by
    rw [UInt64.size]
    omega
  have whole : d.readInt = .ok n := by
    cases told
    simp [Draft.readInt, Numeral.exceedsBinary64_ofInt fits]
  rw [whole]
  rfl

end Scalars

instance : Tolerant String where
  read_told s d told := by
    cases told
    rfl

instance : Tolerant Int32 where
  read_told n d told := by
    have low := n.le_toInt
    have high := n.toInt_lt
    refine (readInt_told told (by omega) (by omega)).trans ?_
    rw [int32?_toInt]
    rfl

instance : Tolerant Int64 where
  read_told n d told := by
    refine (readInt_told told n.le_toInt n.toInt_lt).trans ?_
    rw [int64?_toInt]
    rfl

variable {α : Type} [Wire α] [Tolerant α]

theorem readItems_told {as : List α} {items : List Draft}
    (told : List.Forall₂ Draft.Tells (as.map toJson) items) :
    Draft.readItems read items = .ok as := by
  induction as generalizing items with
  | nil =>
      cases told
      rfl
  | cons a as ih =>
      cases told with
      | cons first rest =>
          rw [Draft.readItems, Tolerant.read_told a _ first, ih rest]
          rfl

instance : Tolerant (List α) where
  read_told as d told := by
    cases told with
    | array told =>
        change Draft.readList read (.array _ true) = _
        rw [Draft.readList, readItems_told told]
        rfl

end Wire

/-! ## Records -/

open Wire (Tolerant)

namespace Draft

/-- A field takes whatever tells the value of a member. -/
def Field.Takes (f : Field) (m : String × Json) : Prop :=
  m.1 = f.name ∧ ∀ d, Tells m.2 d → f.check d = .ok ()

/-- A field of a tolerant type takes what is written for it. -/
theorem Field.takes_of {α : Type} [Wire α] [Tolerant α] (a : α) (name : String)
    (absence : Absence) :
    (Field.of α name absence).Takes (name, Wire.toJson a) := by
  refine ⟨rfl, fun d told => ?_⟩
  change Except.map _ (Wire.read d) = _
  rw [Tolerant.read_told a d told]
  rfl

/-- The members that have the name of a field. -/
def ofFields (fields : List Field) (members : List (String × Draft)) : Record :=
  members.filter fun d => (fields.find? (·.name == d.1)).isSome

/-- What no field is called is passed over, and the rest is taken, the last one first. -/
theorem readMembers_of_checked {fields : List Field} {members : List (String × Draft)}
    {found : Record}
    (taken : ∀ d ∈ members, ∀ f, fields.find? (·.name == d.1) = some f → f.check d.2 = .ok ())
    (passed : ∀ d ∈ members, fields.find? (·.name == d.1) = none → d.2.wellFormed)
    (once : ((ofFields fields members).map Prod.fst).Nodup)
    (new : ∀ d ∈ ofFields fields members, found.lookup d.1 = none) :
    readMembers fields found (members.map fun d => (some d.1, d.2)) =
      .ok ((ofFields fields members).reverse ++ found) := by
  induction members generalizing found with
  | nil => rfl
  | cons d ds ih =>
      have taken' := fun e member => taken e (List.mem_cons_of_mem d member)
      have passed' := fun e member => passed e (List.mem_cons_of_mem d member)
      cases known : fields.find? (·.name == d.1) with
      | none =>
          have rest : ofFields fields (d :: ds) = ofFields fields ds := by
            simp [ofFields, known]
          rw [rest] at once new ⊢
          rw [List.map_cons, readMembers, known]
          simp only [passed d List.mem_cons_self known, if_true]
          exact ih taken' passed' once new
      | some f =>
          have rest : ofFields fields (d :: ds) = d :: ofFields fields ds := by
            simp [ofFields, known]
          rw [rest] at once new ⊢
          rw [List.map_cons, List.nodup_cons] at once
          have unmet : ∀ e ∈ ofFields fields ds, List.lookup e.1 ((d.1, d.2) :: found) = none := by
            intro e member
            have other : e.1 ≠ d.1 := fun same => once.1 (same ▸ List.mem_map_of_mem member)
            rw [List.lookup_cons, beq_false_of_ne other, new e (List.mem_cons_of_mem d member)]
          rw [List.map_cons, readMembers, known]
          simp only [new d List.mem_cons_self, Option.isSome_none, Bool.false_eq_true, if_false,
            taken d List.mem_cons_self f known]
          refine (ih taken' passed' once.2 unmet).trans ?_
          simp

/-- The members that write a record: one for each field, in their order. -/
structure Fits (fields : List Field) (ms : List (String × Json)) : Prop where
  takes : List.Forall₂ Field.Takes fields ms
  distinct : (fields.map Field.name).Nodup

/-- What was found under a name tells the value. -/
def Record.Tells (r : Record) (name : String) (v : Json) : Prop :=
  ∃ d, Draft.Tells v d ∧ r.lookup name = some d

/-- What was found tells the values of all these members. -/
def Record.TellsAll (r : Record) : List (String × Json) → Prop
  | [] => True
  | (k, v) :: ms => r.Tells k v ∧ r.TellsAll ms

namespace Record.Tells

variable {α : Type} [Wire α] [Tolerant α] {r : Record} {k : String} {a : α}

theorem get (h : r.Tells k (Wire.toJson a)) : r.get k = .ok a := by
  obtain ⟨d, told, found⟩ := h
  rw [Record.get, found]
  exact Tolerant.read_told a d told

theorem getD (h : r.Tells k (Wire.toJson a)) (absent : α) : r.getD k absent = .ok a := by
  obtain ⟨d, told, found⟩ := h
  rw [Record.getD, found]
  exact Tolerant.read_told a d told

end Record.Tells

section Fits

variable {fields : List Field} {ms : List (String × Json)} {known : List (String × Draft)}
  {d : Draft}

theorem Record.tellsAll_of_mem {r : Record}
    (told : List.Forall₂ (fun m e => e.1 = m.1 ∧ Draft.Tells m.2 e.2) ms known)
    (found : ∀ e ∈ known, r.lookup e.1 = some e.2) : r.TellsAll ms := by
  induction told with
  | nil => trivial
  | @cons m e ms es first _ ih =>
      obtain ⟨k, v⟩ := m
      obtain ⟨rfl, told⟩ := first
      exact ⟨⟨e.2, told, found e List.mem_cons_self⟩,
        ih fun e member => found e (List.mem_cons_of_mem _ member)⟩

theorem Record.TellsAll.isSome {r : Record} {k : String} (h : r.TellsAll ms)
    (there : k ∈ ms.map Prod.fst) : (r.lookup k).isSome := by
  induction ms with
  | nil => cases there
  | cons m ms ih =>
      obtain ⟨⟨d, -, found⟩, rest⟩ := h
      rcases List.mem_cons.mp there with rfl | later
      · rw [found, Option.isSome_some]
      · exact ih rest later

/-- Names and values of the members side by side. -/
theorem forall₂_of_columns (named : known.map Prod.fst = ms.map Prod.fst)
    (told : List.Forall₂ Tells (ms.map Prod.snd) (known.map Prod.snd)) :
    List.Forall₂ (fun m e => e.1 = m.1 ∧ Tells m.2 e.2) ms known := by
  induction ms generalizing known with
  | nil =>
      rw [List.map_eq_nil_iff.mp named]
      exact .nil
  | cons m ms ih =>
      cases known with
      | nil => cases named
      | cons e es =>
          injection named with first rest
          cases told with
          | cons head tail => exact .cons ⟨first, head⟩ (ih rest tail)

/-- Each member that was told has the name of a field, which takes it. -/
theorem exists_field (takes : List.Forall₂ Field.Takes fields ms)
    (told : List.Forall₂ (fun m e => e.1 = m.1 ∧ Tells m.2 e.2) ms known) :
    ∀ e ∈ known, ∃ f ∈ fields, f.name = e.1 ∧ f.check e.2 = .ok () := by
  induction takes generalizing known with
  | nil =>
      cases told
      exact nofun
  | @cons f m fs ms take _ ih =>
      cases told with
      | @cons _ e _ es head tail =>
          intro e' member
          rcases List.mem_cons.mp member with rfl | later
          · exact ⟨f, List.mem_cons_self, (head.1.trans take.1).symm, take.2 _ head.2⟩
          · obtain ⟨g, inFields, rest⟩ := ih tail e' later
            exact ⟨g, List.mem_cons_of_mem f inFields, rest⟩

theorem Fits.map_fst (fits : Fits fields ms) : ms.map Prod.fst = fields.map Field.name := by
  obtain ⟨takes, -⟩ := fits
  induction takes with
  | nil => rfl
  | cons take _ ih => rw [List.map_cons, List.map_cons, take.1, ih]

theorem Fits.find?_of_told (fits : Fits fields ms)
    (told : List.Forall₂ (fun m e => e.1 = m.1 ∧ Tells m.2 e.2) ms known)
    {e : String × Draft} (member : e ∈ known) :
    ∃ f, fields.find? (·.name == e.1) = some f ∧ f.check e.2 = .ok () := by
  obtain ⟨f, inFields, same, taken⟩ := exists_field fits.takes told e member
  exact ⟨f, same ▸ Table.find?_of_nodup fits.distinct inFields, taken⟩

theorem Fits.find?_eq_none (fits : Fits fields ms) {k : String} (unnamed : k ∉ ms.map Prod.fst) :
    fields.find? (·.name == k) = none := by
  rw [List.find?_eq_none]
  intro f inFields same
  rw [fits.map_fst, ← eq_of_beq same] at unnamed
  exact unnamed (List.mem_map_of_mem inFields)

/-- What is taken of members in any order are those that belong to fields. -/
theorem ofFields_perm {foreign all : List (String × Draft)} (mixed : all.Perm (known ++ foreign))
    (fielded : ∀ e ∈ known, (fields.find? (·.name == e.1)).isSome)
    (fieldless : ∀ e ∈ foreign, fields.find? (·.name == e.1) = none) :
    (ofFields fields all).Perm known := by
  refine (mixed.filter _).trans (.of_eq ?_)
  rw [List.filter_append, List.filter_eq_self.mpr fielded, List.filter_eq_nil_iff.mpr,
    List.append_nil]
  intro e member
  simp [fieldless e member]

/-- The members known by the names of fields are found, in whatever order and wherever members
of other names stand between them. -/
theorem Fits.readMembers {foreign all : List (String × Draft)} (fits : Fits fields ms)
    (named : known.map Prod.fst = ms.map Prod.fst)
    (told : List.Forall₂ Tells (ms.map Prod.snd) (known.map Prod.snd))
    (unnamed : ∀ e ∈ foreign, e.1 ∉ ms.map Prod.fst) (complete : ∀ e ∈ foreign, e.2.wellFormed)
    (mixed : all.Perm (known ++ foreign)) :
    ∃ r, Draft.readMembers fields [] (all.map fun e => (some e.1, e.2)) = .ok r ∧
      r.TellsAll ms := by
  replace told := forall₂_of_columns named told
  have fielded (e) (member : e ∈ known) := fits.find?_of_told told member
  have fieldless (e) (member : e ∈ foreign) := fits.find?_eq_none (unnamed e member)
  have found : (ofFields fields all).Perm known := by
    refine ofFields_perm mixed (fun e member => ?_) fieldless
    obtain ⟨f, field, -⟩ := fielded e member
    rw [field, Option.isSome_some]
  have once : ((ofFields fields all).map Prod.fst).Nodup := by
    rw [(found.map Prod.fst).nodup_iff, named, fits.map_fst]
    exact fits.distinct
  refine ⟨_, readMembers_of_checked ?_ ?_ once fun _ _ => rfl, ?_⟩
  · intro e member f field
    rcases List.mem_append.mp (mixed.mem_iff.mp member) with known | foreign
    · obtain ⟨g, field', taken⟩ := fielded e known
      cases field.symm.trans field'
      exact taken
    · cases (fieldless e foreign).symm.trans field
  · intro e member none
    rcases List.mem_append.mp (mixed.mem_iff.mp member) with known | foreign
    · obtain ⟨g, field, -⟩ := fielded e known
      cases field.symm.trans none
    · exact complete e foreign
  · rw [List.append_nil]
    refine Record.tellsAll_of_mem told fun e member => Table.lookup_of_nodup ?_ ?_
    · rw [List.map_reverse, List.nodup_reverse]
      exact once
    · exact List.mem_reverse.mpr (found.mem_iff.mpr member)

/-- Reading a record from a draft that tells its members finds what tells each of them. -/
theorem Fits.readRecord (fits : Fits fields ms) (told : d.Tells (.object ms)) :
    ∃ r, d.readRecord fields = .ok r ∧ r.TellsAll ms := by
  cases told with
  | object named told unnamed complete mixed =>
      obtain ⟨r, read, tells⟩ := fits.readMembers named told unnamed complete mixed
      have all_there : fields.all fun f =>
          f.absence ≠ .required || (r.lookup f.name).isSome := by
        rw [List.all_eq_true]
        intro f member
        have there : f.name ∈ ms.map Prod.fst := fits.map_fst ▸ List.mem_map_of_mem member
        rw [tells.isSome there, Bool.or_true]
      refine ⟨r, ?_, tells⟩
      rw [Draft.readRecord, read]
      change (if (fields.all fun f => f.absence ≠ .required || (r.lookup f.name).isSome)
        then (.ok r : Except Fault Record) else .error .mismatch) = _
      rw [if_pos all_there]

/-- A reader of records goes on with what tells the members. -/
theorem Fits.read {β : Type} {build : Record → Except Fault β} {b : β} (fits : Fits fields ms)
    (told : d.Tells (.object ms)) (built : ∀ r : Record, r.TellsAll ms → build r = .ok b) :
    (d.readRecord fields >>= build) = .ok b := by
  obtain ⟨r, read, tells⟩ := fits.readRecord told
  rw [read]
  exact built r tells

end Fits

end Draft

end HotelBooking
