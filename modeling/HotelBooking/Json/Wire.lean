import HotelBooking.Json.Draft

/-!
# Typed reading and writing of JSON

`Wire α` says how values of `α` travel: `toJson` gives their JSON value and `read`
takes them from a draft. Reading goes from left to right and stops at the first fault.
A fault is `malformed` when the text is no JSON there and `mismatch` when it is JSON
of another kind than expected.

An object and its positional form, an array of the fields in their order, are both
accepted for a record. Names that no field has are passed over with their values;
a field may not come twice.
-/

namespace HotelBooking

/-- Why a text could not be read. -/
inductive Fault where
  | malformed
  | mismatch
  deriving DecidableEq, Inhabited

class Wire (α : Type) where
  toJson : α → Json
  read : Draft → Except Fault α

namespace Draft

mutual

/-- Whether a value that nobody reads is complete JSON. -/
def wellFormed : Draft → Bool
  | .broken => false
  | .null | .bool _ | .number _ | .string _ => true
  | .array items closed => itemsWellFormed items && closed
  | .object members closed => membersWellFormed members && closed

def itemsWellFormed : List Draft → Bool
  | [] => true
  | v :: vs => v.wellFormed && itemsWellFormed vs

def memberWellFormed : Option String × Draft → Bool
  | (_, v) => v.wellFormed

def membersWellFormed : List (Option String × Draft) → Bool
  | [] => true
  | m :: ms => memberWellFormed m && membersWellFormed ms

end

/-- The fault of finding this value where one of another kind is expected. -/
def unexpected : Draft → Fault
  | .broken | .string none => .malformed
  | .number n => if n.exceedsBinary64 then .malformed else .mismatch
  | _ => .mismatch

def readString : Draft → Except Fault String
  | .string (some s) => .ok s
  | d => .error d.unexpected

/-- A whole number, of whatever size. -/
def readInt : Draft → Except Fault Int
  | .number n =>
    match n.toInt? with
    | some i => if n.exceedsBinary64 then .error .malformed else .ok i
    | none => .error (unexpected (.number n))
  | d => .error d.unexpected

/-- A text of which `parse` makes a value. -/
def readText {α : Type} (parse : String → Option α) (d : Draft) : Except Fault α :=
  match d with
  | .string (some s) =>
    match parse s with
    | some a => .ok a
    | none => .error .mismatch
  | d => .error d.unexpected

/--
One of a set of words, as a string or as the only key of an object whose value is null.
No other kind of value can begin a choice, so each is malformed.
-/
def readWord {α : Type} (parse : String → Option α) : Draft → Except Fault α
  | .string (some w) =>
    match parse w with
    | some a => .ok a
    | none => .error .mismatch
  | .object ((some w, v) :: rest) closed =>
    match parse w with
    | none => .error .mismatch
    | some a =>
      match v with
      | .null => if rest.isEmpty && closed then .ok a else .error .malformed
      | v => .error v.unexpected
  | _ => .error .malformed

def readItems {α : Type} (read : Draft → Except Fault α) : List Draft → Except Fault (List α)
  | [] => .ok []
  | v :: vs => do
    let a ← read v
    let as ← readItems read vs
    return a :: as

def readList {α : Type} (read : Draft → Except Fault α) : Draft → Except Fault (List α)
  | .array items closed => do
    let as ← readItems read items
    if closed then return as else throw .malformed
  | d => .error d.unexpected

mutual

/-- The value of a draft without damage. -/
def readJson : Draft → Except Fault Json
  | .broken => .error .malformed
  | .null => .ok .null
  | .bool b => .ok (.bool b)
  | .number n => if n.exceedsBinary64 then .error .malformed else .ok (.number n)
  | .string s => s.elim (.error .malformed) fun s => .ok (.string s)
  | .array items closed => do
    let vs ← readJsonItems items
    if closed then return .array vs else throw .malformed
  | .object members closed => do
    let ms ← readJsonMembers members
    if closed then return .object ms else throw .malformed

def readJsonItems : List Draft → Except Fault (List Json)
  | [] => .ok []
  | v :: vs => do
    let a ← v.readJson
    return a :: (← readJsonItems vs)

def readJsonMember : Option String × Draft → Except Fault (String × Json)
  | (some k, v) => do return (k, ← v.readJson)
  | (none, _) => .error .malformed

def readJsonMembers : List (Option String × Draft) → Except Fault (List (String × Json))
  | [] => .ok []
  | m :: ms => do
    let a ← readJsonMember m
    return a :: (← readJsonMembers ms)

end

/-! ## Records -/

/-- What a record does without a field. -/
inductive Absence where
  | required
  /-- A stated value takes its place. -/
  | defaulted
  /-- The field may be left out of an object, though not of the positional form. -/
  | optional
  deriving DecidableEq

/-- A field: its name, whether it may be absent, and what its value must be. -/
structure Field where
  name : String
  absence : Absence
  check : Draft → Except Fault Unit

/-- The values found for the fields of a record. -/
abbrev Record := List (String × Draft)

/-- Take the members of an object one by one; `found` holds the fields met so far. -/
def readMembers (fields : List Field) (found : Record) :
    List (Option String × Draft) → Except Fault Record
  | [] => .ok found
  | (some k, v) :: ms =>
    match fields.find? (·.name == k) with
    | none => if v.wellFormed then readMembers fields found ms else .error .malformed
    | some f =>
      if (found.lookup k).isSome then .error .mismatch
      else do
        f.check v
        readMembers fields ((k, v) :: found) ms
  | (none, _) :: _ => .error .malformed

/-- Take the items of a positional form. -/
def readPositions (fields : List Field) (items : List Draft) (closed : Bool) :
    Except Fault Record :=
  match fields, items with
  | [], [] => if closed then .ok [] else .error .malformed
  | [], _ :: _ => .error .malformed
  | f :: fs, [] =>
    if !closed then .error .malformed
    else if f.absence = .defaulted then readPositions fs [] closed
    else .error .mismatch
  | f :: fs, v :: vs => do
    f.check v
    let found ← readPositions fs vs closed
    return (f.name, v) :: found

/-- The fields of a record in either of its forms. -/
def readRecord (fields : List Field) : Draft → Except Fault Record
  | .object members closed => do
    let found ← readMembers fields [] members
    if !closed then throw .malformed
    else if fields.all fun f => f.absence ≠ .required || (found.lookup f.name).isSome then
      return found
    else throw .mismatch
  | .array items closed => readPositions fields items closed
  | d => .error d.unexpected

namespace Field

/-- A field of type `α`. -/
def of (α : Type) [Wire α] (name : String) (absence : Absence := .required) : Field :=
  ⟨name, absence, fun d => (Wire.read d : Except Fault α).map fun _ => ()⟩

end Field

namespace Record

variable {α : Type} [Wire α]

def get (r : Record) (name : String) : Except Fault α :=
  match r.lookup name with
  | some v => Wire.read v
  | none => .error .mismatch

def getD (r : Record) (name : String) (absent : α) : Except Fault α :=
  match r.lookup name with
  | some v => Wire.read v
  | none => .ok absent

end Record

end Draft

namespace Wire

variable {α : Type}

/-- Read a whole text: nothing but blanks may follow the value. -/
def ofText [Wire α] (s : String) : Except Fault α :=
  match Draft.ofText s with
  | (d, rest) => do
    let a ← read d
    match rest with
    | some r => if r.all Draft.isSpace then return a else throw .malformed
    | none => throw .malformed

/-- The text that is sent for a value. -/
def toText [Wire α] (a : α) : String :=
  (toJson a).render

instance : Wire Json where
  toJson j := j
  read := Draft.readJson

instance : Wire String where
  toJson s := .string s
  read := Draft.readString

instance : Wire Int32 where
  toJson n := .ofInt n.toInt
  read d := do
    let n ← d.readInt
    match int32? n with
    | some i => return i
    | none => throw .mismatch

instance : Wire Int64 where
  toJson n := .ofInt n.toInt
  read d := do
    let n ← d.readInt
    match int64? n with
    | some i => return i
    | none => throw .mismatch

instance [Wire α] : Wire (List α) where
  toJson as := .array (as.map toJson)
  read := Draft.readList read

instance [Wire α] : Wire (Option α) where
  toJson
    | some a => toJson a
    | none => .null
  read
    | .null => .ok none
    | d => (read d).map some

end Wire

end HotelBooking
