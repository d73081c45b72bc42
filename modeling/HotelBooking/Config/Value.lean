import HotelBooking.Binary64.Datum

/-!
# Settings as they are written

A setting is written with one type and may be wanted with another: a number in quotation
marks is a number, and any number is a text. The readings below say which values stand for
a text, a whole number or a truth value.

Values lie in a tree of tables and lists, where a path names one of them. To put a table
over another joins the two; any other value replaces what it is put over.
-/

namespace HotelBooking.Config

open Binary64 (Datum)

inductive Value where
  /-- The place of a list that nothing was put in. -/
  | null
  | bool (b : Bool)
  | int (n : Int)
  | float (x : Datum)
  | text (s : String)
  | list (items : List Value)
  | table (entries : List (String × Value))
  deriving Inhabited

/-- One step from a value to a value in it. -/
inductive Step where
  | key (name : String)
  /-- A place of a list, counted from its end if negative. -/
  | place (i : Int)
  deriving DecidableEq, Inhabited

abbrev Path := List Step

namespace Value

/-! ## Readings -/

def text? : Value → Option String
  | text s => some s
  | bool b => some (if b then "true" else "false")
  | int n => some (Decimal.ofInt n)
  | float x => some x.text
  | _ => none

/-- The whole number in a text, which may have a plus sign. -/
def natOfText? (s : String) : Option Nat :=
  match s.toList with
  | '+' :: ds => Decimal.value? ds
  | ds => Decimal.value? ds

/-- The whole number up to `limit`, which is less than `UInt64.size`. -/
def nat? (limit : Nat) (v : Value) : Option Nat := do
  let n ← match v with
    | int n => if 0 ≤ n then some n.toNat else none
    | float x => some (x.clamp (UInt64.size - 1))
    | bool b => some (if b then 1 else 0)
    | text s =>
      match s.toLower with
      | "true" | "on" | "yes" => some 1
      | "false" | "off" | "no" => some 0
      | _ => natOfText? s
    | _ => none
  if n ≤ limit then some n else none

def bool? : Value → Option Bool
  | bool b => some b
  | int n => some (n != 0)
  | float x => some !x.isZero
  | text s =>
    match s.toLower with
    | "1" | "true" | "on" | "yes" => some true
    | "0" | "false" | "off" | "no" => some false
    | _ => none
  | _ => none

/-! ## Putting values over each other -/

/-- Replace the value of a key, or add it behind the others. -/
def assign (name : String) (v : Value) : List (String × Value) → List (String × Value)
  | [] => [(name, v)]
  | e :: es => if e.1 = name then (name, v) :: es else e :: assign name v es

/-- The entries of a table; any other value has none. -/
def entries : Value → List (String × Value)
  | table es => es
  | _ => []

def items : Value → List Value
  | list vs => vs
  | _ => []

mutual

/-- The first value put over the second. -/
def onto : Value → Value → Value
  | table es, base => table (ontoEntries es base.entries)
  | v, _ => v

def ontoEntries : List (String × Value) → List (String × Value) → List (String × Value)
  | [], base => base
  | (name, v) :: es, base =>
    ontoEntries es (assign name (v.onto ((base.lookup name).getD null)) base)

end

/-- Change the item at a place, after null items have made the list long enough. -/
def alterPlace (i : Int) (f : Value → Value) (vs : List Value) : List Value :=
  let missing := (-(vs.length + i)).toNat
  let vs := if i < 0 then List.replicate missing null ++ vs else vs
  let n := (if i < 0 then i + vs.length else i).toNat
  let vs := vs ++ List.replicate (n + 1 - vs.length) null
  vs.modify n f

/-- Put `v` over what is at a path, making the tables and lists on the way. -/
def put (v : Value) : Path → Value → Value
  | [], base => v.onto base
  | .key name :: path, base =>
    table (assign name (put v path ((base.entries.lookup name).getD null)) base.entries)
  | .place i :: path, base => list (alterPlace i (put v path) base.items)

end Value

end HotelBooking.Config
