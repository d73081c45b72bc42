import HotelBooking.Config.Value

/-!
# What a TOML document says

A document says what stands under a key in the table that it has opened last. Keys may name
tables on the way, which then exist without having been opened. What was said cannot be
taken back: a key gets one value, a table is opened once, a table that keys with dots have
made is not opened at all, and such keys do not reach into a table that was opened. They
may add to a table that is only on the way to one that was opened.
-/

namespace HotelBooking.Config.Toml

/-- How a document came to know what is at a path. -/
inductive Origin where
  /-- A table on the way to one that was opened. -/
  | passed
  /-- A table on the way to a key with dots. -/
  | dotted
  | opened
  /-- The tables of a series, of which there are so many. -/
  | series (count : Nat)
  /-- A value, which is complete. -/
  | value
  deriving DecidableEq, Inhabited

structure Document where
  known : List (Path × Origin) := []
  /-- What the document says, the latest first. -/
  sayings : List (Path × Value) := []
  /-- The table that was opened last. -/
  here : Path := []
  deriving Inhabited

namespace Document

def learn (d : Document) (path : Path) (origin : Origin) : Document :=
  { d with known := (path, origin) :: d.known }

def say (d : Document) (path : Path) (v : Value) : Document :=
  { d with sayings := (path, v) :: d.sayings }

def origin? (d : Document) (path : Path) : Option Origin :=
  d.known.lookup path

/-- Go on to the table under a key, where `way` is how a missing one comes about. -/
def enter (way : Origin) (place : Document × Path) (name : String) : Option (Document × Path) :=
  let (d, path) := place
  let path := path ++ [.key name]
  match d.origin? path with
  | none => some (d.learn path way, path)
  | some .passed | some .dotted => some (d, path)
  | some .opened => if way = .dotted then none else some (d, path)
  | some (.series n) => some (d, path ++ [.place (n - 1)])
  | some .value => none

/-- Give a key of the open table its value. -/
def add (d : Document) (keys : List String) (v : Value) : Option Document := do
  let name ← keys.getLast?
  let (d, table) ← keys.dropLast.foldlM (enter .dotted) (d, d.here)
  let path := table ++ [.key name]
  if (d.origin? path).isSome then none
  else if 1 < keys.length ∧ d.origin? table = some .opened then none
  else some ((d.learn path .value).say path v)

/-- Open a table. -/
def openTable (d : Document) (keys : List String) : Option Document := do
  let name ← keys.getLast?
  let (d, table) ← keys.dropLast.foldlM (enter .passed) (d, [])
  let path := table ++ [.key name]
  match d.origin? path with
  | none | some .passed =>
    some { (d.learn path .opened).say path (.table []) with here := path }
  | _ => none

/-- Open one more table of a series. -/
def openNext (d : Document) (keys : List String) : Option Document := do
  let name ← keys.getLast?
  let (d, table) ← keys.dropLast.foldlM (enter .passed) (d, [])
  let path := table ++ [.key name]
  let count ← match d.origin? path with
    | none => some 0
    | some (.series n) => some n
    | _ => none
  let item := path ++ [.place count]
  let d := (d.learn path (.series (count + 1))).learn item .opened
  some { d.say item (.table []) with here := item }

/-- The table that a document describes. -/
def value (d : Document) : Value :=
  d.sayings.foldr (fun (path, v) base => v.put path base) (.table [])

end Document

end HotelBooking.Config.Toml
