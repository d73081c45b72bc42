import HotelBooking.Config.Toml.Reading

/-!
# Layers of settings

Settings come in layers, each put over the ones before. The outermost names of a layer are
paths where they have the form of one, so that a single name can reach a setting in a
table. Variables of the environment form the last layer: behind a mark, two underscores
stand for the dot of a path.
-/

namespace HotelBooking.Config

/-! ## Names that are paths -/

def isNameChar (c : Char) : Bool :=
  c.isAlphanum || c = '_' || c = '-'

def nameStep : Reader Step := do
  let cs ← Reader.span isNameChar
  guard !cs.isEmpty
  return .key (String.ofList cs)

/-- A place in brackets, with blanks around it; a place beyond 64 bits is none. -/
def placeStep : Reader Step := do
  Reader.char '['
  Toml.spaces
  let negative ← optional (Reader.char '-')
  let ds ← Reader.span Decimal.isDigit
  let n ← (Decimal.value? ds : Option Nat)
  let i ← (int64? (if negative.isSome then -n else n) : Option Int64)
  Toml.spaces
  Reader.char ']'
  return .place i.toInt

def path : Reader Path := do
  let first ← nameStep
  let more ← Reader.many ((do Reader.char '.'; nameStep) <|> placeStep)
  return first :: more

/-- The path that a name stands for; a name of no such form stands for itself. -/
def pathOf (name : String) : Path :=
  (path.whole? name).getD [.key name]

/-- Put a layer over the settings so far. -/
def Value.overlay (layer : List (String × Value)) (base : Value) : Value :=
  layer.foldl (fun base e => e.2.put (pathOf e.1) base) base

/-! ## The environment -/

/-- What a variable is called when it holds a setting. -/
def variableMark : String := "hearth__"

/-- A name in which each pair of underscores is a dot. -/
def dotted : List Char → List Char
  | '_' :: '_' :: cs => '.' :: dotted cs
  | c :: cs => c :: dotted cs
  | [] => []

/-- The layer of the environment, whose variables may be written in any case. -/
def ofEnvironment (environment : List (String × String)) : List (String × Value) :=
  environment.filterMap fun (name, v) =>
    let name := name.toLower
    if name.startsWith variableMark then
      some (String.ofList (dotted (name.toList.drop variableMark.length)), .text v)
    else none

end HotelBooking.Config
