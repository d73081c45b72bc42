import HotelBooking.Config.Toml.Document
import HotelBooking.Config.Toml.Moment
import HotelBooking.Config.Toml.Number
import HotelBooking.Config.Toml.Quoted
import HotelBooking.Text.Mark

/-!
# Reading TOML

A document is read line by line; a line opens a table, gives a key its value or is empty.
Values that are no quoted text, array or inline table are taken as one run of characters
and then told apart by their form. Arrays and inline tables are nested up to a limit.
-/

namespace HotelBooking.Config.Toml

open Reader

/-! ## Blanks -/

def spaces : Reader Unit := do
  let _ ← span isSpace

def lineBreak : Reader Unit :=
  word "\r\n" <|> char '\n'

def comment : Reader Unit := do
  char '#'
  let _ ← span isPlain

/-- Blanks, comments and line breaks. -/
def gap : Reader Unit := do
  spaces
  let _ ← many (do
    let _ ← optional comment
    lineBreak
    spaces)

/-! ## Keys -/

def isBare (c : Char) : Bool :=
  c.isAlphanum || c = '_' || c = '-'

def bareKey : Reader (List Char) := do
  let cs ← span isBare
  guard !cs.isEmpty
  return cs

def key : Reader String := do
  let cs ← onLine <|> bareKey
  return String.ofList cs

/-- How deep arrays and inline tables may be nested, and how many keys name one value. -/
def maxDepth : Nat := 80

/-- Keys with dots between them. -/
def keys : Reader (List String) := do
  let ks ← separated key (do
    spaces
    char '.'
    spaces)
  guard (ks.length ≤ maxDepth)
  return ks

/-! ## Values -/

/-- A run of the characters that numbers, moments and truth values are written with. -/
def run : Reader (List Char) :=
  span fun c => isBare c || c = '+' || c = '.' || c = ':'

/-- Such a run, where one blank may stand between a date and a time. -/
def plainText : Reader (List Char) := do
  let cs ← run
  guard !cs.isEmpty
  let isDay := (whole? Moment.day (String.ofList cs)).isSome
  match ← get with
  | ' ' :: c :: rest =>
    if isDay ∧ Decimal.isDigit c then
      set (c :: rest)
      return cs ++ ' ' :: (← run)
    else return cs
  | _ => return cs

/-- The value that a run of characters stands for. -/
def plain? (cs : List Char) : Option Value :=
  match String.ofList cs with
  | "true" => some (.bool true)
  | "false" => some (.bool false)
  | s =>
    (integer? cs).map .int <|> (float? cs).map .float <|> (Moment.read? s).map .text

def scalar : Reader Value := do
  match ← next? with
  | some '"' | some '\'' => return .text (String.ofList (← quoted))
  | _ => plain? (← plainText)

/-- Things between brackets, with commas between them; a comma may follow the last one. -/
def listed {α : Type} (opening closing : Char) (item : Reader α) : Reader (List α) := do
  char opening
  gap
  let vs ← optional (separated item (do
    gap
    char ','
    gap))
  gap
  if vs.isSome then
    let _ ← optional (char ',')
    gap
  char closing
  return vs.getD []

def array (item : Reader Value) : Reader Value := do
  return .list (← listed '[' ']' item)

/-- A key and its value, where `blank` may stand around the equals sign. -/
def entry (blank : Reader Unit) (item : Reader Value) : Reader (List String × Value) := do
  let ks ← keys
  blank
  char '='
  blank
  return (ks, ← item)

/-- Entries between braces, which may stand on several lines. -/
def inlineTable (item : Reader Value) : Reader Value := do
  let es ← listed '\x7b' '\x7d' (entry gap item)
  let d ← es.foldlM (fun d e => d.add e.1 e.2) ({} : Document)
  return d.value

/-- A value with so many levels of arrays and inline tables at most. -/
def value : Nat → Reader Value
  | 0 => scalar
  | depth + 1 => do
    match ← next? with
    | some '[' => array (value depth)
    | some '\x7b' => inlineTable (value depth)
    | _ => scalar

/-! ## Lines -/

inductive Line where
  | empty
  | table (keys : List String)
  | series (keys : List String)
  | entry (keys : List String) (v : Value)
  deriving Inhabited

/-- The keys between the brackets of a line that opens a table. -/
def heading (opening closing : String) : Reader (List String) := do
  word opening
  spaces
  let ks ← keys
  spaces
  word closing
  return ks

def content : Reader Line := do
  match ← get with
  | '[' :: '[' :: _ => return .series (← heading "[[" "]]")
  | '[' :: _ => return .table (← heading "[" "]")
  | cs =>
    match cs.head? with
    | none | some '\n' | some '\r' | some '#' => return .empty
    | _ =>
      let (ks, v) ← entry spaces (value maxDepth)
      return .entry ks v

/-- What stands on a line before a comment and its end. -/
def line : Reader Line := do
  spaces
  let l ← content
  spaces
  let _ ← optional comment
  lineBreak <|> done
  return l

def Document.hear (d : Document) : Line → Option Document
  | .empty => some d
  | .table ks => d.openTable ks
  | .series ks => d.openNext ks
  | .entry ks v => d.add ks v

/-- The table that a text describes. -/
def read? (s : String) : Option Value := do
  let lines ← whole? (many line) (String.ofList (Text.unmarked s.toList))
  let d ← lines.foldlM Document.hear {}
  return d.value

end HotelBooking.Config.Toml
