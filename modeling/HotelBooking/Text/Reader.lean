/-!
# Readers of text

A reader takes a value from the front of a text or fails, and a failing reader has taken
nothing. Repetition goes on as long as each round takes something, so every reader built
from these ends.
-/

namespace HotelBooking

abbrev Reader := StateT (List Char) Option

namespace Reader

variable {α : Type}

/-- The value of a whole text. -/
def whole? (r : Reader α) (s : String) : Option α :=
  match r s.toList with
  | some (a, []) => some a
  | _ => none

def next? : Reader (Option Char) := do
  return (← get).head?

/-- One given character. -/
def char (c : Char) : Reader Unit := fun cs =>
  match cs with
  | d :: rest => if d = c then some ((), rest) else none
  | [] => none

/-- The characters of a given word. -/
def word (s : String) : Reader Unit := fun cs =>
  if s.toList.isPrefixOf cs then some ((), cs.drop s.length) else none

/-- The longest run of characters that satisfy `p`, which may be empty. -/
def span (p : Char → Bool) : Reader (List Char) := fun cs =>
  some (cs.takeWhile p, cs.dropWhile p)

/-- The end of the text. -/
def done : Reader Unit := fun cs =>
  if cs.isEmpty then some ((), cs) else none

def repeated (r : Reader α) (cs : List Char) : List α × List Char :=
  match r cs with
  | none => ([], cs)
  | some (a, rest) =>
    if rest.length < cs.length then
      let (more, rest) := repeated r rest
      (a :: more, rest)
    else ([], cs)
termination_by cs.length

/-- As many values as there are. -/
def many (r : Reader α) : Reader (List α) := fun cs =>
  some (repeated r cs)

/-- One or more values with something between them. -/
def separated (r : Reader α) (between : Reader Unit) : Reader (List α) := do
  let first ← r
  let more ← many (do between; r)
  return first :: more

end Reader

end HotelBooking
