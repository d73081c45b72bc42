import HotelBooking.Json.Value

/-!
# Drafts: JSON text as far as it goes

A reader of typed values works through a text from left to right and stops at the
first thing it cannot use. What it finds there, a value of the wrong kind or text that
is no JSON at all, decides which of two complaints its caller hears. So parsing must
not fail where the text breaks off. It gives a *draft*: the value as far as it goes,
with the place where the text stops being JSON marked in it. The reader then meets
that mark exactly if it gets so far.

A draft marks two kinds of damage: a value that is `broken`, and an array or object that
is not `closed` after its last element. A string with an unpaired surrogate escape, be it
a value or a key, is not damaged where nobody reads it, so it has a form of its own.
-/

namespace HotelBooking

inductive Draft where
  | broken
  | null
  | bool (b : Bool)
  | number (n : Numeral)
  /-- A string, absent when it holds an unpaired surrogate. -/
  | string (s : Option String)
  | array (items : List Draft) (closed : Bool)
  /-- A key is absent as a string is. -/
  | object (members : List (Option String × Draft)) (closed : Bool)
  deriving Inhabited

namespace Draft

/-- The blanks between tokens. -/
def isSpace (c : Char) : Bool :=
  c = ' ' || c = '\n' || c = '\t' || c = '\r'

def skipSpace (cs : List Char) : List Char :=
  cs.dropWhile isSpace

/-! ## Strings -/

/-- One element of a string: a character, or the sixteen bits of a `\u` escape. -/
inductive Piece where
  | char (c : Char)
  | unit (n : Nat)
  deriving DecidableEq

/-- The character of a one-letter escape. -/
def shortEscape? (c : Char) : Option Char :=
  if c = '"' then some '"'
  else if c = '\\' then some '\\'
  else if c = '/' then some '/'
  else if c = 'b' then some (Char.ofNat 8)
  else if c = 'f' then some (Char.ofNat 12)
  else if c = 'n' then some '\n'
  else if c = 'r' then some '\r'
  else if c = 't' then some '\t'
  else none

/-- The elements of a string up to its closing quotation mark, and the text behind it. -/
def pieces : List Char → Option (List Piece × List Char)
  | [] => none
  | c :: cs =>
    if c = '"' then some ([], cs)
    else if c = '\\' then
      match cs with
      | [] => none
      | e :: cs =>
        if e = 'u' then
          match cs with
          | h₁ :: h₂ :: h₃ :: h₄ :: cs => do
            let n ← Hex.number? [h₁, h₂, h₃, h₄]
            let (ps, rest) ← pieces cs
            some (.unit n :: ps, rest)
          | _ => none
        else do
          let x ← shortEscape? e
          let (ps, rest) ← pieces cs
          some (.char x :: ps, rest)
    else if c.toNat < 32 then none
    else do
      let (ps, rest) ← pieces cs
      some (.char c :: ps, rest)

/-- The characters that the elements stand for, surrogates in pairs. -/
def join? : List Piece → Option (List Char)
  | [] => some []
  | .char c :: ps => (join? ps).map (c :: ·)
  | .unit n :: ps =>
    if n < 0xD800 ∨ 0xE000 ≤ n then (join? ps).map (Char.ofNat n :: ·)
    else if 0xDC00 ≤ n then none
    else
      match ps with
      | .unit m :: ps =>
        if 0xDC00 ≤ m ∧ m < 0xE000 then
          (join? ps).map (Char.ofNat (0x10000 + 0x400 * (n - 0xD800) + (m - 0xDC00)) :: ·)
        else none
      | _ => none

/-- A string behind its opening quotation mark: absent when the text is no string. -/
def text? (cs : List Char) : Option (Option String × List Char) :=
  (pieces cs).map fun (ps, rest) => ((join? ps).map String.ofList, rest)

/-! ## Numbers -/

/-- The digits at the front of a text. -/
def spanDigits (cs : List Char) : List Char × List Char :=
  (cs.takeWhile Decimal.isDigit, cs.dropWhile Decimal.isDigit)

/-- The whole part: no leading zero stands before another digit. -/
def whole? (cs : List Char) : Option (Nat × List Char) :=
  match spanDigits cs with
  | (ds, rest) =>
    if 1 < ds.length ∧ ds.head? = some '0' then none
    else (Decimal.value? ds).map fun n => (n, rest)

def fraction? (cs : List Char) : Option (List (Fin 10) × List Char) :=
  match cs with
  | '.' :: cs =>
    match spanDigits cs with
    | (ds, rest) =>
      if ds.isEmpty then none
      else some (ds.filterMap fun c => (Decimal.digit? c).map (Fin.ofNat 10), rest)
  | cs => some ([], cs)

def exponent? (cs : List Char) : Option (Option Int × List Char) :=
  match cs with
  | c :: cs' =>
    if c = 'e' ∨ c = 'E' then
      let (sign, ds) : Int × List Char :=
        match cs' with
        | '+' :: r => (1, r)
        | '-' :: r => (-1, r)
        | r => (1, r)
      (Decimal.value? (spanDigits ds).1).map fun n => (some (sign * n), (spanDigits ds).2)
    else some (none, cs)
  | [] => some (none, cs)

/-- A numeral at the front of a text. -/
def numeral? (cs : List Char) : Option (Numeral × List Char) := do
  let (negative, cs) :=
    match cs with
    | '-' :: r => (true, r)
    | r => (false, r)
  let (w, cs) ← whole? cs
  let (f, cs) ← fraction? cs
  let (e, cs) ← exponent? cs
  return (⟨negative, w, f, e⟩, cs)

/-! ## Values

The fuel of the three functions below bounds the number of nested and following values;
the length of the text is enough of it. Each gives the rest of the text only when
nothing was broken.
-/

mutual

def value : Nat → List Char → Draft × Option (List Char)
  | 0, _ => (.broken, none)
  | fuel + 1, cs =>
    match skipSpace cs with
    | 'n' :: 'u' :: 'l' :: 'l' :: r => (.null, some r)
    | 't' :: 'r' :: 'u' :: 'e' :: r => (.bool true, some r)
    | 'f' :: 'a' :: 'l' :: 's' :: 'e' :: r => (.bool false, some r)
    | '"' :: r =>
      match text? r with
      | some (s, r) => (.string s, some r)
      | none => (.broken, none)
    | '[' :: r =>
      match skipSpace r with
      | ']' :: r => (.array [] true, some r)
      | r =>
        let (items, rest) := elements fuel r
        (.array items rest.isSome, rest)
    | '\x7b' :: r =>
      match skipSpace r with
      | '\x7d' :: r => (.object [] true, some r)
      | r =>
        let (members, rest) := entries fuel r
        (.object members rest.isSome, rest)
    | r =>
      match numeral? r with
      | some (n, r) => (.number n, some r)
      | none => (.broken, none)

/-- One or more items and the end of their array. -/
def elements : Nat → List Char → List Draft × Option (List Char)
  | 0, _ => ([], none)
  | fuel + 1, cs =>
    match value fuel cs with
    | (v, none) => ([v], none)
    | (v, some r) =>
      match skipSpace r with
      | ',' :: r =>
        let (vs, rest) := elements fuel r
        (v :: vs, rest)
      | ']' :: r => ([v], some r)
      | _ => ([v], none)

/-- One or more members and the end of their object. -/
def entries : Nat → List Char → List (Option String × Draft) × Option (List Char)
  | 0, _ => ([], none)
  | fuel + 1, cs =>
    match skipSpace cs with
    | '"' :: r =>
      match text? r with
      | none => ([], none)
      | some (k, r) =>
        match skipSpace r with
        | ':' :: r =>
          match value fuel r with
          | (v, none) => ([(k, v)], none)
          | (v, some r) =>
            match skipSpace r with
            | ',' :: r =>
              let (ms, rest) := entries fuel r
              ((k, v) :: ms, rest)
            | '\x7d' :: r => ([(k, v)], some r)
            | _ => ([(k, v)], none)
        | _ => ([(k, .broken)], none)
    | _ => ([], none)

end

/-- The draft of a text, and what stands behind the value when it is complete. -/
def ofText (s : String) : Draft × Option (List Char) :=
  value (2 * s.toList.length + 1) s.toList

end Draft

end HotelBooking
