/-!
# UTF-8 in percent-encoded text

A percent-encoded text gives, once its escapes are read, a sequence of whole characters
and of single bytes. `decode` puts the bytes together to characters, as UTF-8 prescribes.
A sequence of bytes that is cut short or never starts a character leaves a gap, which
`strict?` refuses and `lossy` fills with U+FFFD, one for each longest beginning of a
character.
-/

namespace HotelBooking.Text

/-- A whole character or a byte of one. -/
inductive Symbol where
  | char (c : Char)
  | byte (b : Nat)
  deriving DecidableEq

namespace Symbol

/-- A character begun: its bits so far, the bytes to come, and the range of the next one. -/
structure Partial where
  bits : Nat
  missing : Nat
  low : Nat := 0x80
  high : Nat := 0xBF

/-- What a first byte of two or more begins. -/
def lead? (b : Nat) : Option Partial :=
  if 0xC2 ≤ b ∧ b ≤ 0xDF then some { bits := b - 0xC0, missing := 1 }
  else if b = 0xE0 then some { bits := 0, missing := 2, low := 0xA0 }
  else if b = 0xED then some { bits := 13, missing := 2, high := 0x9F }
  else if 0xE1 ≤ b ∧ b ≤ 0xEF then some { bits := b - 0xE0, missing := 2 }
  else if b = 0xF0 then some { bits := 0, missing := 3, low := 0x90 }
  else if 0xF1 ≤ b ∧ b ≤ 0xF3 then some { bits := b - 0xF0, missing := 3 }
  else if b = 0xF4 then some { bits := 4, missing := 3, high := 0x8F }
  else none

/-- What a byte gives where a character may begin: characters and gaps, and what it begins. -/
def first (b : Nat) : List (Option Char) × Option Partial :=
  if b < 0x80 then ([some (Char.ofNat b)], none)
  else
    match lead? b with
    | some p => ([], some p)
    | none => ([none], none)

/-- What a symbol gives behind a character begun. -/
def next (begun : Option Partial) (s : Symbol) : List (Option Char) × Option Partial :=
  match begun, s with
  | none, .char c => ([some c], none)
  | some _, .char c => ([none, some c], none)
  | none, .byte b => first b
  | some p, .byte b =>
    if p.low ≤ b ∧ b ≤ p.high then
      let bits := 64 * p.bits + (b - 0x80)
      if p.missing = 1 then ([some (Char.ofNat bits)], none)
      else ([], some { bits, missing := p.missing - 1 })
    else
      let (out, begun) := first b
      (none :: out, begun)

/-- The characters of a sequence of symbols, with a gap where bytes make none. -/
def decode (begun : Option Partial) : List Symbol → List (Option Char)
  | [] => if begun.isSome then [none] else []
  | s :: ss =>
    let (out, begun) := next begun s
    out ++ decode begun ss

/-- The text of symbols that leave no gap. -/
def strict? (ss : List Symbol) : Option (List Char) :=
  (decode none ss).mapM id

/-- The text of symbols, with U+FFFD for each gap. -/
def lossy (ss : List Symbol) : List Char :=
  (decode none ss).map fun c => c.getD '\uFFFD'

end Symbol

end HotelBooking.Text
