import HotelBooking.Text.Hex
import HotelBooking.Text.Reader

/-!
# Quoted text in TOML

Text stands in quotation marks, where a backslash begins an escape, or in apostrophes,
where it stands for itself. Either mark may be written three times; then the text may run
over several lines, a line break right behind the opening marks does not count, and the
text may end in one or two marks of its own.
-/

namespace HotelBooking.Config.Toml

/-- Whether a character may stand in text and in comments. -/
def isPlain (c : Char) : Bool :=
  c = '\t' || (0x20 ≤ c.toNat && c.toNat ≠ 0x7F)

def isSpace (c : Char) : Bool :=
  c = ' ' || c = '\t'

/-- The character with this number, given by its hexadecimal digits. -/
def scalar? (ds : List Char) : Option Char := do
  let n ← Hex.number? ds
  if n < 0xD800 ∨ (0xE000 ≤ n ∧ n < 0x110000) then some (Char.ofNat n) else none

/-- The character of an escape that is one letter. -/
def escaped? : Char → Option Char
  | 'b' => some (Char.ofNat 8)
  | 't' => some '\t'
  | 'n' => some '\n'
  | 'f' => some (Char.ofNat 12)
  | 'r' => some '\r'
  | 'e' => some (Char.ofNat 27)
  | '"' => some '"'
  | '\\' => some '\\'
  | _ => none

/-- Put a character that may be missing in front of the text that follows it. -/
def following (c : Option Char) (r : Option (List Char × List Char)) :
    Option (List Char × List Char) :=
  match c, r with
  | some c, some (cs, rest) => some (c :: cs, rest)
  | _, _ => none

/-- Text behind a quotation mark. -/
def basic : List Char → Option (List Char × List Char)
  | '"' :: r => some ([], r)
  | '\\' :: 'x' :: a :: b :: r => following (scalar? [a, b]) (basic r)
  | '\\' :: 'u' :: a :: b :: c :: d :: r => following (scalar? [a, b, c, d]) (basic r)
  | '\\' :: 'U' :: a :: b :: c :: d :: e :: f :: g :: h :: r =>
    following (scalar? [a, b, c, d, e, f, g, h]) (basic r)
  | '\\' :: c :: r => following (escaped? c) (basic r)
  | c :: r => following (if isPlain c then some c else none) (basic r)
  | [] => none

/-- Whether nothing else stands before the end of the line. -/
def endsLine (cs : List Char) : Bool :=
  match cs.dropWhile isSpace with
  | '\n' :: _ => true
  | '\r' :: '\n' :: _ => true
  | _ => false

/--
Text behind three quotation marks. While `joining`, blanks and line breaks are left out:
a backslash at the end of a line joins it to the next text.
-/
def basicLines (joining : Bool) : List Char → Option (List Char × List Char)
  | '"' :: '"' :: '"' :: '"' :: '"' :: r => some (['"', '"'], r)
  | '"' :: '"' :: '"' :: '"' :: r => some (['"'], r)
  | '"' :: '"' :: '"' :: r => some ([], r)
  | '\r' :: '\n' :: r =>
    if joining then basicLines true r
    else following (some '\r') (following (some '\n') (basicLines false r))
  | '\n' :: r =>
    if joining then basicLines true r else following (some '\n') (basicLines false r)
  | '\\' :: 'x' :: a :: b :: r => following (scalar? [a, b]) (basicLines false r)
  | '\\' :: 'u' :: a :: b :: c :: d :: r =>
    following (scalar? [a, b, c, d]) (basicLines false r)
  | '\\' :: 'U' :: a :: b :: c :: d :: e :: f :: g :: h :: r =>
    following (scalar? [a, b, c, d, e, f, g, h]) (basicLines false r)
  | '\\' :: c :: r =>
    if endsLine (c :: r) then basicLines true (c :: r)
    else following (escaped? c) (basicLines false r)
  | c :: r =>
    if joining ∧ isSpace c then basicLines true r
    else following (if isPlain c then some c else none) (basicLines false r)
  | [] => none

/-- Text behind an apostrophe. -/
def literal : List Char → Option (List Char × List Char)
  | '\'' :: r => some ([], r)
  | c :: r => following (if isPlain c then some c else none) (literal r)
  | [] => none

/-- Text behind three apostrophes. -/
def literalLines : List Char → Option (List Char × List Char)
  | '\'' :: '\'' :: '\'' :: '\'' :: '\'' :: r => some (['\'', '\''], r)
  | '\'' :: '\'' :: '\'' :: '\'' :: r => some (['\''], r)
  | '\'' :: '\'' :: '\'' :: r => some ([], r)
  | '\r' :: '\n' :: r => following (some '\r') (following (some '\n') (literalLines r))
  | '\n' :: r => following (some '\n') (literalLines r)
  | c :: r => following (if isPlain c then some c else none) (literalLines r)
  | [] => none

/-- A text without the line break that it begins with. -/
def dropBreak : List Char → List Char
  | '\n' :: r => r
  | '\r' :: '\n' :: r => r
  | r => r

/-- Text on one line, which may be a key. -/
def onLine : Reader (List Char)
  | '"' :: r => basic r
  | '\'' :: r => literal r
  | _ => none

/-- Text of any kind. -/
def quoted : Reader (List Char)
  | '"' :: '"' :: '"' :: r => basicLines false (dropBreak r)
  | '\'' :: '\'' :: '\'' :: r => literalLines (dropBreak r)
  | r => onLine r

end HotelBooking.Config.Toml
