import HotelBooking.Http.Message
import HotelBooking.Text.Blank
import HotelBooking.Text.Percent
import HotelBooking.Text.Reader

/-!
# Header values

What a header can carry, who a request says it comes from, and whether it says that its
body is JSON.
-/

namespace HotelBooking.Http

/-- The header that names the user. -/
def userHeader : String := "X-User-Name"

/-- Whether a character may stand in a header value. -/
def isHeaderChar (c : Char) : Bool :=
  (0x20 ≤ c.toNat && c.toNat ≠ 0x7F) || c == '\t'

/-- Whether a text may be sent as a header value. -/
def isHeaderValue (s : String) : Bool :=
  s.toList.all isHeaderChar

/-- A header value as it arrives: without the blanks and tabs around it. -/
def arriving (s : String) : String :=
  String.ofList (Text.stripBoth (fun c => c == ' ' || c == '\t') s.toList)

/-- Whether a character is visible ASCII, a blank or a tab. -/
def isPlainChar (c : Char) : Bool :=
  (0x20 ≤ c.toNat && c.toNat < 0x7F) || c == '\t'

/--
The name of the user whom a request comes from. Nothing vouches for it. A missing name
and one with characters beyond visible ASCII are the empty name.
-/
def callerName (hs : Headers) : String :=
  match hs.value? userHeader with
  | some v => if v.toList.all isPlainChar then Text.trim v else ""
  | none => ""

/-! ## Media types -/

/-- The characters of a token. -/
def isTokenChar (c : Char) : Bool :=
  c.isAlphanum || "!#$%&'*+-.^_|~".toList.contains c || c == Char.ofNat 0x60

/-- Whether a character may stand in a quoted value. -/
def isQuotable (c : Char) : Bool :=
  0x1F < c.toNat && c.toNat < 0x7F

def blanks : Reader Unit := do
  let _ ← Reader.span (· = ' ')

def token : Reader Unit := do
  let cs ← Reader.span isTokenChar
  guard !cs.isEmpty

/-- A value in quotation marks. It is not empty: its first character may be such a mark. -/
def quotedValue : Reader Unit := do
  Reader.char '"'
  let first ← Reader.next?
  guard (first.all isQuotable)
  modify (List.drop 1)
  let _ ← Reader.span fun c => isQuotable c && c ≠ '"'
  Reader.char '"'
  blanks

/-- The name of a parameter, its equals sign and its value. -/
def parameter (value : Reader Unit) : Reader Unit := do
  token
  Reader.char '='
  value

/--
The parameters of a media type, with semicolons between them. Behind the last parameter
one may stand too; where none does, the value of that parameter may be missing.
-/
def parameters : Reader Unit := do
  let _ ← Reader.many (do
    blanks
    parameter (quotedValue <|> token)
    Reader.char ';')
  blanks
  let _ ← optional (parameter (quotedValue <|> token <|> pure ()))

/-- The part of a subtype in front of its last plus sign, and the part behind it. -/
def splitSuffix (sub : List Char) : List Char × List Char :=
  let back := sub.reverse
  match back.dropWhile (· ≠ '+') with
  | _ :: front =>
    if front.isEmpty then (sub, []) else (front.reverse, (back.takeWhile (· ≠ '+')).reverse)
  | [] => (sub, [])

/-- Whether a media type is `application/json` or `application` with the suffix `json`. -/
def isJsonType (s : String) : Bool :=
  let cs := s.toList
  let (main, rest) := Text.cutAt '/' cs
  match rest with
  | none => false
  | some rest =>
    let (sub, further) := Text.cutAt ';' rest
    let (front, suffix) := splitSuffix (sub.map Char.toLower)
    main.map Char.toLower = "application".toList && !sub.isEmpty && sub.all isTokenChar &&
      (front = "json".toList || suffix = "json".toList) &&
      further.all fun ps => (parameters.whole? (String.ofList ps)).isSome

end HotelBooking.Http
