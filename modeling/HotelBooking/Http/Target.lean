import HotelBooking.Http.Authority

/-!
# Targets of requests

A caller names what it asks for by a path and a query. A caller that knows URLs writes
them in one way: it resolves the segments that only move in the path, and escapes what may
not stand in a URL. One that does not sends the characters as they are, and some of them
cannot be sent. Neither sends a fragment.
-/

namespace HotelBooking.Http

structure Target where
  path : String
  query : Option String := none
  deriving DecidableEq, Inhabited

namespace Target

/-- The path and the query of a text that may have a fragment behind them. -/
def parts (cs : List Char) : List Char × Option (List Char) :=
  Text.cutAt '?' (Text.cutAt '#' cs).1

/-- The target with a further part of a form behind its query. -/
def withField (t : Target) (field : String) : Target :=
  match t.query with
  | none | some "" => { t with query := some field }
  | some q => { t with query := some (q ++ "&" ++ field) }

/-! ## As a URL -/

/-- Whether a character ends the part of a URL that names the server. -/
def endsAuthority (c : Char) : Bool :=
  c = '/' || c = '\\' || c = '?' || c = '#'

/-- Whether a character is escaped in paths and queries alike. -/
def isUnsafe (c : Char) : Bool :=
  c.toNat < 0x21 || 0x7F ≤ c.toNat || c = '"' || c = '<' || c = '>'

def isUnsafeInPath (c : Char) : Bool :=
  isUnsafe c || c = '\x60' || c = '\x7b' || c = '\x7d'

def isUnsafeInQuery (c : Char) : Bool :=
  isUnsafe c || c = '\''

/-- A segment with each escape of a dot read, to tell whether it only moves. -/
def dots : List Char → List Char
  | '%' :: '2' :: 'e' :: cs => '.' :: dots cs
  | '%' :: '2' :: 'E' :: cs => '.' :: dots cs
  | c :: cs => c :: dots cs
  | [] => []

/-- The name of a drive, which no move leaves. -/
def isDrive : List Char → Bool
  | [c, ':'] | [c, '|'] => c.isAlpha
  | _ => false

/-- The segments passed, the last first, after a move back. -/
def back : List (List Char) → List (List Char)
  | s :: passed => if isDrive s then s :: passed else passed
  | [] => []

/-- The segments of a path with the moves done, those already passed in reverse. -/
def resolve (passed : List (List Char)) : List (List Char) → List (List Char)
  | [] => passed.reverse
  | s :: rest =>
    let last := if rest.isEmpty then [[]] else []
    match dots s with
    | ['.'] => resolve (last ++ passed) rest
    | ['.', '.'] => resolve (last ++ back passed) rest
    | _ => resolve (s :: passed) rest

/-- A segment that moves: one dot or two, escaped or not. -/
def isMove (s : List Char) : Bool :=
  dots s = ['.'] || dots s = ['.', '.']

theorem resolve_of_forall {segments : List (List Char)}
    (h : ∀ s ∈ segments, isMove s = false) (passed : List (List Char)) :
    resolve passed segments = passed.reverse ++ segments := by
  induction segments generalizing passed with
  | nil => simp [resolve]
  | cons s rest ih =>
    have hs : isMove s = false := h s (by simp)
    simp only [isMove, Bool.or_eq_false_iff, decide_eq_false_iff_not] at hs
    rw [resolve]
    split
    · exact absurd ‹_› hs.1
    · exact absurd ‹_› hs.2
    · rw [ih fun t ht => h t (by simp [ht])]
      simp

/-- The path behind its first slash, where a backslash is a slash too. -/
def urlPath (cs : List Char) : List Char :=
  let cs := cs.map fun c => if c = '\\' then '/' else c
  let segments := Text.splitOn '/' (if cs.head? = some '/' then cs.drop 1 else cs)
  (resolve [] segments).flatMap fun s => '/' :: Text.Percent.encode isUnsafeInPath s

/-- The target that stands behind the server's name in a URL. -/
def ofUrlPart (cs : List Char) : Target :=
  let (path, query) := parts cs
  { path := String.ofList (urlPath path)
    query := query.map fun q => String.ofList (Text.Percent.encode isUnsafeInQuery q) }

/-- The text of a URL without what is passed over in reading it. -/
def cleaned (s : String) : List Char :=
  (Text.stripBoth (fun c => c.toNat ≤ 0x20) s.toList).filter fun c =>
    c ≠ '\t' ∧ c ≠ '\n' ∧ c ≠ '\r'

/-- The text of a URL of the web behind its scheme and the slashes there. -/
def behindScheme? (cs : List Char) : Option (List Char) := do
  let (scheme, rest) := Text.cutAt ':' cs
  let rest ← rest
  guard (["http", "https"].contains (String.ofList (scheme.map Char.toLower)))
  return rest.dropWhile fun c => c = '/' || c = '\\'

/-- The target of a URL as it is sent by a caller that knows URLs, if it can be sent. -/
def ofUrl? (s : String) : Option Target := do
  let cs ← behindScheme? (cleaned s)
  guard (Authority.isReachable (cs.takeWhile fun c => !endsAuthority c))
  return ofUrlPart (cs.dropWhile fun c => !endsAuthority c)

/-! ## As it is -/

/-- Why a target cannot be sent as it is. -/
inductive Defect where
  | empty
  | character
  | format
  | authority
  | scheme
  deriving DecidableEq, Inhabited

def Defect.message : Defect → String
  | empty => "empty string"
  | character => "invalid uri character"
  | format => "invalid format"
  | authority => "invalid authority"
  | scheme => "scheme too long"

/-- Whether a character may stand in a path or a query without an escape. -/
def isSendable (c : Char) : Bool :=
  0x21 ≤ c.toNat && c ≠ '<' && c ≠ '>'

/-- A path and a query whose characters are sent as they are; no path is the root. -/
def literalPart (cs : List Char) : Except Defect Target :=
  let (path, query) := parts cs
  if path.all (fun c => isSendable c && c ≠ '\x60') ∧
      (query.getD []).all (fun c => isSendable c && c ≠ '"') then
    .ok { path := if path.isEmpty then "/" else String.ofList path
          query := query.map String.ofList }
  else .error .character

def isSchemeChar (c : Char) : Bool :=
  c.isAlphanum || c = '+' || c = '-' || c = '.'

/-- The text behind a scheme and two slashes, if it begins with these. -/
def behindAnyScheme (cs : List Char) : Except Defect (Option (List Char)) :=
  match cs.dropWhile isSchemeChar with
  | ':' :: '/' :: '/' :: rest =>
    if 64 < (cs.takeWhile isSchemeChar).length then .error .scheme else .ok (some rest)
  | _ => .ok none

/--
The target whose characters are sent as they are: a path with its query, the same behind
a scheme and the name of a server, that name alone, which asks for nothing, or an asterisk.
-/
def literal (s : String) : Except Defect Target := do
  let cs := s.toList
  if cs.isEmpty then throw .empty
  else if cs = ['*'] then return { path := "*" }
  else if cs.head? = some '/' then literalPart cs
  else
    let behind ← behindAnyScheme cs
    let isEnd (c : Char) : Bool := c = '/' || c = '?' || c = '#'
    let authority := (behind.getD cs).takeWhile (!isEnd ·)
    let rest := (behind.getD cs).dropWhile (!isEnd ·)
    if !authority.all Authority.isPlausibleChar then throw .character
    else if !Authority.isPlausible authority then throw .authority
    else if behind.isSome then if authority.isEmpty then throw .format else literalPart rest
    else if rest.isEmpty then return { path := "" }
    else throw .format

end Target

end HotelBooking.Http
