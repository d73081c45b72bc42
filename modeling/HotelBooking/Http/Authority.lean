import HotelBooking.Text.Blank
import HotelBooking.Text.Decimal
import HotelBooking.Text.Percent

/-!
# Authorities

The part of a URL that names the server: perhaps a user in front of an at sign, then the
host, and perhaps a number behind a colon. A host is a name or an address. `isReachable`
is the condition for sending a request there, `isPlausible` a weaker one that looks at the
characters only and not at the host.
-/

namespace HotelBooking.Http.Authority

/-- The marks that may stand in the name of a host. -/
def isHostMark (c : Char) : Bool :=
  "!$&'()*+,-.;=_~".toList.contains c

/-! ## Addresses -/

/-- The number that digits to some base stand for; no digits are zero. -/
def number? (base : Nat) (ds : List Char) : Option Nat := do
  let values ← ds.mapM Hex.value?
  guard (values.all fun d => d.val < base)
  return values.foldl (fun n d => base * n + d.val) 0

/-- A part of an address, where a leading zero or `0x` tells the base. -/
def part? : List Char → Option Nat
  | [] => none
  | '0' :: 'x' :: ds | '0' :: 'X' :: ds => number? 16 ds
  | '0' :: d :: ds => number? 8 (d :: ds)
  | ds => number? 10 ds

/-- The parts of a name between its dots, of which one may stand at the end. -/
def labels (cs : List Char) : List (List Char) :=
  let parts := Text.splitOn '.' cs
  if parts.getLast? = some [] then parts.dropLast else parts

/-- Whether a host has to be an address of four bytes: its last part is a number. -/
def endsInNumber (cs : List Char) : Bool :=
  (labels cs).getLast?.any fun l =>
    (!l.isEmpty && l.all Decimal.isDigit) || (part? l).isSome

/-- An address of four bytes, the last of which may be written as one number. -/
def isAddress4 (cs : List Char) : Bool :=
  match (labels cs).mapM part? with
  | some ns =>
    ns.length ≤ 4 && ns.dropLast.all (· < 256) &&
      ns.getLast?.any fun n => n < 1 <<< (8 * (5 - ns.length))
  | none => false

/-- How many groups of sixteen bits are written, the last four bytes perhaps in decimal. -/
def groups? (cs : List Char) : Option Nat := do
  if cs.isEmpty then return 0
  let parts := Text.splitOn ':' cs
  let last ← parts.getLast?
  let isDecimal := last.contains '.'
  guard (parts.dropLast.all isGroup)
  guard (if isDecimal then isDecimalTail last else isGroup last)
  return if isDecimal then parts.length + 1 else parts.length
where
  isGroup (p : List Char) : Bool := !p.isEmpty && p.length ≤ 4 && (Hex.number? p).isSome
  isDecimalTail (p : List Char) : Bool :=
    let bytes := Text.splitOn '.' p
    bytes.length = 4 && bytes.all fun b =>
      (b = ['0'] || b.head? ≠ some '0') && (Decimal.value? b).any (· < 256)

/-- The text before the first two colons, and what stands behind them. -/
def cutAtGap : List Char → List Char × Option (List Char)
  | ':' :: ':' :: cs => ([], some cs)
  | c :: cs =>
    let (front, back) := cutAtGap cs
    (c :: front, back)
  | [] => ([], none)

/-- An address of eight groups, where two colons leave out one or more that are zero. -/
def isAddress6 (cs : List Char) : Bool :=
  let (front, back) := cutAtGap cs
  match groups? front, back with
  | some n, none => n = 8
  | some n, some back => !front.contains '.' && (groups? back).any fun m => n + m < 8
  | none, _ => false

/-! ## The whole part -/

/-- The name of a host with its escapes read; letters beyond ASCII belong to names. -/
def isHostName (cs : List Char) : Bool :=
  match Text.Percent.decode? (String.ofList cs) with
  | none => false
  | some name =>
    let cs := name.toList
    !cs.isEmpty && cs.all (fun c =>
      c.isAlphanum || isHostMark c || (0xA0 ≤ c.toNat && !Text.isBlank c)) &&
    (!endsInNumber cs || isAddress4 cs)

/-- A number of sixteen bits, or none. -/
def isNumberPart (cs : List Char) : Bool :=
  cs.isEmpty || (Decimal.value? cs).any (· < UInt16.size)

/-- Whether a request can be sent to the host, whoever the user is. -/
def isReachable (cs : List Char) : Bool :=
  match (cs.reverse.takeWhile (· ≠ '@')).reverse with
  | '[' :: cs =>
    let (address, rest) := Text.cutAt ']' cs
    isAddress6 address &&
      match rest with
      | some [] => true
      | some (':' :: n) => isNumberPart n
      | _ => false
  | cs =>
    let (host, n) := Text.cutAt ':' cs
    isHostName host && n.all isNumberPart

/-! ## By characters only -/

/-- What was met so far: colons and escapes that are no part of a user or an address. -/
structure Passed where
  colons : Nat := 0
  escaped : Bool := false
  opened : Bool := false
  closed : Bool := false

def isPlausibleChar (c : Char) : Bool :=
  c.isAlphanum || isHostMark c || ":@[]%".toList.contains c

def Passed.next (p : Passed) (c : Char) : Option Passed :=
  if c = ':' then if p.colons < 8 then some { p with colons := p.colons + 1 } else none
  else if c = '@' then some { p with colons := 0, escaped := false }
  else if c = '%' then some { p with escaped := true }
  else if c = '[' then if p.escaped || p.opened then none else some { p with opened := true }
  else if c = ']' then
    if p.opened && !p.closed then
      some { p with colons := 0, escaped := false, closed := true }
    else none
  else some p

/-- Whether brackets, colons and escapes stand where they may. -/
def isPlausible (cs : List Char) : Bool :=
  match cs.foldlM Passed.next {} with
  | some p =>
    p.opened == p.closed && p.colons ≤ 1 && !p.escaped && cs.getLast? ≠ some '@'
  | none => false

end HotelBooking.Http.Authority
