import HotelBooking.Http.Extract
import HotelBooking.Proofs.Http.Address
import HotelBooking.Proofs.Json.Faithful

/-!
# The requests of calls

A call to a service whose base names a server asks that server for what the call is about, by
a path of its own below the root of the interface. A name that a header carries unchanged
arrives as it was sent, and whoever receives the request takes it for the caller's.
-/

namespace HotelBooking

open Http

/-! ## Paths -/

/-- An integer is written in digits, perhaps behind a sign. -/
theorem Decimal.forall_mem_ofInt {P : Char → Prop} (digit : ∀ c, Decimal.isDigit c → P c)
    (minus : P '-') (n : Int) : ∀ c ∈ (Decimal.ofInt n).toList, P c := by
  intro c member
  rw [Decimal.ofInt, String.toList_ofList] at member
  cases n with
  | ofNat n => exact digit c (Decimal.isDigit_of_mem_digits c member)
  | negSucc n =>
      rcases List.mem_cons.mp member with rfl | later
      · exact minus
      · exact digit c (Decimal.isDigit_of_mem_digits c later)

theorem Decimal.not_mem_ofInt {c : Char} (noDigit : Decimal.isDigit c = false) (other : c ≠ '-')
    (n : Int) : c ∉ (Decimal.ofInt n).toList := by
  intro member
  have digit (d : Char) (digit : Decimal.isDigit d) : d ≠ c := by
    rintro rfl
    rw [noDigit] at digit
    cases digit
  exact Decimal.forall_mem_ofInt (P := (· ≠ c)) digit other.symm n c member rfl

theorem Uid.forall_mem_toText {P : Char → Prop} (digit : ∀ d, P (Hex.lower d)) (hyphen : P '-')
    (u : Uid) : ∀ c ∈ u.toText.toList, P c := by
  rw [Uid.toText, String.toList_ofList]
  exact u.forall_mem_chars digit hyphen

/-- Below a path there are paths. -/
theorem Http.Target.IsPath.below {front back : String} (plain : front.toList.all isPathChar)
    (begins : ∃ cs, front.toList = '/' :: cs) (more : ∀ c ∈ back.toList, isPathChar c) :
    Target.IsPath (front ++ back).toList := by
  obtain ⟨cs, written⟩ := begins
  rw [String.toList_append]
  have plain := List.all_eq_true.mp plain
  refine ⟨fun c member => (List.mem_append.mp member).elim (plain c) (more c), .inr ?_⟩
  exact ⟨cs ++ back.toList, by rw [written, List.cons_append]⟩

/-- A resource is written in the characters of paths, and begins with a slash. -/
theorem Call.isPath_resource (c : Call) : Target.IsPath c.resource.toList := by
  have fixed (text : String) (plain : text.toList.all isPathChar)
      (begins : ∃ r, text.toList = '/' :: r) : Target.IsPath text.toList :=
    ⟨List.all_eq_true.mp plain, .inr begins⟩
  have number (n : Int) : ∀ c ∈ (Decimal.ofInt n).toList, isPathChar c :=
    Decimal.forall_mem_ofInt (fun c digit => by simp [isPathChar, digit]) (by decide) n
  have uidText (u : Uid) : ∀ c ∈ u.toText.toList, isPathChar c :=
    u.forall_mem_toText (by decide) (by decide)
  cases c with
  | listHotels => exact fixed "/hotels" (by decide) ⟨_, rfl⟩
  | getHotelById id => exact .below (by decide) ⟨_, rfl⟩ (number id.toInt)
  | getHotelByUid uid => exact .below (by decide) ⟨_, rfl⟩ (uidText uid)
  | listReservations => exact fixed "/reservations" (by decide) ⟨_, rfl⟩
  | createReservation => exact fixed "/reservations" (by decide) ⟨_, rfl⟩
  | getReservation uid => exact .below (by decide) ⟨_, rfl⟩ (uidText uid)
  | updateReservation r => exact .below (by decide) ⟨_, rfl⟩ (uidText r.uid)
  | createPayment => exact fixed "/payment" (by decide) ⟨_, rfl⟩
  | getPayment uid => exact .below (by decide) ⟨_, rfl⟩ (uidText uid)
  | updatePayment p => exact .below (by decide) ⟨_, rfl⟩ (uidText p.uid)
  | getLoyalty => exact fixed "/loyalty" (by decide) ⟨_, rfl⟩
  | updateLoyalty => exact fixed "/loyalty" (by decide) ⟨_, rfl⟩

/-! ## Servers and names -/

/-- The base is the URL of a server: the root of the interface is found at its root, and no
part of the base hides what stands behind it. -/
structure Http.IsServer (base : String) : Prop where
  root : Target.ofUrl? (Call.root base) = some { path := "/api/v1" }
  whole : '#' ∉ base.toList

/-- A name that may be sent in a header, with nothing blank around it. -/
structure Http.IsSendable (name : String) : Prop where
  trimmed : Text.trim name = name
  allowed : isHeaderValue name

/-- Blanks and tabs are blank, so nothing is taken off a name on its way. -/
theorem Http.IsSendable.arriving {name : String} (h : IsSendable name) :
    Http.arriving name = name := by
  have whole : Text.stripBoth Text.isBlank name.toList = name.toList := by
    rw [← Text.toList_trim, h.trimmed]
  rw [Http.arriving, Text.stripBoth_of_narrower whole, String.ofList_toList]
  intro c solid
  rw [Bool.or_eq_false_iff, beq_eq_false_iff_ne, beq_eq_false_iff_ne]
  constructor <;> rintro rfl <;> cases solid

/-- What is heard of a name that is sent: nothing, if it goes beyond plain characters. -/
def Http.heard (name : String) : String :=
  if name.toList.all isPlainChar then name else ""

/-- A header carries the name unchanged: visible ASCII, with blanks and tabs inside only. -/
structure Http.IsCarried (name : String) : Prop where
  given : name ≠ ""
  trimmed : Text.trim name = name
  plain : name.toList.all isPlainChar

namespace Http.IsCarried

variable {name : String} (h : IsCarried name)

include h

theorem sendable : IsSendable name := by
  refine ⟨h.trimmed, ?_⟩
  rw [Http.isHeaderValue, List.all_eq_true]
  intro c member
  have plain := List.all_eq_true.mp h.plain c member
  simp only [isPlainChar, isHeaderChar, Bool.or_eq_true, Bool.and_eq_true,
    decide_eq_true_eq] at plain ⊢
  exact plain.imp_left fun range => ⟨range.1, Nat.ne_of_lt range.2⟩

theorem heard : Http.heard name = name := if_pos h.plain

end Http.IsCarried

namespace Call

variable {c : Call} {base : String}

/-- What a call asks of its service. -/
def asked (c : Call) : Request where
  method := c.method
  path := "/api/v1" ++ c.resource
  query := c.query?
  headers := (c.onBehalfOf?.map fun u => (userHeader, u)).toList ++
    (c.body?.map fun _ => (contentType, jsonType)).toList
  body := c.body?.getD ""

theorem target?_of_isServer (server : IsServer base) (c : Call) :
    c.target? base = some { path := "/api/v1" ++ c.resource, query := c.query? } := by
  have without_mark : '#' ∉ (base.toList.reverse.dropWhile (· = '/')).reverse := by
    intro member
    have := (List.dropWhile_sublist _).subset (List.mem_reverse.mp member)
    exact server.whole (List.mem_reverse.mp this)
  have asks_root : Target.ofUrl? (String.ofList
      ((base.toList.reverse.dropWhile (· = '/')).reverse ++ rootChars)) =
        some { path := String.ofList rootChars } := by
    rw [String.ofList_append]
    exact server.root
  have found := Target.ofUrl?_append asks_root without_mark c.isPath_resource
  have whole : root base ++ c.resource = String.ofList
      ((base.toList.reverse.dropWhile (· = '/')).reverse ++ (rootChars ++ c.resource.toList)) := by
    rw [String.ofList_append, String.ofList_append, String.ofList_toList, ← String.append_assoc]
    rfl
  rw [target?, whole, found, String.ofList_append, String.ofList_toList]
  cases c.query? <;> rfl

theorem request?_of_isServer (server : IsServer base)
    (sendable : ∀ name, c.onBehalfOf? = some name → IsSendable name) :
    c.request? base = some c.asked := by
  have allowed : c.onBehalfOf?.all isHeaderValue := by
    cases named : c.onBehalfOf? with
    | none => rfl
    | some name => exact (sendable name named).allowed
  rw [request?, target?_of_isServer server]
  simp [guard, allowed, asked]

theorem received_asked (sendable : ∀ name, c.onBehalfOf? = some name → IsSendable name) :
    received c.asked = c.asked := by
  have json : arriving jsonType = jsonType := by decide
  have headers : (c.asked.headers.map fun h => (h.1, arriving h.2)) = c.asked.headers := by
    unfold asked
    cases named : c.onBehalfOf? with
    | none => cases c.body? <;> simp [json]
    | some name => cases c.body? <;> simp [json, (sendable name named).arriving]
  rw [received, headers]

theorem callerName_asked {name : String} (named : c.onBehalfOf? = some name)
    (sendable : IsSendable name) : callerName c.asked.headers = heard name := by
  have told : c.asked.headers.value? userHeader = some name := by
    simp [asked, named, Headers.value?]
  rw [callerName, told, heard]
  simp only [sendable.trimmed]

/-- Whoever is sent a body is told what it is. -/
theorem jsonBody_asked {α : Type} [Wire α] [Wire.Faithful α] {a : α}
    (sent : c.body? = some (Wire.toText a)) : jsonBody α c.asked = .ok a := by
  have other : (userHeader.toLower == contentType.toLower) = false := by
    rw [beq_eq_false_iff_ne]
    intro same
    have letters : (userHeader.map Char.toLower).toList = (contentType.map Char.toLower).toList :=
      congrArg String.toList same
    simp [userHeader, contentType, String.toList_map] at letters
  have told : c.asked.headers.value? contentType = some jsonType := by
    simp only [asked, sent, Option.map_some, Option.toList_some, Headers.value?]
    cases c.onBehalfOf? <;> simp [other]
  have json : isJsonType jsonType := by decide
  have body : c.asked.body = Wire.toText a := by simp [asked, sent]
  rw [jsonBody, told, body, Wire.ofText_toText]
  simp [json]

end Call

end HotelBooking
