import HotelBooking.Error

/-!
# Requests and answers

Requests and answers as they travel, with bodies as text. Names of headers are compared
regardless of case, and where a header comes twice the first counts. The end of the
module says how errors are answered: what a guest may know is told, and everything else
is an internal error without detail.
-/

namespace HotelBooking.Http

inductive Method where
  | get
  | head
  | post
  | put
  | delete
  | options
  | other (token : String)
  deriving DecidableEq, Inhabited

namespace Method

def text : Method → String
  | get => "GET"
  | head => "HEAD"
  | post => "POST"
  | put => "PUT"
  | delete => "DELETE"
  | options => "OPTIONS"
  | other token => token

def ofText (token : String) : Method :=
  ([get, head, post, put, delete, options].find? fun m => m.text == token).getD (other token)

end Method

abbrev Headers := List (String × String)

/-- The value of a header. -/
def Headers.value? (hs : Headers) (name : String) : Option String :=
  (hs.find? fun h => h.1.toLower == name.toLower).map Prod.snd

structure Request where
  method : Method
  /-- The path as sent, with its escapes. -/
  path : String
  query : Option String := none
  headers : Headers := []
  body : String := ""
  deriving DecidableEq, Inhabited

namespace Request

/-- Path and query together. -/
def target (r : Request) : String :=
  match r.query with
  | some q => r.path ++ "?" ++ q
  | none => r.path

end Request

structure Response where
  status : Nat
  headers : Headers := []
  body : String := ""
  deriving DecidableEq, Inhabited

def contentType : String := "content-type"

def jsonType : String := "application/json"

namespace Response

/-- An answer without a body. -/
def empty (status : Nat) : Response :=
  { status }

/-- An answer that carries a value. -/
def json {α : Type} [Wire α] (status : Nat) (a : α) : Response :=
  { status, headers := [(contentType, jsonType)], body := Wire.toText a }

/-- An answer that carries plain text. -/
def plain (status : Nat) (body : String) : Response :=
  { status, headers := [(contentType, "text/plain; charset=utf-8")], body }

/-- An answer that carries only a message. -/
def note (status : Nat) (message : String) : Response :=
  json status { message : ErrorNote }

def badRequest (message : String) : Response :=
  note 400 message

/-- The answer to everything that guests are not to know of. -/
def internalError : Response :=
  note 500 "Internal Server Error"

/-- The answer that tells of an error. -/
def ofError : ServiceError → Response
  | .invalidParameters reason => badRequest reason
  | .validation report => json 400 report
  | .notFound what => note 404 what
  | .remote .. | .storage _ | .internal _ => internalError

/-- The answer of an operation. -/
def ofOutcome {α : Type} (answer : α → Response) : Outcome α → Response
  | .ok a => answer a
  | .error e => ofError e

def withHeader (r : Response) (name value : String) : Response :=
  { r with headers := r.headers ++ [(name, value)] }

def withoutBody (r : Response) : Response :=
  { r with body := "" }

/-- Whether the status tells of success. -/
def isSuccess (r : Response) : Bool :=
  200 ≤ r.status && r.status < 300

/--
The answer as it arrives: certain statuses never come with a body, and a server cannot
end a request with a status that only informs.
-/
def delivered (r : Response) : Response :=
  if r.status < 200 ∧ r.status ≠ 101 then empty 500
  else if r.status = 101 ∨ r.status = 204 ∨ r.status = 304 then r.withoutBody
  else r

end Response

end HotelBooking.Http
