import HotelBooking.Http.Header
import HotelBooking.Uid

/-!
# Reading the parts of a request

The path by its segments, the query as the numbers of a page, and the body as a typed
value. A part that cannot be read is refused before any service is asked.
-/

namespace HotelBooking.Http

/-- Why a part of a request is refused. -/
inductive Refusal where
  | notJsonType
  | malformedBody
  | mismatchedBody
  | query
  | pathNumber
  /-- A parameter of the path is no text; it is named. -/
  | pathText (parameter : String)
  deriving DecidableEq, Inhabited

namespace Refusal

def reason : Refusal → String
  | notJsonType => "Expected request with \x60Content-Type: application/json\x60"
  | malformedBody => "Failed to parse the request body as JSON"
  | mismatchedBody => "Failed to deserialize the JSON body into the target type"
  | query => "Failed to deserialize query string"
  | pathNumber => "Invalid URL"
  | pathText parameter => "Invalid URL: Invalid UTF-8 in \x60" ++ parameter ++ "\x60"

/-- The answer that refuses. -/
def response (r : Refusal) : Response :=
  match r with
  | pathText _ => .plain 400 r.reason
  | _ => .badRequest r.reason

end Refusal

/-- The segments of a path that begins with a slash. -/
def segments (path : String) : List String :=
  match Text.splitOn '/' path.toList with
  | [] :: rest => rest.map String.ofList
  | _ => []

/-- A parameter of the path with its escapes read. -/
def pathText (parameter raw : String) : Except Refusal String :=
  match Text.Percent.decode? raw with
  | some s => .ok s
  | none => .error (.pathText parameter)

/-- A number in the path. -/
def pathNumber (raw : String) : Except Refusal Int32 :=
  match (Text.Percent.decode? raw).bind fun s => (Decimal.toInt? s).bind int32? with
  | some n => .ok n
  | none => .error .pathNumber

/-- The one value of a name among the fields of a form. -/
def onlyValue? (fields : List (String × String)) (name : String) : Option String :=
  match fields.filter fun f => f.1 == name with
  | [f] => some f.2
  | _ => none

/-- The page and its size that a query asks for. -/
def pageQuery (query : Option String) : Except Refusal (Int64 × Int64) :=
  let fields := Text.formFields (query.getD "")
  let number name := ((onlyValue? fields name).bind Decimal.toInt?).bind int64?
  match number "page", number "size" with
  | some page, some size => .ok (page, size)
  | _, _ => .error .query

/-- The body as a value of type `α`. -/
def jsonBody (α : Type) [Wire α] (r : Request) : Except Refusal α :=
  if (r.headers.value? contentType).any isJsonType then
    match Wire.ofText r.body with
    | .ok a => .ok a
    | .error .malformed => .error .malformedBody
    | .error .mismatch => .error .mismatchedBody
  else .error .notJsonType

/-- An identifier in the path. -/
def uidText (text : String) : Except Response Uid :=
  match Uid.ofText? text with
  | some uid => .ok uid
  | none => .error (.badRequest ("invalid uid: " ++ text))

/-! ## Methods of a resource -/

/-- The methods that a resource takes, in the order in which they are named. -/
def allowText (methods : List Method) : String :=
  String.intercalate "," (methods.map Method.text)

/-- The answer to a method that a resource does not take. -/
def methodNotAllowed (methods : List Method) : Response :=
  (Response.empty 405).withHeader "allow" (allowText methods)

end HotelBooking.Http
