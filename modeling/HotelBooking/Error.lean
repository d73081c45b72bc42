import HotelBooking.Json.Wire

/-!
# Errors

Everything an operation can fail with, and the text that says so. A report lists the
faults of a booking request field by field; a note is the body of every other error
answer.
-/

namespace HotelBooking

open Draft (Field)

structure FieldError where
  field : String
  error : String
  deriving DecidableEq, Inhabited

namespace FieldError

def fields : List Field := [.of String "field", .of String "error"]

instance : Wire FieldError where
  toJson e := .object [("field", Wire.toJson e.field), ("error", Wire.toJson e.error)]
  read d := do
    let r ← d.readRecord fields
    return { field := ← r.get "field", error := ← r.get "error" }

end FieldError

/-- What is wrong with a request, with one entry for each broken rule. -/
structure ValidationReport where
  message : String
  errors : List FieldError
  deriving DecidableEq, Inhabited

namespace ValidationReport

def push (r : ValidationReport) (field error : String) : ValidationReport :=
  { r with errors := r.errors ++ [⟨field, error⟩] }

def isEmpty (r : ValidationReport) : Bool :=
  r.errors.isEmpty

def fields : List Field := [.of String "message", .of (List FieldError) "errors"]

instance : Wire ValidationReport where
  toJson r := .object [("message", Wire.toJson r.message), ("errors", Wire.toJson r.errors)]
  read d := do
    let r ← d.readRecord fields
    return { message := ← r.get "message", errors := ← r.get "errors" }

end ValidationReport

structure ErrorNote where
  message : String
  deriving DecidableEq, Inhabited

namespace ErrorNote

def fields : List Field := [.of String "message"]

instance : Wire ErrorNote where
  toJson n := .object [("message", Wire.toJson n.message)]
  read d := do
    let r ← d.readRecord fields
    return { message := ← r.get "message" }

end ErrorNote

inductive ServiceError where
  | invalidParameters (reason : String)
  | validation (report : ValidationReport)
  | notFound (what : String)
  /-- A call to another service failed. -/
  | remote (service message : String)
  | storage (message : String)
  | internal (message : String)
  deriving DecidableEq, Inhabited

namespace ServiceError

def isNotFound : ServiceError → Bool
  | notFound _ => true
  | _ => false

/-- The text of an error, as it is logged. -/
def message : ServiceError → String
  | invalidParameters reason => "Invalid parameters: " ++ reason
  | validation report => report.message
  | notFound what => "Not found: " ++ what
  | remote service message => service ++ " service failed: " ++ message
  | storage message => "Storage error: " ++ message
  | internal message => "Internal service error: " ++ message

/-- An operation needs the name of a user and got a blank. -/
def usernameRequired : ServiceError :=
  .invalidParameters "username is required"

end ServiceError

/-- What an operation comes to. -/
abbrev Outcome := Except ServiceError

end HotelBooking
