import HotelBooking.Http.Extract

/-!
# Endpoints

A resource of a server is an endpoint: the methods that it takes, each with a handler.
A site finds the resource of a path. A path without a resource is answered 404, a method
that the resource does not take 405 together with those that it does; `HEAD` is answered
like `GET`, without the body.

A handler may stop early with an answer of its own, as the refusal of a body does.
-/

namespace HotelBooking.Http

/-- The work of a handler: an answer, perhaps reached early. -/
abbrev Handling (m : Type → Type) := ExceptT Response m

namespace Handling

variable {m : Type → Type} [Monad m] {α : Type}

/-- Go on with what was read, or refuse. -/
def refuse (x : Except Refusal α) : Handling m α :=
  ExceptT.mk (pure (x.mapError Refusal.response))

def orAnswer (x : Except Response α) : Handling m α :=
  ExceptT.mk (pure x)

/-- Go on with the value of an operation, or answer its error. -/
def perform (a : ExceptT ServiceError m α) : Handling m α :=
  a.adapt Response.ofError

/-- The answer, early or not. -/
def answer (h : Handling m Response) : m Response := do
  match ← h.run with
  | .ok r => return r
  | .error r => return r

end Handling

/-- The handlers of a resource, by method. -/
abbrev Endpoint (m : Type → Type) := List (Method × (Request → Handling m Response))

namespace Endpoint

variable {m : Type → Type} [Monad m]

/-- The methods that an endpoint takes; `HEAD` goes with `GET`. -/
def methods (e : Endpoint m) : List Method :=
  e.flatMap fun h => if h.1 = .get then [.get, .head] else [h.1]

def handler? (e : Endpoint m) (method : Method) : Option (Request → Handling m Response) :=
  e.lookup method

/-- The answer of an endpoint to a request. -/
def respond (e : Endpoint m) (r : Request) : m Response :=
  let handler := e.handler? (if r.method = .head then .get else r.method)
  match handler with
  | none => return methodNotAllowed e.methods
  | some h => do
    let answer ← (h r).answer
    return if r.method = .head then answer.withoutBody else answer

end Endpoint

/-- The endpoint of every service that only says that it is up. -/
def health {m : Type → Type} [Monad m] : Endpoint m :=
  [(.get, fun _ => return .empty 200)]

/-- The resources of a server, by the segments of their paths. -/
abbrev Site (m : Type → Type) := List String → Option (Endpoint m)

/-- The answer of a server to a request. -/
def Site.respond {m : Type → Type} [Monad m] (site : Site m) (r : Request) : m Response :=
  match site (segments r.path) with
  | none => return .empty 404
  | some e => e.respond r

end HotelBooking.Http
