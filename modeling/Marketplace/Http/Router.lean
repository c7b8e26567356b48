import Marketplace.Http.MediaType
import Marketplace.Http.Message
import Marketplace.Http.Path
import Marketplace.Work

/-!
# Routes

A service is a list of routes. A route has a pattern for the path and a handler for each method; a
handler either answers at once or makes a call of the service.

* `plan` finds the handler of a request. An unknown path is 404, an unknown method 405; `HEAD` goes
  wherever `GET` does, and `OPTIONS` is answered for every path.
* `deliver` gives the response its headers for other origins, and takes the body away from `HEAD`.
* `decodeBody` reads the body of a request.
-/

namespace Marketplace.Http

open Json

/-- A segment of a pattern. -/
inductive Segment where
  | fixed (name : String)
  | parameter
  deriving DecidableEq, Repr

/-- A response at once, or a call of the service. -/
abbrev Plan (Call : Type) := Except Response Call

/-- What to do with a request; the list holds the segments at the pattern's parameters. -/
abbrev Handler (Call : Type) := List (List Char) → Request → Plan Call

/-- A path and what is done with requests for it. -/
structure Route (Call : Type) where
  pattern : List Segment
  /-- The handlers by method, in the order in which an answer lists them. -/
  handlers : List (String × Handler Call)

/-- The segments at the parameters of a pattern that fits. A parameter may be empty unless it is
the last segment. -/
def fit? : List Segment → List (List Char) → Option (List (List Char))
  | [], [] => some []
  | .fixed name :: pattern, s :: segments => if name.toList = s then fit? pattern segments else none
  | .parameter :: pattern, s :: segments =>
    if s = [] ∧ segments = [] then none else (fit? pattern segments).map (s :: ·)
  | _, _ => none

variable {Call : Type}

/-- The first route whose pattern fits, with the segments at its parameters. A list of routes has a
fixed segment in front of a parameter at its place. -/
def findRoute? (routes : List (Route Call)) (target : String) :
    Option (Route Call × List (List Char)) :=
  (segments? target).bind fun segments =>
    routes.findSome? fun route => (fit? route.pattern segments).map fun params => (route, params)

/-- The methods of a route, as an answer lists them. -/
def Route.allow (route : Route Call) : String :=
  let names := route.handlers.flatMap fun h => if h.1 = "GET" then ["GET", "HEAD"] else [h.1]
  ",".intercalate names

/-- The handler for a method. -/
def Route.handler? (route : Route Call) (method : String) : Option (Handler Call) :=
  route.handlers.lookup (if method = "HEAD" then "GET" else method)

/-- What to do with a request. -/
def plan (routes : List (Route Call)) (request : Request) : Plan Call :=
  match findRoute? routes request.target with
  | none =>
    .error (.empty (if request.method = "OPTIONS" then 200 else 404))
  | some (route, params) =>
    let allowing := fun status => { Response.empty status with headers := [("allow", route.allow)] }
    if request.method = "OPTIONS" then .error (allowing 200)
    else
      match route.handler? request.method with
      | some handler => handler params request
      | none => .error (allowing 405)

/-- The headers that open the service to every origin. -/
def originHeaders (request : Request) : List (String × String) :=
  [("access-control-allow-origin", "*"),
   ("vary", "origin, access-control-request-method, access-control-request-headers")]
    ++ if request.method = "OPTIONS" then
      [("access-control-allow-methods", "*"), ("access-control-allow-headers", "*")]
    else []

/-- The response as it is sent. -/
def deliver (request : Request) (response : Response) : Response :=
  { response with
    headers := response.headers ++ originHeaders request,
    body := if request.method = "HEAD" then .empty else response.body }

/-- The most bytes that a body may have. -/
def maxBodySize : Nat := 2097152

/-- The body of a request, which is JSON by its `content-type`. The bytes behind the value are not
looked at. -/
def decodeBody {α : Type} (c : Codec α) (request : Request) : Except Response α :=
  if ¬ (request.header? "content-type").any isJson then
    .error (.rejection 415 "the body has to be JSON")
  else if maxBodySize < request.body.length then
    .error (.rejection 413 "the body is too large")
  else
    match c.decodeFront? request.body with
    | .ok a => .ok a
    | .error .mismatch => .error (.rejection 422 "the body has another form")
    | .error _ => .error (.rejection 400 "the body is not JSON")

/-- The number at a parameter. -/
def parameter {α : Type} (read : List Char → Option α) (params : List (List Char)) :
    Except Response α :=
  match params.head?.bind read with
  | some a => .ok a
  | none => .error (.rejection 400 "a path parameter cannot be read")

/-- Answers a request from a store: the plan is carried out by `perform`, and `answer` words the
result of a call and logs it. A result that `answer` does not word leaves the request without a
response. -/
def serve.{u} {σ : Type u} {ε α : Type} (routes : List (Route Call))
    (perform : Call → σ → Outcome σ ε α) (answer : Except ε α → Except ε (Response × List LogLine))
    (request : Request) (s : σ) : Outcome σ ε Response :=
  match plan routes request with
  | .error response => .ok (deliver request response) s
  | .ok call =>
    let o := perform call s
    match answer o.result with
    | .ok (response, log) => ⟨.ok (deliver request response), o.state, o.log ++ log⟩
    | .error e => ⟨.error e, o.state, o.log⟩

/-- The route that tells that the service is up. -/
def healthRoute : Route Call :=
  ⟨[.fixed "health"], [("GET", fun _ _ => .error (.withBody 200 (.plain "OK")))]⟩

end Marketplace.Http
