import Marketplace.Http.Message
import Marketplace.Text.Blank
import Marketplace.Text.Integer

/-!
# Who makes a request

* `caller` is the user that the gateway in front of the services has authenticated.
* `checkProvider` lets the payment provider in, by the secret that it shares with the service.
-/

namespace Marketplace.Http

/-- The user in the header `x-user-id`: a 64-bit number, blanks around it allowed. -/
def caller? (request : Request) : Option Int64 :=
  ((request.header? "x-user-id").bind fun s => Text.integer? (Text.trim s)).bind int64?

/-- The user, or the answer to a request without one. -/
def caller (request : Request) : Except Response Int64 :=
  match caller? request with
  | some user => .ok user
  | none => .error (.error 401 "missing or invalid x-user-id header")

/-- Whether the header `x-webhook-secret` is the secret. The empty secret matches nothing. -/
def isProvider (secret : String) (request : Request) : Bool :=
  secret ≠ "" && request.header? "x-webhook-secret" = some secret.toList

/-- Refuses a request that does not present the secret. -/
def checkProvider (secret : String) (request : Request) : Except Response Unit :=
  if isProvider secret request then .ok ()
  else .error (.error 401 "invalid webhook credentials")

end Marketplace.Http
