import Marketplace.Launch.Address.Basic
import Marketplace.Sql.Server

/-!
# Connections

A database server is looked for at the endpoints of its address in turn; the first one that can be
used is taken.

* `Surroundings` is what a service meets: database servers at endpoints, and ports in use.
* `connectAt` connects to one endpoint, and `connect` to an address. A `ConnectionError` tells why
  that failed; of several endpoints the last one's counts.
-/

namespace Marketplace.Launch

open Sql

/-- What a service meets outside. -/
structure Surroundings (σ : Type) where
  /-- The database server at an endpoint. -/
  server? : Endpoint → Option (Server σ)
  /-- Whether a port is in use. -/
  isTaken : Nat → Bool

/-- Why there is no connection. -/
inductive ConnectionError where
  /-- There is no server. -/
  | unreachable
  /-- The address asks for an encrypted connection, which the services do not make. -/
  | notEncrypted
  /-- The address asks for a login that is bound to an encrypted connection. -/
  | notBound
  /-- The session is not good for what the address needs it for. -/
  | unsuitable
  /-- The server does not tell what the session is good for. -/
  | unexpectedReply
  /-- The server tells it in a row without columns. -/
  | noColumn
  /-- The server refuses to tell, with its message. -/
  | refused (message : String)
  deriving DecidableEq, Repr

/-- The wording. -/
def ConnectionError.message : ConnectionError → String
  | unreachable | unsuitable => "error connecting to server"
  | notEncrypted => "error performing TLS handshake"
  | notBound => "authentication error"
  | unexpectedReply => "unexpected message from server"
  | noColumn => "invalid column `0`"
  | refused message => message

/-- Asks whether the session can only read. -/
def showReadOnly : Statement := .plain "SHOW transaction_read_only"

/-- Whether a session that answers `word` meets the need. -/
def SessionNeed.isMetBy (word : Value) : SessionNeed → Bool
  | any => true
  | writing => word ≠ .text "on"
  | onlyReading => word ≠ .text "off"

/-- Whether the reply to `showReadOnly` meets a need. The first row counts. -/
def SessionNeed.check (need : SessionNeed) : Reply → Except ConnectionError Unit
  | .refused message => .error (.refused message)
  | .rows ((word :: _) :: _) => if need.isMetBy word then .ok () else .error .unsuitable
  | .rows ([] :: _) => .error .noColumn
  | _ => .error .unexpectedReply

variable {σ : Type}

/-- Connects to the server at one endpoint of an address. -/
def connectAt (world : Surroundings σ) (a : Address) (endpoint : Endpoint) (s : σ) :
    Outcome σ ConnectionError (Server σ) :=
  match (world.server? endpoint).filter (·.isUp s) with
  | none => .error .unreachable s
  | some server =>
    if a.isEncrypted then .error .notEncrypted s
    else if a.isBound then .error .notBound s
    else if a.need = .any then .ok server s
    else
      let (reply, s) := server.send showReadOnly s
      ⟨(a.need.check reply).map fun _ => server, s, []⟩

/-- Connects to the first of some endpoints that can be used; `e` is the error of those before. -/
def connectFirst (world : Surroundings σ) (a : Address) :
    List Endpoint → ConnectionError → σ → Outcome σ ConnectionError (Server σ)
  | [], e, s => .error e s
  | endpoint :: endpoints, _, s =>
    let o := connectAt world a endpoint s
    match o.result with
    | .ok _ => o
    | .error e => connectFirst world a endpoints e o.state

/-- Connects to the server at an address. -/
def connect (world : Surroundings σ) (a : Address) (s : σ) :
    Outcome σ ConnectionError (Server σ) :=
  connectFirst world a a.endpoints .unreachable s

end Marketplace.Launch
