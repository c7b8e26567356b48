import Marketplace.Launch.Address.Text
import Marketplace.Launch.Connection
import Marketplace.Launch.Settings
import Marketplace.Sql.Migration

/-!
# Starting a service

A service reads its settings, brings the schema of its database up to date and takes its port.

* `prepare` does all that stands before serving; `start` gives the `Exit` of a service that stops
  there.
-/

namespace Marketplace.Launch

open Sql

/-- Why a service stops before it serves. -/
inductive StartError where
  | emptySecret
  | address (fault : AddressFault)
  | connection (e : ConnectionError)
  | migration (e : MigrationError)
  /-- A pool of connections has at least one. -/
  | emptyPool
  | portTaken
  deriving DecidableEq, Repr

namespace StartError

/-- What is printed. -/
def message : StartError → String
  | emptySecret => "Error: PAYMENT_WEBHOOK_SECRET must not be empty"
  | address .malformed => "Error: invalid connection string"
  | address .inconsistent => "Error: invalid configuration"
  | connection e => "Error: " ++ e.message
  | migration e => "Error: " ++ e.message
  | emptyPool => ""
  | portTaken => "Error: Address already in use (os error 98)"

/-- The exit code. -/
def code : StartError → Nat
  | emptyPool => 101
  | _ => 1

end StartError

variable {σ : Type}

/-- All that a service does before it serves. -/
def prepare (world : Surroundings σ) (c : Configuration) (s : σ) : Outcome σ StartError Unit :=
  if c.secret = some "" then .error .emptySecret s
  else
    match checkAddress c.databaseUrl with
    | .error fault => .error (.address fault) s
    | .ok address =>
      ((connect world address s).mapError .connection).andThen fun server s =>
        ((migrate server s).mapError .migration).andThen fun _ s =>
          if c.poolSize = 0 then .error .emptyPool s
          else if world.isTaken c.port then .error .portTaken s
          else .ok () s

/-- The end of a process: its code, and the first line of its error output. -/
structure Exit where
  code : Nat
  line : String
  deriving DecidableEq, Repr

/-- The first line of a text without its end, which may be a carriage return and a line feed. -/
def firstLine (text : String) : String :=
  let line := text.toList.takeWhile (· ≠ '\n')
  String.ofList (if line.getLast? = some '\r' then line.dropLast else line)

/-- The exit of a service that was interrupted. -/
def Interruption.exit : Interruption → Exit
  | help => ⟨0, ""⟩
  | usage e => ⟨2, firstLine ("error: " ++ e.message)⟩

/-- The exit of a service that could not start. -/
def StartError.exit (e : StartError) : Exit := ⟨e.code, firstLine e.message⟩

/-- Runs a service up to serving: its exit, or the configuration that it serves with. -/
def start (world : Surroundings σ) (service : Service) (arguments : List String)
    (environment : List (String × String)) (s : σ) : Except Exit Configuration × σ :=
  match parse service arguments environment with
  | .error interruption => (.error interruption.exit, s)
  | .ok c =>
    let o := prepare world c s
    match o.result with
    | .ok () => (.ok c, o.state)
    | .error e => (.error e.exit, o.state)

end Marketplace.Launch
