import Marketplace.Launch.Start

/-!
# The command line

The first argument names the service, `order-service` or `payment-service`; the others are its
settings. No database server can be reached from here, so the program ends with the exit of a
service that stops before it serves.
-/

namespace Marketplace.Launch

/-- A service by its name on the command line. -/
def Service.ofName? (name : String) : Option Service :=
  if name = "order-service" then some .orders
  else if name = "payment-service" then some .payments
  else none

/-- Surroundings without database servers. -/
def isolated : Surroundings Unit where
  server? _ := none
  isTaken _ := false

/-- The variables of the environment that a service reads. -/
def readVariables (service : Service) : IO (List (String × String)) :=
  service.settings.filterMapM fun setting => do
    return (← IO.getEnv setting.variableName).map fun value => (setting.variableName, value)

end Marketplace.Launch

open Marketplace.Launch in
def main (arguments : List String) : IO UInt32 := do
  match arguments with
  | name :: rest =>
    match Service.ofName? name with
    | some service =>
      match (start isolated service rest (← readVariables service) ()).1 with
      | .ok _ => return 0
      | .error e => do
        unless e.line.isEmpty do IO.eprintln e.line
        return e.code.toUInt32
    | none => do
      IO.eprintln ("unknown service " ++ name)
      return 2
  | [] => do
    IO.eprintln "name a service: order-service or payment-service"
    return 2
