import Marketplace.Launch.IpAddress
import Marketplace.Text.Percent

/-!
# Addresses of databases

An address sets options. Hosts and ports may be lists; most options do not matter here, but their
values have to be right.

* `OptionKind` says what the value of an option has to be, and `optionKinds` lists the options.
* `Address.set?` sets an option.
* `Address.isConsistent` tells whether hosts and ports fit together, and `Address.endpoints` are the
  places where the server is looked for.
-/

namespace Marketplace.Launch

/-- Where a database server listens. -/
inductive Host where
  | name (text : List Char)
  /-- A file, whose name need not be text. -/
  | path (bytes : List UInt8)
  deriving DecidableEq, Repr

/-- A host and a port. -/
structure Endpoint where
  host : Host
  port : Nat
  deriving DecidableEq, Repr

/-- What a session has to be good for. -/
inductive SessionNeed where
  | any
  | writing
  /-- Reading, and nothing else. -/
  | onlyReading
  deriving DecidableEq, Repr

/-- What an address says about the way to the server. -/
structure Address where
  hosts : List Host
  /-- Internet addresses that stand for the hosts, which are then not looked up. -/
  hostAddresses : List (List Char)
  ports : List Nat
  /-- Whether the server has to be reached over an encrypted connection. -/
  isEncrypted : Bool
  /-- Whether the login has to be bound to the encrypted connection. -/
  isBound : Bool
  need : SessionNeed
  deriving DecidableEq, Repr

/-- What the value of an option has to be. -/
inductive OptionKind where
  | text
  | oneOf (words : List String)
  /-- A signed 64-bit number. -/
  | signed
  /-- A number from 0 to `limit`. -/
  | unsigned (limit : Nat)
  /-- Hosts with commas between them. -/
  | hosts
  /-- Internet addresses with commas between them. -/
  | hostAddresses
  /-- Ports with commas between them; an empty one is the default port. -/
  | ports
  /-- Whether the connection has to be encrypted. -/
  | encryption
  /-- Whether the login has to be bound to the encrypted connection. -/
  | binding
  /-- What the session has to be good for. -/
  | need
  deriving DecidableEq, Repr

/-- The words for how much an address asks of a protection, with whether it has to be there. -/
def protections : List (String × Bool) :=
  [("disable", false), ("prefer", false), ("require", true)]

/-- The words for what a session has to be good for. -/
def sessionNeeds : List (String × SessionNeed) :=
  [("any", .any), ("read-write", .writing), ("read-only", .onlyReading)]

/-- The options of an address. -/
def optionKinds : List (String × OptionKind) :=
  [("user", .text), ("password", .text), ("dbname", .text), ("options", .text),
   ("application_name", .text), ("sslmode", .encryption),
   ("sslnegotiation", .oneOf ["postgres", "direct"]), ("host", .hosts),
   ("hostaddr", .hostAddresses), ("port", .ports), ("connect_timeout", .signed),
   ("tcp_user_timeout", .signed), ("keepalives", .unsigned 18446744073709551615),
   ("keepalives_idle", .signed), ("keepalives_interval", .signed),
   ("keepalives_retries", .unsigned 4294967295),
   ("target_session_attrs", .need), ("channel_binding", .binding),
   ("load_balance_hosts", .oneOf ["disable", "random"])]

namespace Address

/-- An address that says nothing. -/
def empty : Address := ⟨[], [], [], false, false, .any⟩

/-! ## Options -/

/-- The port of a server that is not told another one. -/
def defaultPort : Nat := 5432

/-- A port; an empty text is the default one. -/
def port? (s : List Char) : Option Nat :=
  if s = [] then some defaultPort else (Text.unsigned? s).filter (· ≤ 65535)

/-- A host from its text. -/
def host (s : List Char) : Host :=
  if s.head? = some '/' then .path (String.ofList s).toUTF8.toList else .name s

/-- A host from its text with escapes; a host that is not a file has to be text. -/
def escapedHost? (s : List Char) : Option Host :=
  let bytes := Text.unescapedBytes s
  if bytes.head? = some '/'.toUInt8 then some (.path bytes) else (Text.ofBytes? bytes).map .name

/-- Sets an option of this kind; `none` if the value is not one that it takes. -/
def setKind? (kind : OptionKind) (value : List Char) (a : Address) : Option Address :=
  match kind with
  | .text => some a
  | .oneOf words => if words.contains (String.ofList value) then some a else none
  | .signed => ((Text.integer? value).bind int64?).map fun _ => a
  | .unsigned limit => ((Text.unsigned? value).filter (· ≤ limit)).map fun _ => a
  | .hosts => some { a with hosts := a.hosts ++ (Text.pieces ',' value).map host }
  | .hostAddresses =>
    let addresses := Text.pieces ',' value
    if addresses.all isIpAddress then
      some { a with hostAddresses := a.hostAddresses ++ addresses }
    else none
  | .ports =>
    ((Text.pieces ',' value).mapM port?).map fun ports => { a with ports := a.ports ++ ports }
  | .encryption =>
    (protections.lookup (String.ofList value)).map fun isEncrypted => { a with isEncrypted }
  | .binding => (protections.lookup (String.ofList value)).map fun isBound => { a with isBound }
  | .need => (sessionNeeds.lookup (String.ofList value)).map fun need => { a with need }

/-- Sets an option; `none` if there is no such option or it does not take the value. -/
def set? (key value : List Char) (a : Address) : Option Address :=
  (optionKinds.lookup (String.ofList key)).bind fun kind => a.setKind? kind value

/-- Whether hosts and ports fit together: there is a host, each host has one Internet address if any
has, and there are as many ports as hosts if there is more than one. -/
def isConsistent (a : Address) : Bool :=
  let count := max a.hosts.length a.hostAddresses.length
  count ≠ 0
    && (a.hosts = [] || a.hostAddresses = [] || a.hosts.length = a.hostAddresses.length)
    && (a.ports.length ≤ 1 || a.ports.length = count)

/-- The endpoints in their order. A single port is the one of all hosts. -/
def endpoints (a : Address) : List Endpoint :=
  let hosts := if a.hostAddresses = [] then a.hosts else a.hostAddresses.map .name
  match a.ports with
  | [] => hosts.map (⟨·, defaultPort⟩)
  | [port] => hosts.map (⟨·, port⟩)
  | ports => hosts.zipWith Endpoint.mk ports

end Address

end Marketplace.Launch
