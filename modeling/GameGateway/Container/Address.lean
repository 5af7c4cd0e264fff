import GameGateway.Json.Error
import GameGateway.Net.IpAddress
import Std.Data.ExtTreeMap

/-!
# The addresses of containers

Backends run in containers, which have an **address** on every network that they are on. A
`Directory` holds addresses that are known beforehand, whatever the network.
-/

namespace GameGateway.Container

/-- The cause for which a container has **no known address** on a network. -/
inductive AddressError where
  /-- The container is in no directory. -/
  | unknown
  /-- The engine that runs the containers does not take connections. -/
  | unreachable
  /-- The engine refuses to tell. -/
  | refused (status : Nat) (message : String)
  /-- What the engine tells cannot be read. -/
  | unreadable (cause : Json.ReadError)
  | notOnNetwork
  | noAddress
  | badAddress (text : String)
  deriving DecidableEq, Repr

/-- The message of an error. -/
def AddressError.message : AddressError → String
  | unknown => "unknown container"
  | unreachable => "Error in the hyper legacy client: client error (Connect)"
  | refused status message => s!"Docker responded with status code {status}: {message}"
  | unreadable (.mismatch cause) => s!"Failed to deserialize JSON: {cause.message}"
  | unreadable .malformed => "Failed to deserialize JSON: malformed JSON"
  | notOnNetwork => "container is not on this network"
  | noAddress => "container has no address (not running?)"
  | badAddress text => s!"bad address {text}: {IpAddress.parseMessage}"

/-- A **directory** of containers. -/
structure Directory where
  addresses : Std.ExtTreeMap String IpAddress := ∅

namespace Directory

/-- The address of a container. -/
def address (d : Directory) (container : String) : Except AddressError IpAddress :=
  match d.addresses[container]? with
  | some address => .ok address
  | none => .error .unknown

/-- Lists a container, in place of any entry for it. -/
def insert (d : Directory) (container : String) (address : IpAddress) : Directory :=
  ⟨d.addresses.insert container address⟩

/-- Strikes a container off. -/
def erase (d : Directory) (container : String) : Directory :=
  ⟨d.addresses.erase container⟩

end Directory

end GameGateway.Container
