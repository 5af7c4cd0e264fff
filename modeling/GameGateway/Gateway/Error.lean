import GameGateway.Container.Address
import GameGateway.Gateway.Config
import GameGateway.Net.Socket
import GameGateway.Store.Basic

/-!
# What can go wrong with a gateway
-/

namespace GameGateway

/-- The cause for which an operation of a gateway **fails**. -/
inductive GatewayError where
  | alreadyRunning (address : SocketAddress)
  | bind (address : SocketAddress) (cause : BindFault)
  | portInUse (port : UInt16)
  | portNotFound (port : UInt16)
  | protocolMismatch (port : UInt16) (existing requested : Protocol)
  | unknownProtocol (tag : String)
  | listenerNotFound (listener : ListenerId)
  | serverNotFound (server : ServerId)
  | rangeExhausted (range : PortRange)
  | unresolved (container network : String) (cause : Container.AddressError)
  | store (cause : StoreError)
  deriving DecidableEq, Repr

/-- The message of an error. -/
def GatewayError.message : GatewayError → String
  | alreadyRunning address => s!"proxy on {address} is already running"
  | bind address cause => s!"failed to bind {address}: {cause.message}"
  | portInUse port => s!"port {port} already has a proxy instance"
  | portNotFound port => s!"no proxy instance on port {port}"
  | protocolMismatch port existing requested =>
    s!"port {port} is served by a {existing} proxy, not {requested}"
  | unknownProtocol tag => s!"unknown proxy protocol '{tag}'"
  | listenerNotFound listener => s!"listener {listener} not found"
  | serverNotFound server => s!"server {server} not found"
  | rangeExhausted range => s!"no free proxy port in {range.first}..={range.last}"
  | unresolved container network cause =>
    s!"cannot resolve container {container} on network {network}: {cause.message}"
  | store cause => cause.message

end GameGateway
