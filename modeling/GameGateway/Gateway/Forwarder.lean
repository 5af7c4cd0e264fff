import GameGateway.Gateway.Error
import GameGateway.Route.Table

/-!
# Forwarders

A **forwarder** serves a port: it takes what clients send in the port's protocol to the backends
that its routes lead to. It holds a socket while it runs, and keeps its routes when it does not.
-/

namespace GameGateway

/-- A **forwarder** of a protocol on a port. -/
structure Forwarder where
  address : SocketAddress
  protocol : Protocol
  routes : Route.Table
  running : Bool := false
  deriving DecidableEq

namespace Forwarder

/-- A forwarder that does not run yet and has no routes. -/
def new (protocol : Protocol) (address : SocketAddress) : Forwarder where
  address := address
  protocol := protocol
  routes := .empty protocol.isVirtualHosted

/-- The socket that the forwarder holds while it runs. -/
def socket (f : Forwarder) : Socket :=
  ⟨f.protocol.transport, f.address.port⟩

/-- Starts the forwarder; `fault` is why its socket cannot be bound. -/
def start (f : Forwarder) (fault : Option BindFault) : Except GatewayError Forwarder :=
  if f.running then .error (.alreadyRunning f.address)
  else
    match fault with
    | some cause => .error (.bind f.address cause)
    | none => .ok { f with running := true }

/-- Stops the forwarder, if it runs. -/
def stop (f : Forwarder) : Forwarder :=
  { f with running := false }

/-- The address that the forwarder is bound to, while it runs. -/
def boundAddress (f : Forwarder) : Option SocketAddress :=
  if f.running then some f.address else none

end Forwarder

end GameGateway
