import GameGateway.Net.IpAddress
import GameGateway.Protocol

/-!
# Sockets

A port of a machine can be bound once for each transport. A **socket address** is what a socket is
bound to, in the words of messages.
-/

namespace GameGateway

/-- The text of a host and a port; a host with colons in it gets brackets. -/
def joinPort (host : String) (port : UInt16) : String :=
  if host.toList.contains ':' && host.toList.head? ≠ some '[' then s!"[{host}]:{port}"
  else s!"{host}:{port}"

/-- The address and the port of a socket. -/
structure SocketAddress where
  host : IpAddress
  port : UInt16
  deriving DecidableEq, Repr

instance : ToString SocketAddress := ⟨fun a => joinPort (toString a.host) a.port⟩

/-- A **socket** that waits for clients: a port of a transport. -/
structure Socket where
  transport : Transport
  port : UInt16
  deriving DecidableEq, Repr

/-- Why a socket cannot be bound. -/
inductive BindFault where
  /-- Another socket holds the port. -/
  | inUse
  /-- The address is none of the machine's. -/
  | notAvailable
  deriving DecidableEq, Repr

/-- The message of a fault. -/
def BindFault.message : BindFault → String
  | .inUse => "Address already in use (os error 98)"
  | .notAvailable => "Cannot assign requested address (os error 99)"

end GameGateway
