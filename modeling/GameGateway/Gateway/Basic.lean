import GameGateway.Gateway.Ports

/-!
# The gateway

A **gateway** keeps its ports and their routes in line with the records in its store. Its operations
are functions of the machine it runs on; those that may fail give the error and the gateway as they
leave it.
-/

namespace GameGateway

/-- A **gateway**. -/
structure Gateway where
  config : Gateway.Config := {}
  store : Store := .ofPanel .empty
  ports : Ports := {}

namespace Gateway

/-- What an operation answers, and the gateway behind it. -/
abbrev Outcome (α : Type) := Except GatewayError α × Gateway

/-- A gateway that has not started. -/
def new (config : Config) (store : Store) : Gateway := { config, store }

/-- The document of the gateway's store. -/
def panel (g : Gateway) : Panel := g.store.panel

/-- The socket address of a port. -/
def Config.address (c : Config) (port : UInt16) : SocketAddress := ⟨c.bindHost, port⟩

/-- The address of a container, as routes have it. -/
def Config.resolve (c : Config) (machine : Machine) (container : String) :
    Except GatewayError String :=
  match machine.address container c.network with
  | .ok address => .ok (toString address)
  | .error cause => .error (.unresolved container c.network cause)

/-- What the routes of a port show to the outside. -/
structure PortView where
  protocol : Protocol
  listener : Option ListenerId
  routes : Route.Table
  deriving DecidableEq

/-- The routes of every port. -/
def routes (g : Gateway) : Std.ExtTreeMap UInt16 PortView :=
  g.ports.entries.map fun _ e => ⟨e.protocol, e.origin.listener?, e.routes⟩

/-- Stops every forwarder and gives up every port. -/
def stop (g : Gateway) : Gateway :=
  { g with ports := g.ports.close fun _ _ => true }

/-- The lowest port of the range that is set aside for no other server. -/
def allocatePort (g : Gateway) (server : ServerId) : Except GatewayError UInt16 :=
  let taken := (g.panel.servers.filter (·.id ≠ server)).filterMap (·.proxyPort)
  match g.config.ports.ports.find? (· ∉ taken) with
  | some port => .ok port
  | none => .error (.rangeExhausted g.config.ports)

end Gateway

end GameGateway
