import GameGateway.Gateway.Basic

/-!
# Routes of modules

Each port that a module declares has a route on that port of the gateway, which is opened for the
port's protocol when it is first needed and given up when its last route goes.
-/

namespace GameGateway.Gateway

/-- The key of the route for a port of a module: the port's own host or else the server's, if the
protocol has virtual hosts. -/
def moduleKey (config : Config) (server : Server) (p : ModulePort) (protocol : Protocol) :
    String :=
  if protocol.isVirtualHosted then
    (p.hostname.filter fun host => trimBlank host ≠ "").getD (config.hostnames.hostname server)
  else Route.Key.only

/-- Makes sure that a port is open for a protocol. -/
def ensurePort (config : Config) (machine : Machine) (port : UInt16) (protocol : Protocol)
    (ports : Ports) : Except GatewayError Ports :=
  match ports.get? port with
  | some e =>
    if e.protocol = protocol then .ok ports
    else .error (.protocolMismatch port e.protocol protocol)
  | none => ports.openPort machine .module protocol (config.address port)

/-- Adds the route for a port of a module. -/
def addModulePort (config : Config) (machine : Machine) (m : Module) (server : Server)
    (backendHost : String) (p : ModulePort) (ports : Ports) : Except GatewayError Ports :=
  match p.protocol? with
  | none => .error (.unknownProtocol p.tag)
  | some protocol =>
    match ensurePort config machine p.listenPort protocol ports with
    | .error e => .error e
    | .ok ports =>
      .ok (ports.modifyRoutes p.listenPort fun t =>
        t.add m.id.toString (moduleKey config server p protocol) backendHost p.backendPort)

/-- Adds the routes for ports of a module up to the first that fails. -/
def addModulePorts (config : Config) (machine : Machine) (m : Module) (server : Server)
    (backendHost : String) : List ModulePort → Ports → Except GatewayError Unit × Ports
  | [], ports => (.ok (), ports)
  | p :: rest, ports =>
    match addModulePort config machine m server backendHost p ports with
    | .error e => (.error e, ports)
    | .ok ports => addModulePorts config machine m server backendHost rest ports

/-- Adds the routes for the ports of a module. -/
def addModule (machine : Machine) (g : Gateway) (m : Module) (server : Server) : Outcome Unit :=
  match m.backendContainer server with
  | none => (.ok (), g)
  | some container =>
    match g.config.resolve machine container with
    | .error e => (.error e, g)
    | .ok backendHost =>
      let (result, ports) := addModulePorts g.config machine m server backendHost m.ports g.ports
      (result, { g with ports })

/-- Whether an entry is in the way of a port of a module: it is idle and of another protocol. -/
def isRetagged (m : Module) (port : UInt16) (e : Entry) : Bool :=
  Ports.isIdle e && m.ports.any fun p =>
    p.listenPort = port &&
      match p.protocol? with
      | some protocol => e.protocol ≠ protocol
      | none => false

/-- The backend of a module that is to be routed. -/
def planModule (config : Config) (machine : Machine) (m : Module) (server : Server) :
    Except GatewayError (Option String) :=
  match m.backendContainer server with
  | none => .ok none
  | some container =>
    if server.status.isRoutable then (config.resolve machine container).map some else .ok none

/-- Replaces the routes of a module; without a backend it gets none. -/
def replaceModule (machine : Machine) (g : Gateway) (m : Module) (server : Server)
    (backendHost : Option String) : Outcome Unit :=
  -- A port whose last route went may now be wanted for another protocol.
  let ports := (g.ports.removeOwner m.id.toString).close (isRetagged m)
  let (result, ports) :=
    match backendHost with
    | some backendHost => addModulePorts g.config machine m server backendHost m.ports ports
    | none => (.ok (), ports)
  (result, { g with ports := ports.evict })

/-- Replaces the routes of a module by those of the ports it declares, if its server is
routable. -/
def updateModule (machine : Machine) (g : Gateway) (m : Module) (server : Server) : Outcome Unit :=
  match planModule g.config machine m server with
  | .error e => (.error e, g)
  | .ok backendHost => g.replaceModule machine m server backendHost

/-- Removes the routes of a module, and tells how many went. -/
def removeModule (g : Gateway) (id : ModuleId) : Nat × Gateway :=
  let owner := id.toString
  (g.ports.ownedCount owner, { g with ports := (g.ports.removeOwner owner).evict })

end GameGateway.Gateway
