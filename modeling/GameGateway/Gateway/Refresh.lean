import GameGateway.Gateway.Listeners
import GameGateway.Gateway.Modules

/-!
# Building all routes anew

`start` opens the ports of the enabled listeners and sets the routes of all routable servers and
their modules. `refresh` brings a running gateway to the same state, whatever its routes have
become. What fails for one record does not keep the others from being routed.
-/

namespace GameGateway.Gateway

/-! ### Listeners -/

/-- Opens the port of a listener, if that can be done. -/
def tryListener (config : Config) (machine : Machine) (ports : Ports) (l : Listener) : Ports :=
  match openListener config machine l ports with
  | .ok ports => ports
  | .error _ => ports

/-- Opens the ports of listeners as far as that can be done. -/
def openListeners (config : Config) (machine : Machine) (listeners : List Listener)
    (ports : Ports) : Ports :=
  listeners.foldl (tryListener config machine) ports

/-- The enabled listeners, of which one with the identifier of a later one does not count. -/
def wantedListeners : List Listener → List Listener
  | [] => []
  | l :: rest =>
    let wanted := wantedListeners rest
    -- A later record is in force, for an identifier that comes twice.
    if l.enabled && wanted.all (·.id ≠ l.id) then l :: wanted else wanted

/-- Whether an entry was opened for a listener that is no longer wanted on its port. -/
def isStale (wanted : List Listener) (port : UInt16) (e : Entry) : Bool :=
  match e.origin with
  | .listener id => wanted.all fun l => l.id ≠ id || l.port ≠ port
  | .module => false

/-! ### Routes -/

/-- Sets the route of a routable server on the port of its listener, if it has a backend. -/
def restoreServer (config : Config) (machine : Machine) (s : Server) (ports : Ports) : Ports :=
  match s.listener.bind ports.portOf?, s.container with
  | some port, some container =>
    match config.resolve machine container with
    | .error _ => ports
    | .ok backendHost =>
      ports.modifyRoutes port fun t =>
        t.add s.id.toString (config.hostnames.hostname s) backendHost s.gamePort
  | _, _ => ports

/-- Sets the routes of a module of a routable server, if it has a backend. -/
def restoreModule (config : Config) (machine : Machine) (s : Server) (ports : Ports) (m : Module) :
    Ports :=
  match m.backendContainer s with
  | none => ports
  | some container =>
    match config.resolve machine container with
    | .error _ => ports
    | .ok backendHost => (addModulePorts config machine m s backendHost m.ports ports).2

/-- Sets the routes of a server and its modules, if it is routable. -/
def restore (config : Config) (machine : Machine) (panel : Panel) (ports : Ports) (s : Server) :
    Ports :=
  if s.status.isRoutable then
    (panel.modulesOf s.id).foldl (restoreModule config machine s)
      (restoreServer config machine s ports)
  else ports

/-- Sets the routes of all routable servers and their modules. -/
def restoreAll (config : Config) (machine : Machine) (panel : Panel) (ports : Ports) : Ports :=
  panel.servers.foldl (restore config machine panel) ports

/-! ### The whole gateway -/

/-- Starts the gateway: opens the ports of the enabled listeners and sets all routes. -/
def start (machine : Machine) (g : Gateway) : Gateway :=
  let ports := openListeners g.config machine (g.panel.listeners.filter (·.enabled)) g.ports
  { g with ports := restoreAll g.config machine g.panel ports }

/-- Brings the ports of a gateway in line with a document. -/
def reconcile (config : Config) (machine : Machine) (panel : Panel) (ports : Ports) : Ports :=
  let wanted := wantedListeners panel.listeners
  -- Ports that stay keep their sockets, but none of their routes.
  let ports := (ports.mapRoutes fun e => e.routes.clear).close (isStale wanted)
  (restoreAll config machine panel (openListeners config machine wanted ports)).evict

/-- Brings the gateway in line with the document of its store. -/
def refresh (machine : Machine) (g : Gateway) : Gateway :=
  { g with ports := reconcile g.config machine g.panel g.ports }

end GameGateway.Gateway
