import GameGateway.Gateway.Basic

/-!
# Routes of servers

A server that is routable has a route under its host on the port of its listener; one that is not
has none. Updating takes two steps: what has to be done, for which the server's container is looked
up, and doing it.
-/

namespace GameGateway.Gateway

/-- What has to be done for the route of a server. -/
inductive ServerPlan where
  | nothing
  /-- Remove the route under a host. -/
  | withdraw (listener : ListenerId) (hostname : String)
  /-- Set the route under a host to a backend. -/
  | install (listener : ListenerId) (hostname backendHost : String)
  deriving DecidableEq, Repr

/-- What has to be done for the route of a server. -/
def planServer (config : Config) (machine : Machine) (s : Server) :
    Except GatewayError ServerPlan :=
  match s.listener, s.container with
  | none, _ => .ok .nothing
  | some listener, container =>
    let hostname := config.hostnames.hostname s
    if s.status.isRoutable then
      match container with
      -- A server has no backend before it has a container.
      | none => .ok .nothing
      | some container =>
        match config.resolve machine container with
        | .error e => .error e
        | .ok backendHost => .ok (.install listener hostname backendHost)
    else .ok (.withdraw listener hostname)

/-- Leads the route under a host to a backend; a new route gets the owner. -/
def upsertRoute (owner hostname backendHost : String) (backendPort : UInt16) (t : Route.Table) :
    Route.Table :=
  if t.contains hostname then t.update hostname backendHost backendPort
  else t.add owner hostname backendHost backendPort

/-! ### Removing routes -/

/-- Whether removing a host concerns a port: one that was opened for the listener, or, if there is
none, any with virtual hosts. -/
def concerns (listener : Option ListenerId) (e : Entry) : Bool :=
  match listener with
  | some id => e.origin = .listener id
  | none => e.protocol.isVirtualHosted

/-- Removes the route under a host from the ports that it concerns, and tells how many went. -/
def removeHostname (g : Gateway) (hostname : String) (listener : Option ListenerId) :
    Nat × Gateway :=
  let affected (e : Entry) : Bool := concerns listener e && e.routes.contains hostname
  let removed := (g.ports.entries.values.filter affected).length
  let ports := g.ports.mapRoutes fun e =>
    if concerns listener e then e.routes.remove hostname else e.routes
  (removed, { g with ports := if listener.isNone then ports.evict else ports })

/-- Removes the routes of a server from every port, and tells how many went. -/
def removeServer (g : Gateway) (id : ServerId) : Nat × Gateway :=
  let owner := id.toString
  (g.ports.ownedCount owner, { g with ports := g.ports.removeOwner owner })

/-! ### Updating routes -/

/-- Does what has to be done for the route of a server. -/
def carryOut (g : Gateway) (s : Server) : ServerPlan → Outcome Unit
  | .nothing => (.ok (), g)
  | .withdraw listener hostname => (.ok (), (g.removeHostname hostname (some listener)).2)
  | .install listener hostname backendHost =>
    match g.ports.portOf? listener with
    | none => (.error (.listenerNotFound listener), g)
    | some port =>
      let ports := g.ports.modifyRoutes port
        (upsertRoute s.id.toString hostname backendHost s.gamePort)
      (.ok (), { g with ports })

/-- Routes a server, or takes its route away, according to its status. -/
def updateServer (machine : Machine) (g : Gateway) (s : Server) : Outcome Unit :=
  match planServer g.config machine s with
  | .error e => (.error e, g)
  | .ok plan => g.carryOut s plan

end GameGateway.Gateway
