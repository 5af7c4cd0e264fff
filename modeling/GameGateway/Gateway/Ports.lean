import GameGateway.Gateway.Forwarder

/-!
# The ports of a gateway

A gateway has at most one forwarder on a port, which was opened for a listener or for the ports
of modules. `Ports` holds them together with the sockets that the gateway holds, which are a thing
of their own: a forwarder that was dropped without being stopped would leave its socket behind.

`Ports.get?` is the collection as a partial map; `get?_close`, `get?_mapRoutes` and
`get?_modifyRoutes` say what changes do to it.
-/

namespace GameGateway

/-- What a port was opened for. -/
inductive Origin where
  | listener (id : ListenerId)
  /-- The ports of modules; such a port is closed when its last route goes. -/
  | module
  deriving DecidableEq, Repr

/-- The listener that a port was opened for. -/
def Origin.listener? : Origin → Option ListenerId
  | .listener id => some id
  | .module => none

/-- A forwarder and what it was opened for. -/
structure Entry extends Forwarder where
  origin : Origin
  deriving DecidableEq

/-- The machine that a gateway runs on. -/
structure Machine where
  /-- The address of a container on a network. -/
  address : (container network : String) → Except Container.AddressError IpAddress
  /-- Why a socket that the gateway does not hold itself cannot be bound. -/
  bindFault : Socket → Option BindFault

/-- The **ports** of a gateway. -/
structure Ports where
  entries : Std.ExtTreeMap UInt16 Entry := ∅
  /-- The sockets that the gateway holds. -/
  held : List Socket := []
  deriving DecidableEq

namespace Ports

/-- The entry of a port. -/
def get? (p : Ports) (port : UInt16) : Option Entry :=
  p.entries[port]?

/-- Whether a port has a forwarder. -/
def contains (p : Ports) (port : UInt16) : Bool :=
  (p.get? port).isSome

/-- The ports, in order. -/
def numbers (p : Ports) : List UInt16 :=
  p.entries.keys

/-- The first port that was opened for a listener. -/
def portOf? (p : Ports) (listener : ListenerId) : Option UInt16 :=
  (p.entries.toList.find? fun e => e.2.origin = .listener listener).map Prod.fst

/-- The number of routes of all ports. -/
def routeCount (p : Ports) : Nat :=
  (p.entries.values.flatMap fun e => e.routes.routes).length

/-- Whether a forwarder runs. -/
def isRunning (p : Ports) : Bool :=
  p.entries.values.any fun e => e.running

/-! ### Opening and closing -/

/-- Why a socket cannot be bound. -/
def bindFault (p : Ports) (machine : Machine) (socket : Socket) : Option BindFault :=
  match machine.bindFault socket with
  | some cause => some cause
  | none => if socket ∈ p.held then some .inUse else none

/-- Starts an entry's forwarder and puts the entry on its port. -/
def install (p : Ports) (machine : Machine) (e : Entry) : Except GatewayError Ports :=
  match e.start (p.bindFault machine e.socket) with
  | .error cause => .error cause
  | .ok f =>
    .ok {
      entries := p.entries.insert e.address.port { e with toForwarder := f }
      held := e.socket :: p.held }

/-- Opens a port for a protocol. -/
def openPort (p : Ports) (machine : Machine) (origin : Origin) (protocol : Protocol)
    (address : SocketAddress) : Except GatewayError Ports :=
  p.install machine { Forwarder.new protocol address with origin }

/-- Whether a socket belongs to a running forwarder on a port that is to be closed. -/
def releases (p : Ports) (closing : UInt16 → Entry → Bool) (socket : Socket) : Bool :=
  p.entries.toList.any fun e => closing e.1 e.2 && e.2.running && e.2.socket = socket

/-- Stops the forwarders that are to be closed and gives up their ports. -/
def close (p : Ports) (closing : UInt16 → Entry → Bool) : Ports where
  entries := p.entries.filter fun port e => !closing port e
  held := p.held.filter fun socket => !p.releases closing socket

/-- Gives up a port, if it has a forwarder. -/
def closePort (p : Ports) (port : UInt16) : Ports :=
  p.close fun other _ => other = port

/-- Whether an entry was opened for modules and has no route. -/
def isIdle (e : Entry) : Bool :=
  e.origin = .module && e.routes.isEmpty

/-- Gives up the module ports that have no route. -/
def evict (p : Ports) : Ports :=
  p.close fun _ e => isIdle e

/-- Stops an entry's forwarder without giving up its port. -/
def pause (p : Ports) (e : Entry) : Ports where
  entries := p.entries.insert e.address.port { e with toForwarder := e.stop }
  held := if e.running then p.held.filter (· ≠ e.socket) else p.held

/-! ### Changing routes -/

/-- Changes the routes of every port. -/
def mapRoutes (p : Ports) (f : Entry → Route.Table) : Ports :=
  { p with entries := p.entries.map fun _ e => { e with routes := f e } }

/-- Changes the routes of one port. -/
def modifyRoutes (p : Ports) (port : UInt16) (f : Route.Table → Route.Table) : Ports :=
  { p with entries := p.entries.modify port fun e => { e with routes := f e.routes } }

/-- Removes the routes of an owner from every port. -/
def removeOwner (p : Ports) (owner : String) : Ports :=
  p.mapRoutes fun e => e.routes.removeOwner owner

/-- The number of routes of an owner. -/
def ownedCount (p : Ports) (owner : String) : Nat :=
  (p.entries.values.flatMap fun e => e.routes.keysOf owner).length

/-! ### The ports as a partial map -/

section Lemmas

variable {p : Ports} {port k : UInt16}

/-- Entries are closed one by one: the others stay what they are. -/
theorem get?_close {closing : UInt16 → Entry → Bool} :
    (p.close closing).get? k = (p.get? k).filter fun e => !closing k e := by
  simp [get?, close]

/-- Mapping routes leaves everything else of an entry. -/
theorem get?_mapRoutes {f : Entry → Route.Table} :
    (p.mapRoutes f).get? k = (p.get? k).map fun e => { e with routes := f e } := by
  simp [get?, mapRoutes]

/-- Modifying the routes of a port leaves those of the others. -/
theorem get?_modifyRoutes {f : Route.Table → Route.Table} :
    (p.modifyRoutes port f).get? k =
      if port = k then (p.get? k).map fun e => { e with routes := f e.routes } else p.get? k := by
  simp only [get?, modifyRoutes, Std.ExtTreeMap.getElem?_modify,
    Std.LawfulEqCmp.compare_eq_iff_eq]
  split
  · next h => rw [h]
  · rfl

end Lemmas

end Ports

end GameGateway
