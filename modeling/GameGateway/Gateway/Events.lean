import GameGateway.Event.Basic
import GameGateway.Gateway.Refresh
import GameGateway.Gateway.Servers

/-!
# Following events

An event tells which record has changed, and the gateway reads the record itself from its store.
`applyEvent` makes the changes for one event; `run` follows a stream of events, of which it applies
each one at most once and goes on when one fails.
-/

namespace GameGateway.Gateway

/-- Updates the routes of a module, and goes on if that fails. -/
def tryModule (machine : Machine) (s : Server) (g : Gateway) (m : Module) : Gateway :=
  (g.updateModule machine m s).2

/-- Updates the routes of a server and its modules. -/
def syncServer (machine : Machine) (g : Gateway) (s : Server) : Outcome Unit :=
  let (result, g) := g.updateServer machine s
  (result, (g.panel.modulesOf s.id).foldl (tryModule machine s) g)

/-- Makes the changes for an event. -/
def applyEvent (machine : Machine) (g : Gateway) : Event → Outcome Unit
  | .serverStatusChanged id status =>
    match g.panel.server? id with
    | none => (.error (.serverNotFound id), (g.removeServer id).2)
    | some s => g.syncServer machine { s with status }
  | .serverUpdated id previousHostname previousListener =>
    let g :=
      -- Without its old host, the old route is found by its owner.
      match previousHostname with
      | some hostname => (g.removeHostname hostname previousListener).2
      | none => (g.removeServer id).2
    match g.panel.server? id with
    | none => (.error (.serverNotFound id), g)
    | some s => g.syncServer machine s
  | .serverDeleted id => (.ok (), (g.removeServer id).2)
  | .listenerCreated id _ =>
    match g.panel.listener? id with
    | none => (.error (.listenerNotFound id), g)
    | some l => g.addListener machine l
  | .listenerDeleted _ port =>
    match g.removeListener port with
    | (.error (.portNotFound _), g) => (.ok (), g)
    | outcome => outcome
  | .moduleUpdated id server =>
    match g.panel.module? id with
    | none => (.ok (), (g.removeModule id).2)
    | some m =>
      match g.panel.server? server with
      | none => (.error (.serverNotFound server), g)
      | some s => g.updateModule machine m s
  | .moduleDeleted id _ => (.ok (), (g.removeModule id).2)

/-- Takes the next event of a stream. One at or before the cursor has been applied before, and one
of an unknown version is passed over. -/
def step (machine : Machine) (state : EventId × Gateway) (e : Envelope) : EventId × Gateway :=
  let (cursor, g) := state
  if e.id ≤ cursor then (cursor, g)
  else if e.isSupported then (e.id, (g.applyEvent machine e.event).2)
  else (e.id, g)

/-- Follows a stream of events; the answer is the position of the last one that was taken. -/
def run (machine : Machine) (g : Gateway) (events : List Envelope) : EventId × Gateway :=
  events.foldl (step machine) (.zero, g)

end GameGateway.Gateway
