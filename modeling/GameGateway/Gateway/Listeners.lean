import GameGateway.Gateway.Basic

/-!
# Listeners of a gateway

A listener's port is open while the listener is there and enabled, and forwards the game's
protocol.
-/

namespace GameGateway.Gateway

/-- Opens the port of a listener. -/
def openListener (config : Config) (machine : Machine) (l : Listener) (ports : Ports) :
    Except GatewayError Ports :=
  if ports.contains l.port then .error (.portInUse l.port)
  else ports.openPort machine (.listener l.id) .minecraft (config.address l.port)

/-- Adds a listener: opens its port if it is enabled, and saves it. -/
def addListener (machine : Machine) (g : Gateway) (l : Listener) : Outcome Unit :=
  let opened : Except GatewayError Ports :=
    if g.ports.contains l.port then .error (.portInUse l.port)
    else if l.enabled then openListener g.config machine l g.ports
    else .ok g.ports
  match opened with
  | .error e => (.error e, g)
  | .ok ports =>
    -- The port is open before the record is saved, and given up if that is refused.
    match g.store.saveListener l with
    | (.ok (), store) => (.ok (), { g with store, ports })
    | (.error e, store) => (.error (.store e), { g with store, ports := ports.closePort l.port })

/-- The listener of a port: the one it was opened for, or else the one in the store that has it. -/
def listenerOn? (g : Gateway) (port : UInt16) : Option ListenerId :=
  match g.ports.get? port with
  | some e => e.origin.listener?
  | none => (g.panel.listeners.find? (·.port = port)).map (·.id)

/-- Removes the listener of a port: deletes it and gives up the port. -/
def removeListener (g : Gateway) (port : UInt16) : Outcome Unit :=
  match g.listenerOn? port with
  | none => (.error (.portNotFound port), g)
  | some id =>
    match g.store.deleteListener id with
    -- A record that is gone already is no reason to keep the port.
    | (.ok _, store) | (.error (.refused (.listenerNotFound _)), store) =>
      (.ok (), { g with store, ports := g.ports.closePort port })
    | (.error e, store) => (.error (.store e), { g with store })

end GameGateway.Gateway
