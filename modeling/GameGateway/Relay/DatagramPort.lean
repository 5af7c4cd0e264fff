import GameGateway.Relay.Session
import GameGateway.Route.Table
import GameGateway.Wire.Error

/-!
# Ports for datagrams

A **datagram port** passes the datagrams of each client on to a backend and the backend's answers
back to the client. The first datagram of a client opens a session to the backend that the port's
route leads to at the time, and the session keeps to that backend. Each session has a socket of its
own, so an answer tells whose it is.

`DatagramPort.step` says what an occurrence makes of a port and what is done for it.
-/

namespace GameGateway.Relay

open Wire (Byte)

/-- A **port** for datagrams. -/
structure DatagramPort where
  sessions : Sessions := {}
  /-- Whether the port is bound. -/
  running : Bool := true
  deriving DecidableEq, Repr

namespace DatagramPort

/-- What **occurs** at a port; sessions go by their numbers. -/
inductive Occurrence where
  | datagram (client : SocketAddress) (bytes : List Byte)
  | answer (session : Nat) (bytes : List Byte)
  /-- The socket of a session tells that its backend does not listen. -/
  | failure (session : Nat)
  /-- It is time to close idle sessions. -/
  | sweep
  | stop
  deriving DecidableEq, Repr

/-- What is **done** for an occurrence; sessions go by their numbers. -/
inductive Act where
  /-- Gives a session its socket to a backend. -/
  | opens (session : Nat) (backend : SocketAddress)
  /-- Sends a datagram from a session's socket. -/
  | toBackend (session : Nat) (bytes : List Byte)
  /-- Sends a datagram from the port to a client. -/
  | toClient (client : SocketAddress) (bytes : List Byte)
  /-- Gives up the socket of a session. -/
  | closes (session : Nat)
  deriving DecidableEq, Repr

/-- What surrounds an occurrence. -/
structure Surroundings where
  /-- The routes of the port. -/
  routes : Route.Table
  /-- The address of a route's backend, if a socket to it can be opened. -/
  reach : Route → Option SocketAddress
  /-- How long a session may be idle. -/
  longest : Nat
  now : Nat

/-- What a step makes of a port, and what is done for it. -/
abbrev Result := DatagramPort × List Act

/-- The port with the sessions that a change leaves, after the change has closed others. -/
def change (p : DatagramPort) (sessions : List Session × Sessions) : Result :=
  ({ p with sessions := sessions.2 }, sessions.1.map fun s => .closes s.id)

/-- The route to which an occurrence opens a session, if a socket to its backend can be opened. -/
def newRoute? (p : DatagramPort) (routes : Route.Table) : Occurrence → Option Route
  | .datagram client _ =>
    match p.sessions.get? client with
    | some _ => none
    | none => routes.lookup Route.Key.only
  | .answer _ _ | .failure _ | .sweep | .stop => none

/-- Passes a client's datagram on. -/
def passOn (p : DatagramPort) (around : Surroundings) (client : SocketAddress)
    (bytes : List Byte) : Result :=
  match p.sessions.get? client with
  -- The session keeps its backend, wherever the route leads by now.
  | some s =>
    ({ p with sessions := p.sessions.touch s.id around.now }, [.toBackend s.id bytes])
  | none =>
    match (around.routes.lookup Route.Key.only).bind around.reach with
    | none => (p, [])
    | some backend =>
      let id := p.sessions.nextId
      let (p, acts) := p.change (p.sessions.openFor client backend around.now)
      (p, acts ++ [.opens id backend, .toBackend id bytes])

/-- What an occurrence makes of a port. -/
def step (around : Surroundings) (p : DatagramPort) (o : Occurrence) : Result :=
  if !p.running then (p, [])
  else
    match o with
    | .datagram client bytes => p.passOn around client bytes
    -- A session that has been closed has no client to be answered.
    | .answer id bytes =>
      match p.sessions.find? id with
      | none => (p, [])
      | some s =>
        ({ p with sessions := p.sessions.touch id around.now }, [.toClient s.client bytes])
    | .failure id =>
      match p.sessions.find? id with
      | none => (p, [])
      | some s => p.change (p.sessions.close s.client id)
    | .sweep => p.change (p.sessions.sweep around.longest around.now)
    | .stop => { p with running := false }.change p.sessions.closeAll

end DatagramPort

end GameGateway.Relay
