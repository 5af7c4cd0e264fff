import GameGateway.Container.Engine
import GameGateway.Daemon
import GameGateway.Relay.Connection
import GameGateway.Relay.DatagramPort
import Std.Async.DNS
import Std.Async.Select
import Std.Async.Signal
import Std.Async.TCP
import Std.Async.Timer
import Std.Async.UDP
import Std.Sync.CancellationToken
import Std.Sync.Channel

/-!
# The program

The program reads its settings and the document, opens the ports of the gateway and forwards what
comes to them until it is interrupted. Everything that is decided is decided by the gateway, by the
connections and by the datagram ports; here their effects are carried out on sockets.
-/

namespace GameGateway.Main

open Relay
open Std.Async (Async Selectable Selector)
open Wire (Byte)

/-! ### Bytes and addresses -/

/-- Bytes for a socket. -/
def packed (bytes : List Byte) : ByteArray := ⟨bytes.toArray⟩

/-- Bytes from a socket. -/
def unpacked (bytes : ByteArray) : List Byte := bytes.toList

/-- A socket's address, for the system. -/
def toSystem (address : SocketAddress) : Std.Net.SocketAddress :=
  match address.host with
  | .v4 octets => .v4 ⟨⟨octets⟩, address.port⟩
  | .v6 groups => .v6 ⟨⟨groups⟩, address.port⟩

/-- A socket's address, from the system. -/
def ofSystem : Std.Net.SocketAddress → SocketAddress
  | .v4 address => ⟨.v4 address.addr.octets, address.port⟩
  | .v6 address => ⟨.v6 address.addr.segments, address.port⟩

/-- An address, from the system. -/
def addressOfSystem : Std.Net.IPAddr → IpAddress
  | .v4 address => .v4 address.octets
  | .v6 address => .v6 address.segments

/-- The address of a host that has one as its name, or else the first that is found for the name. -/
def lookUp (host : String) (port : UInt16) : Async (Option SocketAddress) := do
  if let some address := IpAddress.parse? host then
    return some { host := address, port }
  let found ← try Std.Async.DNS.getAddrInfo host (toString port) catch _ => pure #[]
  return found[0]?.map fun address => { host := addressOfSystem address, port }

/-- The most bytes that are read from a connection at a time. -/
def pieceSize : UInt64 := 8192

/-- The most bytes of a datagram. -/
def datagramSize : UInt64 := 65535

/-- A time in milliseconds, for the system. -/
def milliseconds (n : Nat) : Std.Time.Millisecond.Offset := .ofNat n

/-! ### Connections -/

/-- A connection to a peer. -/
abbrev Peer := Std.Async.TCP.Socket.Client

/-- Connects to a host, unless that takes too long. -/
def connect (host : String) (port : UInt16) (longest : Nat) : Async (Option Peer) := do
  let some address ← lookUp host port | return none
  let peer ← Std.Async.TCP.Socket.Client.mk
  let attempt : Async Bool := do
    try
      peer.connect (toSystem address)
      peer.noDelay
      return true
    catch _ => return false
  let connected ← Async.race attempt do
    Std.Async.sleep (milliseconds longest)
    return false
  return if connected then some peer else none

/-! ### Inboxes -/

/-- An **inbox**, into which whatever is waited for is put until the inbox is closed. -/
structure Inbox (α : Type) where
  channel : Std.CloseableChannel α
  /-- Tells those who fill the inbox that it is closed. -/
  closing : Std.CancellationToken

namespace Inbox

variable {α : Type}

/-- An inbox that takes one thing at a time. -/
def new : IO (Inbox α) :=
  return { channel := ← Std.CloseableChannel.new (some 1), closing := ← Std.CancellationToken.new }

/-- Puts something into an inbox, once there is room. -/
def put (inbox : Inbox α) (a : α) : Async Unit := do
  let _ ← Async.ofTask (← inbox.channel.send a)

/-- Takes what comes next out of an inbox. -/
def next (inbox : Inbox α) : Async (Option α) := do
  Async.ofTask (← inbox.channel.recv)

/-- Closes an inbox. -/
def close (inbox : Inbox α) : Async Unit := do
  inbox.closing.cancel
  let _ ← inbox.channel.close.toBaseIO

/-- Waits for something, unless the inbox is closed first. -/
def whileOpen {β : Type} (inbox : Inbox α) (selector : Selector β) : Async (Option β) :=
  Selectable.one #[
    .case selector fun b => return some b,
    .case inbox.closing.selector fun _ => return none]

/-- Puts something into an inbox after a time. -/
def remind (inbox : Inbox α) (time : Nat) (a : α) : Async Bool := do
  if (← inbox.whileOpen (← Selector.sleep (milliseconds time))).isSome then
    inbox.put a
    return true
  else return false

/-- Puts something into an inbox again and again. -/
partial def remindEvery (inbox : Inbox α) (time : Nat) (a : α) : Async Unit := do
  if ← inbox.remind time a then inbox.remindEvery time a

end Inbox

/-! ### Lines -/

/-- The two ends of a connection. -/
structure Line where
  client : Peer
  backend : Option Peer := none
  closed : Bool := false

namespace Line

/-- The peer on a side. -/
def peer? (l : Line) : Side → Option Peer
  | .client => some l.client
  | .backend => l.backend

/-- The signal that a piece of a side's bytes is, or the end of them. -/
def heard (side : Side) : Option ByteArray → Relay.Signal
  | some bytes => .received side (unpacked bytes)
  | none => .ended side

/-- Puts into an inbox what a peer says. -/
partial def listen (inbox : Inbox Relay.Signal) (side : Side) (peer : Peer) : Async Unit := do
  let signal ←
    try pure ((← inbox.whileOpen (peer.recvSelector pieceSize)).map (heard side))
    catch _ => pure (some (.failed side))
  if let some signal := signal then
    inbox.put signal
    if signal matches .received _ _ then listen inbox side peer

/-- Carries out an effect, and tells what befalls the connection by that. -/
def perform (timeouts : Timeouts) (inbox : Inbox Relay.Signal) (l : Line) (effect : Effect) :
    Async (Line × Option Relay.Signal) := do
  match effect with
  | .dial route =>
    let some backend ← connect route.backendHost route.backendPort timeouts.connect
      | return (l, some .refused)
    Std.Async.background (listen inbox .backend backend)
    return ({ l with backend := some backend }, some .connected)
  | .send side bytes =>
    let some peer := l.peer? side | return (l, none)
    try
      unless bytes.isEmpty do peer.send (packed bytes)
      return (l, none)
    catch _ => return (l, some (.failed side.other))
  | .finish side =>
    let some peer := l.peer? side | return (l, none)
    try peer.shutdown catch _ => pure ()
    return (l, none)
  | .hangUp => return ({ l with backend := none }, none)
  | .close => return ({ l with closed := true }, none)

end Line

/-! ### Ports -/

/-- A gateway that is being served, and how to stop the service of its sockets. -/
structure Service where
  gateway : IO.Ref Gateway
  stops : IO.Ref (List (Socket × Std.CancellationToken))

/-- A socket of a port. -/
inductive Bound where
  | stream (server : Std.Async.TCP.Socket.Server)
  | datagrams (socket : Std.Async.UDP.Socket)

namespace Service

/-- What is served on a port now. -/
def entry? (s : Service) (port : UInt16) : IO (Option Entry) :=
  return (← s.gateway.get).ports.get? port

/-- The routes of a port now. -/
def routes (s : Service) (port : UInt16) : IO Route.Table :=
  return ((← s.entry? port).map (·.routes)).getD (.empty true)

/-- The time that ports wait for their peers. -/
def timeouts (s : Service) : IO Timeouts :=
  return (← s.gateway.get).config.timeouts

/-! #### Connections -/

/-- Carries out effects on a connection, and what they bring about. -/
partial def performAll (s : Service) (port : UInt16) (peer : IpAddress)
    (inbox : Inbox Relay.Signal) (c : Connection) (l : Line) :
    List Effect → Async (Connection × Line)
  | [] => return (c, l)
  | effect :: effects => do
    match ← l.perform (← s.timeouts) inbox effect with
    | (l, none) => s.performAll port peer inbox c l effects
    | (l, some signal) =>
      let (c, more) := c.step (← s.routes port) peer signal
      s.performAll port peer inbox c l (effects ++ more)

/-- Forwards a connection until it is closed. -/
partial def converse (s : Service) (port : UInt16) (peer : IpAddress)
    (inbox : Inbox Relay.Signal) (c : Connection) (l : Line) : Async Unit := do
  unless l.closed do
    if let some signal ← inbox.next then
      let (c, effects) := c.step (← s.routes port) peer signal
      let (c, l) ← s.performAll port peer inbox c l effects
      s.converse port peer inbox c l

/-- Serves a connection to a port. -/
def serveClient (s : Service) (port : UInt16) (client : Peer) : Async Unit := do
  let some e ← s.entry? port | return
  let timeouts ← s.timeouts
  let peer := (ofSystem (← client.getPeerName)).host
  client.noDelay
  let inbox ← Inbox.new
  let (c, effects) := Connection.start e.protocol e.routes
  let longest := if e.protocol = .http then timeouts.headerRead else timeouts.handshakeRead
  Std.Async.background (inbox.remind longest .overdue)
  Std.Async.background (Line.listen inbox .client client)
  let (c, l) ← s.performAll port peer inbox c { client } effects
  try s.converse port peer inbox c l
  finally inbox.close

/-- Serves the connections to a port until that is stopped. -/
partial def acceptClients (s : Service) (port : UInt16) (server : Std.Async.TCP.Socket.Server)
    (stop : Std.CancellationToken) : Async Unit := do
  let client ←
    try
      Selectable.one #[
        .case server.acceptSelector fun client => return some (some client),
        .case stop.selector fun _ => return none]
    catch _ => pure (some none)
  if let some client := client then
    if let some client := client then
      Std.Async.background (s.serveClient port client)
    s.acceptClients port server stop

/-! #### Datagrams -/

/-- The sockets of sessions. -/
abbrev SessionSockets := List (Nat × Std.Async.UDP.Socket)

/-- Puts the datagrams of clients into an inbox. -/
partial def hearClients (inbox : Inbox DatagramPort.Occurrence) (socket : Std.Async.UDP.Socket) :
    Async Unit := do
  let datagram ←
    try inbox.whileOpen (socket.recvSelector datagramSize)
    catch _ => pure (some (.empty, none))
  if let some (bytes, client) := datagram then
    if let some client := client then
      inbox.put (.datagram (ofSystem client) (unpacked bytes))
    hearClients inbox socket

/-- Puts the answers of a session's backend into an inbox. -/
partial def hearBackend (inbox : Inbox DatagramPort.Occurrence) (id : Nat)
    (socket : Std.Async.UDP.Socket) : Async Unit := do
  let occurrence ←
    try
      let datagram ← inbox.whileOpen (socket.recvSelector datagramSize)
      pure (datagram.map fun (bytes, _) => .answer id (unpacked bytes))
    catch _ => pure (some (.failure id))
  if let some occurrence := occurrence then
    inbox.put occurrence
    if occurrence matches .answer _ _ then hearBackend inbox id socket

/-- A socket to the backend of a route, if it can be opened. -/
def openSession (route : Route) : Async (Option (SocketAddress × Std.Async.UDP.Socket)) := do
  let some backend ← lookUp route.backendHost route.backendPort | return none
  try
    let socket ← Std.Async.UDP.Socket.mk
    socket.connect (toSystem backend)
    return some (backend, socket)
  catch _ => return none

/-- Carries out what is done at a datagram port; `fresh` is the socket of a session that it
opens. -/
def act (inbox : Inbox DatagramPort.Occurrence) (port : Std.Async.UDP.Socket)
    (fresh : Option Std.Async.UDP.Socket) (sockets : SessionSockets) :
    DatagramPort.Act → Async SessionSockets
  | .opens id _ => do
    let some socket := fresh | return sockets
    Std.Async.background (hearBackend inbox id socket)
    return (id, socket) :: sockets
  | .toBackend id bytes => do
    if let some socket := sockets.lookup id then
      try socket.send (packed bytes) catch _ => pure ()
    return sockets
  | .toClient client bytes => do
    try port.send (packed bytes) (some (toSystem client)) catch _ => pure ()
    return sockets
  | .closes id => return sockets.filter (·.1 ≠ id)

/-- Forwards the datagrams of a port until that is stopped. -/
partial def forwardDatagrams (s : Service) (number : UInt16)
    (inbox : Inbox DatagramPort.Occurrence) (socket : Std.Async.UDP.Socket) (port : DatagramPort)
    (sockets : SessionSockets) : Async Unit := do
  if port.running then
    if let some occurrence ← inbox.next then
      let routes ← s.routes number
      let fresh ←
        match port.newRoute? routes occurrence with
        | some route => openSession route
        | none => pure none
      let (port, acts) := port.step {
        routes
        reach := fun _ => fresh.map (·.1)
        longest := (← s.timeouts).sessionIdle
        now := ← IO.monoMsNow } occurrence
      let sockets ← acts.foldlM (act inbox socket (fresh.map (·.2))) sockets
      s.forwardDatagrams number inbox socket port sockets

/-- Serves the datagrams of a port until that is stopped. -/
def serveDatagrams (s : Service) (number : UInt16) (socket : Std.Async.UDP.Socket)
    (stop : Std.CancellationToken) : Async Unit := do
  let inbox ← Inbox.new
  Std.Async.background (hearClients inbox socket)
  Std.Async.background (inbox.remindEvery (← s.timeouts).sweepInterval .sweep)
  Std.Async.background do
    if (← inbox.whileOpen stop.selector).isSome then inbox.put .stop
  try s.forwardDatagrams number inbox socket {} []
  finally inbox.close

/-! #### Opening and closing -/

/-- Binds a socket. -/
def bind (host : IpAddress) (socket : Socket) : IO (Except BindFault Bound) := do
  let address := toSystem { host, port := socket.port }
  try
    match socket.transport with
    | .tcp =>
      let server ← Std.Async.TCP.Socket.Server.mk
      server.bind address
      server.listen 1024
      return .ok (.stream server)
    | .udp =>
      let bound ← Std.Async.UDP.Socket.mk
      bound.bind address
      return .ok (.datagrams bound)
  catch
    | .resourceBusy _ _ => return .error .inUse
    | _ => return .error .notAvailable

/-- Begins to serve a socket. -/
def serve (s : Service) (socket : Socket) (bound : Bound) : Async Unit := do
  let stop ← Std.CancellationToken.new
  s.stops.modify ((socket, stop) :: ·)
  match bound with
  | .stream server => Std.Async.background (s.acceptClients socket.port server stop)
  | .datagrams bound => Std.Async.background (s.serveDatagrams socket.port bound stop)

/-- Makes a gateway the one that is served; `spare` are sockets that have been bound for it. -/
def become (s : Service) (g : Gateway) (spare : List (Socket × Bound)) : Async Unit := do
  s.gateway.set g
  for (socket, stop) in ← s.stops.get do
    unless socket ∈ g.ports.held do stop.cancel
  s.stops.modify fun stops => stops.filter fun (socket, _) => socket ∈ g.ports.held
  for (socket, bound) in spare do
    if socket ∈ g.ports.held then s.serve socket bound

end Service

/-! ### The machine -/

/-- Reads everything that a peer says. -/
partial def readAll (peer : Peer) (bytes : List Byte) : Async (List Byte) := do
  match ← peer.recv? pieceSize with
  | some piece => readAll peer (bytes ++ unpacked piece)
  | none => return bytes

/-- What the engine answers about a container, if it does. -/
def inspect (engine : Option Container.Engine) (timeouts : Timeouts) (container : String) :
    Async (Option Container.Answer) := do
  let some engine := engine | return none
  let some peer ← connect engine.host engine.port timeouts.connect | return none
  try
    peer.send (packed (engine.request container))
    return Container.Answer.ofBytes? (← readAll peer [])
  catch _ => return none

/-- Finds out about the machine what a gateway needs to know, and binds the sockets for which it
may ask. -/
def observe (engine : Option Container.Engine) (g : Gateway) :
    Async (Machine × List (Socket × Bound)) := do
  let answers ← (Daemon.containers g.panel).mapM fun container => do
    return (container, ← inspect engine g.config.timeouts container)
  let wanted := (Daemon.sockets g.panel).filter (· ∉ g.ports.held)
  let trials ← wanted.mapM fun socket => do
    return (socket, ← Service.bind g.config.bindHost socket)
  let faults := trials.filterMap fun (socket, result) =>
    match result with
    | .error fault => some (socket, fault)
    | .ok _ => none
  let spare := trials.filterMap fun (socket, result) =>
    match result with
    | .ok bound => some (socket, bound)
    | .error _ => none
  return (Daemon.machine answers faults, spare)

/-! ### The run -/

/-- The settings in the environment of the program. -/
def environment : IO Settings.Environment := do
  let given ← Settings.variableNames.mapM fun name => return (name, ← IO.getEnv name)
  return fun name => (given.lookup name).join

/-- Reads the document. -/
def readDocument (file : String) : IO (Except IoError String) := do
  try return .ok (← IO.FS.readFile file)
  catch
    | .noFileOrDirectory _ _ _ => return .error .notFound
    | _ => return .error .invalidData

/-- Refreshes the gateway again and again, until the program is interrupted. -/
partial def refreshUntil (interrupt : Std.Async.Signal.Waiter) (engine : Option Container.Engine)
    (s : Service) (seconds : Option Nat) : Async Unit := do
  let timer ← seconds.mapM fun n => Selector.sleep (milliseconds (n * 1000))
  let ticks := timer.toList.map fun timer => Selectable.case timer fun _ => return true
  let interrupts := Selectable.case interrupt.selector fun _ => return false
  if ← Selectable.one (interrupts :: ticks).toArray then
    let (machine, spare) ← observe engine (← s.gateway.get)
    s.become ((← s.gateway.get).refresh machine) spare
    refreshUntil interrupt engine s seconds

/-- Starts the gateway and serves it until the program is interrupted. -/
def run (settings : Settings) (g : Gateway) : Async Unit := do
  let interrupt ← Std.Async.Signal.Waiter.mk .sigint true
  let engine := (← IO.getEnv "DOCKER_HOST").bind Container.Engine.ofText?
  let s : Service := { gateway := ← IO.mkRef g, stops := ← IO.mkRef [] }
  let (machine, spare) ← observe engine g
  s.become (g.start machine) spare
  refreshUntil interrupt engine s settings.refreshSeconds
  s.become (← s.gateway.get).stop []

end GameGateway.Main

/-- Runs the gateway. -/
def main : IO UInt32 := do
  let env ← GameGateway.Main.environment
  let text ←
    match GameGateway.Settings.ofEnvironment env with
    | .ok settings => GameGateway.Main.readDocument settings.dataFile
    | .error _ => pure (.error .notFound)
  match GameGateway.Daemon.load env fun _ => text with
  | .error e =>
    IO.eprintln e.line
    return 1
  | .ok (settings, g) =>
    (GameGateway.Main.run settings g).block
    return 0
