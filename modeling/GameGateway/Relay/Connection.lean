import GameGateway.Http.Serving
import GameGateway.Wire.FrameReader

/-!
# Connections

A **connection** of a client leads to a backend. On a raw port it does so at once; in the game's
protocol and in HTTP the client first tells which host it wants, in a handshake or in the head of
a request, and what it tells goes on to the backend: the handshake in the words for that backend,
the head as it came. A head that does not ask for WebSocket stays with HTTP, where each request
finds its own backend.

`Connection.step` says what a signal makes of a connection and what is done for it, `Connection.run`
does so for a history of signals. A client that cannot be led anywhere is told nothing, but in HTTP
it is told that its request for WebSocket has found no backend.
-/

namespace GameGateway.Relay

open Http (Serving Manner)
open Wire (Byte FrameReader Handshake)

/-- What a connection has to be told before it can be led anywhere. -/
inductive Opening where
  /-- The client's handshake. -/
  | handshake (reader : FrameReader)
  /-- The head of the client's first request; these are its bytes so far. -/
  | head (buffered : List Byte)
  deriving DecidableEq, Repr

/-- A connection that a backend is to take. -/
structure Call where
  route : Route
  /-- What the backend is to be told first. -/
  first : List Byte
  /-- What the client is told if the backend does not take the connection. -/
  apology : List Byte
  /-- Whether the client still speaks. -/
  speaks : Bool := true
  deriving DecidableEq, Repr

/-- A **connection** of a client. -/
inductive Connection where
  | opening (o : Opening)
  | dialing (c : Call)
  | piping (p : Pipe)
  | serving (s : Serving)
  | closed
  deriving DecidableEq, Repr

namespace Connection

/-- What a step makes of a connection, and what is done for it. -/
abbrev Result := Connection × List Effect

/-- The most bytes that may come before the head of a first request is complete. -/
def maxHead : Nat := 64 * 1024

/-- What a client is told that asks for WebSocket where there is no backend. -/
def badGateway : List Byte := ({} : Manner).badGateway

/-- Gives the connection up. -/
def drop : Result := (.closed, [.close])

/-- Leads the connection to a backend. -/
def call (c : Call) : Result := (.dialing c, [.dial c.route])

/-! ### Opening -/

/-- A connection that has just been made to a port. -/
def start (protocol : Protocol) (routes : Route.Table) : Result :=
  match protocol with
  | .minecraft => (.opening (.handshake .start), [])
  | .http => (.opening (.head []), [])
  | .tcp | .udp =>
    match routes.lookup Route.Key.only with
    | none => drop
    | some route => call { route, first := [], apology := [] }

/-- Leads on a client that has sent its handshake, and these bytes behind it. -/
def behindHandshake (routes : Route.Table) (h : Handshake) (rest : List Byte) : Result :=
  match routes.lookup (Route.Key.normalize h.hostname) with
  | none => drop
  | some route =>
    call { route, first := (h.forBackend route.backendPort).encodeFrame ++ rest, apology := [] }

/-- Leads on a client whose first bytes have this head. -/
def behindHead (routes : Route.Table) (peer : IpAddress) (h : Http.Head) (buffered : List Byte) :
    Result :=
  let wish := h.fields.wish
  if wish.websocket then
    match wish.host.bind routes.lookup with
    | none => (.closed, [.send .client badGateway, .finish .client, .close])
    | some route => call { route, first := buffered, apology := badGateway }
  else
    let (s, effects) := Serving.start routes peer buffered
    (.serving s, effects)

/-- What bytes of the client make of a connection that is being opened. -/
def listen (routes : Route.Table) (peer : IpAddress) (bytes : List Byte) : Opening → Result
  | .handshake reader =>
    match reader.feed bytes with
    | .more reader => (.opening (.handshake reader), [])
    | .done (.ok h) rest => behindHandshake routes h rest
    | .done (.error _) _ => drop
  | .head buffered =>
    let buffered := buffered ++ bytes
    match Http.Head.scan buffered with
    -- The bytes behind the head stay with it: they belong to whoever the connection goes to.
    | .complete h _ => behindHead routes peer h buffered
    | .malformed _ => drop
    | .incomplete =>
      if maxHead < buffered.length then drop else (.opening (.head buffered), [])

/-! ### Steps -/

/-- What a signal makes of a connection that a backend is to take. The client's bytes go behind
those that the backend is to be told first. -/
def await (c : Call) : Signal → Result
  -- They are read later, but nothing comes between.
  | .received .client bytes => (.dialing { c with first := c.first ++ bytes }, [])
  | .ended .client => (.dialing { c with speaks := false }, [])
  | .connected =>
    (.piping { client := c.speaks },
      .send .backend c.first :: if c.speaks then [] else [.finish .backend])
  | .refused => (.closed, [.send .client c.apology, .close])
  | .failed .client => drop
  | .received .backend _ | .ended .backend | .failed .backend | .overdue => (.dialing c, [])

/-- What a signal does to a connection. -/
def step (routes : Route.Table) (peer : IpAddress) (c : Connection) (signal : Signal) : Result :=
  match c with
  | .opening o =>
    match signal with
    | .received .client bytes => listen routes peer bytes o
    | .ended .client | .failed .client | .overdue => drop
    | .received .backend _ | .ended .backend | .failed .backend | .connected | .refused => (c, [])
  | .dialing call => await call signal
  | .piping p =>
    let (p, effects) := p.step signal
    (.piping p, effects)
  | .serving s =>
    let (s, effects) := s.step routes peer signal
    (.serving s, effects)
  | .closed => (.closed, [])

/-- What a history of signals does to a connection. -/
def runFrom (routes : Route.Table) (peer : IpAddress) : Connection → List Signal → Result
  | c, [] => (c, [])
  | c, signal :: signals =>
    let (c, effects) := c.step routes peer signal
    let (c, more) := runFrom routes peer c signals
    (c, effects ++ more)

/-- What a history of signals does to a connection to a port, from the beginning. -/
def run (protocol : Protocol) (routes : Route.Table) (peer : IpAddress) (signals : List Signal) :
    Result :=
  let (c, effects) := start protocol routes
  let (c, more) := runFrom routes peer c signals
  (c, effects ++ more)

/-- **A run may be cut anywhere**, and goes on from the connection that it has come to. -/
theorem runFrom_append (routes : Route.Table) (peer : IpAddress) (c : Connection)
    (xs ys : List Signal) :
    runFrom routes peer c (xs ++ ys) =
      let (d, effects) := runFrom routes peer c xs
      let (d, more) := runFrom routes peer d ys
      (d, effects ++ more) := by
  induction xs generalizing c with
  | nil => rfl
  | cons x xs ih => simp [runFrom, ih]

end Connection

end GameGateway.Relay
