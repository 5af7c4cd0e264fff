import GameGateway.Http.Exchange
import GameGateway.Relay.Pipe

/-!
# Serving requests

On a connection that stays with HTTP, each request goes to the backend of its host, and its response
comes back before the next request is looked at. Bytes that come before their turn wait. `Serving`
is how far that has gone on a connection, and `Serving.step` what a signal makes of it.
-/

namespace GameGateway.Http

open Relay (Signal Effect Pipe)
open Wire (Byte)

/-- How far the response to a request has come. -/
inductive Exchange.Progress where
  /-- Its head is being read; these are its bytes so far. -/
  | head (buffered : List Byte)
  | body (reader : Body.Reader) (delivery : Delivery)
  | complete (keepAlive : Bool)
  deriving DecidableEq, Repr

/-- A request that a backend is dealing with. -/
structure Exchange where
  plan : Plan
  /-- How far the request's body has been read, until all of it has. -/
  request : Option Body.Reader
  response : Exchange.Progress := .head []
  deriving DecidableEq, Repr

/-- What a connection on which requests are served is **at**. -/
inductive Serving.Phase where
  /-- The next request. -/
  | awaiting
  | dialing (plan : Plan)
  | exchanging (e : Exchange)
  /-- The rest of a request that has been answered already. -/
  | skipping (reader : Body.Reader) (keepAlive : Bool)
  | piping (p : Pipe)
  | closed
  deriving DecidableEq, Repr

/-- A connection on which requests are **served**. -/
structure Serving where
  phase : Serving.Phase := .awaiting
  /-- The client's bytes that wait for their turn. -/
  ahead : List Byte := []
  deriving DecidableEq, Repr

namespace Serving

/-- The most bytes that the head of a request may have. -/
def maxHead : Nat := 408 * 1024

/-- What a step makes of a connection, and what is done for it. -/
abbrev Result := Serving × List Effect

variable (s : Serving)

/-! ### Ends -/

/-- Gives the connection up. -/
def leave : Result := ({ s with phase := .closed }, [.close])

/-- Sends a last response and gives the connection up. -/
def dismiss (response : List Byte) : Result :=
  ({ s with phase := .closed }, [.send .client response, .finish .client, .close])

/-- What follows a response: the rest of its request, if there is one, and then the next request if
there is to be one. -/
def behindResponse (request : Option Body.Reader) (keepAlive : Bool) : Result :=
  match keepAlive, request with
  -- What is left of the request does not matter any more.
  | false, _ => ({ s with phase := .closed }, [.finish .client, .close])
  | true, none => ({ s with phase := .awaiting }, [])
  | true, some reader => ({ s with phase := .skipping reader true }, [])

/-- Answers a request for which no backend can be asked. -/
def refuse (m : Manner) (request : Option Body.Reader) : Result :=
  let (s, effects) := s.behindResponse request m.keepAlive
  (s, .send .client m.badGateway :: effects)

/-- The reader of a request's body, unless that is empty. -/
def bodyReader : Framing → Option Body.Reader
  | .sized 0 => none
  | framing => some (.start framing)

/-! ### The client's bytes -/

/-- Looks for the next request. -/
def takeHead (routes : Route.Table) (peer : IpAddress) : Option Result :=
  match Head.scan s.ahead with
  | .incomplete =>
    if maxHead < s.ahead.length then
      some (s.dismiss (Manner.ownResponse {} 431 "Request Header Fields Too Large" ""))
    else none
  | .malformed _ => some (s.dismiss (Manner.ownResponse {} 400 "Bad Request" ""))
  | .complete h rest =>
    let s := { s with ahead := rest }
    match Framing.ofRequest? h.minorVersion h.fields with
    | none => some (s.dismiss (Manner.ownResponse {} 400 "Bad Request" ""))
    | some framing =>
      match Plan.of? routes peer h framing with
      | none => some (s.refuse (.ofHead h) (bodyReader framing))
      | some plan => some ({ s with phase := .dialing plan }, [.dial plan.route])

/-- Gives up the backend of an exchange when its response is complete and its request as well. -/
def settle (e : Exchange) : Result :=
  match e.response with
  | .head _ | .body _ _ => ({ s with phase := .exchanging e }, [])
  | .complete keepAlive =>
    let (s, effects) := s.behindResponse e.request keepAlive
    (s, .hangUp :: effects)

/-- Sends a backend a piece of the request's body. -/
def passOn (plan : Plan) (payload : List Byte) : List Effect :=
  match plan.onward with
  | none => []
  | some framing =>
    if payload.isEmpty then [] else [.send .backend (framing.encode payload)]

/-- Tells a backend that the request's body is complete. -/
def passEnd (plan : Plan) : List Effect :=
  match plan.onward with
  | some .chunked => [.send .backend Framing.chunked.terminator]
  | none | some (.sized _) | some .untilEnd => []

/-- Takes the bytes that wait as those of the request's body. -/
def takeBody (e : Exchange) (reader : Body.Reader) : Result :=
  match reader.feed s.ahead with
  | .malformed => s.leave
  | .more reader payload =>
    ({ phase := .exchanging { e with request := some reader }, ahead := [] }, passOn e.plan payload)
  | .done payload rest =>
    let (s, effects) := { s with ahead := rest }.settle { e with request := none }
    (s, passOn e.plan payload ++ passEnd e.plan ++ effects)

/-- Takes the bytes that wait, if their turn has come. -/
def takeAhead (routes : Route.Table) (peer : IpAddress) : Option Result :=
  if s.ahead.isEmpty then none
  else
    match s.phase with
    | .awaiting => s.takeHead routes peer
    | .exchanging e => e.request.map (s.takeBody e)
    | .skipping reader keepAlive =>
      match reader.feed s.ahead with
      | .malformed => some s.leave
      | .more reader _ => some ({ phase := .skipping reader keepAlive, ahead := [] }, [])
      | .done _ rest => some ({ s with ahead := rest }.behindResponse none keepAlive)
    | .dialing _ | .piping _ | .closed => none

/-- Takes the bytes that wait as long as their turn has come, a number of times at most. -/
def takeAll (routes : Route.Table) (peer : IpAddress) : Nat → Serving → Result
  | 0, s => (s, [])
  | most + 1, s =>
    -- Each turn makes the next one possible, until bytes have to wait for a signal.
    match s.takeAhead routes peer with
    | none => (s, [])
    | some (s, effects) =>
      let (s, more) := takeAll routes peer most s
      (s, effects ++ more)

/-- Takes the bytes that wait as long as their turn has come. A request takes up to two turns, its
head and its body, and has one byte at least. -/
def proceed (routes : Route.Table) (peer : IpAddress) : Result :=
  takeAll routes peer (2 * s.ahead.length + 1) s

/-! ### The backend's bytes -/

/-- Passes a piece of the response's body on to the client. -/
def takeResponseBody (e : Exchange) (reader : Body.Reader) (d : Delivery) (bytes : List Byte) :
    Result :=
  let send (payload : List Byte) : List Effect :=
    if payload.isEmpty then [] else [.send .client (d.onward.encode payload)]
  match reader.feed bytes with
  | .malformed => s.leave
  | .more reader payload =>
    ({ s with phase := .exchanging { e with response := .body reader d } }, send payload)
  | .done payload _ =>
    let (s, effects) := s.settle { e with response := .complete d.manner.keepAlive }
    (s, send payload ++ .send .client d.onward.terminator :: effects)

/-- Takes what a backend has sent. -/
def takeResponse (e : Exchange) (bytes : List Byte) : Result :=
  let unusable : Result :=
    let (s, effects) := s.refuse e.plan.manner e.request
    (s, .hangUp :: effects)
  match e.response with
  | .head buffered =>
    match Response.scanFinal (buffered ++ bytes) with
    | .malformed _ => unusable
    | .incomplete =>
      ({ s with phase := .exchanging { e with response := .head (buffered ++ bytes) } }, [])
    | .complete r rest =>
      if r.status = 101 then
        -- What the client has sent already is the first that it says in the new protocol.
        if e.plan.upgrade then
          ({ phase := .piping {}, ahead := [] },
            [.send .client ((Delivery.upgraded r).write ++ rest), .send .backend s.ahead])
        else unusable
      else
        match Delivery.of? e.plan.manner r with
        | none => unusable
        | some d =>
          let (s, effects) := s.takeResponseBody e (.start d.framing) d rest
          (s, .send .client d.head.write :: effects)
  | .body reader d => s.takeResponseBody e reader d bytes
  | .complete _ => (s, [])

/-- Takes the end of what a backend sends. -/
def takeResponseEnd (e : Exchange) : Result :=
  match e.response with
  | .head _ =>
    let (s, effects) := s.refuse e.plan.manner e.request
    (s, .hangUp :: effects)
  | .body reader d =>
    if reader.mayEnd then
      let (s, effects) := s.settle { e with response := .complete d.manner.keepAlive }
      (s, .send .client d.onward.terminator :: effects)
    else s.leave
  | .complete _ => (s, [])

/-! ### Steps -/

/-- Begins an exchange with a backend that has taken the connection. -/
def begin (plan : Plan) : Result :=
  let invitation : List Effect :=
    if (plan.head.fields.items "expect").any fun item => lowerAscii item = "100-continue" then
      [.send .client (asciiBytes "HTTP/1.1 100 Continue" ++ lineBreak ++ lineBreak)]
    else []
  ({ s with phase := .exchanging { plan, request := bodyReader plan.framing } },
    .send .backend plan.head.write :: invitation)

/-- What a signal does, but for the bytes that it lets have their turn. -/
def react (s : Serving) (signal : Signal) : Result :=
  match s.phase, signal with
  | .closed, _ => (s, [])
  | .piping p, signal =>
    let (p, effects) := p.step signal
    ({ s with phase := .piping p }, effects)
  | _, .received .client bytes => ({ s with ahead := s.ahead ++ bytes }, [])
  -- A client that goes while a request is under way gives the request up.
  | _, .ended .client | _, .failed .client => s.leave
  | .dialing plan, .connected => s.begin plan
  | .dialing plan, .refused => s.refuse plan.manner (bodyReader plan.framing)
  | .exchanging e, .received .backend bytes => s.takeResponse e bytes
  | .exchanging e, .ended .backend | .exchanging e, .failed .backend => s.takeResponseEnd e
  | _, _ => (s, [])

/-- What a signal does. -/
def step (routes : Route.Table) (peer : IpAddress) (s : Serving) (signal : Signal) : Result :=
  let (s, effects) := s.react signal
  let (s, more) := s.proceed routes peer
  (s, effects ++ more)

/-- A connection on which requests are to be served, and of which these bytes have been read. -/
def start (routes : Route.Table) (peer : IpAddress) (ahead : List Byte) : Result :=
  { ahead : Serving }.proceed routes peer

end Serving

end GameGateway.Http
