import GameGateway.Http.Forward
import GameGateway.Http.Response
import GameGateway.Http.Target
import GameGateway.Route.Table

/-!
# Requests and their responses

What goes to a backend for a client's request, and what goes to the client for the backend's
response. A response reaches the client in the **manner** that its request asks for.
-/

namespace GameGateway.Http

open Wire (Byte)

/-! ### The manner of a response -/

/-- The **manner** in which a client wants its response. -/
structure Manner where
  /-- The digit behind `HTTP/1.`. -/
  minorVersion : Nat := 1
  /-- Whether the connection is to be used for further requests. -/
  keepAlive : Bool := false
  /-- Whether only the head is wanted. -/
  headOnly : Bool := false
  deriving DecidableEq, Repr

namespace Manner

/-- Whether the value of a `connection` has an option. -/
def hasOption (option : String) (value : List Byte) : Bool :=
  (Field.text? value).any fun text => (listItems text).any fun item => lowerAscii item = option

/-- The manner that a request asks for. -/
def ofHead (h : Head) : Manner where
  minorVersion := h.minorVersion
  -- Each value speaks about what those before it have left.
  keepAlive := (h.fields.values "connection").foldl
    (fun keep value => if keep then !hasOption "close" value else hasOption "keep-alive" value)
    (h.minorVersion = 1)
  headOnly := h.method = asciiBytes "HEAD"

/-- The fields that say what becomes of the connection. -/
def connection (m : Manner) (fs : Fields) : Fields :=
  match m.minorVersion, m.keepAlive with
  | 0, true => fs.set "connection" (asciiBytes "keep-alive")
  | 0, false | _ + 1, true => fs
  | _ + 1, false => fs.set "connection" (asciiBytes "close")

/-- A response of the gateway itself: a status, its reason and a text. -/
def ownResponse (m : Manner) (status : Nat) (reason text : String) : List Byte :=
  let head : Response := {
    minorVersion := m.minorVersion
    status
    reason := asciiBytes reason
    fields := m.connection [⟨"content-length", asciiBytes (toString text.length)⟩] }
  head.write ++ if m.headOnly then [] else asciiBytes text

/-- The response when no backend can be asked. -/
def badGateway (m : Manner) : List Byte :=
  m.ownResponse 502 "Bad Gateway" "Bad Gateway"

end Manner

/-! ### What goes to a backend -/

/-- What is to be done for a request. -/
structure Plan where
  route : Route
  /-- The head that the backend gets. -/
  head : Head
  /-- How the client frames the body. -/
  framing : Framing
  /-- How the backend gets it framed, if it gets it. -/
  onward : Option Framing
  upgrade : Bool
  manner : Manner
  deriving DecidableEq, Repr

namespace Plan

/-- The framing of a body that goes on: one of unknown length comes in chunks, and does not come
with a request that by its method has none. -/
def onwardFraming (method : List Byte) : Framing → Option Framing
  | .sized length => some (.sized length)
  | .chunked | .untilEnd =>
    if method ∈ ["GET", "HEAD", "CONNECT"].map asciiBytes then none else some .chunked

/-- The fields for a framing. -/
def framingFields (fs : Fields) : Option Framing → Fields
  | some .chunked =>
    (fs.removeWhere (· = "content-length")).set "transfer-encoding" (asciiBytes "chunked")
  | none | some (.sized _) | some .untilEnd => fs

/-- The plan for a request of a peer, if a route leads to the host that it asks for. -/
def of? (routes : Route.Table) (peer : IpAddress) (h : Head) (framing : Framing) :
    Option Plan := do
  let target := Target.ofBytes h.target
  let host ← h.fields.host? target.authority
  let route ← routes.lookup host
  let onward := onwardFraming h.method framing
  return {
    route
    framing
    onward
    head := { h with
      target := target.path
      fields := framingFields (h.fields.forward host peer) onward }
    upgrade := h.fields.isUpgrade
    manner := .ofHead h }

end Plan

/-! ### What goes to the client -/

/-- A response as a client gets it, and how its body is framed from the backend and to the
client. -/
structure Delivery where
  head : Response
  framing : Framing
  onward : Framing
  manner : Manner
  deriving DecidableEq, Repr

namespace Delivery

/-- Whether a response has no body, whatever its fields tell. -/
def isBodiless (m : Manner) (r : Response) : Bool :=
  m.headOnly || r.status = 204 || r.status = 304

/-- The delivery of a response, if its fields make sense. -/
def of? (m : Manner) (r : Response) : Option Delivery := do
  let framing ← Framing.ofResponse? (isBodiless m r) r.fields
  let fields := r.fields.strip
  let (onward, fields, m) : Framing × Fields × Manner :=
    -- A length that nobody knows beforehand is told in chunks, or else by the connection's end.
    match framing, m.minorVersion with
    | .sized n, _ => (.sized n, fields, m)
    | .chunked, 0 | .untilEnd, 0 =>
      (.untilEnd, fields.removeWhere (· = "content-length"), { m with keepAlive := false })
    | .chunked, _ + 1 | .untilEnd, _ + 1 =>
      (.chunked, Plan.framingFields fields (some .chunked), m)
  return {
    head := { r with minorVersion := m.minorVersion, fields := m.connection fields }
    framing
    onward
    manner := m }

/-- The head of a response that turns the connection over to another protocol. -/
def upgraded (r : Response) : Response :=
  { r with fields := r.fields.stripKeepingUpgrade }

end Delivery

end GameGateway.Http
