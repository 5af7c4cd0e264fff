import GameGateway.Http.Field

/-!
# What a request asks for

A request asks for a host, and may ask to leave HTTP for WebSocket on its connection. The head that
opens a connection is judged by the last line of each name, a later one by the first line with a
host and by every line with an upgrade.
-/

namespace GameGateway.Http

open Wire (Byte)

/-- Whether the value of an upgrade names WebSocket. -/
def namesWebsocket (value : List Byte) : Bool :=
  (Field.utf8? value).any fun text =>
    (listItems text).any fun item => lowerAscii item = "websocket"

/-- What the head that opens a connection **asks for**. -/
structure Wish where
  host : Option String
  websocket : Bool
  deriving DecidableEq, Repr

namespace Fields

variable (fs : Fields)

/-- What the fields ask for when they open a connection. -/
def wish : Wish where
  host := (fs.lastValue? "host").bind Field.utf8?
  websocket := (fs.lastValue? "upgrade").any namesWebsocket

/-- Whether the fields of a later request ask for WebSocket. -/
def isUpgrade : Bool :=
  (fs.values "upgrade").any namesWebsocket

/-- The host that a later request asks for; `authority` is that of its target. -/
def host? (authority : Option String) : Option String :=
  (fs.value? "host").bind Field.text? <|> authority

end Fields

end GameGateway.Http
