import GameGateway.Http.Request
import GameGateway.Net.IpAddress

/-!
# What is forwarded

Some fields of a message are about the connection it came on: eight of them always, and those that
its `connection` lists. They are stripped before the message goes on, but an upgrade that is to be
passed on is put back. A request tells its backend the host that was asked for and the chain of
peers that it has come through.
-/

namespace GameGateway.Http

open Wire (Byte)

/-- The fields that are always about one **hop**. -/
def hopByHop : List String :=
  ["connection", "keep-alive", "proxy-authenticate", "proxy-authorization", "te", "trailer",
    "transfer-encoding", "upgrade"]

namespace Fields

variable (fs : Fields)

/-- The names that the fields list as being about this hop. -/
def listed : List String :=
  (fs.items "connection").map lowerAscii

/-- Whether a name is about this hop. -/
def isHop (name : String) : Bool :=
  name ∈ hopByHop || name ∈ fs.listed

/-- The fields that are not about this hop. -/
def strip : Fields :=
  fs.removeWhere fs.isHop

/-- The fields that are not about this hop, and the upgrade that they ask for. -/
def stripKeepingUpgrade : Fields :=
  match fs.value? "upgrade" with
  | none => fs.strip
  | some upgrade => (fs.strip.set "upgrade" upgrade).set "connection" (asciiBytes "upgrade")

/-- Adds a peer to the chain of those that a request has come through. -/
def appendForwardedFor (peer : IpAddress) : Fields :=
  let chain :=
    match (fs.value? "x-forwarded-for").bind Field.text? with
    | some prior => s!"{prior}, {peer}"
    | none => toString peer
  fs.set "x-forwarded-for" (asciiBytes chain)

/-- The fields that a request from a peer for a host goes on with. -/
def forward (host : String) (peer : IpAddress) : Fields :=
  -- The backend is to see the host that was asked for, not its own address.
  let kept := if fs.isUpgrade then fs.stripKeepingUpgrade else fs.strip
  ((kept.set "host" (asciiBytes host)).set "x-forwarded-host" (asciiBytes host)).appendForwardedFor
    peer

end Fields

end GameGateway.Http
