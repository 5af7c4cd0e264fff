import GameGateway.Ident.Id
import GameGateway.Protocol

/-!
# The records of the panel

The panel keeps three sorts of records. A **listener** is a port that servers share: it tells them
apart by the host that a player asks for. A **server** runs in a container and may be reached
through a listener. A **module** is a service beside a server, such as a map or a voice chat, with
ports of its own. `Panel` is the document that holds them all.
-/

namespace GameGateway

/-- Whether a server's container runs. -/
inductive Status where
  | starting
  | running
  | stopping
  | stopped
  deriving DecidableEq, Repr

namespace Status

/-- The name of a status. -/
def name : Status → String
  | .starting => "starting"
  | .running => "running"
  | .stopping => "stopping"
  | .stopped => "stopped"

instance : ToString Status := ⟨name⟩

/-- All statuses, in order. -/
def all : List Status := [.starting, .running, .stopping, .stopped]

/-- A server is **routable** while it starts and while it runs. -/
def isRoutable : Status → Bool
  | .starting | .running => true
  | .stopping | .stopped => false

end Status

/-- A **listener**: a port that servers share. -/
structure Listener where
  id : ListenerId
  port : UInt16
  name : String
  description : String := ""
  enabled : Bool := true
  /-- New servers are given this listener. -/
  isDefault : Bool := false
  deriving DecidableEq, Repr

/-- The port of the game within a container. -/
def defaultGamePort : UInt16 := 25565

/-- A game **server**. -/
structure Server where
  id : ServerId
  name : String
  /-- The container that the server runs in, once there is one. -/
  container : Option String := none
  status : Status := .stopped
  /-- The host under which players reach the server, if it is not generated. -/
  hostname : Option String := none
  /-- The listener through which players reach the server. -/
  listener : Option ListenerId := none
  gamePort : UInt16 := defaultGamePort
  /-- A port of the host that is set aside for the server. -/
  proxyPort : Option UInt16 := none
  deriving DecidableEq, Repr

namespace Server

/-- Whether the server is reached through a listener. -/
def usesListener (s : Server) : Bool :=
  s.listener.isSome

end Server

/-- A port that a module exposes. -/
structure ModulePort where
  listenPort : UInt16
  backendPort : UInt16
  /-- The tag of the protocol. -/
  tag : String
  /-- The host of the port if its protocol has virtual hosts, unless it is the server's. -/
  hostname : Option String := none
  deriving DecidableEq, Repr

/-- The protocol of a module's port, if its tag names one. -/
def ModulePort.protocol? (p : ModulePort) : Option Protocol :=
  Protocol.ofTag? p.tag

/-- A **module**: a service beside a server. -/
structure Module where
  id : ModuleId
  server : ServerId
  name : String
  /-- The container that the module runs in, unless it is the server's. -/
  container : Option String := none
  ports : List ModulePort := []
  deriving DecidableEq, Repr

/-- The container that a module of a server runs in, if there is one. -/
def Module.backendContainer (m : Module) (server : Server) : Option String :=
  m.container <|> server.container

/-- The **document** of the panel: all its records, each sort in the order of creation. -/
structure Panel where
  version : UInt32
  listeners : List Listener := []
  servers : List Server := []
  modules : List Module := []
  deriving DecidableEq, Repr

namespace Panel

/-- The version of documents that are read and written. -/
def currentVersion : UInt32 := 1

/-- The document without records. -/
def empty : Panel := { version := currentVersion }

end Panel

end GameGateway
