import GameGateway.Json.Reader
import GameGateway.Json.Value
import GameGateway.Record.Basic

/-!
# The JSON form of records

Each record is an object of its fields in order; reading also takes an array of them, and gives
absent fields their defaults.
-/

namespace GameGateway

open Json

/-! ### Protocols and statuses -/

/-- The JSON form of a protocol: its name. -/
def Protocol.toJson (p : Protocol) : Value := .string p.name

/-- Reads a protocol. -/
def Protocol.read : Reader Protocol :=
  readVariant (Protocol.all.map fun p => (p.name, p))

/-- The JSON form of a status: its name. -/
def Status.toJson (s : Status) : Value := .string s.name

/-- Reads a status. -/
def Status.read : Reader Status :=
  readVariant (Status.all.map fun s => (s.name, s))

/-- The JSON form of an identifier: its text. -/
def Id.toJson {r : Resource} (id : Id r) : Value := .string id.toString

/-- The JSON form of a port. -/
def portToJson (port : UInt16) : Value := .integer port.toNat

/-! ### Records -/

namespace Listener

/-- The JSON form of a listener. -/
def toJson (l : Listener) : Value :=
  .object [("id", l.id.toJson), ("port", portToJson l.port), ("name", .string l.name),
    ("description", .string l.description), ("enabled", .bool l.enabled),
    ("is_default", .bool l.isDefault)]

/-- The fields of a listener. -/
def fields : Fields Listener :=
  (Fields.of Listener.mk)
    |>.required "id" (readId .listener)
    |>.required "port" readUInt16
    |>.required "name" readString
    |>.optional "description" "" readString
    |>.optional "enabled" true readBool
    |>.optional "is_default" false readBool

/-- Reads a listener. -/
def read : Reader Listener := fields.read "ListenerRecord"

end Listener

namespace Server

/-- The JSON form of a server. -/
def toJson (s : Server) : Value :=
  .object [("id", s.id.toJson), ("name", .string s.name),
    ("container_id", .ofOption .string s.container), ("status", s.status.toJson),
    ("hostname", .ofOption .string s.hostname), ("listener_id", .ofOption Id.toJson s.listener),
    ("game_port", portToJson s.gamePort), ("proxy_port", .ofOption portToJson s.proxyPort)]

/-- The fields of a server. -/
def fields : Fields Server :=
  (Fields.of Server.mk)
    |>.required "id" (readId .server)
    |>.required "name" readString
    |>.optional "container_id" none (readOption readString)
    |>.optional "status" .stopped Status.read
    |>.optional "hostname" none (readOption readString)
    |>.optional "listener_id" none (readOption (readId .listener))
    |>.optional "game_port" defaultGamePort readUInt16
    |>.optional "proxy_port" none (readOption readUInt16)

/-- Reads a server. -/
def read : Reader Server := fields.read "ServerRecord"

end Server

namespace ModulePort

/-- The JSON form of a module's port. -/
def toJson (p : ModulePort) : Value :=
  .object [("listen_port", portToJson p.listenPort), ("backend_port", portToJson p.backendPort),
    ("protocol", .string p.tag), ("hostname", .ofOption .string p.hostname)]

/-- The fields of a module's port. -/
def fields : Fields ModulePort :=
  (Fields.of ModulePort.mk)
    |>.required "listen_port" readUInt16
    |>.required "backend_port" readUInt16
    |>.required "protocol" readString
    |>.optional "hostname" none (readOption readString)

/-- Reads a module's port. -/
def read : Reader ModulePort := fields.read "ModulePort"

end ModulePort

namespace Module

/-- The JSON form of a module. -/
def toJson (m : Module) : Value :=
  .object [("id", m.id.toJson), ("server_id", m.server.toJson), ("name", .string m.name),
    ("container_id", .ofOption .string m.container),
    ("ports", .array (m.ports.map ModulePort.toJson))]

/-- The fields of a module. -/
def fields : Fields Module :=
  (Fields.of Module.mk)
    |>.required "id" (readId .module)
    |>.required "server_id" (readId .server)
    |>.required "name" readString
    |>.optional "container_id" none (readOption readString)
    |>.optional "ports" [] (readList ModulePort.read)

/-- Reads a module. -/
def read : Reader Module := fields.read "ModuleRecord"

end Module

namespace Panel

/-- The JSON form of a document. -/
def toJson (p : Panel) : Value :=
  .object [("version", .integer p.version.toNat),
    ("listeners", .array (p.listeners.map Listener.toJson)),
    ("servers", .array (p.servers.map Server.toJson)),
    ("modules", .array (p.modules.map Module.toJson))]

/-- The fields of a document. -/
def fields : Fields Panel :=
  (Fields.of Panel.mk)
    |>.required "version" readUInt32
    |>.optional "listeners" [] (readList Listener.read)
    |>.optional "servers" [] (readList Server.read)
    |>.optional "modules" [] (readList Module.read)

/-- Reads a document. -/
def read : Reader Panel := fields.read "PanelData"

end Panel

end GameGateway
