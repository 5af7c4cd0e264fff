import GameGateway.Event.Basic
import GameGateway.Record.Format

/-!
# The JSON form of events

An event is an object of its type's name and its **payload**, the object of its fields. An envelope
is an object of its fields in order.
-/

namespace GameGateway

open Json

/-- The JSON form of a resource: its name. -/
def Resource.toJson (r : Resource) : Value := .string r.name

/-- Reads a resource. -/
def Resource.read : Reader Resource :=
  readVariant (Resource.all.map fun r => (r.name, r))

namespace EventId

/-- The JSON form of an event's position. -/
def toJson (e : EventId) : Value := .integer e.value.toInt

/-- Reads an event's position. -/
def read : Reader EventId := fun mode d => (readInt64 mode d).map EventId.mk

end EventId

namespace Event

/-! ### Writing -/

/-- A member that is left out when its value is absent. -/
def presentMember {α : Type} (key : String) (write : α → Value) :
    Option α → List (String × Value)
  | none => []
  | some a => [(key, write a)]

/-- The fields of an event. -/
def payload : Event → List (String × Value)
  | .serverStatusChanged server status =>
    [("server_id", server.toJson), ("status", status.toJson)]
  | .serverUpdated server previousHostname previousListener =>
    ("server_id", server.toJson) ::
      presentMember "previous_hostname" .string previousHostname ++
      presentMember "previous_listener_id" Id.toJson previousListener
  | .serverDeleted server => [("server_id", server.toJson)]
  | .listenerCreated listener port | .listenerDeleted listener port =>
    [("listener_id", listener.toJson), ("port", portToJson port)]
  | .moduleUpdated id server | .moduleDeleted id server =>
    [("module_id", id.toJson), ("server_id", server.toJson)]

/-- The JSON form of an event. -/
def toJson (e : Event) : Value :=
  .object [("event_type", .string e.typeName), ("payload", .object e.payload)]

/-! ### Reading -/

/-- Reads the fields of an event of a variant. -/
def readPayload (fields : Fields Event) (variant : String) : Reader Event :=
  fields.readObject s!"struct variant LifecycleEvent::{variant}"

/-- The fields of an event about a listener's port. -/
def listenerFields (make : ListenerId → UInt16 → Event) : Fields Event :=
  (Fields.of make)
    |>.required "listener_id" (readId .listener)
    |>.required "port" readUInt16

/-- The fields of an event about a server's module. -/
def moduleFields (make : ModuleId → ServerId → Event) : Fields Event :=
  (Fields.of make)
    |>.required "module_id" (readId .module)
    |>.required "server_id" (readId .server)

/-- The types of events, and how to read what they tell. -/
def variants : Variants (Reader Event) :=
  [("server.status_changed",
      readPayload
        ((Fields.of serverStatusChanged)
          |>.required "server_id" (readId .server)
          |>.required "status" Status.read)
        "ServerStatusChanged"),
    ("server.updated",
      readPayload
        ((Fields.of serverUpdated)
          |>.required "server_id" (readId .server)
          |>.optional "previous_hostname" none (readOption readString)
          |>.optional "previous_listener_id" none (readOption (readId .listener)))
        "ServerUpdated"),
    ("server.deleted",
      readPayload ((Fields.of serverDeleted).required "server_id" (readId .server))
        "ServerDeleted"),
    ("listener.created", readPayload (listenerFields listenerCreated) "ListenerCreated"),
    ("listener.deleted", readPayload (listenerFields listenerDeleted) "ListenerDeleted"),
    ("module.updated", readPayload (moduleFields moduleUpdated) "ModuleUpdated"),
    ("module.deleted", readPayload (moduleFields moduleDeleted) "ModuleDeleted")]

/-- How an event is told by its type. -/
def tagged : Tagged Event where
  expected := "adjacently tagged enum LifecycleEvent"
  tag := "event_type"
  content := "payload"
  variants := variants

/-- Reads an event. -/
def read : Reader Event := tagged.read

end Event

namespace Envelope

/-- The JSON form of an envelope. -/
def toJson (e : Envelope) : Value :=
  .object [("event_id", e.id.toJson), ("occurred_at", .ofText e.occurredAt),
    ("aggregate_type", e.resource.toJson), ("aggregate_id", .string e.resourceId),
    ("event_version", .integer e.version.toInt), ("event", e.event.toJson)]

/-- The fields of an envelope. -/
def fields : Fields Envelope :=
  (Fields.of Envelope.mk)
    |>.required "event_id" EventId.read
    |>.required "occurred_at" readTimestamp
    |>.required "aggregate_type" Resource.read
    |>.required "aggregate_id" readString
    |>.required "event_version" readInt32
    |>.required "event" Event.read

/-- Reads an envelope. -/
def read : Reader Envelope := fields.read "EventEnvelope"

end Envelope

end GameGateway
