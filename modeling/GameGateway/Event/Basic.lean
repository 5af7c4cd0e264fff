import GameGateway.Record.Basic
import GameGateway.Time.Timestamp

/-!
# Lifecycle events

A **lifecycle event** tells that a record of the panel has been created, changed or deleted. It
names the record and, where the record may be gone, what the record said. An **envelope** adds the
event's position in the stream and the version of its form.
-/

namespace GameGateway

/-- The name of a resource. -/
def Resource.name : Resource → String
  | .server => "server"
  | .listener => "listener"
  | .module => "module"

/-- All resources, in order. -/
def Resource.all : List Resource := [.server, .listener, .module]

/-- A **lifecycle event** of a record. -/
inductive Event where
  | serverStatusChanged (server : ServerId) (status : Status)
  /-- A server's record was changed; the host and the listener that it was reached by, if these
  were others. -/
  | serverUpdated (server : ServerId) (previousHostname : Option String)
      (previousListener : Option ListenerId)
  | serverDeleted (server : ServerId)
  | listenerCreated (listener : ListenerId) (port : UInt16)
  | listenerDeleted (listener : ListenerId) (port : UInt16)
  | moduleUpdated (id : ModuleId) (server : ServerId)
  | moduleDeleted (id : ModuleId) (server : ServerId)
  deriving DecidableEq, Repr

namespace Event

/-- The name of an event's type. -/
def typeName : Event → String
  | .serverStatusChanged .. => "server.status_changed"
  | .serverUpdated .. => "server.updated"
  | .serverDeleted .. => "server.deleted"
  | .listenerCreated .. => "listener.created"
  | .listenerDeleted .. => "listener.deleted"
  | .moduleUpdated .. => "module.updated"
  | .moduleDeleted .. => "module.deleted"

/-- What the event is about. -/
def resource : Event → Resource
  | .serverStatusChanged .. | .serverUpdated .. | .serverDeleted .. => .server
  | .listenerCreated .. | .listenerDeleted .. => .listener
  | .moduleUpdated .. | .moduleDeleted .. => .module

/-- The text of the identifier of what the event is about. -/
def resourceId : Event → String
  | .serverStatusChanged server _ | .serverUpdated server _ _ | .serverDeleted server =>
    server.toString
  | .listenerCreated listener _ | .listenerDeleted listener _ => listener.toString
  | .moduleUpdated id _ | .moduleDeleted id _ => id.toString

end Event

/-- An event in the stream of events. -/
structure Envelope where
  /-- The event's position in the stream. -/
  id : EventId
  occurredAt : Time.Timestamp
  resource : Resource
  resourceId : String
  /-- The version of the event's form. -/
  version : Int32
  event : Event
  deriving DecidableEq, Repr

namespace Envelope

/-- The version of the events that are understood. -/
def currentVersion : Int32 := 1

/-- The envelope of an event. -/
def of (id : EventId) (occurredAt : Time.Timestamp) (event : Event) : Envelope where
  id := id
  occurredAt := occurredAt
  resource := event.resource
  resourceId := event.resourceId
  version := currentVersion
  event := event

/-- Whether the event is of a version that is understood. -/
def isSupported (e : Envelope) : Bool :=
  e.version == currentVersion

/-- The message for an event that is not understood. -/
def unsupportedMessage (e : Envelope) : String :=
  s!"unsupported event version: {e.event.typeName} v{e.version.toInt}"

end Envelope

end GameGateway
