import GameGateway.Record.Basic

/-!
# Changing the document

The six changes of the panel's document, each of which fails where it would break what the records
say of each other: listeners have different ports, a server's listener exists, and so does a
module's server. A record that is saved takes the place of the one with its identifier, or comes
last.
-/

namespace GameGateway

/-- The cause for which a change of the document is **refused**. -/
inductive RecordError where
  | listenerInUse (listener : ListenerId) (servers : List ServerId)
  | duplicatePort (port : UInt16) (existing : ListenerId)
  | listenerNotFound (listener : ListenerId)
  | serverNotFound (server : ServerId)
  | moduleNotFound (id : ModuleId)
  deriving DecidableEq, Repr

/-- The message of an error. -/
def RecordError.message : RecordError → String
  | listenerInUse listener servers =>
    s!"listener {listener} is still used by {servers.length} server(s)"
  | duplicatePort port existing => s!"listener port {port} is already taken by {existing}"
  | listenerNotFound listener => s!"listener {listener} not found"
  | serverNotFound server => s!"server {server} not found"
  | moduleNotFound id => s!"module {id} not found"

/-- The list with an item in place of the first one that has its key, or else behind the others. -/
def upsert {α κ : Type} [DecidableEq κ] (key : α → κ) (item : α) : List α → List α
  | [] => [item]
  | a :: rest => if key a = key item then item :: rest else a :: upsert key item rest

namespace Panel

/-! ### Looking records up -/

/-- The listener with an identifier. -/
def listener? (p : Panel) (id : ListenerId) : Option Listener :=
  p.listeners.find? (·.id = id)

/-- The server with an identifier. -/
def server? (p : Panel) (id : ServerId) : Option Server :=
  p.servers.find? (·.id = id)

/-- The module with an identifier. -/
def module? (p : Panel) (id : ModuleId) : Option Module :=
  p.modules.find? (·.id = id)

/-- The modules of a server. -/
def modulesOf (p : Panel) (server : ServerId) : List Module :=
  p.modules.filter (·.server = server)

/-- The servers that are reached through a listener. -/
def usersOf (p : Panel) (listener : ListenerId) : List ServerId :=
  (p.servers.filter (·.listener = some listener)).map (·.id)

/-! ### Changes -/

/-- Saves a listener. If it is the default one, no other is any more. -/
def saveListener (p : Panel) (l : Listener) : Except RecordError Panel :=
  match p.listeners.find? fun other => other.port = l.port && other.id ≠ l.id with
  | some other => .error (.duplicatePort l.port other.id)
  | none =>
    let others :=
      if l.isDefault then p.listeners.map fun other => { other with isDefault := false }
      else p.listeners
    .ok { p with listeners := upsert (·.id) l others }

/-- Deletes a listener that no server is reached through. -/
def deleteListener (p : Panel) (id : ListenerId) : Except RecordError (Listener × Panel) :=
  match p.usersOf id, p.listener? id with
  | server :: servers, _ => .error (.listenerInUse id (server :: servers))
  | [], none => .error (.listenerNotFound id)
  | [], some l => .ok (l, { p with listeners := p.listeners.eraseP (·.id = id) })

/-- Saves a server, whose listener must exist. -/
def saveServer (p : Panel) (s : Server) : Except RecordError Panel :=
  match s.listener.filter fun id => (p.listener? id).isNone with
  | some id => .error (.listenerNotFound id)
  | none => .ok { p with servers := upsert (·.id) s p.servers }

/-- Deletes a server and its modules. -/
def deleteServer (p : Panel) (id : ServerId) : Except RecordError (Server × Panel) :=
  match p.server? id with
  | none => .error (.serverNotFound id)
  | some s =>
    .ok (s, { p with
      servers := p.servers.eraseP (·.id = id)
      modules := p.modules.filter (·.server ≠ id) })

/-- Saves a module, whose server must exist. -/
def saveModule (p : Panel) (m : Module) : Except RecordError Panel :=
  match p.server? m.server with
  | none => .error (.serverNotFound m.server)
  | some _ => .ok { p with modules := upsert (·.id) m p.modules }

/-- Deletes a module. -/
def deleteModule (p : Panel) (id : ModuleId) : Except RecordError (Module × Panel) :=
  match p.module? id with
  | none => .error (.moduleNotFound id)
  | some m => .ok (m, { p with modules := p.modules.eraseP (·.id = id) })

end Panel

end GameGateway
