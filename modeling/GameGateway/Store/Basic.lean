import GameGateway.Disk.Basic
import GameGateway.Record.Format
import GameGateway.Record.Update

/-!
# The store of the document

A **store** keeps the panel's document in memory and, if it has a path, in a file. A change is
written to a temporary file beside it, which then takes the document's place; only then does the
document in memory change. So an operation that fails leaves both as they were.
-/

namespace GameGateway

/-- The cause for which an operation of a store **fails**. -/
inductive StoreError where
  | refused (cause : RecordError)
  | unsupportedVersion (found : UInt32)
  | io (path : Path) (cause : IoError)
  | unreadable (cause : Json.ReadError)
  deriving DecidableEq, Repr

/-- The message of an error. -/
def StoreError.message : StoreError → String
  | refused cause => cause.message
  | unsupportedVersion found =>
    s!"unsupported data version {found} (expected {Panel.currentVersion})"
  | io path cause => s!"failed to access {path}: {cause.message}"
  | unreadable (.mismatch cause) => s!"invalid panel data: {cause.message}"
  | unreadable .malformed => "invalid panel data: malformed JSON"

/-- A **store** of the panel's document. -/
structure Store where
  /-- The document in memory. -/
  panel : Panel
  /-- Where the document is kept. -/
  path : Option Path := none
  disk : Disk := {}

namespace Store

/-- The store that is only in memory and has this document. -/
def ofPanel (panel : Panel) : Store := { panel }

/-! ### Opening -/

/-- The document with a text. -/
def parse (text : String) : Except StoreError Panel :=
  match Json.ofText Panel.read text with
  | .error cause => .error (.unreadable cause)
  | .ok panel =>
    if panel.version = Panel.currentVersion then .ok panel
    else .error (.unsupportedVersion panel.version)

/-- The document that reading a file has yielded; where there is no file, it has no records. -/
def load (path : Path) : Except IoError String → Except StoreError Panel
  | .error .notFound => .ok .empty
  | .error cause => .error (.io path cause)
  | .ok text => parse text

/-- Opens the document at a path. -/
def openAt (disk : Disk) (path : Path) : Except StoreError Store := do
  let panel ← load path (disk.readText path)
  return { panel, path, disk }

/-! ### Changing -/

/-- The text of a document. -/
def text (panel : Panel) : String := panel.toJson.pretty

/-- Where a document is written before it takes its place. -/
def temporary (path : Path) : Path := path.withExtension "tmp"

/-- A call to a disk on behalf of a document. -/
def call (path : Path) (result : Except IoError Unit × Disk)
    (next : Disk → Except StoreError Unit × Disk) : Except StoreError Unit × Disk :=
  match result with
  | (.ok (), disk) => next disk
  | (.error cause, disk) => (.error (.io path cause), disk)

/-- Makes the directory of a document; one that the path does not tell is there. -/
def prepare (disk : Disk) (directory : Path) : Except IoError Unit × Disk :=
  if directory.isEmpty then (.ok (), disk) else disk.createDirectories directory

/-- Writes a document to its path. -/
def write (disk : Disk) (path : Path) (panel : Panel) : Except StoreError Unit × Disk :=
  call path.parent (prepare disk path.parent) fun disk =>
    call (temporary path) (disk.write (temporary path) (text panel).toUTF8) fun disk =>
      call path (disk.rename (temporary path) path) fun disk =>
        (.ok (), disk)

/-- Makes a document the one of the store. -/
def commit {α : Type} (s : Store) (result : α) (panel : Panel) : Except StoreError α × Store :=
  match s.path with
  | none => (.ok result, { s with panel })
  | some path =>
    match write s.disk path panel with
    -- Only what is on the disk is in memory.
    | (.ok (), disk) => (.ok result, { s with panel, disk })
    | (.error cause, disk) => (.error cause, { s with disk })

/-- Makes a change of the document, unless it is refused. -/
def change (s : Store) (result : Except RecordError Panel) : Except StoreError Unit × Store :=
  match result with
  | .error cause => (.error (.refused cause), s)
  | .ok panel => s.commit () panel

/-- Makes a change of the document that takes a record away, unless it is refused. -/
def takeAway {α : Type} (s : Store) (result : Except RecordError (α × Panel)) :
    Except StoreError α × Store :=
  match result with
  | .error cause => (.error (.refused cause), s)
  | .ok (a, panel) => s.commit a panel

/-- Saves a listener. -/
def saveListener (s : Store) (l : Listener) : Except StoreError Unit × Store :=
  s.change (s.panel.saveListener l)

/-- Deletes a listener. -/
def deleteListener (s : Store) (id : ListenerId) : Except StoreError Listener × Store :=
  s.takeAway (s.panel.deleteListener id)

/-- Saves a server. -/
def saveServer (s : Store) (server : Server) : Except StoreError Unit × Store :=
  s.change (s.panel.saveServer server)

/-- Deletes a server and its modules. -/
def deleteServer (s : Store) (id : ServerId) : Except StoreError Server × Store :=
  s.takeAway (s.panel.deleteServer id)

/-- Saves a module. -/
def saveModule (s : Store) (m : Module) : Except StoreError Unit × Store :=
  s.change (s.panel.saveModule m)

/-- Deletes a module. -/
def deleteModule (s : Store) (id : ModuleId) : Except StoreError Module × Store :=
  s.takeAway (s.panel.deleteModule id)

end Store

end GameGateway
