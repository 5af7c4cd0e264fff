import GameGateway.Container.Inspection
import GameGateway.Gateway.Refresh
import GameGateway.Settings

/-!
# Starting the gateway as a program

The program reads its settings, opens the document and starts the gateway. A setting that is not
valid or a document that cannot be read keeps it from starting; listeners and servers that cannot
be served do not.
-/

namespace GameGateway.Daemon

/-- The cause for which the program does **not start**. -/
inductive StartError where
  | setting (cause : SettingError)
  | document (dataFile : String) (cause : StoreError)
  deriving DecidableEq, Repr

/-- What the program says of an error: what is wrong, not why. -/
def StartError.message : StartError → String
  | setting cause => cause.message
  | document dataFile _ => s!"Failed to open {dataFile}"

/-- The line that the program ends with when it does not start. -/
def StartError.line (e : StartError) : String :=
  "Error: " ++ e.message

/-- The settings in an environment and the gateway that they make, which has not started. -/
def load (env : Settings.Environment) (read : (dataFile : String) → Except IoError String) :
    Except StartError (Settings × Gateway) :=
  match Settings.ofEnvironment env with
  | .error cause => .error (.setting cause)
  | .ok settings =>
    let path := Path.ofText settings.dataFile
    match Store.load path (read settings.dataFile) with
    | .error cause => .error (.document settings.dataFile cause)
    | .ok panel => .ok (settings, .new settings.gateway { panel, path })

/-- Starts a gateway with the settings in an environment. -/
def start (machine : Machine) (env : Settings.Environment)
    (read : (dataFile : String) → Except IoError String) : Except StartError Gateway :=
  match load env read with
  | .error cause => .error cause
  | .ok (_, g) => .ok (g.start machine)

/-! ### What has to be known of the machine -/

/-- The containers that the records of a document name. -/
def containers (panel : Panel) : List String :=
  (panel.servers.filterMap (·.container) ++ panel.modules.filterMap (·.container)).eraseDups

/-- The sockets that the records of a document ask for. -/
def sockets (panel : Panel) : List Socket :=
  let listeners := (panel.listeners.filter (·.enabled)).map fun l => ⟨.tcp, l.port⟩
  let modules := (panel.modules.flatMap (·.ports)).filterMap fun p =>
    p.protocol?.map fun protocol => ⟨protocol.transport, p.listenPort⟩
  (listeners ++ modules).eraseDups

/-- The machine of which this has been found out: what the engine answers about containers, and why
sockets cannot be bound. -/
def machine (answers : List (String × Option Container.Answer))
    (faults : List (Socket × BindFault)) : Machine where
  address container network := Container.engineAddress (answers.lookup container).join network
  bindFault socket := faults.lookup socket

end GameGateway.Daemon
