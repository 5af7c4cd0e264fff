import GameGateway.Decimal.Parse
import GameGateway.Gateway.Config

/-!
# Settings

The gateway takes its **settings** from the variables of its environment. One that is not set has a
default; one that is set must be valid, and `Settings.ofEnvironment` tells the first that is not.
-/

namespace GameGateway

/-- The **settings** of the gateway. -/
structure Settings where
  /-- The file that holds the records of the panel. -/
  dataFile : String := "./data/panel.json"
  network : String := "cairn"
  ports : PortRange := {}
  baseDomain : Option String := none
  suffix : String := "local"
  bindHost : IpAddress := .any
  /-- The seconds between two refreshes of the routes, if these are refreshed. -/
  refreshSeconds : Option Nat := some 300
  logLevel : String := "info"
  deriving DecidableEq, Repr

/-- The cause for which settings are **not valid**. -/
inductive SettingError where
  | number (variableName : String) (cause : Decimal.NumberError)
  | address (variableName : String)
  | emptyRange (range : PortRange)
  deriving DecidableEq, Repr

namespace SettingError

/-- What is wrong. -/
def message : SettingError → String
  | number name _ | address name => s!"{name} has an invalid value"
  | emptyRange range =>
    s!"CAIRN_PROXY_PORT_MIN ({range.first}) must not exceed CAIRN_PROXY_PORT_MAX ({range.last})"

/-- Why it is wrong, where there is more to say. -/
def reason : SettingError → Option String
  | number _ cause => some cause.message
  | address _ => some IpAddress.parseMessage
  | emptyRange _ => none

/-- What is wrong and why. -/
def fullMessage (e : SettingError) : String :=
  match e.reason with
  | none => e.message
  | some reason => s!"{e.message}: {reason}"

end SettingError

namespace Settings

/-- The variables of an environment: the value of each one that is set. -/
abbrev Environment := String → Option String

/-- The number below a bound in a variable. -/
def numberBelow (bound : Nat) (env : Environment) (name : String) (default : Nat) :
    Except SettingError Nat :=
  match env name with
  | none => .ok default
  | some text =>
    match Decimal.parseBelow bound (trimBlank text) with
    | .ok n => .ok n
    | .error cause => .error (.number name cause)

/-- The port in a variable. -/
def port (env : Environment) (name : String) (default : UInt16) : Except SettingError UInt16 := do
  return UInt16.ofNat (← numberBelow UInt16.size env name default.toNat)

/-- The address in a variable. -/
def address (env : Environment) (name : String) (default : IpAddress) :
    Except SettingError IpAddress :=
  match env name with
  | none => .ok default
  | some text =>
    match IpAddress.parse? (trimBlank text) with
    | some address => .ok address
    | none => .error (.address name)

/-- A domain as it is kept: in lower case, without blanks and then without dots around it. -/
def domain? (text : String) : Option String :=
  -- Blanks go first, so a blank behind a dot stays.
  let isDot : Char → Bool := (· = '.')
  let chars := Text.dropEndWhile isDot ((Text.trim text.toList).dropWhile isDot)
  if chars.isEmpty then none else some (lowerAscii (String.ofList chars))

/-- The names of the variables. -/
def variableNames : List String :=
  ["CAIRN_DATA_FILE", "CAIRN_DOCKER_NETWORK", "CAIRN_PROXY_PORT_MIN", "CAIRN_PROXY_PORT_MAX",
    "CAIRN_BASE_DOMAIN", "CAIRN_HOSTNAME_SUFFIX", "CAIRN_BIND_HOST", "CAIRN_REFRESH_INTERVAL_SECS",
    "CAIRN_LOG_LEVEL"]

/-- The settings in an environment. -/
def ofEnvironment (env : Environment) : Except SettingError Settings := do
  let defaults : Settings := {}
  let first ← port env "CAIRN_PROXY_PORT_MIN" defaults.ports.first
  let last ← port env "CAIRN_PROXY_PORT_MAX" defaults.ports.last
  if last < first then
    throw (.emptyRange ⟨first, last⟩)
  let bindHost ← address env "CAIRN_BIND_HOST" defaults.bindHost
  let seconds ← numberBelow UInt64.size env "CAIRN_REFRESH_INTERVAL_SECS" 300
  return {
    dataFile := (env "CAIRN_DATA_FILE").getD defaults.dataFile
    network := (env "CAIRN_DOCKER_NETWORK").getD defaults.network
    ports := ⟨first, last⟩
    baseDomain := (env "CAIRN_BASE_DOMAIN").bind domain?
    suffix := (env "CAIRN_HOSTNAME_SUFFIX").getD defaults.suffix
    bindHost := bindHost
    refreshSeconds := if seconds = 0 then none else some seconds
    logLevel := (env "CAIRN_LOG_LEVEL").getD defaults.logLevel }

/-- The configuration of the gateway. -/
def gateway (s : Settings) : Gateway.Config where
  bindHost := s.bindHost
  network := s.network
  ports := s.ports
  hostnames := { baseDomain := s.baseDomain, suffix := s.suffix }
  timeouts := {}

end Settings

end GameGateway
