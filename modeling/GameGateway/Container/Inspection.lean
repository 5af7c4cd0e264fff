import GameGateway.Container.Address
import GameGateway.Json.Reader

/-!
# Asking the engine

The engine that runs the containers tells about each of them in JSON. Of that **inspection** the
container's addresses on its networks are used: on each an IPv4 and an IPv6 address, of which the
first that is there counts. The other parts that an inspection is known to have are not used, but
have to be what they should; what they consist of in turn is looked at for the networks only.
-/

namespace GameGateway.Container

open Json

/-- Reads the members of an object. -/
def readMembers {α : Type} (read : Reader α) : Reader (List (String × α)) := fun mode d =>
  match d with
  | .object members closed => do
    let mode ← mode.enter
    let values ← members.mapM fun (key, d) =>
      match key with
      | none => throw ReadError.malformed
      | some key => return (key, ← read mode d)
    if closed then return values else throw .malformed
  | d => refuse "a map" d

/-- Reads an object that nothing is used of. -/
def readRecord (name : String) : Reader Unit :=
  (Fields.of ()).readObject ("struct " ++ name)

/-! ### Networks -/

/-- The addresses of a container on a network, as the engine writes them. -/
structure Endpoint where
  v4 : Option String
  v6 : Option String
  deriving DecidableEq, Repr

namespace Endpoint

/-- The manual addresses of a network. -/
def readManual : Reader Unit :=
  (((Fields.of ()).checkAll ["IPv4Address", "IPv6Address"] readString).check "LinkLocalIPs"
    (readList readString)).read "EndpointIpamConfig"

/-- Reads the addresses on a network. -/
def read : Reader Endpoint :=
  ((Fields.of Endpoint.mk)
    |>.check "IPAMConfig" readManual
    |>.check "Links" (readList readString)
    |>.check "MacAddress" readString
    |>.check "Aliases" (readList readString)
    |>.checkAll ["NetworkID", "EndpointID", "Gateway"] readString
    |>.optional "IPAddress" none (readOption readString)
    |>.check "IPPrefixLen" readInt64
    |>.check "IPv6Gateway" readString
    |>.optional "GlobalIPv6Address" none (readOption readString)
    |>.check "GlobalIPv6PrefixLen" readInt64
    |>.check "DriverOpts" (readMembers readString)
    |>.check "DNSNames" (readList readString)).read "EndpointSettings"

/-- The address to be used. -/
def text? (e : Endpoint) : Option String :=
  e.v4.filter (fun text => !text.isEmpty) <|> e.v6.filter (fun text => !text.isEmpty)

end Endpoint

/-- The networks of a container. -/
abbrev Networks := List (String × Endpoint)

namespace Networks

/-- Reads an additional address. -/
def readAddress : Reader Unit :=
  (((Fields.of ()).check "Addr" readString).check "PrefixLen" readInt64).read "Address"

/-- Reads where a container's port is bound. -/
def readBinding : Reader Unit :=
  ((Fields.of ()).checkAll ["HostIp", "HostPort"] readString).read "PortBinding"

/-- Reads the networks of a container from what its settings tell about them. -/
def read : Reader (Option Networks) :=
  ((Fields.of id)
    |>.checkAll ["Bridge", "SandboxID"] readString
    |>.check "HairpinMode" readBool
    |>.check "LinkLocalIPv6Address" readString
    |>.check "LinkLocalIPv6PrefixLen" readInt64
    |>.check "Ports" (readMembers (readOption (readList readBinding)))
    |>.check "SandboxKey" readString
    |>.checkAll ["SecondaryIPAddresses", "SecondaryIPv6Addresses"] (readList readAddress)
    |>.checkAll ["EndpointID", "Gateway", "GlobalIPv6Address"] readString
    |>.check "GlobalIPv6PrefixLen" readInt64
    |>.check "IPAddress" readString
    |>.check "IPPrefixLen" readInt64
    |>.checkAll ["IPv6Gateway", "MacAddress"] readString
    |>.optional "Networks" none (readOption (readMembers Endpoint.read))).read "NetworkSettings"

end Networks

/-! ### Inspections -/

/-- The states of a container. -/
def stateNames : List String :=
  ["", "created", "running", "paused", "restarting", "removing", "exited", "dead"]

/-- Reads the state of a container. -/
def readState : Reader Unit :=
  ((Fields.of ())
    |>.check "Status" (readVariant (stateNames.map fun name => (name, ())))
    |>.checkAll ["Running", "Paused", "Restarting", "OOMKilled", "Dead"] readBool
    |>.checkAll ["Pid", "ExitCode"] readInt64
    |>.checkAll ["Error", "StartedAt", "FinishedAt"] readString
    |>.check "Health" (readRecord "Health")).read "ContainerState"

/-- Reads what keeps the files of a container. -/
def readDriver : Reader Unit :=
  ((Fields.of fun _ _ => ())
    |>.required "Name" readString
    |>.required "Data" (readMembers readString)).read "DriverData"

/-- Reads the networks of a container from an inspection. -/
def readNetworks : Reader (Option Networks) :=
  ((Fields.of Option.join)
    |>.checkAll ["Id", "Created", "Path"] readString
    |>.check "Args" (readList readString)
    |>.check "State" readState
    |>.checkAll ["Image", "ResolvConfPath", "HostnamePath", "HostsPath", "LogPath", "Name"]
      readString
    |>.check "RestartCount" readInt64
    |>.checkAll ["Driver", "Platform", "MountLabel", "ProcessLabel", "AppArmorProfile"] readString
    |>.check "ExecIDs" (readList readString)
    |>.check "HostConfig" (readRecord "HostConfig")
    |>.check "GraphDriver" readDriver
    |>.checkAll ["SizeRw", "SizeRootFs"] readInt64
    |>.check "Mounts" (readList (readRecord "MountPoint"))
    |>.check "Config" (readRecord "ContainerConfig")
    |>.optional "NetworkSettings" none (readOption Networks.read)).read "ContainerInspectResponse"

/-! ### Answers -/

/-- What the engine answers. -/
structure Answer where
  status : Nat
  body : String
  deriving DecidableEq, Repr

namespace Answer

/-- The message of an answer that is an error. -/
def errorMessage (a : Answer) : String :=
  match Json.ofText (((Fields.of id).required "message" readString).read "Error") a.body with
  | .ok message => message
  | .error _ => a.body

/-- The address on a network that the engine's answer tells. -/
def address (a : Answer) (network : String) : Except AddressError IpAddress := do
  if 400 ≤ a.status then
    throw (.refused a.status a.errorMessage)
  match Json.ofText readNetworks a.body with
  | .error cause => throw (.unreadable cause)
  | .ok networks =>
    match (networks.getD []).reverse.lookup network with
    | none => throw .notOnNetwork
    | some endpoint =>
      match endpoint.text? with
      | none => throw .noAddress
      | some text =>
        match IpAddress.parse? text with
        | some address => return address
        | none => throw (.badAddress text)

end Answer

/-- The address of a container on a network by what the engine answers, if it does. -/
def engineAddress (answer : Option Answer) (network : String) : Except AddressError IpAddress :=
  match answer with
  | none => .error .unreachable
  | some answer => answer.address network

end GameGateway.Container
