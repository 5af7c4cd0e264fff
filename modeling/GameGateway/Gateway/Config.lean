import GameGateway.Hostname
import GameGateway.Net.IpAddress

/-!
# What a gateway is configured with
-/

namespace GameGateway

/-- A range of ports, both ends included. -/
structure PortRange where
  first : UInt16 := 30000
  last : UInt16 := 30999
  deriving DecidableEq, Repr

namespace PortRange

/-- The ports of a range, in order. -/
def ports (range : PortRange) : List UInt16 :=
  (List.range (range.last.toNat + 1 - range.first.toNat)).map
    fun i => UInt16.ofNat (range.first.toNat + i)

end PortRange

/-- The **configuration** of a gateway. -/
structure Gateway.Config where
  /-- The address that its ports are bound on. -/
  bindHost : IpAddress := .any
  /-- The network of the containers. -/
  network : String := "cairn"
  /-- The ports that are set aside for servers. -/
  ports : PortRange := {}
  hostnames : HostnamePolicy := {}
  timeouts : Timeouts := {}
  deriving DecidableEq, Repr

end GameGateway
