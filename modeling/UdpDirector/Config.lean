import UdpDirector.Foundation.Table
import UdpDirector.Clock

/-!
The configuration read by the query server and the data proxy (`config.rs`,
`load_balancer.rs`), with the ports it yields.

* `Config` and its parts, each with the fields the modelled functions read;
* `Config.getDataPorts`: the configured ports, with the fallbacks for a single
  port and for none.
-/

namespace UdpDirector

/-- The protocol of a data port. -/
inductive Protocol where
  | udp
  | tcp
  deriving DecidableEq, Repr

/-- The text of a protocol. -/
def Protocol.text : Protocol → String
  | .udp => "udp"
  | .tcp => "tcp"

/-- One data port of the director. -/
structure DataPortConfig where
  port : UInt16
  protocol : Protocol
  name : String
  deriving DecidableEq, Repr

/-- The optional capacity signal for maps without eligible Pods. -/
structure CapacityDemandConfig where
  endpoint : String
  backendGroups : Table String String
  bootTimeoutSeconds : ℕ

/-- A path into a resource together with the accepted values. -/
structure StatusQuery where
  jsonPath : String
  expectedValues : List String

/-- The resources the director serves. -/
structure DefaultEndpoint where
  resourceType : String
  namespaceName : String
  labelSelector : Option (Table String String) := none
  annotationSelector : Option (Table String String) := none
  statusQuery : Option StatusQuery := none

/-- One named port of a multi-port mapping. -/
structure PortMapping where
  name : String
  portName : Option String := none
  portPath : Option String := none

/-- How a resource type is listed and where its address and ports stand. -/
structure ResourceMapping where
  group : String
  resource : String
  serviceSelectorLabel : Option String := none
  serviceTargetPortName : Option String := none
  addressPath : Option String := none
  addressType : Option String := none
  portPath : Option String := none
  portName : Option String := none
  ports : Option (List PortMapping) := none

/-- How the data proxy chooses among the backends of the default endpoint. -/
inductive LoadBalancingStrategy where
  | leastSessions
  | labelArithmetic (currentLabel maxLabel : String) (overlap : ℤ)
  deriving DecidableEq, Repr

/-- The configuration of one director. -/
structure Config where
  mapLabel : String := "map"
  maxCharactersPerServer : ℕ := 128
  characterLabelPrefix : String := "characters.udp-director.io"
  disconnectAnnotation : String := "udp-director.io/disconnected-at"
  capacityDemand : Option CapacityDemandConfig := none
  dataPort : Option UInt16 := none
  dataPorts : Option (List DataPortConfig) := none
  defaultEndpoint : DefaultEndpoint
  sessionTimeoutSeconds : ℕ
  resourceQueryMapping : Table String ResourceMapping
  loadBalancing : Option LoadBalancingStrategy := none

namespace Config

/-- `Config::get_data_ports`. -/
def getDataPorts (config : Config) : List DataPortConfig :=
  match config.dataPorts with
  | some ports => ports
  | none =>
      match config.dataPort with
      | some port => [{ port, protocol := .udp, name := "default" }]
      | none => [{ port := 7777, protocol := .udp, name := "default" }]

/-- `Config::get_load_balancing`. -/
def getLoadBalancing (config : Config) : LoadBalancingStrategy :=
  config.loadBalancing.getD .leastSessions

/-- The label under which the character `id` is assigned to a Pod. -/
def characterKey (config : Config) (id : String) : String :=
  config.characterLabelPrefix ++ "/" ++ id

lemma characterKey_inj {config : Config} {i j : String}
    (h : config.characterKey i = config.characterKey j) : i = j := by
  simp only [characterKey, ← String.toList_inj, String.toList_append] at h
  exact String.toList_inj.mp (List.append_cancel_left h)

end Config

end UdpDirector
