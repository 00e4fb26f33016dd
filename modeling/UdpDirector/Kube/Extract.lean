import UdpDirector.Kube.Object

/-!
Addresses and ports read out of a resource, and the Service lookup of the
service-based mapping (`k8s_client.rs`).

* `extractAddress`: the string at a path, or the entry of an addresses array
  with the configured type;
* `extractPort`, `extractPorts`: a port by name in `status.ports` or in the
  container ports, or the number at a path;
* `findServiceForResource`: the cluster IP and named port of the Service whose
  label names the resource.
-/

namespace UdpDirector

/-! ### Addresses -/

/-- The address of an entry of an addresses array, if the entry has the type. -/
def typedAddress (addrType : String) (entry : Json) : Option String :=
  if (entry.field "type").bind Json.asString = some addrType then
    (entry.field "address").bind Json.asString
  else
    none

/-- `K8sClient::extract_address`. -/
def extractAddress (resource : DynamicObject) (addressPath : String) (addressType : Option String) :
    Except Fault String := do
  let some value ← extractJsonPath resource.toValue addressPath
    | .error (.error ("Failed to extract address from path: " ++ addressPath))
  match addressType with
  | some addrType =>
      match value.asArray with
      | some addresses =>
          match addresses.findSome? (typedAddress addrType) with
          | some address => return address
          | none =>
              .error (.error ("No address found with type '" ++ addrType ++ "' in addresses array"))
      | none =>
          .error (.error
            ("Address path did not resolve to array when addressType is specified: " ++ addressPath))
  | none =>
      match value.asString with
      | some s => return s
      | none => .error (.error ("Address path did not resolve to a string: " ++ addressPath))

/-- Where the address of one resource panics, no resource has an address. -/
lemma extractAddress_ne_ok {resource resource' : DynamicObject} {addressPath address : String}
    {addressType : Option String}
    (h : extractAddress resource addressPath addressType = .error .panic) :
    extractAddress resource' addressPath addressType ≠ .ok address := by
  intro h'
  obtain ⟨found', hfound', h'⟩ := Except.exists_of_bind_eq_ok h'
  cases found' with
  | none => cases h'
  | some value =>
      -- the path is the only step that can panic
      have hpath : ∃ fault, extractJsonPath resource.toValue addressPath = .error fault := by
        rw [extractAddress] at h
        cases hfound : extractJsonPath resource.toValue addressPath with
        | error fault => exact ⟨fault, rfl⟩
        | ok found =>
            rw [hfound] at h
            simp only [bind, Except.bind] at h
            cases found with
            | none => cases h
            | some value =>
                cases addressType with
                | none =>
                    dsimp only at h
                    split at h <;> cases h
                | some addrType =>
                    dsimp only at h
                    split at h
                    · split at h <;> cases h
                    · cases h
      obtain ⟨fault, hpath⟩ := hpath
      exact followPath_ne_ok hpath hfound'

/-! ### Ports -/

/-- A port number, refused outside `u16`. -/
def portNumber (n : Number) : Except Fault UInt16 :=
  match n.asU64 with
  | some k =>
      if k < 2 ^ 16 then .ok (UInt16.ofNat k) else .error (.error "Port number out of range")
  | none => .error (.error "Port number out of range")

/-- The number of a port entry under `numberField`, if the entry has the name. -/
def namedPort (name numberField : String) (port : Json) : Option Number :=
  if (port.field "name").bind Json.asString = some name then
    (port.field numberField).bind Json.asNumber
  else
    none

/-- The first entry of `status.ports` with the name. -/
def statusPort (name : String) (resource : Json) : Option Number := do
  let status ← resource.field "status"
  let ports ← (← status.field "ports").asArray
  ports.findSome? (namedPort name "port")

/-- The first container port with the name. -/
def containerPort (name : String) (resource : Json) : Option Number := do
  let spec ← resource.field "spec"
  let containers ← (← spec.field "containers").asArray
  containers.findSome? fun container => do
    let ports ← (← container.field "ports").asArray
    ports.findSome? (namedPort name "containerPort")

/-- `K8sClient::extract_port`. -/
def extractPort (resource : DynamicObject) (portPath portName : Option String) :
    Except Fault UInt16 :=
  match portName with
  | some name =>
      match statusPort name resource.toValue <|> containerPort name resource.toValue with
      | some n => portNumber n
      | none => .error (.error ("Port with name '" ++ name ++ "' not found in resource"))
  | none =>
      match portPath with
      | some path => do
          let some value ← extractJsonPath resource.toValue path
            | .error (.error ("Failed to extract port from path: " ++ path))
          match value.asNumber with
          | some n => portNumber n
          | none => .error (.error ("Port path did not resolve to a number: " ++ path))
      | none => .error (.error "Either port_path or port_name must be provided")

/-- `K8sClient::extract_ports`, from the ports extracted so far. -/
def extractPorts (resource : DynamicObject) :
    List PortMapping → Table String UInt16 → Except Fault (Table String UInt16)
  | [], ports => .ok ports
  | mapping :: mappings, ports => do
      let port ← extractPort resource mapping.portPath mapping.portName
      extractPorts resource mappings (ports.insert mapping.name port)

/-! ### Services -/

/-- A port of a Service; the number is an `i32`. -/
structure ServicePort where
  name : Option String
  port : ℤ

/-- The specification of a Service. -/
structure ServiceSpec where
  clusterIp : Option String
  ports : Option (List ServicePort)

/-- A Service, with the fields the director reads. -/
structure Service where
  labels : Option (Table String String)
  spec : Option ServiceSpec

/-- The address and port a Service offers for a resource, if its label names the
resource and it has the named port. -/
def serviceTarget (resourceName selectorLabel portName : String) (service : Service) :
    Option (String × UInt16) := do
  let labels ← service.labels
  if labels.lookup selectorLabel = some resourceName then
    let spec ← service.spec
    let port ← (← spec.ports).find? fun p => p.name == some portName
    -- `port_number as u16` keeps the low sixteen bits of the `i32`
    some (spec.clusterIp.getD "", UInt16.ofNat (port.port % 2 ^ 16).toNat)
  else
    none

/-- `K8sClient::find_service_for_resource`, on the listed Services. -/
def findServiceForResource (services : List Service) (resourceName selectorLabel portName : String) :
    Option (String × UInt16) :=
  services.findSome? (serviceTarget resourceName selectorLabel portName)

end UdpDirector
