import UdpDirector.Config
import UdpDirector.Proxy.LoadBalancer

/-!
The default endpoint (`proxy.rs`): a listed resource, selected by the load
balancer, with its address and the backend port of every data port.

* `Endpoint`: what the proxy caches;
* `extractEndpointTargetMultiPort`, `queryDefaultEndpoint`;
* `endpoint_of_listed`: an endpoint is the address of a listed resource.
-/

namespace UdpDirector

/-- `DefaultEndpointCache`. -/
structure Endpoint where
  address : String
  portMappings : Table (UInt16 × Protocol) UInt16

namespace Endpoint

/-- The endpoint has a port for a data port. -/
def supports (endpoint : Endpoint) (proxyPort : UInt16) (protocol : Protocol) : Bool :=
  (endpoint.portMappings.lookup (proxyPort, protocol)).isSome

end Endpoint

/-- The backend ports of the data ports, those that have one. -/
def endpointPorts (portOf : String → Option UInt16) :
    List DataPortConfig → Table (UInt16 × Protocol) UInt16 → Table (UInt16 × Protocol) UInt16
  | [], mappings => mappings
  | p :: ps, mappings =>
      match portOf p.name with
      | some port => endpointPorts portOf ps (mappings.insert (p.port, p.protocol) port)
      | none => endpointPorts portOf ps mappings

/-- `DataProxy::extract_endpoint_target_multi_port`. -/
def extractEndpointTargetMultiPort (config : Config) (resource : DynamicObject)
    (mapping : ResourceMapping) : Except Fault Endpoint := do
  let some addressPath := mapping.addressPath
    | .error (.error "address_path is required for default endpoint")
  let address ← extractAddress resource addressPath mapping.addressType
  match mapping.ports with
  | some portMappings => do
      let ports ← extractPorts resource portMappings ∅
      return { address, portMappings := endpointPorts ports.lookup config.getDataPorts ∅ }
  | none => do
      let port ← extractPort resource mapping.portPath mapping.portName
      return { address, portMappings := endpointPorts (fun _ => some port) config.getDataPorts ∅ }

/-- `DataProxy::query_default_endpoint`, on the reply to the list, none where the
list fails. -/
def queryDefaultEndpoint (config : Config) (counts : SessionCounts)
    (reply : Option (List DynamicObject)) : Except Fault Endpoint := do
  let some mapping := config.resourceQueryMapping.lookup config.defaultEndpoint.resourceType
    | .error (.error
        ("Unknown resource type in default_endpoint: " ++ config.defaultEndpoint.resourceType))
  let some items := reply
    | .error (.error ("Failed to list resources: " ++ mapping.resource))
  let resources ← filterSnapshot config.defaultEndpoint.statusQuery
    config.defaultEndpoint.annotationSelector items
  if resources.isEmpty then
    .error (.error "No matching resources found for default endpoint")
  else do
    let some addressPath := mapping.addressPath
      | .error (.error "address_path is required for default endpoint")
    let selected ← selectBackend config.getLoadBalancing counts resources addressPath
      mapping.addressType
    extractEndpointTargetMultiPort config selected mapping

/-- An endpoint has the address of its resource. -/
lemma extractAddress_of_endpoint {config : Config} {resource : DynamicObject}
    {mapping : ResourceMapping} {endpoint : Endpoint} {addressPath : String}
    (h : extractEndpointTargetMultiPort config resource mapping = .ok endpoint)
    (haddressPath : mapping.addressPath = some addressPath) :
    extractAddress resource addressPath mapping.addressType = .ok endpoint.address := by
  rw [extractEndpointTargetMultiPort, haddressPath] at h
  obtain ⟨address, haddress, h⟩ := Except.exists_of_bind_eq_ok h
  rw [haddress]
  split at h
  · obtain ⟨ports, -, h⟩ := Except.exists_of_bind_eq_ok h
    rw [← Except.ok.inj h]
  · obtain ⟨port, -, h⟩ := Except.exists_of_bind_eq_ok h
    rw [← Except.ok.inj h]

/-- A default endpoint is extracted from the resource the load balancer selects. -/
lemma exists_selected_of_query {config : Config} {counts : SessionCounts}
    {reply : Option (List DynamicObject)} {endpoint : Endpoint}
    (h : queryDefaultEndpoint config counts reply = .ok endpoint) :
    ∃ mapping items resources addressPath selected, reply = some items
      ∧ config.resourceQueryMapping.lookup config.defaultEndpoint.resourceType = some mapping
      ∧ filterSnapshot config.defaultEndpoint.statusQuery
          config.defaultEndpoint.annotationSelector items = .ok resources
      ∧ mapping.addressPath = some addressPath
      ∧ selectBackend config.getLoadBalancing counts resources addressPath mapping.addressType
          = .ok selected
      ∧ extractEndpointTargetMultiPort config selected mapping = .ok endpoint := by
  rw [queryDefaultEndpoint] at h
  split at h
  · rename_i mapping hmapping
    split at h
    · rename_i items
      obtain ⟨resources, hresources, h⟩ := Except.exists_of_bind_eq_ok h
      split at h
      · simp at h
      · split at h
        · rename_i addressPath haddressPath
          obtain ⟨selected, hselected, h⟩ := Except.exists_of_bind_eq_ok h
          exact ⟨mapping, items, resources, addressPath, selected, rfl, hmapping, hresources,
            haddressPath, hselected, h⟩
        · simp at h
    · simp at h
  · simp at h

/-- **An endpoint is the address of a listed resource** that the filters keep. -/
theorem endpoint_of_listed {config : Config} {counts : SessionCounts}
    {reply : Option (List DynamicObject)} {endpoint : Endpoint}
    (h : queryDefaultEndpoint config counts reply = .ok endpoint) :
    ∃ mapping items resource addressPath, reply = some items ∧ resource ∈ items
      ∧ config.resourceQueryMapping.lookup config.defaultEndpoint.resourceType = some mapping
      ∧ mapping.addressPath = some addressPath
      ∧ extractAddress resource addressPath mapping.addressType = .ok endpoint.address
      ∧ Selected config.defaultEndpoint.statusQuery config.defaultEndpoint.annotationSelector
          resource := by
  obtain ⟨mapping, items, resources, addressPath, selected, hreply, hmapping, hresources,
    haddressPath, hselected, hendpoint⟩ := exists_selected_of_query h
  obtain ⟨hitem, hfilter⟩ := (mem_filterSnapshot hresources).mp (mem_of_selectBackend hselected).1
  exact ⟨mapping, items, selected, addressPath, hreply, hitem, hmapping, haddressPath,
    extractAddress_of_endpoint hendpoint haddressPath, hfilter⟩

end UdpDirector
