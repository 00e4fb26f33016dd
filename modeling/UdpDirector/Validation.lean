import UdpDirector.Characters
import UdpDirector.Foundation.Fallible

/-!
The validation of a configuration when it is loaded (`Config::validate`).

* `LoadedConfig`: a configuration with the port of the query server; `Uri`: what is read of a
  parsed URI, whose parser is a parameter;
* `LoadedConfig.validate`: the checks in their order, each with its message;
* `LoadedConfig.validate_eq_ok_iff`: what a configuration satisfies that passes. Of the boot timeout
  only zero is refused (`LoadedConfig.validate_withBootTimeout`).
-/

namespace UdpDirector

/-- `hyper::Uri`, as far as it is read. -/
structure Uri where
  scheme : Option String
  hasAuthority : Bool
  deriving DecidableEq, Repr

/-- A configuration as it is loaded, with the port of the query server. -/
structure LoadedConfig extends Config where
  queryPort : UInt16

/-- `anyhow::ensure!`. -/
def ensure (condition : Prop) [Decidable condition] (message : String) : Except String Unit :=
  if condition then .ok () else .error message

namespace LoadedConfig

/-- The checks on the capacity demand. -/
def validateDemand (parseUri : String → Option Uri) (config : LoadedConfig)
    (demand : CapacityDemandConfig) : Except String Unit := do
  let some uri := parseUri demand.endpoint
    | .error "Invalid capacityDemand endpoint"
  ensure (uri.scheme = some "http" ∧ uri.hasAuthority)
    "capacityDemand endpoint must be an absolute internal HTTP URL"
  ensure (0 < demand.bootTimeoutSeconds) "bootTimeoutSeconds must be non-zero"
  demand.backendGroups.entries.forM fun e =>
    ensure (validCharacterId e.1 ∧ validCharacterId e.2)
      "Invalid capacityDemand map or backend group"
  let some mapping := config.resourceQueryMapping.lookup config.defaultEndpoint.resourceType
    | .error "capacityDemand requires a Pod mapping"
  ensure (mapping.group = "" ∧ mapping.resource = "pods")
    "capacityDemand requires a core Pod mapping"

/-- The checks on a data port. -/
def validateDataPort (portConfig : DataPortConfig) : Except String Unit := do
  ensure (portConfig.port ≠ 0) ("data_port '" ++ portConfig.name ++ "' must be non-zero")
  ensure (portConfig.name ≠ "") "data_port name must not be empty"

/-- `Config::validate`. -/
def validate (parseUri : String → Option Uri) (config : LoadedConfig) : Except String Unit := do
  config.capacityDemand.toList.forM (config.validateDemand parseUri)
  ensure (config.queryPort ≠ 0) "query_port must be non-zero"
  ensure (config.getDataPorts ≠ []) "At least one data port must be configured"
  config.getDataPorts.forM validateDataPort
  ensure (config.defaultEndpoint.resourceType ≠ "")
    "default_endpoint.resource_type must not be empty"
  ensure (config.defaultEndpoint.namespaceName ≠ "")
    "default_endpoint.namespace must not be empty"
  ensure (config.resourceQueryMapping.entries ≠ []) "resource_query_mapping must not be empty"

/-- What the checks ask of the capacity demand. -/
structure AcceptsDemand (parseUri : String → Option Uri) (config : LoadedConfig)
    (demand : CapacityDemandConfig) : Prop where
  endpoint : ∃ uri, parseUri demand.endpoint = some uri ∧ uri.scheme = some "http"
    ∧ uri.hasAuthority = true
  bootTimeout : 0 < demand.bootTimeoutSeconds
  backendGroups : ∀ map group, demand.backendGroups.lookup map = some group →
    validCharacterId map = true ∧ validCharacterId group = true
  mapping : ∃ mapping, config.resourceQueryMapping.lookup config.defaultEndpoint.resourceType
    = some mapping ∧ mapping.group = "" ∧ mapping.resource = "pods"

/-- What the checks ask of a configuration. -/
structure Accepts (parseUri : String → Option Uri) (config : LoadedConfig) : Prop where
  demand : ∀ demand ∈ config.capacityDemand, config.AcceptsDemand parseUri demand
  queryPort : config.queryPort ≠ 0
  dataPorts_ne_nil : config.getDataPorts ≠ []
  dataPorts : ∀ portConfig ∈ config.getDataPorts, portConfig.port ≠ 0 ∧ portConfig.name ≠ ""
  resourceType : config.defaultEndpoint.resourceType ≠ ""
  namespaceName : config.defaultEndpoint.namespaceName ≠ ""
  resourceQueryMapping : config.resourceQueryMapping.entries ≠ []

section

variable {parseUri : String → Option Uri} {config : LoadedConfig} {demand : CapacityDemandConfig}

@[simp] lemma ensure_eq_ok_iff {condition : Prop} [Decidable condition] {message : String} :
    ensure condition message = .ok () ↔ condition := by
  rw [ensure]
  split <;> simp [*]

lemma validateDataPort_eq_ok_iff {portConfig : DataPortConfig} :
    validateDataPort portConfig = .ok () ↔ portConfig.port ≠ 0 ∧ portConfig.name ≠ "" := by
  rw [validateDataPort, Except.seq_eq_ok_iff, ensure_eq_ok_iff, ensure_eq_ok_iff]

lemma validateDemand_eq_ok_iff :
    config.validateDemand parseUri demand = .ok () ↔ config.AcceptsDemand parseUri demand := by
  rw [validateDemand]
  constructor
  · intro h
    cases hendpoint : parseUri demand.endpoint with
    | none =>
        rw [hendpoint] at h
        cases h
    | some uri =>
        rw [hendpoint] at h
        simp only [Except.seq_eq_ok_iff, ensure_eq_ok_iff, Except.forM_eq_ok_iff] at h
        obtain ⟨huri, htimeout, hgroups, h⟩ := h
        cases hmapping : config.resourceQueryMapping.lookup config.defaultEndpoint.resourceType with
        | none =>
            rw [hmapping] at h
            cases h
        | some mapping =>
            rw [hmapping, ensure_eq_ok_iff] at h
            have hvalid : ∀ map group, demand.backendGroups.lookup map = some group →
                validCharacterId map = true ∧ validCharacterId group = true :=
              fun map group hgroup => hgroups ⟨map, group⟩ (Table.lookup_eq_some.mp hgroup)
            exact ⟨⟨uri, hendpoint, huri⟩, htimeout, hvalid, mapping, hmapping, h⟩
  · rintro ⟨⟨uri, hendpoint, huri⟩, htimeout, hgroups, mapping, hmapping, hpods⟩
    rw [hendpoint]
    simp only [Except.seq_eq_ok_iff, ensure_eq_ok_iff, Except.forM_eq_ok_iff, hmapping]
    exact ⟨huri, htimeout, fun e he => hgroups e.1 e.2 (Table.lookup_eq_some.mpr he), hpods⟩

/-- **A configuration passes exactly if every check accepts it.** -/
lemma validate_eq_ok_iff : config.validate parseUri = .ok () ↔ config.Accepts parseUri := by
  rw [validate]
  simp only [Except.seq_eq_ok_iff, ensure_eq_ok_iff, Except.forM_eq_ok_iff, Option.mem_toList,
    validateDemand_eq_ok_iff, validateDataPort_eq_ok_iff]
  constructor
  · rintro ⟨hdemand, hquery, hne, hports, htype, hnamespace, hmapping⟩
    exact ⟨hdemand, hquery, hne, hports, htype, hnamespace, hmapping⟩
  · intro h
    exact ⟨h.demand, h.queryPort, h.dataPorts_ne_nil, h.dataPorts, h.resourceType,
      h.namespaceName, h.resourceQueryMapping⟩

/-- A configuration with another boot timeout. -/
def withBootTimeout (config : LoadedConfig) (seconds : ℕ) : LoadedConfig :=
  { config with
    capacityDemand := config.capacityDemand.map fun demand =>
      { demand with bootTimeoutSeconds := seconds } }

/-- A configuration that passes does so with every boot timeout but zero. -/
lemma validate_withBootTimeout {seconds : ℕ} (h : config.validate parseUri = .ok ())
    (hpos : 0 < seconds) : (config.withBootTimeout seconds).validate parseUri = .ok () := by
  rw [validate_eq_ok_iff] at h ⊢
  refine { h with demand := ?_ }
  intro demand hdemand
  obtain ⟨old, hold, rfl⟩ := Option.map_eq_some_iff.mp hdemand
  have hdemand := h.demand old hold
  exact ⟨hdemand.endpoint, hpos, hdemand.backendGroups, hdemand.mapping⟩

end

end LoadedConfig

end UdpDirector
