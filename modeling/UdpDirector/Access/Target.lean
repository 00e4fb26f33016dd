import UdpDirector.Access.Selection
import UdpDirector.Kube.Extract

/-!
The target of a choice (`query_server.rs`): the address and backend ports of the
selected resource, the routes they give, and the request that writes the label.

* `extractTargetInfo`, `extractMultiPortTargetInfo`: the address of the resource
  with one port, or with a port for each name;
* `collectRoutes`: the backend port of every data port;
* `Target`: what the rest of `process_access` works with; the routes are those
  the extracted ports give, so other routes cannot be stored;
* `allocateRequest`: the checks of `allocate_character` before its patch.
-/

namespace UdpDirector

/-! ### Address and ports -/

/-- A failed part of an extraction, under the text a caller gives it. -/
def Fault.relabel {α : Type*} (message : String) : Except Fault α → Except Fault α
  | .ok a => .ok a
  | .error .panic => .error .panic
  | .error (.error _) => .error (.error message)

/-- `extract_direct_target`. -/
def extractDirectTarget (resource : DynamicObject) (mapping : ResourceMapping)
    (addressPath : String) : Except Fault (String × UInt16) := do
  let address ← extractAddress resource addressPath mapping.addressType
  let port ← extractPort resource mapping.portPath mapping.portName
  return (address, port)

/-- `extract_service_target`, on the reply to the list of Services, none where
the list fails. -/
def extractServiceTarget (services : Option (List Service)) (resourceName : String)
    (mapping : ResourceMapping) : Except Fault (String × UInt16) := do
  let some selector := mapping.serviceSelectorLabel
    | .error (.error "service_selector_label is required for service-based approach")
  let some portName := mapping.serviceTargetPortName
    | .error (.error "service_target_port_name is required for service-based approach")
  let some services := services
    | .error (.error "Failed to find service: Failed to list services")
  match findServiceForResource services resourceName selector portName with
  | some target => return target
  | none => .error (.error ("No service found for resource: " ++ resourceName))

/-- `extract_target_info`. -/
def extractTargetInfo (services : Option (List Service)) (resource : DynamicObject)
    (mapping : ResourceMapping) (resourceName : String) : Except Fault (String × UInt16) :=
  match mapping.addressPath with
  | some addressPath => extractDirectTarget resource mapping addressPath
  | none => extractServiceTarget services resourceName mapping

/-- `extract_multi_port_target_info`. -/
def extractMultiPortTargetInfo (resource : DynamicObject) (mapping : ResourceMapping) :
    Except Fault (String × Table String UInt16) := do
  let some addressPath := mapping.addressPath
    | .error (.error "address_path is required for multi-port approach")
  let some portMappings := mapping.ports
    | .error (.error "ports configuration is required for multi-port approach")
  let address ← extractAddress resource addressPath mapping.addressType
  let ports ← extractPorts resource portMappings ∅
  return (address, ports)

/-- The same backend port under the name of every data port. -/
def singlePort (port : UInt16) : List DataPortConfig → Table String UInt16 → Table String UInt16
  | [], ports => ports
  | p :: ps, ports => singlePort port ps (ports.insert p.name port)

/-- The address of a selected resource, and its backend ports by name. -/
def extractPortsByName (config : Config) (services : Option (List Service))
    (resource : DynamicObject) (mapping : ResourceMapping) (name : String) :
    Except Fault (String × Table String UInt16) :=
  if mapping.ports.isSome then
    Fault.relabel "Invalid backend ports" (extractMultiPortTargetInfo resource mapping)
  else do
    let (ip, port) ←
      Fault.relabel "Invalid backend port" (extractTargetInfo services resource mapping name)
    return (ip, singlePort port config.getDataPorts ∅)

/-! ### Routes -/

/-- The loop over the data ports: the backend port of each, from the routes and
public ports collected so far. -/
def collectRoutes (ports : Table String UInt16) :
    List DataPortConfig → Table (UInt16 × Protocol) UInt16 → Table String UInt16 →
      Except Fault (Table (UInt16 × Protocol) UInt16 × Table String UInt16)
  | [], routes, publicPorts => .ok (routes, publicPorts)
  | p :: ps, routes, publicPorts =>
      match ports.lookup p.name with
      | none => .error (.error "Missing backend port")
      | some target =>
          collectRoutes ports ps (routes.insert (p.port, p.protocol) target)
            (publicPorts.insert p.name p.port)

variable (ext : Externals) (config : Config)

/-- What a choice resolves to. -/
structure Target where
  choice : Choice ext config
  /-- The uid of the Pod. -/
  server : String
  /-- The extracted address. -/
  ip : String
  /-- The extracted backend ports by name. -/
  ports : Table String UInt16
  routes : Table (UInt16 × Protocol) UInt16
  publicPorts : Table String UInt16
  uid_eq : choice.candidate.pod.metadata.uid = some server
  routes_eq : collectRoutes ports config.getDataPorts ∅ ∅ = .ok (routes, publicPorts)

variable {ext config}

/-- The part of `process_access` between the selection and the label. -/
def resolve (a : Access) (choice : Choice ext config) (services : Option (List Service)) :
    Except Fault (Target ext config) :=
  match choice.candidate.pod.metadata.name with
  | none => .error (.error "Missing Pod name")
  | some name => do
      let (ip, ports) ←
        extractPortsByName config services choice.candidate.object a.mapping name
      match routes_eq : collectRoutes ports config.getDataPorts ∅ ∅ with
      | .error fault => .error fault
      | .ok (routes, publicPorts) =>
          if routes.entries.isEmpty then
            .error (.error "No data ports")
          else
            match uid_eq : choice.candidate.pod.metadata.uid with
            | none => .error (.error "Missing server identity")
            | some server =>
                .ok { choice, server, ip, ports, routes, publicPorts, uid_eq, routes_eq }

namespace Target

/-- The label of the joining character. -/
def key (target : Target ext config) : String := config.characterKey target.choice.character

/-- The snapshot shows the character connected, so its label is left alone. -/
def connected (target : Target ext config) : Bool :=
  target.choice.candidate.characters.any fun c =>
    c.characterId == target.choice.character && c.status == .used

/-- The response of a query that got this far. -/
def response (target : Target ext config) : QueryResponse :=
  .success "Allocated" target.server target.publicPorts

end Target

/-- `allocate_character` up to its patch: the name of the Pod and the version the
patch carries. -/
def allocateRequest (pod : Pod) : Except Fault (String × String) :=
  if podDraining pod then
    .error (.error "Pod is draining")
  else
    match pod.metadata.name with
    | none => .error (.error "Pod has no name")
    | some name =>
        match pod.metadata.resourceVersion with
        | none => .error (.error "Pod has no resource version")
        | some version => .ok (name, version)

/-- Without data ports there are no routes. -/
lemma collectRoutes_nil (ports : Table String UInt16) (routes : Table (UInt16 × Protocol) UInt16)
    (publicPorts : Table String UInt16) :
    collectRoutes ports [] routes publicPorts = .ok (routes, publicPorts) := rfl

/-- A resolved target keeps its choice, and carries what was extracted for the data
ports, of which there are some. -/
lemma resolve_eq_ok {a : Access} {choice : Choice ext config} {services : Option (List Service)}
    {target : Target ext config} (h : resolve a choice services = .ok target) :
    target.choice = choice ∧ ∃ name, choice.candidate.pod.metadata.name = some name
      ∧ extractPortsByName config services choice.candidate.object a.mapping name
          = .ok (target.ip, target.ports)
      ∧ config.getDataPorts ≠ [] := by
  rw [resolve] at h
  split at h
  · simp at h
  · rename_i name hname
    obtain ⟨⟨ip, ports⟩, hextract, h⟩ := Except.exists_of_bind_eq_ok h
    dsimp only at h
    split at h
    · simp at h
    · rename_i hroutes
      split at h
      · simp at h
      · rename_i hempty
        split at h
        · simp at h
        · obtain rfl := Except.ok.inj h
          refine ⟨rfl, name, hname, hextract, fun hnil => ?_⟩
          rw [hnil, collectRoutes_nil] at hroutes
          obtain ⟨rfl, -⟩ := Prod.mk.inj (Except.ok.inj hroutes)
          exact hempty rfl

lemma allocateRequest_eq_ok {pod : Pod} {name version : String}
    (h : allocateRequest pod = .ok (name, version)) :
    pod.metadata.name = some name ∧ pod.metadata.resourceVersion = some version := by
  rw [allocateRequest] at h
  split at h
  · simp at h
  · split at h
    · simp at h
    · rename_i name' hname
      split at h
      · simp at h
      · rename_i version' hversion
        obtain ⟨rfl, rfl⟩ := Prod.mk.inj (Except.ok.inj h)
        exact ⟨hname, hversion⟩

end UdpDirector
