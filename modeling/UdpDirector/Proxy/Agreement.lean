import UdpDirector.Access.World
import UdpDirector.Proxy.Endpoint

/-!
The route of a query and the route of the default endpoint, from one resource.

* `queryRoutes`: the extraction of `process_access`, backend ports by name and then the loop
  over the data ports; `queryRoutes_of_resolve` finds it in `resolve`;
* `endpointPorts_of_collectRoutes`: the loop of the query and the loop of the default endpoint
  store the same ports;
* `routes_agree`: a query route is a default route, and the other way around where the mapping
  names every data port.
-/

namespace UdpDirector

/-! ### The extraction of a query -/

/-- The extraction of `process_access`: the address, and the backend port of every data
port. -/
def queryRoutes (config : Config) (services : Option (List Service)) (resource : DynamicObject)
    (mapping : ResourceMapping) (name : String) :
    Except Fault (String × Table (UInt16 × Protocol) UInt16) := do
  let (ip, ports) ← extractPortsByName config services resource mapping name
  let (routes, _) ← collectRoutes ports config.getDataPorts ∅ ∅
  if routes.entries.isEmpty then .error (.error "No data ports") else return (ip, routes)

/-! ### The two loops -/

section

variable {ports : Table String UInt16} {dataPorts : List DataPortConfig}
  {routes routes' : Table (UInt16 × Protocol) UInt16} {publicPorts public' : Table String UInt16}

/-- Where every data port has a backend port, both loops store the same ones. -/
lemma endpointPorts_of_collectRoutes
    (h : collectRoutes ports dataPorts routes publicPorts = .ok (routes', public')) :
    endpointPorts ports.lookup dataPorts routes = routes' := by
  induction dataPorts generalizing routes publicPorts with
  | nil => exact (Prod.mk.inj (Except.ok.inj h)).1
  | cons p ps ih =>
      rw [collectRoutes] at h
      split at h
      · cases h
      · rename_i port hport
        rw [endpointPorts, hport]
        exact ih h

/-- A query has routes only if every data port has a backend port. -/
lemma isSome_of_collectRoutes
    (h : collectRoutes ports dataPorts routes publicPorts = .ok (routes', public')) :
    ∀ p ∈ dataPorts, (ports.lookup p.name).isSome = true := by
  induction dataPorts generalizing routes publicPorts with
  | nil => simp
  | cons p ps ih =>
      rw [collectRoutes] at h
      split at h
      · cases h
      · rename_i port hport
        intro p' hp'
        rcases List.mem_cons.mp hp' with rfl | hp'
        · rw [hport]
          rfl
        · exact ih h p' hp'

/-- Some data ports give some routes. -/
lemma entries_collectRoutes_ne_nil
    (h : collectRoutes ports dataPorts routes publicPorts = .ok (routes', public'))
    (hne : dataPorts ≠ [] ∨ routes.entries ≠ []) : routes'.entries ≠ [] := by
  induction dataPorts generalizing routes publicPorts with
  | nil =>
      rw [← (Prod.mk.inj (Except.ok.inj h)).1]
      simpa using hne
  | cons p ps ih =>
      rw [collectRoutes] at h
      split at h
      · cases h
      · rename_i port hport
        refine ih h (.inr fun hnil => ?_)
        have hmem := Table.lookup_eq_some.mp
          (AList.lookup_insert (a := (p.port, p.protocol)) (b := port) routes)
        rw [hnil] at hmem
        simp at hmem

lemma exists_collectRoutes (routes : Table (UInt16 × Protocol) UInt16)
    (publicPorts : Table String UInt16)
    (h : ∀ p ∈ dataPorts, (ports.lookup p.name).isSome = true) :
    ∃ public', collectRoutes ports dataPorts routes publicPorts
      = .ok (endpointPorts ports.lookup dataPorts routes, public') := by
  induction dataPorts generalizing routes publicPorts with
  | nil => exact ⟨publicPorts, rfl⟩
  | cons p ps ih =>
      obtain ⟨port, hport⟩ := Option.isSome_iff_exists.mp (h p List.mem_cons_self)
      rw [collectRoutes, endpointPorts, hport]
      exact ih _ _ fun p' hp' => h p' (List.mem_cons_of_mem p hp')

/-- The loop of the default endpoint reads the ports of the data ports only. -/
lemma endpointPorts_congr {portOf portOf' : String → Option UInt16}
    (h : ∀ p ∈ dataPorts, portOf p.name = portOf' p.name) :
    endpointPorts portOf dataPorts routes = endpointPorts portOf' dataPorts routes := by
  induction dataPorts generalizing routes with
  | nil => rfl
  | cons p ps ih =>
      have hps := fun p' hp' => h p' (List.mem_cons_of_mem p hp')
      rw [endpointPorts, endpointPorts, h p List.mem_cons_self]
      cases portOf' p.name with
      | none => exact ih hps
      | some port => exact ih hps

/-- The one port stands under the name of every data port. -/
lemma lookup_singlePort {port : UInt16} (name : String) :
    (singlePort port dataPorts ports).lookup name
      = if name ∈ dataPorts.map DataPortConfig.name then some port else ports.lookup name := by
  induction dataPorts generalizing ports with
  | nil => rfl
  | cons p ps ih =>
      rw [singlePort, ih]
      simp only [List.map_cons, List.mem_cons]
      rcases eq_or_ne name p.name with rfl | hne
      · rw [AList.lookup_insert, ite_self, if_pos (.inl rfl)]
      · rw [AList.lookup_insert_ne hne]
        simp only [hne, false_or]

/-- Every name of the mapping has a port once the ports are extracted. -/
lemma lookup_extractPorts {resource : DynamicObject} {portMappings : List PortMapping}
    {ports' : Table String UInt16} (h : extractPorts resource portMappings ports = .ok ports')
    {name : String} (hname : name ∈ portMappings.map PortMapping.name
      ∨ (ports.lookup name).isSome = true) : (ports'.lookup name).isSome = true := by
  induction portMappings generalizing ports with
  | nil =>
      obtain rfl := Except.ok.inj h
      simpa using hname
  | cons m ms ih =>
      rw [extractPorts] at h
      obtain ⟨port, -, h⟩ := Except.exists_of_bind_eq_ok h
      refine ih h ?_
      rcases eq_or_ne name m.name with rfl | hne
      · exact .inr (by rw [AList.lookup_insert]; rfl)
      · rw [AList.lookup_insert_ne hne]
        simpa [hne] using hname

end

/-! ### The two extractions -/

section

variable {ext : Externals} {config : Config}

/-- **The routes a query works with** are those of this extraction, from the selected
resource. -/
theorem queryRoutes_of_resolve {a : Access} {choice : Choice ext config}
    {services : Option (List Service)} {target : Target ext config}
    (h : resolve a choice services = .ok target) :
    ∃ name, choice.candidate.pod.metadata.name = some name
      ∧ queryRoutes config services choice.candidate.object a.mapping name
        = .ok (target.ip, target.routes) := by
  obtain ⟨rfl, name, hname, hextract, hports⟩ := resolve_eq_ok h
  refine ⟨name, hname, ?_⟩
  have hroutes : target.routes.entries ≠ [] :=
    entries_collectRoutes_ne_nil target.routes_eq (.inl hports)
  rw [queryRoutes, hextract]
  simp only [bind, Except.bind, target.routes_eq, List.isEmpty_iff, if_neg hroutes]
  rfl

end

section

variable {config : Config} {services : Option (List Service)} {resource : DynamicObject}
  {mapping : ResourceMapping} {name addressPath : String}

lemma relabel_eq_ok {α : Type*} {message : String} {x : Except Fault α} {a : α} :
    Fault.relabel message x = .ok a ↔ x = .ok a := by
  unfold Fault.relabel
  split <;> simp

/-- A query has routes where every data port has a backend port by name. -/
lemma queryRoutes_eq_ok (hports : config.getDataPorts ≠ []) {ip : String}
    {routes : Table (UInt16 × Protocol) UInt16} :
    queryRoutes config services resource mapping name = .ok (ip, routes)
      ↔ ∃ ports, extractPortsByName config services resource mapping name = .ok (ip, ports)
        ∧ (∀ p ∈ config.getDataPorts, (ports.lookup p.name).isSome = true)
        ∧ endpointPorts ports.lookup config.getDataPorts ∅ = routes := by
  constructor
  · intro h
    obtain ⟨⟨ip', ports⟩, hextract, h⟩ := Except.exists_of_bind_eq_ok h
    obtain ⟨⟨routes', public'⟩, hcollect, h⟩ := Except.exists_of_bind_eq_ok h
    dsimp only at h
    split at h
    · cases h
    · obtain ⟨rfl, rfl⟩ := Prod.mk.inj (Except.ok.inj h)
      exact ⟨ports, hextract, isSome_of_collectRoutes hcollect,
        endpointPorts_of_collectRoutes hcollect⟩
  · rintro ⟨ports, hextract, hsome, rfl⟩
    obtain ⟨public', hcollect⟩ := exists_collectRoutes ∅ ∅ hsome
    have hroutes := entries_collectRoutes_ne_nil hcollect (.inl hports)
    rw [queryRoutes, hextract]
    simp only [bind, Except.bind, hcollect, List.isEmpty_iff, if_neg hroutes]
    rfl

/-- The ports by name of a mapping with several ports. -/
lemma extractPortsByName_of_ports (haddress : mapping.addressPath = some addressPath)
    {portMappings : List PortMapping} (hmapping : mapping.ports = some portMappings) {ip : String}
    {ports : Table String UInt16} :
    extractPortsByName config services resource mapping name = .ok (ip, ports)
      ↔ extractAddress resource addressPath mapping.addressType = .ok ip
        ∧ extractPorts resource portMappings ∅ = .ok ports := by
  rw [extractPortsByName, if_pos (by rw [hmapping]; rfl), relabel_eq_ok,
    extractMultiPortTargetInfo, haddress, hmapping]
  constructor
  · intro h
    obtain ⟨address, haddress, h⟩ := Except.exists_of_bind_eq_ok h
    obtain ⟨ports', hextract, h⟩ := Except.exists_of_bind_eq_ok h
    obtain ⟨rfl, rfl⟩ := Prod.mk.inj (Except.ok.inj h)
    exact ⟨haddress, hextract⟩
  · rintro ⟨hip, hextract⟩
    simp only [hip, hextract, bind, Except.bind]
    rfl

/-- The ports by name of a mapping with a single port. -/
lemma extractPortsByName_of_port (haddress : mapping.addressPath = some addressPath)
    (hmapping : mapping.ports = none) {ip : String} {ports : Table String UInt16} :
    extractPortsByName config services resource mapping name = .ok (ip, ports)
      ↔ extractAddress resource addressPath mapping.addressType = .ok ip
        ∧ ∃ port, extractPort resource mapping.portPath mapping.portName = .ok port
          ∧ singlePort port config.getDataPorts ∅ = ports := by
  rw [extractPortsByName, if_neg (by rw [hmapping]; decide)]
  constructor
  · intro h
    obtain ⟨⟨address, port⟩, htarget, h⟩ := Except.exists_of_bind_eq_ok h
    obtain ⟨rfl, rfl⟩ := Prod.mk.inj (Except.ok.inj h)
    rw [relabel_eq_ok, extractTargetInfo, haddress] at htarget
    obtain ⟨address', haddress', htarget⟩ := Except.exists_of_bind_eq_ok htarget
    obtain ⟨port', hport, htarget⟩ := Except.exists_of_bind_eq_ok htarget
    obtain ⟨rfl, rfl⟩ := Prod.mk.inj (Except.ok.inj htarget)
    exact ⟨haddress', port', hport, rfl⟩
  · rintro ⟨hip, port, hport, rfl⟩
    have htarget : extractTargetInfo services resource mapping name = .ok (ip, port) := by
      rw [extractTargetInfo, haddress]
      simp only [extractDirectTarget, hip, hport, bind, Except.bind]
      rfl
    rw [relabel_eq_ok.mpr htarget]
    rfl

/-- **Query routes and default routes agree.** For a mapping with an address path and some data
ports: what the extraction of a query gives, the extraction of the default endpoint gives, the
same address and the same ports; and where the mapping has a single port, or a port under the
name of every data port, the other way around. -/
theorem routes_agree (haddress : mapping.addressPath = some addressPath)
    (hports : config.getDataPorts ≠ []) :
    (∀ ip routes, queryRoutes config services resource mapping name = .ok (ip, routes) →
        extractEndpointTargetMultiPort config resource mapping = .ok ⟨ip, routes⟩)
      ∧ ((∀ portMappings, mapping.ports = some portMappings →
            ∀ p ∈ config.getDataPorts, p.name ∈ portMappings.map PortMapping.name) →
          ∀ endpoint, extractEndpointTargetMultiPort config resource mapping = .ok endpoint →
            queryRoutes config services resource mapping name
              = .ok (endpoint.address, endpoint.portMappings)) := by
  cases hmapping : mapping.ports with
  | some portMappings =>
      constructor
      · intro ip routes h
        obtain ⟨ports, hextract, -, rfl⟩ := (queryRoutes_eq_ok hports).mp h
        obtain ⟨hip, hextract⟩ := (extractPortsByName_of_ports haddress hmapping).mp hextract
        rw [extractEndpointTargetMultiPort, haddress, hmapping]
        simp only [hip, hextract, bind, Except.bind]
        rfl
      · intro hnames endpoint h
        rw [extractEndpointTargetMultiPort, haddress, hmapping] at h
        obtain ⟨address, hip, h⟩ := Except.exists_of_bind_eq_ok h
        obtain ⟨ports, hextract, h⟩ := Except.exists_of_bind_eq_ok h
        obtain rfl := Except.ok.inj h
        refine (queryRoutes_eq_ok hports).mpr ⟨ports,
          (extractPortsByName_of_ports haddress hmapping).mpr ⟨hip, hextract⟩, ?_, rfl⟩
        exact fun p hp => lookup_extractPorts hextract (.inl (hnames portMappings rfl p hp))
  | none =>
      -- every data port has the one port under its name
      have hsingle : ∀ port : UInt16, ∀ p ∈ config.getDataPorts,
          (singlePort port config.getDataPorts ∅).lookup p.name = some port := by
        intro port p hp
        rw [lookup_singlePort, if_pos (List.mem_map_of_mem hp)]
      have hloop : ∀ port : UInt16,
          endpointPorts (singlePort port config.getDataPorts ∅).lookup config.getDataPorts ∅
            = endpointPorts (fun _ => some port) config.getDataPorts ∅ :=
        fun port => endpointPorts_congr (hsingle port)
      constructor
      · intro ip routes h
        obtain ⟨ports, hextract, -, rfl⟩ := (queryRoutes_eq_ok hports).mp h
        obtain ⟨hip, port, hport, rfl⟩ := (extractPortsByName_of_port haddress hmapping).mp hextract
        rw [hloop port, extractEndpointTargetMultiPort, haddress, hmapping]
        simp only [hip, hport, bind, Except.bind]
        rfl
      · intro _ endpoint h
        rw [extractEndpointTargetMultiPort, haddress, hmapping] at h
        obtain ⟨address, hip, h⟩ := Except.exists_of_bind_eq_ok h
        obtain ⟨port, hport, h⟩ := Except.exists_of_bind_eq_ok h
        obtain rfl := Except.ok.inj h
        refine (queryRoutes_eq_ok hports).mpr ⟨_,
          (extractPortsByName_of_port haddress hmapping).mpr ⟨hip, port, hport, rfl⟩, ?_,
          hloop port⟩
        intro p hp
        rw [hsingle port p hp]
        rfl

end

/-! ### A Pod with two ports -/

namespace Sample

/-- A data port for the game over UDP, and one for voice over TCP. -/
def voiceSettings : Config :=
  { settings with
    dataPorts := some
      [{ port := 7777, protocol := .udp, name := "game" },
        { port := 7778, protocol := .tcp, name := "voice" }] }

/-- The port for voice is found by its name, the one for the game where it stands. -/
def voiceMapping : ResourceMapping :=
  { podMapping with
    ports := some
      [{ name := "voice", portName := some "voice" },
        { name := "game", portPath := some "spec.containers[0].ports[0].containerPort" }] }

/-- A Pod with both container ports. -/
def voicePod : DynamicObject :=
  { pod "game-0" "uid-0" "10.0.0.1" with
    data :=
      [("spec", .object [("containers", .array [.object [("ports", .array
          [.object [("name", .string "game"), ("containerPort", .number (.int 7000))],
            .object [("name", .string "voice"), ("containerPort", .number (.int 7001))]])]])]),
        ("status", .object [("podIP", .string "10.0.0.1")])] }

/-- Every data port is named by the mapping. -/
lemma named_voiceMapping : ∀ portMappings, voiceMapping.ports = some portMappings →
    ∀ p ∈ voiceSettings.getDataPorts, p.name ∈ portMappings.map PortMapping.name := by
  intro portMappings h
  obtain rfl := Option.some.inj h
  decide

end Sample

/-- The routes of a query are those of the default endpoint, to both ports of a Pod. -/
theorem routes_agree_sample :
    ∃ routes, queryRoutes Sample.voiceSettings none Sample.voicePod Sample.voiceMapping "game-0"
          = .ok ("10.0.0.1", routes)
      ∧ extractEndpointTargetMultiPort Sample.voiceSettings Sample.voicePod Sample.voiceMapping
        = .ok ⟨"10.0.0.1", routes⟩
      ∧ routes.lookup (7777, .udp) = some 7000 ∧ routes.lookup (7778, .tcp) = some 7001 := by
  have hroutes : ∃ routes, queryRoutes Sample.voiceSettings none Sample.voicePod Sample.voiceMapping
      "game-0" = .ok ("10.0.0.1", routes)
        ∧ routes.lookup (7777, .udp) = some 7000 ∧ routes.lookup (7778, .tcp) = some 7001 :=
    ⟨_, rfl, by decide +kernel, by decide +kernel⟩
  obtain ⟨routes, hquery, hgame, hvoice⟩ := hroutes
  have hdefault := (routes_agree rfl (by decide)).1 _ _ hquery
  exact ⟨routes, (routes_agree rfl (by decide)).2 Sample.named_voiceMapping _ hdefault, hdefault,
    hgame, hvoice⟩

end UdpDirector
