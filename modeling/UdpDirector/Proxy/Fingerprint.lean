import UdpDirector.Proxy.Monitor

/-!
The fingerprint of the default endpoint and the cached one.

* `Alike`: what a mapping reads in one resource it reads in the other, whatever else they
  hold; an endpoint is extracted from these fields and no others;
* `checkNow`: a check from its list to its end;
* `Follows`: the cached endpoint is that of a listed resource;
* `Chosen`: the resource that the cached endpoint was taken from;
* `Unaltered`: this resource is listed by a check that finds the first one as it was, and none
  of the fields that the mapping reads has changed;
* `cache_follows`: in the runs whose checks find this the cache follows the cluster;
* `lost_backend_cached`: the load balancer has chosen another resource than the first, and
  a check does not notice that it is gone.
-/

namespace UdpDirector

namespace Endpoint

/-- The same address and the same backend port of every data port. -/
def Same (endpoint endpoint' : Endpoint) : Prop :=
  endpoint.address = endpoint'.address
    ∧ ∀ key, endpoint.portMappings.lookup key = endpoint'.portMappings.lookup key

lemma Same.rfl {endpoint : Endpoint} : endpoint.Same endpoint := ⟨Eq.refl _, fun _ => Eq.refl _⟩

end Endpoint

/-! ### The fields that a mapping reads -/

/-- Where a port is read by its name, or else at its path, both resources hold the same. -/
structure PortAlike (portPath portName : Option String) (o o' : DynamicObject) : Prop where
  named : ∀ name ∈ portName, statusPort name o.toValue = statusPort name o'.toValue
    ∧ containerPort name o.toValue = containerPort name o'.toValue
  path : portName = none → ∀ path ∈ portPath,
    extractJsonPath o.toValue path = extractJsonPath o'.toValue path

/-- What a mapping reads in one resource it reads in the other. -/
structure Alike (mapping : ResourceMapping) (o o' : DynamicObject) : Prop where
  address : ∀ path ∈ mapping.addressPath,
    extractJsonPath o.toValue path = extractJsonPath o'.toValue path
  port : mapping.ports = none → PortAlike mapping.portPath mapping.portName o o'
  ports : ∀ ports ∈ mapping.ports, ∀ p ∈ ports, PortAlike p.portPath p.portName o o'

section

variable {mapping : ResourceMapping} {o o' : DynamicObject}

lemma Alike.rfl : Alike mapping o o where
  address := fun _ _ => Eq.refl _
  port := fun _ => ⟨fun _ _ => ⟨Eq.refl _, Eq.refl _⟩, fun _ _ _ => Eq.refl _⟩
  ports := fun _ _ _ _ => ⟨fun _ _ => ⟨Eq.refl _, Eq.refl _⟩, fun _ _ _ => Eq.refl _⟩

lemma PortAlike.extractPort_eq {portPath portName : Option String}
    (h : PortAlike portPath portName o o') :
    extractPort o portPath portName = extractPort o' portPath portName := by
  cases portName with
  | some name =>
      obtain ⟨hstatus, hcontainer⟩ := h.named name rfl
      simp only [extractPort, hstatus, hcontainer]
  | none =>
      cases portPath with
      | none => rfl
      | some path => simp only [extractPort, h.path rfl path rfl]

lemma extractPorts_congr {ports : List PortMapping} {found : Table String UInt16}
    (h : ∀ p ∈ ports, PortAlike p.portPath p.portName o o') :
    extractPorts o ports found = extractPorts o' ports found := by
  induction ports generalizing found with
  | nil => rfl
  | cons p ports ih =>
      rw [extractPorts, extractPorts, (h p List.mem_cons_self).extractPort_eq]
      refine congrArg _ (funext fun port => ?_)
      exact ih fun p' hp' => h p' (List.mem_cons_of_mem p hp')

/-- **An endpoint is extracted from what its mapping reads.** -/
lemma Alike.extractEndpointTargetMultiPort_eq (h : Alike mapping o o') (config : Config) :
    extractEndpointTargetMultiPort config o mapping
      = extractEndpointTargetMultiPort config o' mapping := by
  rw [extractEndpointTargetMultiPort, extractEndpointTargetMultiPort]
  cases haddress : mapping.addressPath with
  | none => rfl
  | some addressPath =>
      have hsame : extractAddress o addressPath mapping.addressType
          = extractAddress o' addressPath mapping.addressType := by
        rw [extractAddress, extractAddress, h.address addressPath haddress]
      simp only [hsame]
      refine congrArg _ (funext fun address => ?_)
      cases hports : mapping.ports with
      | some ports => simp only [extractPorts_congr (h.ports ports hports)]
      | none => simp only [(h.port hports).extractPort_eq]

end

namespace Proxy

namespace Monitored

variable {config : Config} {s s' s₀ t : Monitored} {act : MonitoredAction}
  {acts : List MonitoredAction} {mapping : ResourceMapping} {resources : List DynamicObject}

/-! ### A check -/

/-- A check whose list succeeds, executed to its end; none where it panics. -/
def checkNow (config : Config) (s : Monitored) : Option Monitored :=
  (Monitored.step config s (.check true)).bind fun t =>
    match t.monitor with
    | .waiting => some t
    | .invalidating _ _ => Monitored.step config t .invalidate
    | .panicked => none

/-- A check lists these resources. -/
structure Lists (config : Config) (s : Monitored) (mapping : ResourceMapping)
    (resources : List DynamicObject) : Prop where
  mapping : config.resourceQueryMapping.lookup config.defaultEndpoint.resourceType = some mapping
  resources : filterSnapshot config.defaultEndpoint.statusQuery
    config.defaultEndpoint.annotationSelector s.cluster.objects = .ok resources

/-- The cache is empty, or has the address and the ports of one of the resources. -/
def Follows (config : Config) (s : Monitored) (mapping : ResourceMapping)
    (resources : List DynamicObject) : Prop :=
  ∀ endpoint, s.plane.cache = some endpoint → ∃ resource ∈ resources, ∃ endpoint',
    extractEndpointTargetMultiPort config resource mapping = .ok endpoint' ∧ endpoint'.Same endpoint

/-- The cached endpoint has been taken from the resource: the load balancer has selected it
in the list kept for the cache. -/
def Chosen (config : Config) (s : Monitored) (mapping : ResourceMapping)
    (resource : DynamicObject) : Prop :=
  ∃ counts resources addressPath endpoint,
    filterSnapshot config.defaultEndpoint.statusQuery config.defaultEndpoint.annotationSelector
        s.stored.objects = .ok resources
      ∧ mapping.addressPath = some addressPath
      ∧ selectBackend config.getLoadBalancing counts resources addressPath mapping.addressType
        = .ok resource
      ∧ extractEndpointTargetMultiPort config resource mapping = .ok endpoint
      ∧ s.plane.cache = some endpoint

/-- Where a check finds the fingerprint of the last invalidation, it lists the resource that the
cached endpoint was taken from, with none of the fields that the mapping reads changed. -/
def Unaltered (config : Config) (s : Monitored) (act : MonitoredAction) : Prop :=
  act = .check true → ∀ mapping resources, Lists config s mapping resources →
    currentTarget mapping resources = .ok s.lastDefaultEndpoint → s.plane.cache.isSome = true →
      ∃ chosen, Chosen config s mapping chosen ∧ ∃ resource ∈ resources,
        Alike mapping chosen resource

/-- The cached endpoint has been taken from some resource. -/
lemma exists_chosen (h : Sourced config s) {endpoint : Endpoint}
    (hcache : s.plane.cache = some endpoint)
    (hmapping : config.resourceQueryMapping.lookup config.defaultEndpoint.resourceType
      = some mapping) : ∃ chosen, Chosen config s mapping chosen := by
  obtain ⟨counts, hquery⟩ := h.cached endpoint hcache
  obtain ⟨mapping', items, resources, addressPath, selected, hitems, hmapping', hresources,
    haddressPath, hselected, hendpoint⟩ := exists_selected_of_query hquery
  obtain rfl := Option.some.inj (hmapping.symm.trans hmapping')
  obtain rfl := Option.some.inj hitems
  exact ⟨selected, counts, resources, addressPath, endpoint, hresources, haddressPath, hselected,
    hendpoint, hcache⟩

/-- The cache follows a list where the resource it was taken from is, unaltered. -/
lemma Chosen.follows {chosen resource : DynamicObject} (h : Chosen config s mapping chosen)
    (hmem : resource ∈ resources) (halike : Alike mapping chosen resource) :
    Follows config s mapping resources := by
  obtain ⟨-, -, -, endpoint, -, -, -, hendpoint, hcache⟩ := h
  intro endpoint' hcache'
  obtain rfl := Option.some.inj (hcache.symm.trans hcache')
  exact ⟨resource, hmem, endpoint, (halike.extractEndpointTargetMultiPort_eq config).symm.trans
    hendpoint, Endpoint.Same.rfl⟩

/-- What a check decides on the resources it lists. -/
lemma checkDefaultEndpoint_of_lists (hlists : Lists config s mapping resources) :
    checkDefaultEndpoint config s.lastDefaultEndpoint (s.reply true)
      = (currentTarget mapping resources).map fun current =>
          if current = s.lastDefaultEndpoint then none else some current := by
  have hreply : s.reply true = some s.cluster.objects := rfl
  rw [checkDefaultEndpoint, hlists.mapping]
  simp only [hreply, hlists.resources]
  change (currentTarget mapping resources >>= fun current =>
    pure (if current = s.lastDefaultEndpoint then none else some current)) = _
  cases currentTarget mapping resources <;> rfl

/-- The fingerprint is made, or the check panics. -/
lemma currentTarget_ne_error (mapping : ResourceMapping) (resources : List DynamicObject)
    (message : String) : currentTarget mapping resources ≠ .error (.error message) := by
  cases resources with
  | nil => simp [currentTarget]
  | cons resource rest =>
      unfold currentTarget
      dsimp only
      split
      · simp
      · split
        · simp
        · simp
        · split <;> simp

/-- A check ends where it leaves the cache alone, and otherwise with an empty cache. -/
lemma checkNow_eq_some (hlists : Lists config s mapping resources)
    (hcheck : checkNow config s = some s') :
    (currentTarget mapping resources = .ok s.lastDefaultEndpoint ∧ s' = s)
      ∨ (currentTarget mapping resources ≠ .ok s.lastDefaultEndpoint ∧ s'.plane.cache = none) := by
  obtain ⟨t, hstep, hend⟩ := Option.bind_eq_some_iff.mp hcheck
  have hdecides := checkDefaultEndpoint_of_lists hlists
  cases steps_of_step hstep with
  | differ hmonitor hdiffers =>
      -- the invalidation follows at once
      rw [hdecides] at hdiffers
      obtain ⟨current, hcurrent, hne⟩ := Except.exists_of_map_eq_ok hdiffers
      refine .inr ⟨?_, ?_⟩
      · rintro hlast
        rw [hlast] at hcurrent
        rw [← Except.ok.inj hcurrent, if_pos rfl] at hne
        simp at hne
      · cases steps_of_step hend with
        | invalidate => rfl
  | agree hmonitor hagrees hfault =>
      rw [hdecides] at hagrees hfault
      rw [hmonitor] at hend
      obtain rfl := Option.some.inj hend
      cases hcurrent : currentTarget mapping resources with
      | error fault =>
          cases fault with
          | error message =>
              exact absurd hcurrent (currentTarget_ne_error mapping resources message)
          | panic => exact absurd (by rw [hcurrent]; rfl) hfault
      | ok current =>
          by_cases hlast : current = s.lastDefaultEndpoint
          · exact .inl ⟨by rw [hlast], rfl⟩
          · refine absurd ?_ (hagrees current)
            rw [hcurrent]
            exact congrArg Except.ok (if_neg hlast)
  | panic => simp at hend

/-- **A check leaves the cache following the resources it lists** exactly when it finds
another fingerprint, or the cache follows them already. -/
lemma follows_checkNow_iff (hlists : Lists config s mapping resources)
    (hcheck : checkNow config s = some s') :
    Follows config s' mapping resources
      ↔ (currentTarget mapping resources = .ok s.lastDefaultEndpoint →
        Follows config s mapping resources) := by
  obtain ⟨hcurrent, rfl⟩ | ⟨hcurrent, hcache⟩ := checkNow_eq_some hlists hcheck
  · exact ⟨fun hfollows _ => hfollows, fun hfollows => hfollows hcurrent⟩
  · refine ⟨fun _ heq => absurd heq hcurrent, fun _ endpoint hsome => ?_⟩
    rw [hcache] at hsome
    simp at hsome

/-- A resource is unaltered where nothing has changed since the list of the cached endpoint. -/
lemma unaltered_of_stored (hsourced : Sourced config s)
    (h : s.stored.objects = s.cluster.objects) : Unaltered config s act := by
  rintro - mapping resources hlists - hcached
  obtain ⟨endpoint, hcache⟩ := Option.isSome_iff_exists.mp hcached
  obtain ⟨chosen, hchosen⟩ := exists_chosen hsourced hcache hlists.mapping
  have ⟨counts, listed, addressPath, _, hlisted, _, hselected, _, _⟩ := hchosen
  rw [h, hlists.resources] at hlisted
  obtain rfl := Except.ok.inj hlisted
  exact ⟨chosen, hchosen, chosen, (mem_of_selectBackend hselected).1, Alike.rfl⟩

/-! ### Runs -/

/-- **When the cache follows the cluster**: in a run each of whose checks that finds the
fingerprint of the last invalidation lists the resource that the cached endpoint was taken from,
unaltered where the mapping reads it, the cache is empty or has the address and the ports of a
listed resource right after every check. -/
theorem cache_follows (hrun : Run.Along (Monitored.step config) (Unaltered config) s₀ acts) :
    ∀ pre post r r' mapping resources, acts = pre ++ .check true :: post →
      Run.run (Monitored.step config) s₀ pre = some r → Lists config r mapping resources →
      checkNow config r = some r' → Follows config r' mapping resources := by
  rintro pre post r r' mapping resources rfl hpre hlists hcheck
  have hr : Unaltered config r (.check true) := (((Run.along_append _ _ _).mp hrun).2 r hpre).1
  rw [follows_checkNow_iff hlists hcheck]
  intro hcurrent
  cases hcache : r.plane.cache with
  | none =>
      intro endpoint hsome
      rw [hcache] at hsome
      cases hsome
  | some endpoint =>
      obtain ⟨chosen, hchosen, resource, hmem, halike⟩ :=
        hr rfl mapping resources hlists hcurrent (by rw [hcache]; rfl)
      exact hchosen.follows hmem halike

end Monitored

namespace Sample

/-- A check lists all Pods there are. -/
lemma lists_objects (s : Monitored) :
    Monitored.Lists settings s UdpDirector.Sample.podMapping s.cluster.objects :=
  ⟨AList.lookup_insert _, rfl⟩

/-- The steps of the first packet of a client that finds the cache empty. -/
def establishing (i : ℕ) : List MonitoredAction :=
  [.act (.connection i .arrive), .act (.connection i .read), .list i true,
    .act (.connection i .store), .act (.connection i .clear), .act (.connection i .install),
    .act (.connection i .count)]

/-- The first client is placed on the first Pod. -/
def placedOne : List MonitoredAction := [.change pods] ++ establishing 0

/-- A check of both Pods invalidates the cache, and the second client is placed on the
second Pod. -/
def placedBoth : List MonitoredAction :=
  placedOne ++ [.check true, .invalidate] ++ establishing 1

/-- The first client has been placed. -/
def afterOne : Monitored :=
  Run.reached (Monitored.step settings) clients placedOne (by decide +kernel)

/-- The two clients have been placed. -/
def afterBoth : Monitored :=
  Run.reached (Monitored.step settings) clients placedBoth (by decide +kernel)

/-- Both Pods are still listed by a check after that. -/
def afterSame : Monitored := (Monitored.checkNow settings afterBoth).get (by decide +kernel)

/-- Neither check finds the Pods changed. -/
lemma unaltered_placedBoth :
    Run.Along (Monitored.step settings) (Monitored.Unaltered settings) clients
      (placedBoth ++ [.check true]) := by
  have hquiet : ∀ i, ∀ act ∈ establishing i, ∀ s, Monitored.Unaltered settings s act := by
    simp [establishing, Monitored.Unaltered]
  refine (Run.along_append _ _ _).mpr ⟨(Run.along_append _ _ _).mpr
    ⟨(Run.along_append _ _ _).mpr ⟨?_, fun s hs => ⟨?_, fun t _ => ?_⟩⟩, fun s _ => ?_⟩,
      fun s hs => ⟨?_, fun _ _ => trivial⟩⟩
  · exact ⟨by simp [Monitored.Unaltered], fun s _ => Run.along_of_forall (hquiet 0) s⟩
  · obtain rfl : afterOne = s := Option.some.inj ((Run.run_reached _ _ _).symm.trans hs)
    exact Monitored.unaltered_of_stored (Monitored.sourced_of_run initial_clients hs) rfl
  · exact Run.along_of_forall (by simp [Monitored.Unaltered]) t
  · exact Run.along_of_forall (hquiet 1) s
  · obtain rfl : afterBoth = s := Option.some.inj ((Run.run_reached _ _ _).symm.trans hs)
    exact Monitored.unaltered_of_stored (Monitored.sourced_of_run initial_clients hs) rfl

/-- The second Pod is gone. -/
def afterLoss : Monitored :=
  Run.reached (Monitored.step settings) afterBoth
    [.change [UdpDirector.Sample.pod "game-0" "uid-0" "10.0.0.1"]] (by decide +kernel)

/-- A check after that. -/
def afterCheck : Monitored := (Monitored.checkNow settings afterLoss).get (by decide +kernel)

end Sample

/-- The cached endpoint is that of the second Pod, which the second check lists. -/
theorem cache_follows_sample :
    Sample.afterSame.plane.cache.map Endpoint.address = some "10.0.0.2"
      ∧ Monitored.Follows Sample.settings Sample.afterSame UdpDirector.Sample.podMapping
          Sample.afterBoth.cluster.objects := by
  exact ⟨by decide +kernel, Monitored.cache_follows Sample.unaltered_placedBoth Sample.placedBoth
    [] Sample.afterBoth Sample.afterSame UdpDirector.Sample.podMapping _ rfl (Run.run_reached _ _ _)
    (Sample.lists_objects _) (Option.some_get _).symm⟩

/-- **A check does not notice that a backend is gone**: the load balancer has placed one
client on each Pod and the second Pod is cached; the second Pod goes, the first one has
the fingerprint it had, and the check leaves the cache alone. -/
theorem lost_backend_cached :
    Sample.clients.Initial
      ∧ Run.run (Monitored.step Sample.settings) Sample.clients
          (Sample.placedBoth ++ [.change [UdpDirector.Sample.pod "game-0" "uid-0" "10.0.0.1"]])
        = some Sample.afterLoss
      ∧ Monitored.Lists Sample.settings Sample.afterLoss UdpDirector.Sample.podMapping
          Sample.afterLoss.cluster.objects
      ∧ Monitored.checkNow Sample.settings Sample.afterLoss = some Sample.afterCheck
      ∧ ¬Monitored.Follows Sample.settings Sample.afterCheck UdpDirector.Sample.podMapping
          Sample.afterLoss.cluster.objects := by
  refine ⟨Sample.initial_clients, Run.run_trans (Run.run_reached _ _ _) (Run.run_reached _ _ _),
    Sample.lists_objects _, (Option.some_get _).symm, fun hfollows => ?_⟩
  have hcached : Sample.afterCheck.plane.cache.map Endpoint.address = some "10.0.0.2" := by
    decide +kernel
  obtain ⟨endpoint, hcache, haddress⟩ := Option.map_eq_some_iff.mp hcached
  obtain ⟨resource, hmem, endpoint', hendpoint', hsame⟩ := hfollows endpoint hcache
  have hothers : ∀ resource ∈ Sample.afterLoss.cluster.objects,
      (extractEndpointTargetMultiPort Sample.settings resource
        UdpDirector.Sample.podMapping).toOption.map Endpoint.address ≠ some "10.0.0.2" := by
    decide +kernel
  refine hothers resource hmem ?_
  rw [hendpoint', ← haddress, ← hsame.1]
  rfl

end Proxy

end UdpDirector
