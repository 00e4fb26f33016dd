import UdpDirector.Deployment
import UdpDirector.Proxy.Balance

/-!
Where the directors of a deployment send what clients send them.

* `Deployment.routing`: each director as a router, by the refinements of its data plane;
* `Answered`, `Listed`: the two places a route can come from, a successful query of the
  client IP and a list reply for the default endpoint;
* `sanctioned_of_install`: every install of the router has one of them;
* `sent_where_sanctioned`: so has everything that is sent, on any director in any run.
-/

namespace UdpDirector

/-! ### Where a default endpoint comes from -/

namespace Proxy

variable {config : Config} {p q p₀ : Plane} {acts : List Action}

/-- An endpoint was read from the reply of a list. -/
def Listed (config : Config) (acts : List Action) (endpoint : Endpoint) : Prop :=
  ∃ i reply counts, .connection i (.list reply) ∈ acts
    ∧ queryDefaultEndpoint config counts reply = .ok endpoint

lemma Listed.concat {endpoint : Endpoint} (h : Listed config acts endpoint) (a : Action) :
    Listed config (acts ++ [a]) endpoint := by
  obtain ⟨i, reply, counts, hmem, hquery⟩ := h
  exact ⟨i, reply, counts, List.mem_append_left _ hmem, hquery⟩

/-- **Every default endpoint in use was listed**, in every state of every run. -/
lemma listed_of_run (h₀ : p₀.Initial) (hcache : p₀.cache = none)
    (hrun : Run.run (step config) p₀ acts = some p) :
    (∀ endpoint, p.cache = some endpoint → Listed config acts endpoint)
      ∧ ∀ i endpoint, (p.connections i).phase.endpoint = some endpoint →
        Listed config acts endpoint := by
  refine Run.run_induction (P := fun as q => (∀ endpoint, q.cache = some endpoint →
    Listed config as endpoint) ∧ ∀ i endpoint, (q.connections i).phase.endpoint = some endpoint →
      Listed config as endpoint) ?_ ?_ hrun
  · constructor
    · intro endpoint h
      rw [hcache] at h
      cases h
    · intro i endpoint h
      rw [h₀.connections i] at h
      cases h
  · intro as t a u ht ih hstep
    constructor
    · intro endpoint hendpoint
      obtain ⟨hold, -⟩ | ⟨i, -, hphase⟩ := cache_of_step hstep hendpoint
      · exact (ih.1 endpoint hold).concat a
      · exact (ih.2 i endpoint (by rw [hphase]; rfl)).concat a
    · intro i endpoint hendpoint
      rcases moves_or_others hstep i with ⟨event, phase, effect, rfl, hmoves, rfl⟩ | ⟨-, hsame⟩
      · rw [connections_move, Function.update_self] at hendpoint
        obtain ⟨-, hold, -⟩ | ⟨reply, rfl, hquery⟩ | hold := hmoves.endpoint hendpoint
        · exact (ih.1 endpoint hold).concat _
        · exact ⟨i, reply, t.counts, List.mem_append_right _ List.mem_cons_self, hquery⟩
        · exact (ih.2 i endpoint hold).concat _
      · rw [hsame] at hendpoint
        exact (ih.2 i endpoint hendpoint).concat a

end Proxy

/-! ### Directors as routers -/

namespace Deployment

variable {ext : Externals} {config : Config}

variable (ext config) in
/-- A director with its data plane as a router. -/
def routing (d : ℕ) : Run.Refinement
    (step : Deployment ext config → Action → Option (Deployment ext config)) Router.step :=
  (Proxy.router config).comp (dataPlane ext config d)

/-- A query of a client IP installed the route of its target, which it had extracted from the Pod
that it chose on its snapshot and that its patch or a connection assigned the character to, and is
answered with a success. -/
def Answered (x₀ : Deployment ext config) (acts : List Action) (x : Deployment ext config) (d : ℕ)
    (ip : IpAddr) (route : Route) : Prop :=
  ∃ pre post u q a, ∃ target : Target ext config,
    acts = pre ++ .serve (.task q .install) :: post ∧ Run.run step x₀ pre = some u
      ∧ (u.world.tasks q).phase = .running a (.installing target)
      ∧ (u.world.tasks q).director = d ∧ (u.world.tasks q).client.ip = ip
      ∧ Justified q target
        (Run.trace UdpDirector.step x₀.world ((queries ext config).labels x₀ pre))
      ∧ (x.world.tasks q).phase = .done (.ok target.response)
      ∧ route = (target.ip, target.routes)

/-- A route was read from the reply of a list for the default endpoint. -/
def Listed (config : Config) (acts : List Action) (d : ℕ) (route : Route) : Prop :=
  ∃ i reply counts endpoint, .forward d (.connection i (.list reply)) ∈ acts
    ∧ queryDefaultEndpoint config counts reply = .ok endpoint
    ∧ route = (endpoint.address, endpoint.portMappings)

/-- The two places that a route can come from. -/
def Sanctioned (x₀ : Deployment ext config) (acts : List Action) (x : Deployment ext config)
    (d : ℕ) (ip : IpAddr) (route : Route) : Prop :=
  Answered x₀ acts x d ip route ∨ Listed config acts d route

section

variable {x y x₀ : Deployment ext config} {d : ℕ} {action : Action} {acts : List Action}
  {ip : IpAddr} {route : Route}

/-- A step of the deployment is one step of a data plane at most. -/
lemma length_planeLabels_le (d : ℕ) (x : Deployment ext config) (action : Action) :
    (planeLabels d x action).length ≤ 1 := by
  cases action with
  | serve a =>
      cases a with
      | task q event =>
          rw [planeLabels]
          split
          · unfold halves
            split <;> simp
          · simp
      | tick d' nanos =>
          rw [planeLabels]
          split <;> simp
      | _ => simp [planeLabels]
  | forward d' a =>
      rw [planeLabels]
      split <;> simp

/-- A step of the router stems from a step of the data plane. -/
lemma exists_of_mem_routing {label : Router.Label} (h : x.step action = some y)
    (hlabel : label ∈ (routing ext config d).label x action) :
    ∃ a, planeLabels d x action = [a] ∧ label ∈ (x.plane d).routerLabels a := by
  obtain ⟨pre, a, post, u, v, heq, hpre, -, hmem, -⟩ := (Proxy.router config).exists_of_mem_labels
    ((dataPlane ext config d).abs_step trivial h) hlabel
  have hlength := length_planeLabels_le d x action
  change planeLabels d x action = pre ++ a :: post at heq
  rw [heq, List.length_append, List.length_cons] at hlength
  obtain rfl : pre = [] := List.length_eq_zero_iff.mp (by omega)
  obtain rfl : post = [] := List.length_eq_zero_iff.mp (by omega)
  obtain rfl := Option.some.inj hpre
  exact ⟨a, heq, hmem⟩

/-- The end of the upsert of a query is its install. -/
lemma action_of_queryInstall {q : TaskId} (h : x.step action = some y)
    (hlabels : planeLabels d x action = [.queryInstall q]) :
    action = .serve (.task q .install) := by
  cases action with
  | serve a =>
      cases a with
      | task q' event =>
          rw [planeLabels] at hlabels
          split at hlabels
          · unfold halves at hlabels
            split at hlabels <;> simp at hlabels
            rw [hlabels]
          · simp at hlabels
      | tick d' nanos =>
          rw [planeLabels] at hlabels
          split at hlabels <;> simp at hlabels
      | _ => simp [planeLabels] at hlabels
  | forward d' a =>
      obtain ⟨hforwarded, -⟩ := Option.ite_none_right_eq_some.mp h
      rw [planeLabels] at hlabels
      split at hlabels
      · obtain rfl := List.singleton_inj.mp hlabels
        cases hforwarded
      · simp at hlabels

/-- A query between the two halves of its upsert is about to install its target. -/
lemma exists_of_installing {w : World ext config} {q : TaskId} {u : Upsert}
    (h : w.installing q = some u) :
    ∃ a, ∃ target : Target ext config, (w.tasks q).phase = .running a (.installing target)
      ∧ u = { client := (w.tasks q).client, targetIp := target.ip, portMappings := target.routes }
      := by
  unfold World.installing at h
  split at h
  · rename_i a target hphase
    exact ⟨a, target, hphase, (Option.some.inj h).symm⟩
  · cases h

/-- An install of a director is the end of an upsert: of a query that succeeds, or of a packet
or a connection with a default endpoint. -/
lemma install_cases (h : x.step action = some y)
    (hlabel : .install ip route ∈ (routing ext config d).label x action) :
    (∃ q a, ∃ target : Target ext config, action = .serve (.task q .install)
        ∧ (x.world.tasks q).phase = .running a (.installing target)
        ∧ (x.world.tasks q).director = d ∧ (x.world.tasks q).client.ip = ip
        ∧ route = (target.ip, target.routes))
      ∨ ∃ i endpoint cached, ((x.plane d).connections i).phase = .installing endpoint cached
        ∧ route = (endpoint.address, endpoint.portMappings) := by
  obtain ⟨a, ha, hmem⟩ := exists_of_mem_routing h hlabel
  obtain ⟨u, hu, rfl, rfl⟩ := Proxy.exists_of_install_mem hmem
  unfold Proxy.Plane.installs at hu
  split at hu
  · rename_i i
    split at hu
    · rename_i endpoint cached hphase
      obtain rfl := Option.some.inj hu
      exact .inr ⟨i, endpoint, cached, hphase, rfl⟩
    · cases hu
  · rename_i q
    obtain rfl := action_of_queryInstall h ha
    obtain ⟨hd, hu⟩ := Option.ite_none_right_eq_some.mp hu
    obtain ⟨a, target, hphase, rfl⟩ := exists_of_installing hu
    exact .inl ⟨q, a, target, rfl, hphase, hd, rfl, rfl⟩
  · cases hu

/-- A run of the whole is a run of the world. -/
lemma run_world (hrun : Run.run step x acts = some y) :
    Run.run UdpDirector.step x.world ((queries ext config).labels x acts) = some y.world :=
  (queries ext config).run_labels trivial hrun

/-- A run of the whole is a run of each data plane. -/
lemma run_plane (hrun : Run.run step x acts = some y) (d : ℕ) :
    Run.run (Proxy.step config) (x.plane d) ((dataPlane ext config d).labels x acts)
      = some (y.plane d) :=
  (dataPlane ext config d).run_labels trivial hrun

/-- A list reply that a data plane receives is one of the deployment. -/
lemma listed_of_labels (hrun : Run.run step x₀ acts = some x) {endpoint : Endpoint}
    (h : Proxy.Listed config ((dataPlane ext config d).labels x₀ acts) endpoint) :
    Listed config acts d (endpoint.address, endpoint.portMappings) := by
  obtain ⟨i, reply, counts, hmem, hquery⟩ := h
  refine ⟨i, reply, counts, endpoint, ?_, hquery, rfl⟩
  have hfilter := (dataPlane ext config d).filter_labels (filter_planeLabels d) hrun
  have hforwarded := List.mem_filter.mpr
    ⟨hmem, show isForwarded (.connection i (.list reply)) from rfl⟩
  rw [hfilter] at hforwarded
  obtain ⟨action, haction, hlabel⟩ := List.mem_filterMap.mp hforwarded
  cases action with
  | serve a => cases hlabel
  | forward d' a =>
      obtain ⟨rfl, rfl⟩ : d' = d ∧ a = .connection i (.list reply) := by
        simpa [Action.forwarded] using hlabel
      exact haction

/-- An install answers the query, with the route of its target. -/
lemma done_of_install {q : TaskId} {a : Access} {target : Target ext config}
    (hphase : (x.world.tasks q).phase = .running a (.installing target))
    (h : x.step (.serve (.task q .install)) = some y) :
    (y.world.tasks q).phase = .done (.ok target.response)
      ∧ (y.world.directors (x.world.tasks q).director).sessions
        = (x.world.director q).sessions.insert (.legacyIp (x.world.tasks q).client.ip)
          (Session.newMultiPort target.ip target.routes (x.world.director q).now)
      ∧ (y.world.directors (x.world.tasks q).director).now = (x.world.director q).now := by
  have hworld : UdpDirector.step x.world (.task q .install) = some y.world :=
    (Run.run_singleton _ _).symm.trans ((queries ext config).abs_step trivial h)
  obtain ⟨phase, eff, hmoves, hy⟩ := exists_moves_of_step hworld
  rw [hy]
  rw [hphase] at hmoves
  cases hmoves with
  | install => exact ⟨World.phase_move _ _ _ _, World.sessions_move _ _ _ _, World.now_move ..⟩
  | refuse hstage hrefused => cases hstage

/-- **Every install of a director is sanctioned** by the end of the run. -/
lemma sanctioned_of_install (h₀ : x₀.Initial) (hrun : Run.run step x₀ acts = some x)
    (hmem : .install ip route ∈ (routing ext config d).labels x₀ acts) :
    Sanctioned x₀ acts x d ip route := by
  obtain ⟨pre, action, post, u, v, rfl, hpre, hstep, hlabel, hpost⟩ :=
    (routing ext config d).exists_of_mem_labels hrun hmem
  rcases install_cases hstep hlabel with
    ⟨q, a, target, rfl, hphase, rfl, rfl, rfl⟩ | ⟨i, endpoint, cached, hphase, rfl⟩
  · left
    have hstory := story_of_run h₀.world (run_world hpre) q
    rw [hphase] at hstory
    have hdone := (done_of_install hphase hstep).1
    refine ⟨pre, post, u, q, a, target, rfl, hpre, hphase, rfl, rfl, Cleared.justified hstory, ?_,
      rfl⟩
    rw [phase_of_ended (by rw [hdone]; rfl) (run_world hpost), hdone]
  · right
    have hlisted := (Proxy.listed_of_run (h₀.plane d) (h₀.cache d) (run_plane hpre d)).2 i endpoint
      (by rw [hphase]; rfl)
    obtain ⟨j, reply, counts, endpoint', hmem, hquery⟩ := listed_of_labels hpre hlisted
    exact ⟨j, reply, counts, endpoint', List.mem_append_left _ hmem, hquery⟩

/-- **Nothing is sent but where an answer or a list says**: in every run of any number of
directors, whatever is about to be sent for a client, and whatever connection is made for it,
goes to the address that a route has for the data port it came to; and this route is the one
that a successful query of the client's IP at that director has installed, as it resolved it from
the Pod it was assigned, or that of a default endpoint read from the reply of a list. -/
theorem sent_where_sanctioned (h₀ : x₀.Initial) (hrun : Run.run step x₀ acts = some x) (i : ℕ)
    {protocol : Protocol} {target : SocketAddr}
    (hheading : ((x.plane d).connections i).phase.heading = some (protocol, target)) :
    ∃ route, Sanctioned x₀ acts x d ((x.plane d).connections i).client.ip route
      ∧ Route.target route ((x.plane d).connections i).proxyPort protocol = some target := by
  obtain ⟨route, hmem, htarget⟩ :=
    Proxy.exists_install_of_heading (h₀.plane d) (run_plane hrun d) i hheading
  refine ⟨route, sanctioned_of_install h₀ hrun ?_, htarget⟩
  rw [routing, Run.Refinement.labels_comp trivial hrun]
  exact hmem

end

namespace Sample

/-- The director and its data plane once the packet is handed over. -/
def carried : Deployment UdpDirector.Sample.decoders UdpDirector.Sample.settings :=
  Run.reached step deployment answeredAndCarried isSome_carried

lemma run_carried : Run.run step deployment answeredAndCarried = some carried :=
  Run.run_reached _ _ _

lemma connection_carried :
    ((carried.plane 0).connections 0).client = Proxy.Sample.client
      ∧ ((carried.plane 0).connections 0).proxyPort = 7777
      ∧ ((carried.plane 0).connections 0).phase.heading = some (.udp, Proxy.Sample.backend) := by
  decide +kernel

end Sample

/-- The packet goes to the Pod of the query, on a route that is sanctioned. -/
theorem sent_where_sanctioned_sample :
    ∃ route, Sanctioned Sample.deployment Sample.answeredAndCarried Sample.carried 0
        Proxy.Sample.client.ip route
      ∧ Route.target route 7777 .udp = some Proxy.Sample.backend := by
  obtain ⟨hclient, hport, hheading⟩ := Sample.connection_carried
  have hsent := sent_where_sanctioned Sample.initial_deployment Sample.run_carried 0 hheading
  rwa [hclient, hport] at hsent

end Deployment

end UdpDirector
