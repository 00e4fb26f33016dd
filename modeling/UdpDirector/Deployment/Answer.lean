import UdpDirector.Deployment.Routing
import UdpDirector.Proxy.Expiry

/-!
What a client gets for a query that is answered with a success.

* `exists_heading_of_arrived`: a packet or a connection that finds a route goes to its
  target, by two steps of its own that are enabled;
* `not_expire_of_unexpired`: a session does not expire within the timeout;
* `answer_carried`: from the answer of a query on, everything of the client's IP goes to the
  Pod that the query resolved, until another route is installed for the IP or the session
  times out.
-/

namespace UdpDirector

namespace Proxy

variable {config : Config} {p q : Plane} {acts : List Action}

/-- A packet for which there is a route is handed a socket. -/
lemma exists_proxyPacketBidirectional {s : SessionState} {client addr : SocketAddr}
    {proxyPort : UInt16} {session : Session} (hget : s.getByAddr client = some session)
    (haddr : session.getTargetAddr proxyPort .udp = .ok addr) :
    ∃ id t, proxyPacketBidirectional s client proxyPort true = .ok (id, addr, t) := by
  have hlookup : s.sessions.lookup (s.resolve client) = some session := hget
  obtain ⟨id, t, hcreate⟩ : ∃ id t, s.getOrCreate (s.resolve client) proxyPort client
      = some (id, t) := by
    rw [SessionState.getOrCreate, hlookup, Option.bind_eq_bind, Option.bind_some]
    split <;> exact ⟨_, _, rfl⟩
  refine ⟨id, t, ?_⟩
  rw [proxyPacketBidirectional, hget]
  simp only [haddr, hcreate]
  cases session.udpSockets.lookup (proxyPort, client.port) <;> rfl

/-- A client with a target has a session that leads there. -/
lemma exists_of_target {s : SessionState} (h : s.Legacy) {client addr : SocketAddr}
    {proxyPort : UInt16} {protocol : Protocol}
    (htarget : Router.target s.route client proxyPort protocol = some addr) :
    ∃ session, s.getByAddr client = some session
      ∧ session.getTargetAddr proxyPort protocol = .ok addr := by
  obtain ⟨route, hroute, htarget⟩ := Option.bind_eq_some_iff.mp htarget
  obtain ⟨session, hget, rfl⟩ := Option.map_eq_some_iff.mp hroute
  refine ⟨session, ?_, ?_⟩
  · rw [SessionState.getByAddr, SessionState.resolve_of_legacy (h client)]
    exact hget
  · rw [Session.target_route] at htarget
    cases haddr : session.getTargetAddr proxyPort protocol with
    | error error =>
        rw [haddr] at htarget
        cases htarget
    | ok addr' =>
        rw [haddr] at htarget
        rw [Option.some.inj htarget]

/-- An enabled event of a task is performed. -/
lemma step_of_advance {i : ℕ} {event : Event} {phase : Phase} {effect : Effect}
    (h : advance config p (p.connections i) event = some (phase, effect)) :
    ∃ q, step config p (.connection i event) = some q ∧ q.table = effect.table p
      ∧ q.connections i = { p.connections i with phase } := by
  refine ⟨_, by rw [step, h]; rfl, table_move p effect i phase, ?_⟩
  rw [connections_move, Function.update_self]

/-- **A packet or a connection that finds a route goes to its target.** -/
lemma exists_heading_of_arrived (h : p.table.Legacy) {i : ℕ} {addr : SocketAddr}
    (hphase : (p.connections i).phase = .arrived)
    (htarget : Router.target p.table.route (p.connections i).client (p.connections i).proxyPort
      (p.connections i).protocol = some addr) :
    ∃ event q, Run.run (step config) p [.connection i .arrive, .connection i event] = some q
      ∧ (q.connections i).phase.heading = some ((p.connections i).protocol, addr) := by
  obtain ⟨session, hget, haddr⟩ := exists_of_target h htarget
  obtain ⟨p₁, harrive, htable, hconnection⟩ :=
    step_of_advance (show advance config p (p.connections i) .arrive
      = some ((p.connections i).routed false, .none) by simp only [advance, hphase, hget])
  change p₁.table = p.table at htable
  -- the second step finds the session where the first one left it
  have hsecond : ∃ event phase effect, advance config p₁ (p₁.connections i) event
      = some (phase, effect) ∧ phase.heading = some ((p.connections i).protocol, addr) := by
    rw [hconnection]
    cases hprotocol : (p.connections i).protocol with
    | udp =>
        rw [hprotocol] at haddr
        obtain ⟨id, t, hforward⟩ := exists_proxyPacketBidirectional hget haddr
        exact ⟨.forward true, .sending false id addr, .sessions t,
          by simp only [advance, Connection.routed, hprotocol, htable, hforward], rfl⟩
    | tcp =>
        rw [hprotocol] at haddr
        exact ⟨.lookup, .connecting addr, .none,
          by simp only [advance, Connection.routed, hprotocol, htable, hget, haddr], rfl⟩
  obtain ⟨event, phase, effect, hadvance, hheading⟩ := hsecond
  obtain ⟨q, hq, -, hfinal⟩ := step_of_advance hadvance
  refine ⟨event, q, ?_, by rw [hfinal]; exact hheading⟩
  rw [Run.run_cons, harrive, Option.bind_some, Run.run_singleton, hq]

/-- The router expires a route when the cleanup comes to its key. -/
lemma toRemove_of_expire {ip : IpAddr} {a : Action} (h : .expire ip ∈ p.routerLabels a) :
    .legacyIp ip ∈ p.sweep.toRemove := by
  unfold Plane.routerLabels at h
  split at h
  · dsimp only at h
    split at h <;> simp at h
  · dsimp only at h
    split at h
    · split at h <;> simp at h
    · simp at h
  · split at h
    · rename_i hsweep
      split at h
      · obtain rfl : ip = _ := by simpa using h
        rw [hsweep]
        exact List.mem_cons_self
      · simp at h
    · simp at h
  · split at h <;> simp at h

/-- A session does not expire within the timeout. -/
lemma not_expire_of_unexpired {since : Instant} {ip : IpAddr}
    (hp : Unexpired since (.legacyIp ip) p) (hpast : since ≤ p.now)
    (hrun : Run.run (step config) p acts = some q)
    (hnow : q.now ≤ since + config.sessionTimeoutSeconds * 10 ^ 9) :
    .expire ip ∉ (router config).labels p acts := by
  intro hmem
  obtain ⟨pre, a, post, u, v, rfl, hpre, hstep, hlabel, hpost⟩ :=
    (router config).exists_of_mem_labels hrun hmem
  have hlater := (now_le_of_step hstep).trans (now_le_of_run hpost)
  have hrenews : Run.Along (step config) (fun r a => r.Renews a (.legacyIp ip) → since ≤ r.now)
      p pre := by
    refine Run.along_of_invariant (I := fun r : Plane => since ≤ r.now) ?_ ?_ hpast pre
    · exact fun _ _ _ hr h => hr.trans (now_le_of_step h)
    · exact fun _ _ hr _ => hr
  exact (hp.run hrenews hpre (hlater.trans hnow)).spared (toRemove_of_expire hlabel)

end Proxy

namespace Deployment

variable {ext : Externals} {config : Config}

section

variable {x y z x₀ : Deployment ext config} {d : ℕ} {acts pre post : List Action}

/-- Steps of the tasks of a data plane are steps of the deployment. -/
lemma exists_run_forward {as : List Proxy.Action} {p : Proxy.Plane}
    (h : Run.run (Proxy.step config) (x.plane d) as = some p)
    (has : ∀ a ∈ as, isForwarded a = true) :
    ∃ y, Run.run step x (as.map (.forward d)) = some y ∧ y.plane d = p := by
  induction as generalizing x with
  | nil => exact ⟨x, rfl, Option.some.inj h⟩
  | cons a as ih =>
      obtain ⟨p₁, hp₁, h⟩ := Option.bind_eq_some_iff.mp h
      have ha := has a List.mem_cons_self
      obtain ⟨y, hy⟩ : ∃ y, x.step (.forward d a) = some y := by
        rw [step, if_pos ha, hp₁]
        exact ⟨_, rfl⟩
      have hplane : y.plane d = p₁ := by
        have hrun := (dataPlane ext config d).abs_step trivial hy
        rw [show (dataPlane ext config d).label x (.forward d a) = [a] from if_pos rfl,
          Run.run_singleton] at hrun
        exact (Option.some.inj (hp₁.symm.trans hrun)).symm
      rw [← hplane] at h
      obtain ⟨z, hz, hfinal⟩ := ih h fun b hb => has b (List.mem_cons_of_mem _ hb)
      exact ⟨z, by rw [List.map_cons, Run.run_cons, hy, Option.bind_some, hz], hfinal⟩

/-- The routes of a director are those of its data plane. -/
lemma run_routing (h : (x.plane d).table.Legacy) (hrun : Run.run step x acts = some y) :
    Run.run Router.step (x.plane d).table.route ((routing ext config d).labels x acts)
      = some (y.plane d).table.route :=
  (routing ext config d).run_labels ⟨trivial, h⟩ hrun

/-- A step of the requests leaves what the data planes have to themselves. -/
lemma own_of_serve {a : UdpDirector.Action} (h : x.step (.serve a) = some y) : y.own = x.own := by
  obtain ⟨-, h⟩ := Option.ite_none_right_eq_some.mp h
  obtain ⟨world, -, rfl⟩ := Option.map_eq_some_iff.mp h
  rfl

/-- The answer of a query puts a fresh session with its route into the table. -/
lemma unexpired_of_install {q : TaskId} {a : Access} {target : Target ext config}
    (hphase : (x.world.tasks q).phase = .running a (.installing target))
    (hstep : x.step (.serve (.task q .install)) = some y) (hd : (x.world.tasks q).director = d)
    (hspared : .legacyIp (x.world.tasks q).client.ip ∉ (x.plane d).sweep.toRemove) :
    (y.plane d).table.route (x.world.tasks q).client.ip = some (target.ip, target.routes)
      ∧ Proxy.Unexpired (y.plane d).now (.legacyIp (x.world.tasks q).client.ip) (y.plane d) := by
  subst hd
  obtain ⟨-, hsessions, hnow⟩ := done_of_install hphase hstep
  have htable : (y.plane (x.world.tasks q).director).table
      = (x.world.director q).sessions.insert (.legacyIp (x.world.tasks q).client.ip)
        (Session.newMultiPort target.ip target.routes (x.world.director q).now) := hsessions
  refine ⟨?_, ⟨⟨Session.newMultiPort target.ip target.routes (x.world.director q).now, ?_, ?_⟩,
    ?_⟩⟩
  · rw [htable, SessionState.route_insert, Function.update_self]
    rfl
  · rw [htable, SessionState.insert, AList.lookup_insert]
  · exact hnow.le
  · rwa [show (y.plane (x.world.tasks q).director).sweep
      = (x.plane (x.world.tasks q).director).sweep by simp only [plane, own_of_serve hstep]]

/-- Where no other route is installed for a client IP and its session does not expire, nothing
changes its route. -/
lemma eq_install_of_changes {ip : IpAddr} {route : Route} {label : Router.Label}
    (hpost : Run.run step y post = some z)
    (hunexpired : Proxy.Unexpired (y.plane d).now (.legacyIp ip) (y.plane d))
    (hnow : (z.plane d).now ≤ (y.plane d).now + config.sessionTimeoutSeconds * 10 ^ 9)
    (halone : ∀ route', .install ip route' ∈ (routing ext config d).labels y post → route' = route)
    (hlabel : label ∈ (routing ext config d).labels y post) (hchanges : label.changes = some ip) :
    label = .install ip route := by
  cases label with
  | install ip' route' =>
      obtain rfl := Option.some.inj hchanges
      rw [halone route' hlabel]
  | expire ip' =>
      obtain rfl := Option.some.inj hchanges
      rw [routing, Run.Refinement.labels_comp trivial hpost] at hlabel
      exact absurd hlabel
        (Proxy.not_expire_of_unexpired hunexpired le_rfl (run_plane hpost d) hnow)
  | carry => cases hchanges

/-- **An answered client is served by the Pod of its answer**: once a query is answered with
a success, the address and ports that it resolved are what every packet and every connection
of the client's IP goes to at the data ports that have a backend port, and each of them gets
there by two steps of its own. This holds at that director in every run, as long as no other
route is installed for the IP, for the session timeout at least, unless the cleanup was
already about to remove the session that the answer replaced. -/
theorem answer_carried {q : TaskId} {a : Access} {target : Target ext config}
    (h₀ : x₀.Initial) (hpre : Run.run step x₀ pre = some x)
    (hphase : (x.world.tasks q).phase = .running a (.installing target))
    (hstep : x.step (.serve (.task q .install)) = some y)
    (hpost : Run.run step y post = some z) (hd : (x.world.tasks q).director = d)
    (hspared : .legacyIp (x.world.tasks q).client.ip ∉ (x.plane d).sweep.toRemove)
    (hnow : (z.plane d).now ≤ (y.plane d).now + config.sessionTimeoutSeconds * 10 ^ 9)
    (halone : ∀ route, .install (x.world.tasks q).client.ip route
      ∈ (routing ext config d).labels y post → route = (target.ip, target.routes)) :
    (y.world.tasks q).phase = .done (.ok target.response)
      ∧ (∃ services, resolve a target.choice services = .ok target)
      ∧ (∀ client proxyPort protocol addr, client.ip = (x.world.tasks q).client.ip →
        .carry client proxyPort protocol addr ∈ (routing ext config d).labels y post →
          Route.target (target.ip, target.routes) proxyPort protocol = some addr)
      ∧ ∀ i addr, ((z.plane d).connections i).client.ip = (x.world.tasks q).client.ip →
        ((z.plane d).connections i).phase = .arrived →
        Route.target (target.ip, target.routes) ((z.plane d).connections i).proxyPort
          ((z.plane d).connections i).protocol = some addr →
        ∃ event z', Run.run step z
            [.forward d (.connection i .arrive), .forward d (.connection i event)] = some z'
          ∧ ((z'.plane d).connections i).phase.heading
            = some (((z.plane d).connections i).protocol, addr) := by
  have hresolved := resolved_of_run h₀.world (run_world hpre) q
  rw [hphase] at hresolved
  obtain ⟨hroute, hunexpired⟩ := unexpired_of_install hphase hstep hd hspared
  have hlegacy : (y.plane d).table.Legacy := (Proxy.router config).inv_run
    (Proxy.legacy_initial (h₀.plane d)) (run_plane (Run.run_concat hpre hstep) d)
  have hlabels := run_routing hlegacy hpost
  have hkept : ∀ label ∈ (routing ext config d).labels y post,
      label.changes = some (x.world.tasks q).client.ip →
        label = .install (x.world.tasks q).client.ip (target.ip, target.routes) :=
    fun _ => eq_install_of_changes hpost hunexpired hnow halone
  refine ⟨(done_of_install hphase hstep).1,
    Resolved.exists_resolve hresolved h₀.world (run_world hpre) hphase, ?_, ?_⟩
  · intro client proxyPort protocol addr hip hcarry
    rw [← hip] at hkept hroute
    exact Router.target_of_run hlabels hkept hroute hcarry
  · intro i addr hip harrived htarget
    have hlegacy' : (z.plane d).table.Legacy :=
      (Proxy.router config).inv_run hlegacy (run_plane hpost d)
    have hroute' := Router.route_of_run hlabels hkept hroute
    obtain ⟨event, p, hp, hheading⟩ := Proxy.exists_heading_of_arrived hlegacy'
      harrived
        (show Router.target (z.plane d).table.route _ _ _ = some addr by
          rw [Router.target, hip, hroute']; exact htarget)
    obtain ⟨z', hz', hplane⟩ := exists_run_forward hp (by simp [isForwarded])
    exact ⟨event, z', hz', by rw [hplane]; exact hheading⟩

end

namespace Sample

/-- The query about to be answered. -/
def beforeAnswer : Deployment UdpDirector.Sample.decoders UdpDirector.Sample.settings :=
  Run.reached step deployment upToInstall (by decide +kernel)

/-- The query answered. -/
def answered : Deployment UdpDirector.Sample.decoders UdpDirector.Sample.settings :=
  Run.reached step beforeAnswer [.serve (.task 0 .install)] (by decide +kernel)

/-- The director 300 seconds after the answer. -/
def waited : Deployment UdpDirector.Sample.decoders UdpDirector.Sample.settings :=
  Run.reached step answered [.serve (.tick 0 (300 * 10 ^ 9))] (by decide +kernel)

lemma run_beforeAnswer : Run.run step deployment upToInstall = some beforeAnswer :=
  Run.run_reached _ _ _

lemma step_answered : beforeAnswer.step (.serve (.task 0 .install)) = some answered :=
  (Run.run_singleton _ _).symm.trans (Run.run_reached _ _ _)

lemma run_waited :
    Run.run step answered [.serve (.tick 0 (300 * 10 ^ 9))] = some waited :=
  Run.run_reached _ _ _

/-- The client and the cleanup before the answer, and the route of the answer. -/
lemma facts_beforeAnswer :
    (beforeAnswer.world.tasks 0).director = 0
      ∧ (beforeAnswer.world.tasks 0).client.ip = Proxy.Sample.client.ip
      ∧ .legacyIp Proxy.Sample.client.ip ∉ (beforeAnswer.plane 0).sweep.toRemove
      ∧ ((beforeAnswer.world.installing 0).bind fun u =>
          Route.target (u.targetIp, u.portMappings) 7777 .udp) = some Proxy.Sample.backend := by
  decide +kernel

/-- The time and the packet 300 seconds after the answer. -/
lemma facts_waited :
    (waited.plane 0).now ≤ (answered.plane 0).now
        + UdpDirector.Sample.settings.sessionTimeoutSeconds * 10 ^ 9
      ∧ ((waited.plane 0).connections 0).client = Proxy.Sample.client
      ∧ ((waited.plane 0).connections 0).proxyPort = 7777
      ∧ ((waited.plane 0).connections 0).protocol = .udp
      ∧ ((routing UdpDirector.Sample.decoders UdpDirector.Sample.settings 0).labels answered
          [.serve (.tick 0 (300 * 10 ^ 9))]).isEmpty = true := by
  decide +kernel

end Sample

/-- A packet goes to the Pod of the query 300 seconds later. -/
theorem answer_carried_sample :
    ∃ event z', Run.run step Sample.waited
        [.forward 0 (.connection 0 .arrive), .forward 0 (.connection 0 event)] = some z'
      ∧ ((z'.plane 0).connections 0).phase.heading = some (.udp, Proxy.Sample.backend) := by
  obtain ⟨hd, hip, hspared, htarget⟩ := Sample.facts_beforeAnswer
  obtain ⟨hnow, hclient, hport, hprotocol, hlabels⟩ := Sample.facts_waited
  obtain ⟨u, hu, htarget⟩ := Option.bind_eq_some_iff.mp htarget
  obtain ⟨a, target, hphase, rfl⟩ := exists_of_installing hu
  have hcarried := (answer_carried Sample.initial_deployment Sample.run_beforeAnswer hphase
    Sample.step_answered Sample.run_waited hd (by rwa [hip]) hnow
    (fun route hroute => by rw [List.isEmpty_iff.mp hlabels] at hroute; cases hroute)).2.2.2
      0 Proxy.Sample.backend
      (by rw [hclient, hip]) rfl (by rwa [hport, hprotocol])
  rwa [hprotocol] at hcarried

end Deployment

end UdpDirector
