import UdpDirector.Foundation.Refinement
import UdpDirector.Proxy.Provenance

/-!
What the data plane is for: a router of client IPs, and the data plane refines it.

* `Route`, `Router.step`: the specification. A route is installed for a client IP, it
  expires, and a packet or a connection is carried to the target that the route in force
  has for its data port;
* `TableOp.route_apply`: what an operation on the session table does to the routes;
* `Plane.routerLabels`, `router`: the steps of the data plane as steps of the router;
* `plane_refines_router`: every interleaving of packets, connections, upserts and cleanup
  is a run of the router, so whatever is sent goes to the target of a route that was in
  force at one moment between the arrival and the sending.
-/

namespace UdpDirector

/-! ### The router -/

/-- Where the packets of a client go: an address, and a port for each data port. -/
abbrev Route := String × Table (UInt16 × Protocol) UInt16

/-- The address that a route has for a data port. -/
def Route.target (route : Route) (proxyPort : UInt16) (protocol : Protocol) : Option SocketAddr :=
  (route.2.lookup (proxyPort, protocol)).bind fun port =>
    parseSocketAddr (targetText route.1 port)

lemma Session.target_route (session : Session) (proxyPort : UInt16) (protocol : Protocol) :
    Route.target session.route proxyPort protocol
      = (session.getTargetAddr proxyPort protocol).toOption := by
  rw [Route.target, Session.route, Session.getTargetAddr]
  cases session.portMappings.lookup (proxyPort, protocol) with
  | none => rfl
  | some port =>
      simp only [Option.bind_some]
      cases parseSocketAddr (targetText session.targetIp port) <;> rfl

namespace Router

/-- A step of the router. -/
inductive Label where
  | install (ip : IpAddr) (route : Route)
  | expire (ip : IpAddr)
  /-- A packet or a connection of a client at a data port is carried to a target. -/
  | carry (client : SocketAddr) (proxyPort : UInt16) (protocol : Protocol) (target : SocketAddr)

/-- The client IP whose route a step changes. -/
def Label.changes : Label → Option IpAddr
  | .install ip _ | .expire ip => some ip
  | .carry .. => none

/-- The target of a client at a data port. -/
def target (routes : IpAddr → Option Route) (client : SocketAddr) (proxyPort : UInt16)
    (protocol : Protocol) : Option SocketAddr :=
  (routes client.ip).bind fun route => route.target proxyPort protocol

/-- One step on the routes in force. -/
def step (routes : IpAddr → Option Route) : Label → Option (IpAddr → Option Route)
  | .install ip route => some (Function.update routes ip (some route))
  | .expire ip => some (Function.update routes ip none)
  | .carry client proxyPort protocol addr =>
      if target routes client proxyPort protocol = some addr then some routes else none

variable {routes routes' : IpAddr → Option Route} {labels : List Label} {ip : IpAddr}

/-- A step changes the route of one client IP at most. -/
lemma route_of_step {label : Label} (h : step routes label = some routes')
    (hip : label.changes ≠ some ip) : routes' ip = routes ip := by
  cases label with
  | install ip' route =>
      obtain rfl := Option.some.inj h
      exact Function.update_of_ne (fun heq => hip (congrArg some heq.symm)) _ _
  | expire ip' =>
      obtain rfl := Option.some.inj h
      exact Function.update_of_ne (fun heq => hip (congrArg some heq.symm)) _ _
  | carry =>
      obtain ⟨-, h⟩ := Option.ite_none_right_eq_some.mp h
      rw [Option.some.inj h]

/-- A route stays in force until a step changes it to another. -/
lemma route_of_run {route : Route} (h : Run.run step routes labels = some routes')
    (hip : ∀ label ∈ labels, label.changes = some ip → label = .install ip route)
    (hroute : routes ip = some route) : routes' ip = some route := by
  induction labels generalizing routes with
  | nil =>
      obtain rfl := Option.some.inj h
      exact hroute
  | cons label labels ih =>
      obtain ⟨routes₁, hstep, h⟩ := Option.bind_eq_some_iff.mp h
      refine ih h (fun l hl => hip l (List.mem_cons_of_mem _ hl)) ?_
      by_cases hchanges : label.changes = some ip
      · obtain rfl := hip label List.mem_cons_self hchanges
        obtain rfl := Option.some.inj hstep
        exact Function.update_self _ _ _
      · rwa [route_of_step hstep hchanges]

/-- A route in force at the end of a run was in force before it, or installed in it. -/
lemma install_mem_of_run {route : Route} (h : Run.run step routes labels = some routes')
    (hroute : routes' ip = some route) : routes ip = some route ∨ .install ip route ∈ labels := by
  induction labels generalizing routes with
  | nil =>
      obtain rfl := Option.some.inj h
      exact .inl hroute
  | cons label labels ih =>
      obtain ⟨routes₁, hstep, h⟩ := Option.bind_eq_some_iff.mp h
      rcases ih h with hmid | hmem
      · by_cases hip : label.changes = some ip
        · cases label with
          | install ip' route' =>
              obtain rfl := Option.some.inj hstep
              obtain rfl : ip' = ip := Option.some.inj hip
              rw [Function.update_self] at hmid
              rw [Option.some.inj hmid]
              exact .inr List.mem_cons_self
          | expire ip' =>
              obtain rfl := Option.some.inj hstep
              obtain rfl : ip' = ip := Option.some.inj hip
              rw [Function.update_self] at hmid
              cases hmid
          | carry => cases hip
        · rw [route_of_step hstep hip] at hmid
          exact .inl hmid
      · exact .inr (List.mem_cons_of_mem _ hmem)

/-- What is carried while the route of a client IP stays in force goes to its target. -/
lemma target_of_run {client addr : SocketAddr} {proxyPort : UInt16} {protocol : Protocol}
    {route : Route} (h : Run.run step routes labels = some routes')
    (hip : ∀ label ∈ labels, label.changes = some client.ip → label = .install client.ip route)
    (hroute : routes client.ip = some route)
    (hmem : .carry client proxyPort protocol addr ∈ labels) :
    route.target proxyPort protocol = some addr := by
  obtain ⟨pre, post, rfl⟩ := List.append_of_mem hmem
  rw [Run.run_append] at h
  obtain ⟨routes₁, hpre, h⟩ := Option.bind_eq_some_iff.mp h
  obtain ⟨routes₂, hcarry, -⟩ := Option.bind_eq_some_iff.mp h
  obtain ⟨htarget, -⟩ := Option.ite_none_right_eq_some.mp hcarry
  rwa [target, route_of_run hpre (fun l hl => hip l (List.mem_append_left _ hl)) hroute,
    Option.bind_some] at htarget

end Router

/-! ### The routes of the session table -/

/-- What an operation on the session table does to the routes. -/
def TableOp.reroute (routes : IpAddr → Option Route) : TableOp → IpAddr → Option Route
  | .insert u _ => Function.update routes u.client.ip (some (u.targetIp, u.portMappings))
  | .remove (.legacyIp ip) => Function.update routes ip none
  | _ => routes

section

variable {s : SessionState}

/-- No session is listed under an exact socket. -/
def SessionState.Legacy (s : SessionState) : Prop :=
  ∀ addr, s.sessions.lookup (.exactSocket addr) = none

lemma SessionState.Legacy.apply (h : s.Legacy) (op : TableOp) : (op.apply s).Legacy :=
  fun addr => TableOp.lookup_apply_of_none (h addr) fun _ _ _ hkey => by cases hkey

/-- A session altered in place keeps its route, if the change does. -/
lemma SessionState.route_alter {t : SessionState} {key : SessionKey} {f : Session → Session}
    (ht : t.sessions = Table.alter key f s.sessions)
    (hf : ∀ session, (f session).route = session.route) : t.route = s.route := by
  funext ip
  rw [route, route, get, get, ht]
  rcases eq_or_ne (SessionKey.legacyIp ip) key with rfl | hne
  · rw [Table.lookup_alter, Option.map_map]
    exact congrArg (Option.map · _) (funext hf)
  · rw [Table.lookup_alter_ne f _ hne]

/-- **The routes after an operation.** -/
lemma TableOp.route_apply (h : s.Legacy) (op : TableOp) :
    (op.apply s).route = op.reroute s.route := by
  cases op with
  | keep | shutdown => rfl
  | clear key => exact funext fun ip => s.route_clear key ip
  | insert u now => exact s.route_insert _ _
  | openSocket client proxyPort =>
      obtain heq | ⟨session, -, -, heq⟩ := TableOp.apply_openSocket proxyPort (h client)
      · rw [heq]
        rfl
      · rw [heq]
        exact SessionState.route_alter rfl fun _ => rfl
  | touch client now => exact SessionState.route_alter rfl fun _ => rfl
  | remove key =>
      funext ip
      cases key with
      | legacyIp ip' =>
          rw [SessionState.route, reroute]
          rcases eq_or_ne ip ip' with rfl | hne
          · rw [Function.update_self, TableOp.get_remove rfl, Option.map_none]
          · rw [Function.update_of_ne hne, TableOp.get_remove_ne (by simpa using hne),
              SessionState.route]
      | exactSocket addr =>
          rw [SessionState.route, TableOp.get_remove_ne (by simp)]
          rfl

/-- The target of a client is that of the route of its IP. -/
lemma SessionState.target_eq (h : s.Legacy) {client addr : SocketAddr} {proxyPort : UInt16}
    {protocol : Protocol} {session : Session} (hget : s.getByAddr client = some session)
    (haddr : session.getTargetAddr proxyPort protocol = .ok addr) :
    Router.target s.route client proxyPort protocol = some addr := by
  rw [getByAddr, resolve_of_legacy (h client)] at hget
  rw [Router.target, route, get, hget, Option.map_some, Option.bind_some, Session.target_route,
    haddr]
  rfl

end

/-! ### The data plane as a router -/

namespace Proxy

/-- What a step hands over, or expires. -/
def Plane.routerLabels (p : Plane) : Action → List Router.Label
  | .connection i (.forward bound) =>
      let c := p.connections i
      match c.phase, proxyPacketBidirectional p.table c.client c.proxyPort bound with
      | .forwarding _, .ok (_, target, _) => [.carry c.client c.proxyPort .udp target]
      | _, _ => []
  | .connection i .lookup =>
      let c := p.connections i
      match c.phase, p.table.getByAddr c.client with
      | .looking, some session =>
          match session.getTargetAddr c.proxyPort .tcp with
          | .ok target => [.carry c.client c.proxyPort .tcp target]
          | .error _ => []
      | _, _ => []
  | .cleanup .remove =>
      match p.sweep with
      | .removing (.legacyIp ip :: _) => if (p.table.get ip).isSome then [.expire ip] else []
      | _ => []
  | a =>
      match p.installs a with
      | some u => [.install u.client.ip (u.targetIp, u.portMappings)]
      | none => []

variable {config : Config} {p q : Plane} {a : Action}

/-- A packet that is handed over goes to the target of its client. -/
lemma exists_of_forward {s t : SessionState} {client target : SocketAddr} {proxyPort : UInt16}
    {bound : Bool} {id : SocketId}
    (h : proxyPacketBidirectional s client proxyPort bound = .ok (id, target, t)) :
    ∃ session, s.getByAddr client = some session
      ∧ session.getTargetAddr proxyPort .udp = .ok target := by
  unfold proxyPacketBidirectional at h
  split at h
  · cases h
  · rename_i session hget
    split at h
    · cases h
    · rename_i addr haddr
      split at h
      · cases h
      · split at h
        · cases h
        · obtain ⟨-, rfl, -⟩ : _ = id ∧ addr = target ∧ _ = t := by simpa using h
          exact ⟨session, hget, haddr⟩

/-- Only an install and a removal change a route. -/
lemma Performs.reroute_eq {op : TableOp} (h : Performs p a op) (hinstalls : p.installs a = none)
    (hremove : a ≠ .cleanup .remove) (routes : IpAddr → Option Route) :
    op.reroute routes = routes := by
  cases h with
  | insert hu =>
      rw [hinstalls] at hu
      cases hu
  | remove => exact absurd rfl hremove
  | _ => rfl

/-- An install is one of the router. -/
lemma routerLabels_of_installs {u : Upsert} (h : p.installs a = some u) :
    p.routerLabels a = [.install u.client.ip (u.targetIp, u.portMappings)] := by
  unfold Plane.routerLabels
  split
  · cases h
  · cases h
  · cases h
  · rw [h]

/-- An install of the router is one of the data plane. -/
lemma exists_of_install_mem {ip : IpAddr} {route : Route}
    (h : .install ip route ∈ p.routerLabels a) :
    ∃ u, p.installs a = some u ∧ ip = u.client.ip ∧ route = (u.targetIp, u.portMappings) := by
  unfold Plane.routerLabels at h
  split at h
  · dsimp only at h
    split at h <;> simp at h
  · dsimp only at h
    split at h
    · split at h <;> simp at h
    · simp at h
  · split at h
    · split at h <;> simp at h
    · simp at h
  · split at h
    · rename_i u hu
      obtain ⟨rfl, rfl⟩ := Router.Label.install.inj (List.mem_singleton.mp h)
      exact ⟨u, hu, rfl, rfl⟩
    · simp at h

/-- What is handed over goes to the target of its client. -/
lemma run_carry (h : p.table.Legacy) {client addr : SocketAddr} {proxyPort : UInt16}
    {protocol : Protocol} {session : Session} (hget : p.table.getByAddr client = some session)
    (haddr : session.getTargetAddr proxyPort protocol = .ok addr) :
    Run.run Router.step p.table.route [.carry client proxyPort protocol addr]
      = some p.table.route := by
  rw [Run.run_singleton, Router.step, if_pos (SessionState.target_eq h hget haddr)]

/-- A step that installs nothing and removes nothing carries at most. -/
lemma run_routerLabels_of_installs (h : p.table.Legacy) (hinstalls : p.installs a = none)
    (hremove : a ≠ .cleanup .remove) :
    Run.run Router.step p.table.route (p.routerLabels a) = some p.table.route := by
  unfold Plane.routerLabels
  split
  · dsimp only
    split
    · rename_i hforward
      obtain ⟨session, hget, haddr⟩ := exists_of_forward hforward
      exact run_carry h hget haddr
    · rfl
  · dsimp only
    split
    · rename_i hget
      split
      · rename_i haddr
        exact run_carry h hget haddr
      · rfl
    · rfl
  · exact absurd rfl hremove
  · rw [hinstalls]
    rfl

/-- **A step of the data plane is a step of the router**, or none. -/
lemma run_routerLabels (h : p.table.Legacy) (hstep : step config p a = some q) :
    Run.run Router.step p.table.route (p.routerLabels a) = some q.table.route := by
  rcases eq_or_ne a (.cleanup .remove) with rfl | hremove
  · have hsweeps := sweeps_of_sweepStep hstep
    generalize hsweep : p.sweep = sweep at hsweeps
    cases hsweeps with
    | @remove key toRemove session hlookup =>
        cases key with
        | legacyIp ip =>
            have hsome : (p.table.get ip).isSome := by rw [SessionState.get, hlookup]; rfl
            have hroute := TableOp.route_apply h (.remove (.legacyIp ip))
            rw [Plane.routerLabels, hsweep]
            simp only [hsome, if_true, Run.run_singleton]
            exact congrArg some hroute.symm
        | exactSocket addr =>
            rw [h addr] at hlookup
            cases hlookup
    | @gone key toRemove hlookup =>
        rw [Plane.routerLabels, hsweep]
        cases key with
        | legacyIp ip =>
            have hnone : (p.table.get ip).isSome = false := by rw [SessionState.get, hlookup]; rfl
            simp only [hnone]
            rfl
        | exactSocket addr => rfl
  · obtain ⟨op, hop, htable, -⟩ := performs_of_step hstep
    cases hinstalls : p.installs a with
    | none =>
        rw [run_routerLabels_of_installs h hinstalls hremove, htable, TableOp.route_apply h,
          hop.reroute_eq hinstalls hremove]
    | some u =>
        rw [routerLabels_of_installs hinstalls, Run.run_singleton,
          (performs_insert_of_step hstep hinstalls).1, TableOp.route_apply h]
        rfl

/-- The data plane as a router. -/
def router (config : Config) : Run.Refinement (step config) Router.step where
  inv p := p.table.Legacy
  abs p := p.table.route
  label p a := p.routerLabels a
  inv_step h hstep := by
    obtain ⟨op, -, htable, -⟩ := performs_of_step hstep
    rw [htable]
    exact h.apply op
  abs_step := run_routerLabels

lemma legacy_initial {p₀ : Plane} (h₀ : p₀.Initial) : p₀.table.Legacy := by
  rw [h₀.table]
  exact fun _ => rfl

/-- A run from the start is one of the router, from no routes. -/
lemma run_router_of_initial {p₀ : Plane} {acts : List Action} (h₀ : p₀.Initial)
    (hrun : Run.run (step config) p₀ acts = some p) :
    Run.run Router.step (fun _ => none) ((router config).labels p₀ acts)
      = some p.table.route := by
  have hspec := (router config).run_labels (legacy_initial h₀) hrun
  have hempty : p₀.table.route = fun _ => none := by
    rw [h₀.table]
    rfl
  rwa [show (router config).abs p₀ = p₀.table.route from rfl, hempty] at hspec

/-! ### Whatever is sent -/

/-- Where a task is about to send a packet, or to connect. -/
def Phase.heading : Phase → Option (Protocol × SocketAddr)
  | .sending _ _ target => some (.udp, target)
  | .connecting target | .copying target => some (.tcp, target)
  | _ => none

/-- At a moment since its arrival, the route of a client had a target. -/
def WasInForce (config : Config) (p₀ : Plane) (acts : List Action) (i : ℕ) (c : Connection)
    (protocol : Protocol) (target : SocketAddr) : Prop :=
  ∃ pre post u, acts = pre ++ post ∧ Run.run (step config) p₀ pre = some u
    ∧ (u.connections i).phase ≠ .arrived
    ∧ Router.target u.table.route c.client c.proxyPort protocol = some target

lemma WasInForce.concat {p₀ : Plane} {acts : List Action} {i : ℕ} {c : Connection}
    {protocol : Protocol} {target : SocketAddr}
    (h : WasInForce config p₀ acts i c protocol target) (a : Action) :
    WasInForce config p₀ (acts ++ [a]) i c protocol target := by
  obtain ⟨pre, post, u, rfl, hu⟩ := h
  exact ⟨pre, post ++ [a], u, List.append_assoc _ _ _, hu⟩

lemma heading_routed (c : Connection) (first : Bool) : (c.routed first).heading = none := by
  rcases c.routed_eq first with heq | heq <;> rw [heq] <;> rfl

lemma heading_supported (c : Connection) (endpoint : Endpoint) :
    (c.supported endpoint).heading = none := by
  rcases c.supported_eq endpoint with heq | ⟨error, heq⟩ <;> rw [heq] <;> rfl

/-- A task comes to head for an address by the target of its client, or keeps it. -/
lemma Moves.heading {c : Connection} {old phase : Phase} {event : Event} {effect : Effect}
    {protocol : Protocol} {target : SocketAddr} (h : Moves config p c old event phase effect)
    (hlegacy : p.table.Legacy) (hheading : phase.heading = some (protocol, target)) :
    old.heading = some (protocol, target)
      ∨ old ≠ .arrived
        ∧ Router.target p.table.route c.client c.proxyPort protocol = some target := by
  cases h with
  | forward hforward =>
      obtain ⟨rfl, rfl⟩ := Prod.mk.inj (Option.some.inj hheading)
      obtain ⟨session, hget, haddr⟩ := exists_of_forward hforward
      exact .inr ⟨by simp, SessionState.target_eq hlegacy hget haddr⟩
  | lookup hget htarget =>
      obtain ⟨rfl, rfl⟩ := Prod.mk.inj (Option.some.inj hheading)
      exact .inr ⟨by simp, SessionState.target_eq hlegacy hget htarget⟩
  | connected => exact .inl hheading
  | found | count =>
      rw [heading_routed] at hheading
      cases hheading
  | query | store =>
      rw [heading_supported] at hheading
      cases hheading
  | @fault store reply fault hquery => cases fault <;> cases hheading
  | @sent first => cases first <;> cases hheading
  | _ => cases hheading

/-- What a task is about to send goes to a target that was in force since the arrival. -/
lemma wasInForce_of_run {p₀ : Plane} {acts : List Action} (h₀ : p₀.Initial)
    (hrun : Run.run (step config) p₀ acts = some p) (i : ℕ) {protocol : Protocol}
    {target : SocketAddr} (hheading : (p.connections i).phase.heading = some (protocol, target)) :
    WasInForce config p₀ acts i (p.connections i) protocol target := by
  refine Run.run_induction (P := fun as q =>
    (q.connections i).phase.heading = some (protocol, target) →
      WasInForce config p₀ as i (q.connections i) protocol target) ?_ ?_ hrun hheading
  · intro hheading
    rw [h₀.connections i] at hheading
    cases hheading
  · intro as t a u ht ih hstep hheading
    have hlegacy : t.table.Legacy := (router config).inv_run (legacy_initial h₀) ht
    rcases moves_or_others hstep i with ⟨event, phase, effect, rfl, hmoves, rfl⟩ | ⟨-, hsame⟩
    · rw [connections_move, Function.update_self] at hheading ⊢
      rcases hmoves.heading hlegacy hheading with hold | ⟨harrived, htarget⟩
      · exact (ih hold).concat _
      · exact ⟨as, [.connection i event], t, rfl, ht, harrived, htarget⟩
    · rw [hsame] at hheading ⊢
      exact (ih hheading).concat a

/-- **The data plane refines the router**: every interleaving of packets, connections,
upserts and cleanup from the start is a run of the router that ends with the routes of the
table; and what a task is about to send, or the connection it makes, goes to a target that
its client had at some moment since the packet or the connection arrived. -/
theorem plane_refines_router {p₀ : Plane} {acts : List Action} (h₀ : p₀.Initial)
    (hrun : Run.run (step config) p₀ acts = some p) :
    Run.run Router.step (fun _ => none) ((router config).labels p₀ acts) = some p.table.route
      ∧ ∀ i protocol target, (p.connections i).phase.heading = some (protocol, target) →
        WasInForce config p₀ acts i (p.connections i) protocol target :=
  ⟨run_router_of_initial h₀ hrun, fun i _ _ hheading => wasInForce_of_run h₀ hrun i hheading⟩

/-- What a task is about to send goes to the target of a route installed for its client. -/
lemma exists_install_of_heading {p₀ : Plane} {acts : List Action} (h₀ : p₀.Initial)
    (hrun : Run.run (step config) p₀ acts = some p) (i : ℕ) {protocol : Protocol}
    {target : SocketAddr} (hheading : (p.connections i).phase.heading = some (protocol, target)) :
    ∃ route, .install (p.connections i).client.ip route ∈ (router config).labels p₀ acts
      ∧ Route.target route (p.connections i).proxyPort protocol = some target := by
  obtain ⟨pre, post, u, rfl, hu, -, htarget⟩ := wasInForce_of_run h₀ hrun i hheading
  obtain ⟨route, hroute, htarget⟩ := Option.bind_eq_some_iff.mp htarget
  refine ⟨route, ?_, htarget⟩
  rw [(router config).labels_append hu]
  exact List.mem_append_left _
    ((Router.install_mem_of_run (run_router_of_initial h₀ hu) hroute).resolve_left (by simp))

namespace Sample

/-- A query is answered, and a packet of the client is handed a socket. -/
def carried : List Action :=
  query "10.0.0.1" ++ [.connection 0 .arrive, .connection 0 (.forward true)]

def afterCarried : Plane := reach plane carried (by decide +kernel)

end Sample

/-- The packet goes to the Pod of the query, whose route was in force when it was handed over. -/
theorem plane_refines_router_sample :
    WasInForce Sample.settings Sample.plane Sample.carried 0 (Sample.afterCarried.connections 0)
      .udp Sample.backend :=
  (plane_refines_router Sample.initial_plane (Sample.run_reach _ _ _)).2 0 .udp Sample.backend
    (by decide +kernel)

end Proxy

end UdpDirector
