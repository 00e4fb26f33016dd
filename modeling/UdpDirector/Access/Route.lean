import UdpDirector.Access.Outcome

/-!
The route of a successful query, as the data proxy will use it.

* `install_of_success`: a success is brought about by the installation of a target, which by
  `resolved_of_run` was extracted from the resource that the query chose;
* `lookup_collectRoutes`: the port stored for a data port is the one extracted
  for the last data port with its number and protocol;
* `Leads`: `get_target_addr` gives the extracted address and port;
* `route_leads_iff`: the routes of a success lead there exactly if the address is
  IPv4 text and data ports that share number and protocol share their backend
  port. An IPv6 address is written without the brackets that its port needs.
-/

namespace UdpDirector

variable {ext : Externals} {config : Config}

/-! ### The installation of a success -/

/-- A success is brought about by an installation. -/
lemma install_of_success {w w' : World ext config} {q : TaskId} {action : Action}
    (hstep : step w action = some w') (hw : w.succeeded q = false) (hw' : w'.succeeded q = true) :
    action = .task q .install ∧ ∃ a target, (w.tasks q).phase = .running a (.installing target)
      ∧ w' = w.move q (.done (.ok target.response))
        (.sessions ((w.director q).sessions.insert (.legacyIp (w.tasks q).client.ip)
          (Session.newMultiPort target.ip target.routes (w.director q).now))) := by
  obtain ⟨event, p', eff, rfl, hmoves, rfl⟩ | ⟨-, htask⟩ := moves_or_others hstep q
  · rw [World.succeeded, World.phase_move] at hw'
    generalize hphase : (w.tasks q).phase = phase at hmoves
    cases hmoves with
    | install => exact ⟨rfl, _, _, rfl, rfl⟩
    | reject hrefused => cases hrefused <;> simp [Phase.succeeded] at hw'
    | refuse hstage hrefused => cases hrefused <;> simp [Phase.succeeded] at hw'
    | _ => simp [Phase.succeeded] at hw'
  · rw [World.succeeded, htask, ← World.succeeded, hw] at hw'
    cases hw'

/-! ### The ports of a route -/

/-- Data ports that share number and protocol share their backend port. -/
def SamePorts (dataPorts : List DataPortConfig) (ports : Table String UInt16) : Prop :=
  ∀ p ∈ dataPorts, ∀ p' ∈ dataPorts, p.port = p'.port → p.protocol = p'.protocol →
    ports.lookup p.name = ports.lookup p'.name

/-- **The stored port of a number and protocol** is that of one of the data ports
that have them, or what was stored before if there is none. -/
lemma lookup_collectRoutes {ports : Table String UInt16} {dataPorts : List DataPortConfig}
    {routes routes' : Table (UInt16 × Protocol) UInt16} {publicPorts public' : Table String UInt16}
    (h : collectRoutes ports dataPorts routes publicPorts = .ok (routes', public'))
    (key : UInt16 × Protocol) :
    (∃ p ∈ dataPorts, (p.port, p.protocol) = key ∧ (ports.lookup p.name).isSome = true
        ∧ routes'.lookup key = ports.lookup p.name)
      ∨ (∀ p ∈ dataPorts, (p.port, p.protocol) ≠ key) ∧ routes'.lookup key = routes.lookup key := by
  induction dataPorts generalizing routes publicPorts with
  | nil =>
      obtain ⟨rfl, -⟩ := Prod.mk.inj (Except.ok.inj h)
      exact .inr ⟨by simp, rfl⟩
  | cons p ps ih =>
      rw [collectRoutes] at h
      split at h
      · simp at h
      · rename_i port hport
        rcases ih h with ⟨p', hp', hkey, hsome, hlookup⟩ | ⟨hne, hlookup⟩
        · exact .inl ⟨p', List.mem_cons_of_mem p hp', hkey, hsome, hlookup⟩
        · rcases eq_or_ne (p.port, p.protocol) key with rfl | hkey
          · exact .inl ⟨p, List.mem_cons_self, rfl, by simp [hport],
              by rw [hlookup, AList.lookup_insert, hport]⟩
          · refine .inr ⟨?_, by rw [hlookup, AList.lookup_insert_ne hkey.symm]⟩
            intro p' hp'
            rcases List.mem_cons.mp hp' with rfl | hp'
            · exact hkey
            · exact hne p' hp'

/-- The port stored for a data port. -/
lemma lookup_routes (target : Target ext config) {p : DataPortConfig}
    (hp : p ∈ config.getDataPorts) :
    ∃ p' ∈ config.getDataPorts, p'.port = p.port ∧ p'.protocol = p.protocol
      ∧ ∃ port, target.ports.lookup p'.name = some port
        ∧ target.routes.lookup (p.port, p.protocol) = some port := by
  rcases lookup_collectRoutes target.routes_eq (p.port, p.protocol) with
    ⟨p', hp', hkey, hsome, hlookup⟩ | ⟨hne, -⟩
  · obtain ⟨port, hport⟩ := Option.isSome_iff_exists.mp hsome
    obtain ⟨hnumber, hprotocol⟩ := Prod.mk.inj hkey
    exact ⟨p', hp', hnumber, hprotocol, port, hport, by rw [hlookup, hport]⟩
  · exact absurd rfl (hne p hp)

/-! ### Where a route leads -/

/-- `get_target_addr` for a data port gives the extracted address and port. -/
def Session.Leads (session : Session) (ip : String) (ports : Table String UInt16)
    (p : DataPortConfig) : Prop :=
  ∃ addr, session.getTargetAddr p.port p.protocol = .ok addr
    ∧ parseIpAddr ip = some addr.ip ∧ ports.lookup p.name = some addr.port

/-- A target address that reads as the extracted one has the stored port. -/
lemma getTargetAddr_eq_ok {session : Session} {p : DataPortConfig} {addr : SocketAddr}
    (h : session.getTargetAddr p.port p.protocol = .ok addr)
    (hip : parseIpAddr session.targetIp = some addr.ip) :
    IsIpv4Text session.targetIp
      ∧ session.portMappings.lookup (p.port, p.protocol) = some addr.port := by
  rw [Session.getTargetAddr] at h
  split at h
  · cases h
  · rename_i port hport
    split at h
    · rename_i addr' hparse
      obtain rfl := Except.ok.inj h
      have hv4 := isIpv4Text_of_parseSocketAddr hip hparse
      obtain ⟨ip, hread⟩ := hv4
      have hparse' := parseSocketAddr_of_ipv4 port hread
      obtain rfl : addr' = { ip, port } := Option.some.inj (hparse.symm.trans hparse')
      exact ⟨⟨ip, hread⟩, hport⟩
    · cases h

/-- The address an IPv4 session resolves a stored port to. -/
lemma getTargetAddr_of_ipv4 {session : Session} {p : DataPortConfig} {ip : IpAddr} {port : UInt16}
    (hread : readIpv4 session.targetIp.toList = some (ip, []))
    (hport : session.portMappings.lookup (p.port, p.protocol) = some port) :
    session.getTargetAddr p.port p.protocol = .ok { ip, port } := by
  simp only [Session.getTargetAddr, hport, parseSocketAddr_of_ipv4 port hread]

/-- **Where the route of a target leads.** -/
lemma Target.leads_iff (target : Target ext config) (now : Instant)
    (hports : config.getDataPorts ≠ []) :
    (∀ p ∈ config.getDataPorts,
        (Session.newMultiPort target.ip target.routes now).Leads target.ip target.ports p)
      ↔ IsIpv4Text target.ip ∧ SamePorts config.getDataPorts target.ports := by
  constructor
  · intro h
    have hlookup : ∀ p ∈ config.getDataPorts,
        target.ports.lookup p.name = target.routes.lookup (p.port, p.protocol) := by
      intro p hp
      obtain ⟨addr, haddr, hip, hport⟩ := h p hp
      rw [hport]
      exact (getTargetAddr_eq_ok haddr hip).2.symm
    obtain ⟨p, hp⟩ := List.exists_mem_of_ne_nil _ hports
    obtain ⟨addr, haddr, hip, -⟩ := h p hp
    refine ⟨(getTargetAddr_eq_ok haddr hip).1, fun p hp p' hp' hnumber hprotocol => ?_⟩
    rw [hlookup p hp, hlookup p' hp', hnumber, hprotocol]
  · rintro ⟨⟨ip, hread⟩, hsame⟩ p hp
    obtain ⟨p', hp', hnumber, hprotocol, port, hport, hroute⟩ := lookup_routes target hp
    refine ⟨{ ip, port }, getTargetAddr_of_ipv4 hread hroute, parseIpAddr_of_ipv4 hread, ?_⟩
    rw [hsame p hp p' hp' hnumber.symm hprotocol.symm, hport]

/-- **When a success gives a usable route**: every success comes from an installation
of a target its mapping extracted, and the session installed there leads to the
extracted address and port of every data port exactly if the address is IPv4
text and data ports with the same number and protocol have the same port. -/
theorem route_leads_iff {w₀ w : World ext config} {acts : List Action} (h₀ : w₀.Initial)
    (hrun : Run.run step w₀ acts = some w) {q : TaskId} {status server : String}
    {publicPorts : Table String UInt16}
    (hdone : (w.tasks q).phase = .done (.ok (.success status server publicPorts))) :
    ∃ pre post u v, acts = pre ++ .task q .install :: post ∧ Run.run step w₀ pre = some u
      ∧ step u (.task q .install) = some v ∧ Run.run step v post = some w
      ∧ ∃ (a : Access) (services : Option (List Service)) (name : String)
          (target : Target ext config) (session : Session),
        (u.tasks q).phase = .running a (.installing target)
          ∧ prepare config (w₀.tasks q).request = .ok a
          ∧ extractPortsByName config services target.choice.candidate.object a.mapping name
              = .ok (target.ip, target.ports)
          ∧ target.response = .success status server publicPorts
          ∧ (v.director q).sessions.get (w₀.tasks q).client.ip = some session
          ∧ ((∀ p ∈ config.getDataPorts, session.Leads target.ip target.ports p)
            ↔ IsIpv4Text target.ip ∧ SamePorts config.getDataPorts target.ports) := by
  have hsucceeded : w.succeeded q = true := World.succeeded_iff.mpr ⟨_, _, _, hdone⟩
  obtain ⟨pre, action, post, u, v, rfl, hpre, hu, hstep, hv, hpost⟩ :=
    Run.exists_step_of_change (I := fun w : World ext config => w.succeeded q = true)
      (by simp [World.succeeded, h₀.entry q, Phase.succeeded]) hsucceeded hrun
  rw [Bool.not_eq_true] at hu
  obtain ⟨rfl, a, target, hphase, hmove⟩ := install_of_success hstep hu hv
  obtain ⟨-, hrequest, hclient⟩ := task_of_run hpre q
  have hresolved := resolved_of_run h₀ hpre q
  rw [hphase] at hresolved
  obtain ⟨services, hresolve⟩ := hresolved.exists_resolve h₀ hpre hphase
  obtain ⟨-, name, -, hextract, hports⟩ := resolve_eq_ok hresolve
  have hprepare := prepared_of_run h₀ hpre hphase
  rw [hrequest] at hprepare
  refine ⟨pre, post, u, v, rfl, hpre, hstep, hpost, a, services, name, target,
    Session.newMultiPort target.ip target.routes (u.director q).now, hphase, hprepare, hextract, ?_,
    ?_, target.leads_iff _ hports⟩
  · have hv' : (w.tasks q).phase = (v.tasks q).phase := by
      refine phase_of_ended ?_ hpost
      rw [hmove, World.phase_move]
      rfl
    rw [hdone, hmove, World.phase_move] at hv'
    exact (Except.ok.inj (Phase.done.inj hv')).symm
  · rw [World.director, (task_of_step hstep q).1, hmove, World.sessions_move, hclient]
    exact AList.lookup_insert ..

/-- The query of a Pod with an IPv4 address. -/
theorem route_leads_iff_sample :
    ∃ (target : Target Sample.decoders Sample.settings) (session : Session),
      target.choice.candidate.pod.metadata.uid = some target.server
        ∧ ((∀ p ∈ Sample.settings.getDataPorts, session.Leads target.ip target.ports p)
          ↔ IsIpv4Text target.ip ∧ SamePorts Sample.settings.getDataPorts target.ports) := by
  obtain ⟨status, server, publicPorts, hdone⟩ :=
    World.succeeded_iff.mp (by decide : Sample.answered.succeeded 0 = true)
  obtain ⟨-, -, -, -, -, -, -, -, a, services, name, target, session, -, -, -, -, -, hleads⟩ :=
    route_leads_iff (Sample.initial_world "10.0.0.1") Sample.run_answered hdone
  exact ⟨target, session, target.uid_eq, hleads⟩

/-- **A success without a usable route**: the Pod has an IPv6 address, the query is
answered with a success, and the address of its only data port cannot be read. -/
theorem ipv6_route_fails :
    ∃ (w : World Sample.decoders Sample.settings) (session : Session),
      Run.run step (Sample.world "fd00::1") Sample.toAnswer = some w
        ∧ w.succeeded 0 = true
        ∧ (w.directors 0).sessions.get (.v4 203 0 113 7) = some session
        ∧ session.targetIp = "fd00::1" ∧ (parseIpAddr "fd00::1").isSome = true
        ∧ session.portMappings.lookup (7777, .udp) = some 7000
        ∧ session.getTargetAddr 7777 .udp = .error
          { kind := .invalidInput
            message := "Invalid socket address: invalid socket address syntax" } :=
  ⟨_, _, Sample.run_reach _ _ (by decide), by decide, rfl, rfl, by decide, rfl, rfl⟩

end UdpDirector
