import UdpDirector.Proxy.Sockets
import UdpDirector.Proxy.Traffic

/-!
The session sockets and the clients they belong to.

* `SessionState.Binds`: a socket was created for a client at a data port; no operation
  on the table changes this, and a packet is handed a socket created for its own
  client and port;
* `SessionState.Holds`: the session of a client IP stores a socket for a client at a
  data port; only the upserts and the removal of this session change this;
* `Attributed`: what has been sent through a socket, and what is about to be, is of the
  client and the port the socket was created for;
* `replies_owned`: a socket is shared by the packets of one client socket at one data
  port, the replies go to this client from this port, and the packets share it as long
  as no upsert of the client IP begins and its session is not removed.
-/

namespace UdpDirector

/-! ### The client of a socket -/

namespace SessionState

variable {s t : SessionState} {id id' : SocketId} {client client' target : SocketAddr}
  {proxyPort proxyPort' : UInt16}

/-- The socket was created for the client at the data port. -/
def Binds (s : SessionState) (id : SocketId) (client : SocketAddr) (proxyPort : UInt16) : Prop :=
  ∃ socket, s.sockets[id]? = some socket ∧ socket.clientAddr = client
    ∧ socket.proxyPort = proxyPort

/-- A socket was created for one client and one data port. -/
lemma Binds.unique (h : s.Binds id client proxyPort) (h' : s.Binds id client' proxyPort') :
    client = client' ∧ proxyPort = proxyPort' := by
  obtain ⟨socket, hsocket, rfl, rfl⟩ := h
  obtain ⟨socket', hsocket', rfl, rfl⟩ := h'
  rw [hsocket] at hsocket'
  obtain rfl := Option.some.inj hsocket'
  exact ⟨rfl, rfl⟩

lemma Binds.shutdownSockets (h : s.Binds id client proxyPort) (session : Session) :
    (s.shutdownSockets session).Binds id client proxyPort := by
  obtain ⟨socket, hsocket, rfl, rfl⟩ := h
  by_cases hid : session.Stores id
  · exact ⟨{ socket with shutdown := true },
      by rw [getElem?_shutdownSockets_of_stores s hid, hsocket, Option.map_some], rfl, rfl⟩
  · exact ⟨socket, by rw [getElem?_shutdownSockets_of_not_stores s hid, hsocket], rfl, rfl⟩

/-- **No operation on the table changes whom a socket was created for.** -/
lemma Binds.apply (h : s.Binds id client proxyPort) (op : TableOp) :
    (op.apply s).Binds id client proxyPort := by
  cases op with
  | keep | insert | touch | remove => exact h
  | clear key =>
      cases hlookup : s.sessions.lookup key with
      | none =>
          rw [TableOp.apply, Binds, sockets_clear_of_none hlookup]
          exact h
      | some session =>
          rw [TableOp.apply, Binds, sockets_clear_of_some hlookup]
          exact h.shutdownSockets session
  | openSocket client' proxyPort' =>
      rw [TableOp.apply]
      split
      · rename_i hcreate
        obtain ⟨-, -, ⟨-, rfl⟩ | ⟨-, -, rfl⟩⟩ := getOrCreate_eq_some hcreate
        · exact h
        · obtain ⟨socket, hsocket, hclient, hport⟩ := h
          have hlt := (List.getElem?_eq_some_iff.mp hsocket).1
          exact ⟨socket, by rw [List.getElem?_append_left hlt, hsocket], hclient, hport⟩
      · exact h
  | shutdown session => exact h.shutdownSockets session

/-- The socket was created for the IP and the source port of the client, at the data
port. -/
def Carries (s : SessionState) (id : SocketId) (client : SocketAddr) (proxyPort : UInt16) : Prop :=
  ∃ owner, s.Binds id owner proxyPort ∧ owner.ip = client.ip ∧ owner.port = client.port

lemma Carries.apply (h : s.Carries id client proxyPort) (op : TableOp) :
    (op.apply s).Carries id client proxyPort := by
  obtain ⟨owner, hbinds, howner⟩ := h
  exact ⟨owner, hbinds.apply op, howner⟩

/-- A socket carries the packets of one client IP and source port, at one data port. -/
lemma Carries.unique (h : s.Carries id client proxyPort) (h' : s.Carries id client' proxyPort') :
    client.ip = client'.ip ∧ client.port = client'.port ∧ proxyPort = proxyPort' := by
  obtain ⟨owner, hbinds, hip, hport⟩ := h
  obtain ⟨owner', hbinds', hip', hport'⟩ := h'
  obtain ⟨rfl, rfl⟩ := hbinds.unique hbinds'
  exact ⟨hip.symm.trans hip', hport.symm.trans hport', rfl⟩

/-! ### The socket of a client -/

/-- The session of the client IP stores the socket for the client at the data port. -/
def Holds (s : SessionState) (id : SocketId) (client : SocketAddr) (proxyPort : UInt16) : Prop :=
  ∃ session, s.get client.ip = some session
    ∧ session.udpSockets.lookup (proxyPort, client.port) = some id

lemma Holds.alter {key : SessionKey} {f : Session → Session} (h : s.Holds id client proxyPort)
    (ht : t.sessions = Table.alter key f s.sessions)
    (hf : ∀ session, session.udpSockets.lookup (proxyPort, client.port) = some id →
      (f session).udpSockets.lookup (proxyPort, client.port) = some id) :
    t.Holds id client proxyPort := by
  obtain ⟨session, hget, hid⟩ := h
  rw [get] at hget
  by_cases hkey : SessionKey.legacyIp client.ip = key
  · refine ⟨f session, ?_, hf session hid⟩
    rw [get, ht, ← hkey, Table.lookup_alter, hget, Option.map_some]
  · refine ⟨session, ?_, hid⟩
    rw [get, ht, Table.lookup_alter_ne f _ hkey, hget]

end SessionState

namespace TableOp

/-- The operation is not one of an upsert for a client IP, and does not remove its
session. -/
def Spares (ip : IpAddr) : TableOp → Prop
  | .clear key | .remove key => key ≠ .legacyIp ip
  | .insert u _ => u.key ≠ .legacyIp ip
  | _ => True

end TableOp

namespace SessionState

variable {s t : SessionState} {id id' : SocketId} {client target : SocketAddr}
  {proxyPort : UInt16}

/-- **A socket stays stored** until an upsert of the client IP begins or its session is
removed. -/
lemma Holds.apply (h : s.Holds id client proxyPort)
    (hlegacy : ∀ addr, s.sessions.lookup (.exactSocket addr) = none) {op : TableOp}
    (hop : op.Spares client.ip) : (op.apply s).Holds id client proxyPort := by
  cases op with
  | keep | shutdown => exact h
  | clear key =>
      obtain ⟨session, hget, hid⟩ := h
      refine ⟨session, ?_, hid⟩
      rw [TableOp.apply, get, sessions_clear, Table.lookup_alter_ne _ _ fun hkey => hop hkey.symm]
      exact hget
  | insert u now =>
      obtain ⟨session, hget, hid⟩ := h
      exact ⟨session, by rw [TableOp.get_insert_ne fun hkey => hop hkey.symm, hget], hid⟩
  | openSocket client' proxyPort' =>
      obtain heq | ⟨session', hget', hnone, heq⟩ :=
        TableOp.apply_openSocket proxyPort' (hlegacy client')
      · rw [heq]
        exact h
      · rw [heq]
        obtain ⟨session, hget, hid⟩ := h
        by_cases hip : SessionKey.legacyIp client.ip = .legacyIp client'.ip
        · -- the same session, and another of its sockets
          refine ⟨_, by rw [get, hip, Table.lookup_alter, ← hip, ← get, hget, Option.map_some], ?_⟩
          have hne : (proxyPort, client.port) ≠ (proxyPort', client'.port) := by
            intro hkey
            rw [get, hip] at hget
            rw [get, hget] at hget'
            obtain rfl := Option.some.inj hget'
            rw [← hkey, hid] at hnone
            simp at hnone
          rw [AList.lookup_insert_ne hne]
          exact hid
        · exact ⟨session, by rw [get, Table.lookup_alter_ne _ _ hip, ← get, hget], hid⟩
  | touch client' now => exact h.alter rfl fun _ hid => hid
  | remove key =>
      obtain ⟨session, hget, hid⟩ := h
      exact ⟨session, by rw [TableOp.get_remove_ne fun hkey => hop hkey.symm, hget], hid⟩

end SessionState

namespace Proxy

open SessionState

variable {s t : SessionState} {id id' : SocketId} {client target : SocketAddr}
  {proxyPort : UInt16} {bound : Bool}

/-! ### The socket a packet is handed -/

/-- A packet is handed a socket of the session of its client IP. -/
lemma getOrCreate_of_forward
    (h : proxyPacketBidirectional s client proxyPort bound = .ok (id, target, t)) :
    s.getOrCreate (s.resolve client) proxyPort client = some (id, t) := by
  unfold proxyPacketBidirectional at h
  split at h
  · simp at h
  · split at h
    · simp at h
    · split at h
      · simp at h
      · split at h
        · simp at h
        · rename_i hcreate
          obtain ⟨rfl, -, rfl⟩ : _ = id ∧ _ = target ∧ _ = t := by simpa using h
          exact hcreate

/-- The socket carries the packets of the client at the data port, and is stored by the
session from now on. -/
lemma carries_of_forward {removed : Option Session} (hs : Owned s removed)
    (h : proxyPacketBidirectional s client proxyPort bound = .ok (id, target, t)) :
    t.Carries id client proxyPort ∧ t.Holds id client proxyPort := by
  have hcreate := getOrCreate_of_forward h
  rw [resolve_of_legacy (hs.legacy client)] at hcreate
  obtain ⟨session, hsession, ⟨hlookup, rfl⟩ | ⟨hlookup, rfl, rfl⟩⟩ := getOrCreate_eq_some hcreate
  · obtain ⟨socket, hsocket, hserves⟩ := hs.stored _ _ _ _ _ hsession hlookup
    exact ⟨⟨_, ⟨socket, hsocket, rfl, hserves.port⟩, hserves.ip, hserves.source⟩,
      session, hsession, hlookup⟩
  · constructor
    · exact ⟨client, ⟨_, List.getElem?_concat_length, rfl, rfl⟩, rfl, rfl⟩
    · refine ⟨{ session with
        udpSockets := session.udpSockets.insert (proxyPort, client.port) s.sockets.length },
        ?_, AList.lookup_insert _⟩
      rw [SessionState.get, Table.lookup_alter, hsession, Option.map_some]

/-- A packet is handed the socket that the session stores for its client and port. -/
lemma eq_of_forward (hlegacy : ∀ addr, s.sessions.lookup (.exactSocket addr) = none)
    (hholds : s.Holds id client proxyPort)
    (h : proxyPacketBidirectional s client proxyPort bound = .ok (id', target, t)) : id' = id := by
  have hcreate := getOrCreate_of_forward h
  rw [resolve_of_legacy (hlegacy client)] at hcreate
  obtain ⟨session, hget, hid⟩ := hholds
  obtain ⟨session', hsession', hor⟩ := getOrCreate_eq_some hcreate
  rw [SessionState.get, hsession'] at hget
  obtain rfl := Option.some.inj hget
  obtain ⟨hlookup, -⟩ | ⟨hlookup, -, -⟩ := hor
  · rw [hid] at hlookup
    exact (Option.some.inj hlookup).symm
  · rw [hid] at hlookup
    simp at hlookup

/-! ### One step -/

variable {config : Config} {p q : Plane} {a : Action} {t₀ r r' : Traffic} {i j : ℕ}

/-- The route of an upsert that a step begins or completes. -/
def Plane.upserts (p : Plane) : Action → Option Upsert
  | .connection i .clear =>
      match (p.connections i).phase with
      | .clearing endpoint _ => some ((p.connections i).upsert endpoint)
      | _ => none
  | .queryClear _ u => some u
  | a => p.installs a

/-- A step does not replace or remove the session of a client IP: it is not a step of an
upsert for the IP, and does not remove the session. -/
def Spares (ip : IpAddr) (p : Plane) (a : Action) : Prop :=
  (∀ u ∈ p.upserts a, u.client.ip ≠ ip)
    ∧ (a = .cleanup .remove → ∀ toRemove, p.sweep ≠ .removing (.legacyIp ip :: toRemove))

/-- The operation of such a step. -/
lemma Spares.exists_op {ip : IpAddr} (h : Spares ip p a)
    (hstep : Proxy.step config p a = some q) :
    ∃ op : TableOp, q.table = op.apply p.table ∧ op.Spares ip := by
  cases steps_of_step hstep with
  | @connection i event phase effect hmoves =>
      rw [table_move]
      generalize hphase : (p.connections i).phase = old at hmoves
      cases hmoves with
      | clear =>
          refine ⟨.clear _, rfl, ?_⟩
          simpa [Plane.upserts, hphase, TableOp.Spares, Upsert.key] using h.1
      | install =>
          refine ⟨.insert _ _, rfl, ?_⟩
          simpa [Plane.upserts, Plane.installs, hphase, TableOp.Spares, Upsert.key] using h.1
      | forward hforward =>
          exact ⟨.openSocket _ _, table_of_proxyPacketBidirectional hforward, trivial⟩
      | touch => exact ⟨.touch _ _, rfl, trivial⟩
      | _ => exact ⟨.keep, rfl, trivial⟩
  | @queryClear j u hidle =>
      refine ⟨.clear u.key, rfl, ?_⟩
      simpa [Plane.upserts, TableOp.Spares, Upsert.key] using h.1
  | @queryInstall j u hu =>
      refine ⟨.insert u p.now, rfl, ?_⟩
      simpa [Plane.upserts, Plane.installs, hu, TableOp.Spares, Upsert.key] using h.1
  | cleanup hsweeps =>
      generalize hsweep : p.sweep = sweep at hsweeps
      cases hsweeps with
      | @remove key toRemove session hlookup =>
          refine ⟨.remove key, rfl, ?_⟩
          rintro rfl
          exact h.2 rfl toRemove hsweep
      | shutdown => exact ⟨.shutdown _, rfl, trivial⟩
      | _ => exact ⟨.keep, rfl, trivial⟩
  | tick | invalidate => exact ⟨.keep, rfl, trivial⟩

/-- What a task about to send has been handed. -/
lemma Moves.sending {c : Connection} {old phase : Phase} {event : Event} {effect : Effect}
    {first : Bool} (h : Moves config p c old event phase effect)
    (hphase : phase = .sending first id target) :
    ∃ bound table, event = .forward bound
      ∧ proxyPacketBidirectional p.table c.client c.proxyPort bound = .ok (id, target, table)
      ∧ effect = .sessions table := by
  cases h with
  | forward hforward =>
      obtain ⟨rfl, rfl, rfl⟩ := Phase.sending.inj hphase
      exact ⟨_, _, rfl, hforward, rfl⟩
  | found | count => exact absurd hphase (Connection.routed_ne (by simp) (by simp))
  | query | store => exact absurd hphase (Connection.supported_ne (by simp) (by simp))
  | @fault _ _ fault => cases fault <;> simp [faulted] at hphase
  | @sent first' => cases first' <;> simp at hphase
  | _ => simp at hphase

/-! ### Runs -/

/-- What has been sent through a socket, and what is about to be, is of the client and
the data port the socket was created for; a reply goes to this client. -/
structure Attributed (t : Traffic) : Prop where
  owned : Owned t.plane.table t.plane.sweep.removed
  sending : ∀ i first id target, (t.plane.connections i).phase = .sending first id target →
    t.plane.table.Carries id (t.plane.connections i).client (t.plane.connections i).proxyPort
  logged : ∀ f ∈ t.log, ∀ id ∈ f.way.socket, t.plane.table.Carries id f.client f.proxyPort
  replied : ∀ f ∈ t.log, ∀ id, f.way = .reply id → t.plane.table.Binds id f.client f.proxyPort

/-- A packet sent upstream has been handed its socket. -/
lemma sends_eq_some {t : Traffic} {f : Forwarded} (h : t.sends a = some f) :
    ∃ i first id target, (t.plane.connections i).phase = .sending first id target
      ∧ f.way = .upstream id ∧ f.client = (t.plane.connections i).client
      ∧ f.proxyPort = (t.plane.connections i).proxyPort := by
  unfold Traffic.sends at h
  split at h
  · split at h
    · rename_i hphase
      obtain rfl := Option.some.inj h
      exact ⟨_, _, _, _, hphase, rfl, rfl, rfl⟩
    · simp at h
  · simp at h

/-- A reply is of the client and the data port the socket was created for. -/
lemma replies_eq_some {t : Traffic} {f : Forwarded} {socket : UpstreamSocket}
    {event : ReceiveEvent} (h : t.replies id socket event = some f) :
    f.way = .reply id ∧ f.client = socket.clientAddr ∧ f.proxyPort = socket.proxyPort := by
  unfold Traffic.replies at h
  split at h
  · obtain rfl := Option.some.inj h
    exact ⟨rfl, rfl, rfl⟩
  · simp at h

/-- What a task is about to send stays so over a step of the data plane. -/
lemma sending_of_step {removed : Option Session} (hs : Owned p.table removed)
    (hp : ∀ i first id target, (p.connections i).phase = .sending first id target →
      p.table.Carries id (p.connections i).client (p.connections i).proxyPort)
    (hstep : Proxy.step config p a = some q) {first : Bool}
    (hphase : (q.connections i).phase = .sending first id target) :
    q.table.Carries id (q.connections i).client (q.connections i).proxyPort := by
  obtain ⟨event, phase, effect, rfl, hmoves, rfl⟩ | ⟨-, htask⟩ := moves_or_others hstep i
  · rw [connections_move, Function.update_self] at hphase ⊢
    obtain ⟨bound, table, -, hforward, rfl⟩ := hmoves.sending hphase
    exact (carries_of_forward hs hforward).1
  · rw [htask] at hphase ⊢
    obtain ⟨op, -, htable, -⟩ := performs_of_step hstep
    rw [htable]
    exact (hp i first id target hphase).apply op

/-- **A step of the traffic sends by the socket of the client.** -/
theorem Attributed.step (h : Attributed t₀) {act : TrafficAction}
    (hstep : Traffic.step config t₀ act = some r) : Attributed r := by
  cases Traffic.steps_of_step hstep with
  | @act a q hplane =>
      obtain ⟨op, hop, htable, hremoved⟩ := performs_of_step hplane
      have hmem : ∀ f ∈ (t₀.follow a q).log, f ∈ t₀.log ∨ t₀.sends a = some f := by
        intro f hf
        rw [Traffic.log_follow, List.mem_append, Option.mem_toList] at hf
        exact hf.symm
      refine ⟨?_, ?_, fun f hf id hid => ?_, fun f hf id hway => ?_⟩
      · rw [Traffic.plane_follow, htable, hremoved]
        exact h.owned.apply hop.enabled
      · exact fun i first id target hphase => sending_of_step h.owned h.sending hplane hphase
      · rw [Traffic.plane_follow, htable]
        obtain hf | hsends := hmem f hf
        · exact (h.logged f hf id hid).apply op
        · obtain ⟨i, first, id', target, hphase, hway, hclient, hport⟩ := sends_eq_some hsends
          rw [hway] at hid
          obtain rfl := Option.some.inj hid
          rw [hclient, hport]
          exact (h.sending i first id' target hphase).apply op
      · rw [Traffic.plane_follow, htable]
        obtain hf | hsends := hmem f hf
        · exact (h.replied f hf id hway).apply op
        · obtain ⟨i, first, id', target, -, hupstream, -⟩ := sends_eq_some hsends
          rw [hupstream] at hway
          simp at hway
  | @receive id event socket task hsocket htask =>
      have hbinds : t₀.plane.table.Binds id socket.clientAddr socket.proxyPort :=
        ⟨socket, hsocket, rfl, rfl⟩
      have hmem : ∀ f ∈ (t₀.replies id socket event).toList ++ t₀.log,
          f ∈ t₀.log ∨ t₀.replies id socket event = some f := by
        intro f hf
        rw [List.mem_append, Option.mem_toList] at hf
        exact hf.symm
      refine ⟨h.owned, h.sending, fun f hf id' hid => ?_, fun f hf id' hway => ?_⟩
      · obtain hf | hreplies := hmem f hf
        · exact h.logged f hf id' hid
        · obtain ⟨hway, hclient, hport⟩ := replies_eq_some hreplies
          rw [hway] at hid
          obtain rfl := Option.some.inj hid
          rw [hclient, hport]
          exact ⟨_, hbinds, rfl, rfl⟩
      · obtain hf | hreplies := hmem f hf
        · exact h.replied f hf id' hway
        · obtain ⟨hreply, hclient, hport⟩ := replies_eq_some hreplies
          rw [hway] at hreply
          obtain rfl := Way.reply.inj hreply
          rw [hclient, hport]
          exact hbinds
  | @copy i target hphase =>
      refine ⟨h.owned, h.sending, fun f hf id hid => ?_, fun f hf id hway => ?_⟩
      · obtain rfl | hf := List.mem_cons.mp hf
        · simp [Traffic.copied, Way.socket] at hid
        · exact h.logged f hf id hid
      · obtain rfl | hf := List.mem_cons.mp hf
        · simp [Traffic.copied] at hway
        · exact h.replied f hf id hway

/-- Nothing has been sent in the beginning. -/
lemma Traffic.Initial.attributed (h : t₀.Initial) : Attributed t₀ where
  owned := owned_initial h.plane
  sending := by
    intro i first id target hphase
    rw [h.plane.connections i] at hphase
    simp at hphase
  logged := by simp [h.log]
  replied := by simp [h.log]

/-- **In every run data is sent by the socket of its client.** -/
theorem attributed_of_run {tacts : List TrafficAction} (h₀ : t₀.Initial)
    (hrun : Run.run (Traffic.step config) t₀ tacts = some r) : Attributed r :=
  Run.run_invariant (fun _ _ _ h hstep => h.step hstep) h₀.attributed hrun

/-- The socket that a task is about to send through. -/
def Phase.socket : Phase → Option SocketId
  | .sending _ id _ => some id
  | _ => none

/-- A step hands a packet its socket. -/
def Hands (config : Config) (t : Traffic) (i : ℕ) (id : SocketId) (t' : Traffic) : Prop :=
  ∃ bound, Traffic.step config t (.act (.connection i (.forward bound))) = some t'
    ∧ (t'.plane.connections i).phase.socket = some id

lemma Hands.exists_forward (h : Hands config t₀ i id r) :
    ∃ bound target, proxyPacketBidirectional t₀.plane.table (t₀.plane.connections i).client
      (t₀.plane.connections i).proxyPort bound = .ok (id, target, r.plane.table) := by
  obtain ⟨bound, hstep, hsocket⟩ := h
  cases Traffic.steps_of_step hstep with
  | act hplane =>
      obtain ⟨phase, effect, hmoves, rfl⟩ := exists_moves_of_step hplane
      rw [Traffic.plane_follow] at hsocket ⊢
      rw [connections_move, Function.update_self] at hsocket
      unfold Phase.socket at hsocket
      split at hsocket
      · rename_i first id' target hphase
        obtain rfl := Option.some.inj hsocket
        obtain ⟨bound', table, -, hforward, rfl⟩ := hmoves.sending hphase
        exact ⟨bound', target, hforward⟩
      · simp at hsocket

/-- A socket carries the packets of the same client along a run. -/
lemma carries_of_run {tacts : List TrafficAction} (h : r.plane.table.Carries id client proxyPort)
    (hrun : Run.run (Traffic.step config) r tacts = some r') :
    r'.plane.table.Carries id client proxyPort := by
  refine Run.run_invariant (I := fun p : Plane => p.table.Carries id client proxyPort) ?_ h
    (Traffic.plane_of_run hrun)
  intro s a t hs hstep
  obtain ⟨op, -, htable, -⟩ := performs_of_step hstep
  rw [htable]
  exact hs.apply op

/-- A socket stays stored along a run that spares the session. -/
lemma holds_of_run {tacts : List TrafficAction} (hs : Attributed r)
    (h : r.plane.table.Holds id client proxyPort)
    (hspares : Run.Along (Traffic.step config)
      (fun t act => ∀ a, act = .act a → Spares client.ip t.plane a) r tacts)
    (hrun : Run.run (Traffic.step config) r tacts = some r') :
    r'.plane.table.Holds id client proxyPort := by
  refine (Run.run_invariant_along
    (I := fun t => Attributed t ∧ t.plane.table.Holds id client proxyPort)
    ?_ ⟨hs, h⟩ hspares hrun).2
  rintro s act t ⟨hs, hholds⟩ hspares hstep
  refine ⟨hs.step hstep, ?_⟩
  cases Traffic.steps_of_step hstep with
  | @act a q hplane =>
      obtain ⟨op, htable, hop⟩ := (hspares a rfl).exists_op hplane
      rw [Traffic.plane_follow, htable]
      exact hholds.apply hs.owned.legacy hop
  | receive | copy => exact hholds

/-- **Replies return to the client that owns the flow.** In every run, what goes through
a session socket, either way, is of one client IP, one source port and one data port,
and its replies of one client address. Two packets that are handed the same socket are of
the same client IP, source port and data port; two packets of the same are handed the
same socket, as long as in between no upsert replaces their session, and the cleanup does
not remove it. -/
theorem replies_owned (h₀ : t₀.Initial) :
    (∀ tacts t, Run.run (Traffic.step config) t₀ tacts = some t →
      ∀ f ∈ t.log, ∀ g ∈ t.log, ∀ id, f.way.socket = some id → g.way.socket = some id →
        f.client.ip = g.client.ip ∧ f.client.port = g.client.port ∧ f.proxyPort = g.proxyPort
          ∧ (f.way = .reply id → g.way = .reply id → f.client = g.client))
      ∧ ∀ pre r i id r' mid s j id' s', Run.run (Traffic.step config) t₀ pre = some r →
        Hands config r i id r' → Run.run (Traffic.step config) r' mid = some s →
        Hands config s j id' s' →
          (id' = id →
            (s.plane.connections j).client.ip = (r.plane.connections i).client.ip
              ∧ (s.plane.connections j).client.port = (r.plane.connections i).client.port
              ∧ (s.plane.connections j).proxyPort = (r.plane.connections i).proxyPort)
            ∧ ((s.plane.connections j).client.ip = (r.plane.connections i).client.ip →
              (s.plane.connections j).client.port = (r.plane.connections i).client.port →
              (s.plane.connections j).proxyPort = (r.plane.connections i).proxyPort →
              Run.Along (Traffic.step config) (fun t act => ∀ a, act = .act a →
                Spares (r.plane.connections i).client.ip t.plane a) r' mid → id' = id) := by
  constructor
  · intro tacts t hrun f hf g hg id hfid hgid
    have ht : Attributed t := attributed_of_run h₀ hrun
    obtain ⟨hip, hport, hproxy⟩ := (ht.logged f hf id hfid).unique (ht.logged g hg id hgid)
    exact ⟨hip, hport, hproxy, fun hfway hgway =>
      ((ht.replied f hf id hfway).unique (ht.replied g hg id hgway)).1⟩
  · intro pre r i id r' mid s j id' s' hpre hhands hmid hhands'
    have hr : Attributed r := attributed_of_run h₀ hpre
    have hr' : Attributed r' := by
      obtain ⟨bound, hstep, -⟩ := hhands
      exact hr.step hstep
    have hs : Attributed s := Run.run_invariant (fun _ _ _ h hstep => h.step hstep) hr' hmid
    obtain ⟨bound, target, hforward⟩ := hhands.exists_forward
    obtain ⟨bound', target', hforward'⟩ := hhands'.exists_forward
    obtain ⟨hcarries, hholds⟩ := carries_of_forward hr.owned hforward
    constructor
    · rintro rfl
      obtain ⟨hafter, -⟩ := carries_of_forward hs.owned hforward'
      rw [table_of_proxyPacketBidirectional hforward'] at hafter
      exact hafter.unique ((carries_of_run hcarries hmid).apply _)
    · intro hip hport hproxy hspares
      have hstored := holds_of_run hr' hholds hspares hmid
      refine eq_of_forward hs.owned.legacy ?_ hforward'
      rw [SessionState.Holds, hip, hport, hproxy]
      exact hstored

namespace Sample

/-- Two packets of one client, a query of which is answered first. -/
def traffic : Traffic := { plane }

/-- The first of them finds the session. -/
def found : Traffic :=
  Run.reached (Traffic.step settings) traffic
    ((query "10.0.0.1").map .act ++ [.act (.connection 0 .arrive)]) (by decide +kernel)

/-- The first of them has been handed a socket. -/
def handed : Traffic :=
  Run.reached (Traffic.step settings) found [.act (.connection 0 (.forward true))]
    (by decide +kernel)

/-- It is sent, the backend replies, and the second packet finds the session. -/
def exchange : List TrafficAction :=
  [.act (.connection 0 (.sent true)), .receive 0 .check, .receive 0 (.datagram true),
    .act (.connection 1 .arrive)]

def exchanged : Traffic :=
  Run.reached (Traffic.step settings) handed exchange (by decide +kernel)

/-- The second packet has been handed a socket. -/
def again : Traffic :=
  Run.reached (Traffic.step settings) exchanged [.act (.connection 1 (.forward true))]
    (by decide +kernel)

lemma hands_handed : Hands settings found 0 0 handed :=
  ⟨true, (Run.run_singleton _ _).symm.trans (Run.run_reached _ _ _), by decide +kernel⟩

/-- No step of the exchange is one of an upsert or of the cleanup. -/
lemma spares_exchange (ip : IpAddr) : Run.Along (Traffic.step settings)
    (fun t act => ∀ a, act = .act a → Spares ip t.plane a) handed exchange :=
  Run.along_of_forall (by simp [exchange, Spares, Plane.upserts, Plane.installs]) handed

end Sample

/-- A packet and the reply to it, and the socket of the next packet of the client. -/
theorem replies_owned_sample :
    (∀ f ∈ Sample.exchanged.log, ∀ g ∈ Sample.exchanged.log, ∀ id, f.way.socket = some id →
      g.way.socket = some id → f.client.ip = g.client.ip ∧ f.client.port = g.client.port
        ∧ f.proxyPort = g.proxyPort ∧ (f.way = .reply id → g.way = .reply id → f.client = g.client))
      ∧ ∀ id, Hands Sample.settings Sample.exchanged 1 id Sample.again → id = 0 := by
  have hinitial : Sample.traffic.Initial := ⟨Sample.initial_plane, rfl⟩
  have hfound : Run.run (Traffic.step Sample.settings) Sample.traffic
      ((Sample.query "10.0.0.1").map .act ++ [.act (.connection 0 .arrive)]) = some Sample.found :=
    Run.run_reached _ _ _
  have hexchange : Run.run (Traffic.step Sample.settings) Sample.handed Sample.exchange
      = some Sample.exchanged :=
    Run.run_reached _ _ _
  have hrun := Run.run_trans (Run.run_concat hfound
    ((Run.run_singleton _ _).symm.trans (Run.run_reached _ _ _))) hexchange
  refine ⟨(replies_owned hinitial).1 _ _ hrun, fun id hid => ?_⟩
  exact ((replies_owned hinitial).2 _ _ _ _ _ _ _ _ _ _ hfound Sample.hands_handed hexchange
    hid).2 (by decide +kernel) (by decide +kernel) (by decide +kernel) (Sample.spares_exchange _)

end Proxy

end UdpDirector
