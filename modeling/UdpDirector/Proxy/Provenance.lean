import UdpDirector.Proxy.Replies

/-!
Where the datagrams come from that clients receive.

* `SessionState.target`: the address to which the session of a client sends the packets
  of a data port;
* `Sourced`: the traffic with the source address of every datagram that arrives at a
  session socket, and the target of the session that each socket was created in;
  `Delivery`: a datagram handed on to a client;
* `Aims`: a session stores sockets of its own target only; `Aimed`: no packet ever leaves
  a socket for another address;
* `delivered_from_target_iff`: the datagrams delivered come from the targets exactly when
  those that arrive do. The receive task never looks at the source address.
-/

namespace UdpDirector

/-! ### The target of a socket -/

namespace SessionState

variable {s : SessionState} {targets targets' : SocketId → Option SocketAddr}
  {removed : Option Session}

/-- Where the session of a client sends the packets of a data port. -/
def target (s : SessionState) (client : SocketAddr) (proxyPort : UInt16) : Option SocketAddr :=
  (s.getByAddr client).bind fun session => (session.getTargetAddr proxyPort .udp).toOption

/-- The target is part of the route. -/
lemma getTargetAddr_congr {session session' : Session} (h : session'.route = session.route)
    (proxyPort : UInt16) (protocol : Protocol) :
    session'.getTargetAddr proxyPort protocol = session.getTargetAddr proxyPort protocol := by
  obtain ⟨hip, hports⟩ := Prod.mk.inj h
  rw [Session.getTargetAddr, Session.getTargetAddr, hip, hports]

/-- The target of a client is that of the session under its IP. -/
lemma getTargetAddr_of_target {session : Session} {client target : SocketAddr}
    {proxyPort : UInt16} (hlegacy : s.sessions.lookup (.exactSocket client) = none)
    (hget : s.get client.ip = some session) (h : s.target client proxyPort = some target) :
    session.getTargetAddr proxyPort .udp = .ok target := by
  rw [SessionState.target, getByAddr, resolve_of_legacy hlegacy] at h
  rw [get] at hget
  rw [hget, Option.bind_some] at h
  exact Except.eq_ok_of_toOption h

/-- Every socket that a session stores was created for the target of the session. -/
def Aims (s : SessionState) (targets : SocketId → Option SocketAddr) : Prop :=
  ∀ ip session port source id, s.get ip = some session →
    session.udpSockets.lookup (port, source) = some id →
    ∃ target, session.getTargetAddr port .udp = .ok target ∧ targets id = some target

/-- A socket stored after an operation was stored before by a session with the same
route, or has just been created. -/
lemma exists_of_stored_apply {op : TableOp} {ip : IpAddr} {session' : Session}
    {port source : UInt16} {id : SocketId}
    (hlegacy : ∀ addr, s.sessions.lookup (.exactSocket addr) = none)
    (hget : (op.apply s).get ip = some session')
    (hid : session'.udpSockets.lookup (port, source) = some id) :
    ∃ session, s.get ip = some session ∧ session'.route = session.route
      ∧ (session.udpSockets.lookup (port, source) = some id
        ∨ id = s.sockets.length
          ∧ ∃ client, op = .openSocket client port ∧ client.ip = ip) := by
  cases op with
  | keep | shutdown => exact ⟨session', hget, rfl, .inl hid⟩
  | clear key =>
      rw [TableOp.apply, SessionState.get, SessionState.sessions_clear] at hget
      obtain ⟨session, hsession, ⟨rfl, -⟩ | ⟨-, rfl⟩⟩ :=
        SessionState.exists_of_get_alter (s := s) (t := s.sockets) hget
      · exact ⟨session', hsession, rfl, .inl hid⟩
      · simp at hid
  | insert u now =>
      by_cases hip : SessionKey.legacyIp ip = u.key
      · rw [TableOp.get_insert hip] at hget
        obtain rfl := Option.some.inj hget
        exact absurd ⟨_, hid⟩ (u.not_stores now id)
      · rw [TableOp.get_insert_ne hip] at hget
        exact ⟨session', hget, rfl, .inl hid⟩
  | openSocket client proxyPort =>
      obtain heq | ⟨-, -, -, heq⟩ := TableOp.apply_openSocket proxyPort (hlegacy client)
      · rw [heq] at hget
        exact ⟨session', hget, rfl, .inl hid⟩
      · rw [heq] at hget
        obtain ⟨session, hsession, ⟨rfl, -⟩ | ⟨hip, rfl⟩⟩ := SessionState.exists_of_get_alter hget
        · exact ⟨session', hsession, rfl, .inl hid⟩
        · obtain rfl := SessionKey.legacyIp.inj hip
          refine ⟨session, hsession, rfl, ?_⟩
          by_cases hkey : (port, source) = (proxyPort, client.port)
          · obtain ⟨rfl, rfl⟩ := Prod.mk.inj hkey
            rw [AList.lookup_insert] at hid
            exact .inr ⟨(Option.some.inj hid).symm, client, rfl, rfl⟩
          · rw [AList.lookup_insert_ne hkey] at hid
            exact .inl hid
  | touch client now =>
      obtain ⟨session, hsession, ⟨rfl, -⟩ | ⟨-, rfl⟩⟩ := SessionState.exists_of_get_alter hget
      · exact ⟨session', hsession, rfl, .inl hid⟩
      · exact ⟨session, hsession, rfl, .inl hid⟩
  | remove key =>
      by_cases hip : SessionKey.legacyIp ip = key
      · rw [TableOp.get_remove hip] at hget
        simp at hget
      · rw [TableOp.get_remove_ne hip] at hget
        exact ⟨session', hget, rfl, .inl hid⟩

end SessionState

namespace SessionState

/-- **A session stores sockets of its own target**: so it does after an operation, if a
socket just created is one of the target of its session. -/
lemma Aims.apply (h : s.Aims targets) (hs : Owned s removed) {op : TableOp}
    (hold : ∀ id < s.sockets.length, targets' id = targets id)
    (hnew : ∀ client port, op = .openSocket client port →
      ∃ target, s.target client port = some target ∧ targets' s.sockets.length = some target) :
    (op.apply s).Aims targets' := by
  intro ip session' port source id hget hid
  obtain ⟨session, hsession, hroute, hstored | ⟨rfl, client, rfl, rfl⟩⟩ :=
    exists_of_stored_apply hs.legacy hget hid
  · rw [getTargetAddr_congr hroute, hold id (hs.lt_of_stores hsession ⟨_, hstored⟩)]
    exact h ip session port source id hsession hstored
  · obtain ⟨target, htarget, hnew⟩ := hnew client port rfl
    refine ⟨target, ?_, hnew⟩
    rw [getTargetAddr_congr hroute]
    exact getTargetAddr_of_target (hs.legacy client) hsession htarget

end SessionState

namespace Proxy

open SessionState

variable {config : Config}

/-- A packet that is forwarded has a target. -/
lemma target_of_forward {s t : SessionState} {client target : SocketAddr} {proxyPort : UInt16}
    {bound : Bool} {id : SocketId}
    (h : proxyPacketBidirectional s client proxyPort bound = .ok (id, target, t)) :
    s.target client proxyPort = some target := by
  unfold proxyPacketBidirectional at h
  split at h
  · simp at h
  · rename_i session hsession
    split at h
    · simp at h
    · rename_i target' htarget
      split at h
      · simp at h
      · split at h
        · simp at h
        · obtain ⟨-, rfl, -⟩ : _ = id ∧ target' = target ∧ _ = t := by simpa using h
          rw [SessionState.target, hsession, Option.bind_some, htarget]
          rfl

/-- A step forwards a packet, or creates no socket. -/
lemma forward_or_op_of_step {p q : Plane} {a : Action} (h : Proxy.step config p a = some q) :
    (∃ i bound id target, a = .connection i (.forward bound)
        ∧ proxyPacketBidirectional p.table (p.connections i).client (p.connections i).proxyPort
            bound = .ok (id, target, q.table))
      ∨ ∃ op : TableOp, q.table = op.apply p.table
          ∧ ∀ client port, op ≠ .openSocket client port := by
  obtain ⟨op, hop, htable, -⟩ := performs_of_step h
  cases hop with
  | @openSocket i bound first hphase =>
      obtain ⟨phase, effect, hmoves, rfl⟩ := exists_moves_of_step h
      rw [hphase] at hmoves
      cases hmoves with
      | forward hforward => exact .inl ⟨i, bound, _, _, rfl, by rw [table_move]; exact hforward⟩
      | unforwarded => exact .inr ⟨.keep, by rw [table_move]; rfl, by simp⟩
  | _ => exact .inr ⟨_, htable, by simp⟩

/-- A socket that a packet is about to leave through has been created. -/
lemma Attributed.lt_of_sending {t : Traffic} (h : Attributed t) {i : ℕ}
    {first : Bool} {id : SocketId} {target : SocketAddr}
    (hphase : (t.plane.connections i).phase = .sending first id target) :
    id < t.plane.table.sockets.length := by
  obtain ⟨owner, ⟨socket, hsocket, -⟩, -⟩ := h.sending i first id target hphase
  exact (List.getElem?_eq_some_iff.mp hsocket).1

/-! ### Datagrams and their sources -/

/-- A datagram that a receive task has sent to the client of its socket, from the
listener of a data port, with the address it came from. -/
structure Delivery where
  socket : SocketId
  source : SocketAddr
  client : SocketAddr
  proxyPort : UInt16
  deriving DecidableEq

/-- The traffic, the targets that the session sockets were created for, and the datagrams
delivered. The targets are not part of the program. -/
structure Sourced where
  traffic : Traffic
  targets : SocketId → Option SocketAddr := fun _ => none
  delivered : List Delivery := []

/-- A step of the traffic, in which a datagram has a source. -/
inductive SourcedAction where
  | act (a : TrafficAction)
  /-- A datagram arrives at a session socket, and can be sent to the client or not. -/
  | datagram (id : SocketId) (source : SocketAddr) (sent : Bool)

/-- A datagram arrives. -/
def TrafficAction.arrives : TrafficAction → Bool
  | .receive _ (.datagram _) => true
  | _ => false

namespace Sourced

/-- The targets after a step: a socket that is created is one of the target of its
session. -/
def aimed (x : Sourced) : TrafficAction → SocketId → Option SocketAddr
  | .act (.connection i (.forward _)) =>
      Function.update x.targets x.traffic.plane.table.sockets.length
        (x.traffic.plane.table.target (x.traffic.plane.connections i).client
          (x.traffic.plane.connections i).proxyPort)
  | _ => x.targets

variable (config) in
/-- One step. A receive task sends a datagram on whatever its source address is. -/
def step (x : Sourced) : SourcedAction → Option Sourced
  | .act a =>
      if a.arrives then none
      else
        (Traffic.step config x.traffic a).map fun traffic =>
          { x with traffic, targets := x.aimed a }
  | .datagram id source sent => do
      let socket ← x.traffic.plane.table.sockets[id]?
      let traffic ← Traffic.step config x.traffic (.receive id (.datagram sent))
      let delivery : Delivery :=
        { socket := id, source, client := socket.clientAddr, proxyPort := socket.proxyPort }
      return { x with
        traffic
        delivered := if sent then delivery :: x.delivered else x.delivered }

/-- The process has just started, and nothing has been delivered. -/
structure Initial (x : Sourced) : Prop where
  traffic : x.traffic.Initial
  delivered : x.delivered = []

variable {x x' : Sourced}

lemma aimed_of_lt {id : SocketId} (a : TrafficAction)
    (hlt : id < x.traffic.plane.table.sockets.length) : x.aimed a id = x.targets id := by
  unfold aimed
  split
  · rw [Function.update_of_ne hlt.ne]
  · rfl

/-- The cases of a step, with what each is enabled by. -/
inductive Steps (config : Config) (x : Sourced) : SourcedAction → Sourced → Prop where
  | act {a traffic} (hstep : Traffic.step config x.traffic a = some traffic) :
      Steps config x (.act a) { x with traffic, targets := x.aimed a }
  | datagram {id source sent socket traffic}
      (hsocket : x.traffic.plane.table.sockets[id]? = some socket)
      (hstep : Traffic.step config x.traffic (.receive id (.datagram sent)) = some traffic) :
      Steps config x (.datagram id source sent)
        { x with
          traffic
          delivered :=
            if sent then
              { socket := id, source, client := socket.clientAddr, proxyPort := socket.proxyPort }
                :: x.delivered
            else x.delivered }

/-- **The inversion of a step.** -/
theorem steps_of_step {act : SourcedAction} (h : step config x act = some x') :
    Steps config x act x' := by
  cases act with
  | act a =>
      obtain ⟨-, h⟩ := Option.ite_none_left_eq_some.mp h
      obtain ⟨traffic, hstep, rfl⟩ := Option.map_eq_some_iff.mp h
      exact .act hstep
  | datagram id source sent =>
      obtain ⟨socket, hsocket, h⟩ := Option.bind_eq_some_iff.mp h
      obtain ⟨traffic, hstep, h⟩ := Option.bind_eq_some_iff.mp h
      obtain rfl := Option.some.inj h
      exact .datagram hsocket hstep

/-! ### The targets of the sockets in use -/

/-- What a session stores, and what a packet is about to leave through, has one target;
what has been delivered came to a socket that exists. -/
structure Aimed (x : Sourced) : Prop where
  attributed : Attributed x.traffic
  aims : x.traffic.plane.table.Aims x.targets
  sending : ∀ i first id target, (x.traffic.plane.connections i).phase = .sending first id target →
    x.targets id = some target
  delivered : ∀ m ∈ x.delivered, m.socket < x.traffic.plane.table.sockets.length

/-- A step of the data plane leaves the packets aimed. -/
lemma Aimed.act (h : Aimed x) {a : Action} {q : Plane}
    (hstep : Proxy.step config x.traffic.plane a = some q) :
    q.table.Aims (x.aimed (.act a))
      ∧ ∀ i first id target, (q.connections i).phase = .sending first id target →
        x.aimed (.act a) id = some target := by
  have haims : q.table.Aims (x.aimed (.act a)) := by
    obtain ⟨i, bound, id, target, rfl, hforward⟩ | ⟨op, htable, hop⟩ :=
      forward_or_op_of_step hstep
    · rw [table_of_proxyPacketBidirectional hforward]
      refine h.aims.apply h.attributed.owned (fun id hlt => aimed_of_lt _ hlt) ?_
      rintro client port heq
      obtain ⟨rfl, rfl⟩ := TableOp.openSocket.inj heq
      exact ⟨target, target_of_forward hforward, by
        rw [aimed, Function.update_self, target_of_forward hforward]⟩
    · rw [htable]
      exact h.aims.apply h.attributed.owned (fun id hlt => aimed_of_lt _ hlt) fun client port heq =>
        absurd heq (hop client port)
  refine ⟨haims, fun i first id target hphase => ?_⟩
  obtain ⟨event, phase, effect, rfl, hmoves, rfl⟩ | ⟨-, htask⟩ := moves_or_others hstep i
  · rw [connections_move, Function.update_self] at hphase
    obtain ⟨bound, table, rfl, hforward, rfl⟩ := hmoves.sending hphase
    -- the session that stores the socket from now on sends to the target
    obtain ⟨session, hsession, hid⟩ := (carries_of_forward h.attributed.owned hforward).2
    rw [table_move] at haims
    obtain ⟨target', htarget', haimed⟩ := haims _ _ _ _ _ hsession hid
    obtain rfl := table_of_proxyPacketBidirectional hforward
    obtain ⟨old, hold, hroute, -⟩ :=
      exists_of_stored_apply h.attributed.owned.legacy hsession hid
    rw [getTargetAddr_congr hroute, getTargetAddr_of_target (h.attributed.owned.legacy _) hold
      (target_of_forward hforward)] at htarget'
    rw [haimed, Except.ok.inj htarget']
  · rw [htask] at hphase
    rw [aimed_of_lt _ (h.attributed.lt_of_sending hphase)]
    exact h.sending i first id target hphase

/-- **Every step leaves the packets aimed.** -/
theorem Aimed.step (h : Aimed x) {act : SourcedAction} (hstep : step config x act = some x') :
    Aimed x' := by
  cases steps_of_step hstep with
  | @act a traffic htraffic =>
      have hattributed := h.attributed.step htraffic
      cases Traffic.steps_of_step htraffic with
      | act hplane =>
          obtain ⟨haims, hsending⟩ := h.act hplane
          refine ⟨hattributed, haims, hsending, fun m hm => (h.delivered m hm).trans_le ?_⟩
          obtain ⟨op, -, htable, -⟩ := performs_of_step hplane
          rw [Traffic.plane_follow, htable]
          exact Owned.length_apply _ op
      | receive | copy => exact ⟨hattributed, h.aims, h.sending, h.delivered⟩
  | @datagram id source sent socket traffic hsocket htraffic =>
      have hattributed := h.attributed.step htraffic
      cases Traffic.steps_of_step htraffic with
      | receive =>
          refine ⟨hattributed, h.aims, h.sending, fun m hm => ?_⟩
          dsimp only at hm
          split at hm
          · rcases List.mem_cons.mp hm with rfl | hm
            · exact (List.getElem?_eq_some_iff.mp hsocket).1
            · exact h.delivered m hm
          · exact h.delivered m hm

lemma Initial.aimed (h : x.Initial) : Aimed x where
  attributed := h.traffic.attributed
  aims := by
    intro ip session port source id hget
    rw [h.traffic.plane.table] at hget
    simp [SessionState.get] at hget
  sending := by
    intro i first id target hphase
    rw [h.traffic.plane.connections i] at hphase
    simp at hphase
  delivered := by simp [h.delivered]

/-! ### What is delivered -/

/-- A datagram that a step brings, and that can be sent on, comes from the target of its
socket. -/
def FromTarget (x : Sourced) (act : SourcedAction) : Prop :=
  ∀ id source, act = .datagram id source true → x.targets id = some source

/-- Everything delivered came from the target of its socket. -/
def Genuine (x : Sourced) : Prop := ∀ m ∈ x.delivered, x.targets m.socket = some m.source

/-- **What a step delivers is what it brings**: after it everything delivered came from
the targets exactly if this was so before and holds of the step. -/
theorem genuine_step_iff (h : Aimed x) {act : SourcedAction} (hstep : step config x act = some x') :
    x'.Genuine ↔ x.Genuine ∧ x.FromTarget act := by
  cases steps_of_step hstep with
  | @act a traffic htraffic =>
      have hsame : ∀ m ∈ x.delivered, x.aimed a m.socket = x.targets m.socket :=
        fun m hm => aimed_of_lt a (h.delivered m hm)
      constructor
      · intro hgenuine
        exact ⟨fun m hm => (hsame m hm).symm.trans (hgenuine m hm), fun id source => by simp⟩
      · rintro ⟨hgenuine, -⟩ m hm
        exact (hsame m hm).trans (hgenuine m hm)
  | @datagram id source sent socket traffic hsocket htraffic =>
      cases sent with
      | false => simp [Genuine, FromTarget]
      | true => simp [Genuine, FromTarget, and_comm]

/-- **Clients receive what their backend has sent exactly when nothing else arrives.** In
every run, every packet about to leave through a session socket goes to the one target of
this socket; and the datagrams delivered to clients all came from the targets of their
sockets if and only if every datagram that arrives at a socket, and can be sent on, does. -/
theorem delivered_from_target_iff {x₀ : Sourced} {acts : List SourcedAction} (h₀ : x₀.Initial)
    (hrun : Run.run (step config) x₀ acts = some x) :
    (∀ i first id target, (x.traffic.plane.connections i).phase = .sending first id target →
        x.targets id = some target)
      ∧ (x.Genuine ↔ Run.Along (step config) FromTarget x₀ acts) := by
  have key : Aimed x ∧ (x.Genuine ↔ Run.Along (step config) FromTarget x₀ acts) := by
    refine Run.run_induction (P := fun acts x => Aimed x
      ∧ (x.Genuine ↔ Run.Along (step config) FromTarget x₀ acts)) ?_ ?_ hrun
    · exact ⟨h₀.aimed, by simp [Genuine, h₀.delivered, Run.Along]⟩
    · rintro as u act v hu ⟨haimed, ih⟩ hstep
      refine ⟨haimed.step hstep, ?_⟩
      rw [genuine_step_iff haimed hstep, ih, Run.along_append]
      refine and_congr_right fun _ => ?_
      simp [hu, Run.Along]
  exact ⟨key.1.sending, key.2⟩

end Sourced

namespace Sample

/-- The data plane of the packets of one client, with the sources of the datagrams. -/
def sourced : Sourced := { traffic }

/-- The backend of the client. -/
def backend : SocketAddr := { ip := .v4 10 0 0 1, port := 7000 }

/-- Another host. -/
def stranger : SocketAddr := { ip := .v4 198 51 100 66, port := 4444 }

/-- A query is answered, and a packet of the client is sent upstream. -/
def relayed : List Action :=
  query "10.0.0.1"
    ++ [.connection 0 .arrive, .connection 0 (.forward true), .connection 0 (.sent true)]

/-- After that a datagram from an address arrives at the session socket. -/
def receiving (source : SocketAddr) : List SourcedAction :=
  relayed.map (fun a => .act (.act a)) ++ [.act (.receive 0 .check), .datagram 0 source true]

def afterReply : Sourced :=
  Run.reached (Sourced.step settings) sourced (receiving backend) (by decide +kernel)

def afterIntrusion : Sourced :=
  Run.reached (Sourced.step settings) sourced (receiving stranger) (by decide +kernel)

lemma initial_sourced : sourced.Initial := ⟨⟨initial_plane, rfl⟩, rfl⟩

lemma run_afterReply :
    Run.run (Sourced.step settings) sourced (receiving backend) = some afterReply :=
  Run.run_reached _ _ _

end Sample

/-- The reply of the backend, and nothing else, has been delivered. -/
theorem delivered_from_target_iff_sample :
    Run.Along (Sourced.step Sample.settings) Sourced.FromTarget Sample.sourced
      (Sample.receiving Sample.backend) := by
  have hdelivered : Sample.afterReply.delivered = [⟨0, Sample.backend, Sample.client, 7777⟩] := by
    decide +kernel
  have htarget : Sample.afterReply.targets 0 = some Sample.backend := by decide +kernel
  refine (Sourced.delivered_from_target_iff Sample.initial_sourced Sample.run_afterReply).2.mp ?_
  intro m hm
  rw [hdelivered, List.mem_singleton] at hm
  obtain rfl := hm
  exact htarget

/-- **A datagram of another host is delivered**: a client's packet has opened a session
socket for its backend at 10.0.0.1; whatever another host sends to this socket reaches the
client from the data port. -/
theorem foreign_datagram_delivered :
    Sample.sourced.Initial
      ∧ Run.run (Sourced.step Sample.settings) Sample.sourced (Sample.receiving Sample.stranger)
          = some Sample.afterIntrusion
      ∧ Sample.afterIntrusion.targets 0 = some Sample.backend
      ∧ Sample.afterIntrusion.delivered = [⟨0, Sample.stranger, Sample.client, 7777⟩]
      ∧ ¬Sample.afterIntrusion.Genuine := by
  have hdelivered : Sample.afterIntrusion.delivered
      = [⟨0, Sample.stranger, Sample.client, 7777⟩] := by
    decide +kernel
  have htarget : Sample.afterIntrusion.targets 0 = some Sample.backend := by decide +kernel
  refine ⟨Sample.initial_sourced, Run.run_reached _ _ _, htarget, hdelivered, fun hgenuine => ?_⟩
  have hsource := hgenuine ⟨0, Sample.stranger, Sample.client, 7777⟩
    (by rw [hdelivered]; exact List.mem_singleton_self _)
  rw [htarget] at hsource
  exact absurd hsource (by decide)

end Proxy

end UdpDirector
