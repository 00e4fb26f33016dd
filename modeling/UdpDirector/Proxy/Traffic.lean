import UdpDirector.Proxy.Operations

/-!
The data the director forwards, both ways.

* `ReceiveTask`: the task behind a session socket, which sends what the backend
  answers to the client the socket was created for, from the listener of the data
  port it was created for;
* `Forwarded`: a packet sent upstream, a datagram sent back, or data over an open TCP
  connection, with the session it belongs to. A session is named by its client IP and
  by its number among the sessions installed for it;
* `Traffic`: the data plane together with the receive tasks and what has been
  forwarded so far; `Traffic.step`: its steps;
* `steps_of_step`: what one of them does, said once; `plane_of_run`: a run of the
  traffic is a run of the data plane.
-/

namespace UdpDirector

namespace Proxy

/-! ### Receive tasks -/

/-- Where the loop of `SessionSocket::start_receive_task` is: before the shutdown
flag, in `recv_from`, or left. -/
inductive ReceiveTask where
  | checking
  | receiving
  | ended

/-- A step of a receive task. -/
inductive ReceiveEvent where
  | check
  /-- A datagram of the backend, which can be sent to the client or not. -/
  | datagram (sent : Bool)
  /-- One second without a datagram. -/
  | elapsed
  | failed

/-- The receive task after a step, none where the event is not enabled. -/
def ReceiveTask.advance (shutdown : Bool) : ReceiveTask → ReceiveEvent → Option ReceiveTask
  | .checking, .check => some (if shutdown then .ended else .receiving)
  | .receiving, .datagram _ => some .checking
  | .receiving, .elapsed => some .checking
  | .receiving, .failed => some .ended
  | _, _ => none

/-! ### Forwarded data -/

/-- The way some data goes. -/
inductive Way where
  /-- From a client through a session socket. -/
  | upstream (socket : SocketId)
  /-- From a session socket through the listener of a data port to a client. -/
  | reply (socket : SocketId)
  /-- Either way over a TCP connection. -/
  | stream (i : ℕ)

/-- The session socket on the way. -/
def Way.socket : Way → Option SocketId
  | .upstream socket | .reply socket => some socket
  | .stream _ => none

/-- Data that the director has forwarded for a client at a data port, with the number
of its session among those of the client IP. -/
structure Forwarded where
  way : Way
  client : SocketAddr
  proxyPort : UInt16
  session : ℕ
  time : Instant

/-- The data plane, its receive tasks, and what they have forwarded. The numbers of the
sessions of the sockets and of the TCP connections are not part of the program: they
say which session some data belongs to. -/
structure Traffic where
  plane : Plane
  receivers : SocketId → ReceiveTask := fun _ => .checking
  /-- How many sessions have been installed for a client IP. -/
  installed : IpAddr → ℕ := fun _ => 0
  /-- The session a socket was created in. -/
  homes : SocketId → ℕ := fun _ => 0
  /-- The session a TCP connection has found. -/
  streams : ℕ → ℕ := fun _ => 0
  log : List Forwarded := []

/-- A step of the traffic. -/
inductive TrafficAction where
  | act (a : Action)
  | receive (id : SocketId) (event : ReceiveEvent)
  /-- `copy_bidirectional` copies data over an open TCP connection. -/
  | copy (i : ℕ)

namespace Traffic

/-! ### Steps -/

/-- The packet that a step of the data plane sends upstream. -/
def sends (t : Traffic) : Action → Option Forwarded
  | .connection i (.sent true) =>
      match (t.plane.connections i).phase with
      | .sending _ id _ =>
          some
            { way := .upstream id
              client := (t.plane.connections i).client
              proxyPort := (t.plane.connections i).proxyPort
              session := t.homes id
              time := t.plane.now }
      | _ => none
  | _ => none

/-- The datagram that a receive task sends to the client of its socket. -/
def replies (t : Traffic) (id : SocketId) (socket : UpstreamSocket) :
    ReceiveEvent → Option Forwarded
  | .datagram true =>
      some
        { way := .reply id
          client := socket.clientAddr
          proxyPort := socket.proxyPort
          session := t.homes id
          time := t.plane.now }
  | _ => none

/-- The data that a TCP connection copies. -/
def copied (t : Traffic) (i : ℕ) : Forwarded where
  way := .stream i
  client := (t.plane.connections i).client
  proxyPort := (t.plane.connections i).proxyPort
  session := t.streams i
  time := t.plane.now

/-- The traffic after a step of the data plane to `q`. -/
def follow (t : Traffic) (a : Action) (q : Plane) : Traffic where
  plane := q
  receivers := t.receivers
  installed :=
    match t.plane.installs a with
    | some u => Function.update t.installed u.client.ip (t.installed u.client.ip + 1)
    | none => t.installed
  homes :=
    match a with
    | .connection i (.forward _) =>
        Function.update t.homes t.plane.table.sockets.length
          (t.installed (t.plane.connections i).client.ip)
    | _ => t.homes
  streams :=
    match a with
    | .connection i .lookup =>
        Function.update t.streams i (t.installed (t.plane.connections i).client.ip)
    | _ => t.streams
  log := (t.sends a).toList ++ t.log

variable (config : Config)

/-- One step of the traffic. -/
def step (t : Traffic) : TrafficAction → Option Traffic
  | .act a => (Proxy.step config t.plane a).map (t.follow a)
  | .receive id event => do
      let socket ← t.plane.table.sockets[id]?
      let task ← (t.receivers id).advance socket.shutdown event
      return { t with
        receivers := Function.update t.receivers id task
        log := (t.replies id socket event).toList ++ t.log }
  | .copy i =>
      match (t.plane.connections i).phase with
      | .copying _ => some { t with log := t.copied i :: t.log }
      | _ => none

/-- The process has just started, and nothing has been forwarded. -/
structure Initial (t : Traffic) : Prop where
  plane : t.plane.Initial
  log : t.log = []

/-! ### The inversion of a step -/

variable {config} {t t' : Traffic}

/-- The cases of a step, with what each is enabled by. -/
inductive Steps (config : Config) (t : Traffic) : TrafficAction → Traffic → Prop where
  | act {a q} (hstep : Proxy.step config t.plane a = some q) :
      Steps config t (.act a) (t.follow a q)
  | receive {id event socket task} (hsocket : t.plane.table.sockets[id]? = some socket)
      (htask : (t.receivers id).advance socket.shutdown event = some task) :
      Steps config t (.receive id event)
        { t with
          receivers := Function.update t.receivers id task
          log := (t.replies id socket event).toList ++ t.log }
  | copy {i target} (hphase : (t.plane.connections i).phase = .copying target) :
      Steps config t (.copy i) { t with log := t.copied i :: t.log }

/-- **The inversion of a step of the traffic.** -/
theorem steps_of_step {act : TrafficAction} (h : step config t act = some t') :
    Steps config t act t' := by
  cases act with
  | act a =>
      obtain ⟨q, hstep, rfl⟩ := Option.map_eq_some_iff.mp h
      exact .act hstep
  | receive id event =>
      obtain ⟨socket, hsocket, h⟩ := Option.bind_eq_some_iff.mp h
      obtain ⟨task, htask, h⟩ := Option.bind_eq_some_iff.mp h
      obtain rfl := Option.some.inj h
      exact .receive hsocket htask
  | copy i =>
      simp only [step] at h
      split at h
      · rename_i hphase
        obtain rfl := Option.some.inj h
        exact .copy hphase
      · simp at h

@[simp] lemma plane_follow (t : Traffic) (a : Action) (q : Plane) : (t.follow a q).plane = q := rfl

@[simp] lemma log_follow (t : Traffic) (a : Action) (q : Plane) :
    (t.follow a q).log = (t.sends a).toList ++ t.log := rfl

/-- The steps of the data plane among those of the traffic. -/
def acts : List TrafficAction → List Action
  | [] => []
  | .act a :: tacts => a :: acts tacts
  | _ :: tacts => acts tacts

/-- **A run of the traffic is a run of the data plane.** -/
theorem plane_of_run {tacts : List TrafficAction} (h : Run.run (step config) t tacts = some t') :
    Run.run (Proxy.step config) t.plane (acts tacts) = some t'.plane := by
  induction tacts generalizing t with
  | nil =>
      obtain rfl := Option.some.inj h
      rfl
  | cons act tacts ih =>
      obtain ⟨u, hu, h⟩ := Option.bind_eq_some_iff.mp h
      cases steps_of_step hu with
      | act hstep =>
          rw [acts, Run.run_cons, hstep]
          exact ih h
      | receive | copy =>
          have hrun := ih h
          exact hrun

end Traffic

end Proxy

end UdpDirector
