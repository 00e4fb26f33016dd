import UdpDirector.Access.World
import UdpDirector.Proxy.Endpoint

/-!
The data plane of one process: the tasks of `proxy.rs`, one for each UDP packet
and each TCP connection, and `cleanup_loop`, interleaved with the route
installations of the query server.

* `Upsert`: the route that `upsert_multi_port` installs. It releases the entry
  between shutting the old sockets down and inserting the session, so the two are
  separate steps, of a query as well as of a default route;
* `Phase`, `Connection`: where a packet or a connection is; `Sweep`: where the
  cleanup is;
* `Plane`: what they share, the session table, the cached default endpoint with
  the tasks that hold it locked for reading, and the counts of the load balancer;
* `proxyPacketBidirectional`: the part of forwarding done with the entry locked;
* `advance`, `sweepStep`, `step`: the steps. A label carries what the environment
  decides: the reply of the list, whether a system call fails, which entry the
  iterator comes to next.
-/

namespace UdpDirector

/-! ### Routes to install -/

/-- The arguments of `upsert_multi_port`. -/
structure Upsert where
  client : SocketAddr
  targetIp : String
  portMappings : Table (UInt16 × Protocol) UInt16

namespace Upsert

/-- The key of the session. -/
def key (u : Upsert) : SessionKey := .legacyIp u.client.ip

/-- The session inserted. -/
def session (u : Upsert) (now : Instant) : Session :=
  Session.newMultiPort u.targetIp u.portMappings now

end Upsert

namespace Proxy

/-! ### States -/

/-- How the task of a packet or a connection fails. -/
inductive ProxyError where
  | failed (message : String)
  /-- `Session not found for client {ip}`. -/
  | sessionNotFound (ip : IpAddr)
  | io (error : IoError)
  /-- A socket cannot be bound, connected or written to. -/
  | os
  deriving DecidableEq, Repr

/-- Where the task of a packet or a connection is. `first` marks a packet that has
established its own route, `cached` a route from the cached endpoint, which stays
locked until the session is counted. -/
inductive Phase where
  | arrived
  | reading
  | querying (store : Bool)
  | storing (endpoint : Endpoint)
  | clearing (endpoint : Endpoint) (cached : Bool)
  | installing (endpoint : Endpoint) (cached : Bool)
  | counting (address : String) (cached : Bool)
  | forwarding (first : Bool)
  | sending (first : Bool) (socket : SocketId) (target : SocketAddr)
  | looking
  | connecting (target : SocketAddr)
  | copying (target : SocketAddr)
  | touching
  | done (result : Except ProxyError Unit)
  | panicked

/-- A UDP packet or a TCP connection at a data port. -/
structure Connection where
  client : SocketAddr
  proxyPort : UInt16
  protocol : Protocol
  phase : Phase := .arrived

/-- Where the cleanup is: between two passes, collecting keys, about to remove the
next of them, or holding a session that is out of the table and still to be shut
down. -/
inductive Sweep where
  | waiting
  | collecting (seen toRemove : List SessionKey)
  | removing (toRemove : List SessionKey)
  | shutting (session : Session) (toRemove : List SessionKey)

/-- What the tasks of one process share, and the tasks. -/
structure Plane where
  table : SessionState := {}
  now : Instant := 0
  cache : Option Endpoint := none
  /-- The number of tasks that hold the cache locked for reading. -/
  readers : ℕ := 0
  counts : SessionCounts := ∅
  /-- When the interval of the cleanup ticks next. -/
  due : Instant := 0
  sweep : Sweep := .waiting
  connections : ℕ → Connection
  /-- The queries between the two steps of their upsert. -/
  queries : ℕ → Option Upsert := fun _ => none

/-! ### Labels -/

/-- A step of the task of a packet or a connection. -/
inductive Event where
  | arrive
  | read
  /-- The list replies with objects, or fails. -/
  | list (reply : Option (List DynamicObject))
  | store
  | clear
  | install
  | count
  /-- A socket can be bound, where one is needed. -/
  | forward (bound : Bool)
  | sent (ok : Bool)
  | lookup
  | connected (ok : Bool)
  | closed
  | touch

/-- A step of the cleanup. -/
inductive SweepEvent where
  | pass
  /-- The iterator comes to an entry. -/
  | examine (key : SessionKey)
  | collected
  | remove
  | shutdown
  | rest

/-- A step of the data plane. -/
inductive Action where
  | connection (i : ℕ) (event : Event)
  | queryClear (j : ℕ) (u : Upsert)
  | queryInstall (j : ℕ)
  | cleanup (event : SweepEvent)
  | tick (nanos : ℕ)
  /-- The monitor invalidates the cached endpoint. -/
  | invalidate

namespace Connection

/-- The route to a default endpoint. -/
def upsert (c : Connection) (endpoint : Endpoint) : Upsert :=
  { client := c.client, targetIp := endpoint.address, portMappings := endpoint.portMappings }

/-- The phase of a task that has found or established a session. -/
def routed (c : Connection) (first : Bool) : Phase :=
  match c.protocol with
  | .udp => .forwarding first
  | .tcp => .looking

/-- The phase after a query for the default endpoint, which must have a port for
the data port. -/
def supported (c : Connection) (endpoint : Endpoint) : Phase :=
  if endpoint.supports c.proxyPort c.protocol then
    .clearing endpoint false
  else
    .done (.error (.failed
      ("Default endpoint does not support port " ++ toString c.proxyPort.toNat ++ " ("
        ++ c.protocol.text ++ ")")))

/-- The task has checked for a session, found none, and not yet installed a route
of its own. -/
def establishing (c : Connection) : Bool :=
  match c.phase with
  | .reading | .querying _ | .storing _ | .clearing _ _ | .installing _ _ => true
  | _ => false

end Connection

/-! ### Steps -/

/-- The first half of `DataProxy::proxy_packet_bidirectional`, up to the release of
the entry: the socket, the target and the table. -/
def proxyPacketBidirectional (s : SessionState) (client : SocketAddr) (proxyPort : UInt16)
    (bound : Bool) : Except ProxyError (SocketId × SocketAddr × SessionState) :=
  match s.getByAddr client with
  | none => .error (.sessionNotFound client.ip)
  | some session =>
      match session.getTargetAddr proxyPort .udp with
      | .error error => .error (.io error)
      | .ok target =>
          match session.udpSockets.lookup (proxyPort, client.port), bound with
          | none, false => .error .os
          | _, _ =>
              match s.getOrCreate (s.resolve client) proxyPort client with
              | none => .error (.sessionNotFound client.ip)
              | some (id, t) => .ok (id, target, t)

/-- What a step of a task changes besides its phase. -/
inductive Effect where
  | none
  | acquire
  | store (endpoint : Endpoint)
  | count (address : String) (cached : Bool)
  | sessions (table : SessionState)

/-- How a fault of the query for the default endpoint ends a task. -/
def faulted : Fault → Phase
  | .panic => .panicked
  | .error message => .done (.error (.failed message))

variable (config : Config)

/-- The next phase of a task and its effect, none where the event is not
enabled. -/
def advance (p : Plane) (c : Connection) (event : Event) : Option (Phase × Effect) :=
  match c.phase, event with
  | .arrived, .arrive =>
      match p.table.getByAddr c.client with
      | some _ => some (c.routed false, .none)
      | none => some (.reading, .none)
  | .reading, .read =>
      match p.cache with
      | some endpoint =>
          if endpoint.supports c.proxyPort c.protocol then
            some (.clearing endpoint true, .acquire)
          else
            some (.querying false, .none)
      | none => some (.querying true, .none)
  | .querying store, .list reply =>
      match queryDefaultEndpoint config p.counts reply with
      | .error fault => some (faulted fault, .none)
      | .ok endpoint =>
          if store then some (.storing endpoint, .none) else some (c.supported endpoint, .none)
  | .storing endpoint, .store =>
      if p.readers = 0 then some (c.supported endpoint, .store endpoint) else none
  | .clearing endpoint cached, .clear =>
      some (.installing endpoint cached, .sessions (p.table.clear (c.upsert endpoint).key))
  | .installing endpoint cached, .install =>
      let u := c.upsert endpoint
      some (.counting endpoint.address cached,
        .sessions (p.table.insert u.key (u.session p.now)))
  | .counting address cached, .count => some (c.routed true, .count address cached)
  | .forwarding first, .forward bound =>
      match proxyPacketBidirectional p.table c.client c.proxyPort bound with
      | .error error => some (.done (.error error), .none)
      | .ok (socket, target, table) => some (.sending first socket target, .sessions table)
  | .sending first _ _, .sent ok =>
      if ok then some (if first then .done (.ok ()) else .touching, .none)
      else some (.done (.error .os), .none)
  | .looking, .lookup =>
      match p.table.getByAddr c.client with
      | none =>
          some (.done (.error (.failed "Failed to establish session for TCP connection")), .none)
      | some session =>
          match session.getTargetAddr c.proxyPort .tcp with
          | .error error => some (.done (.error (.io error)), .none)
          | .ok target => some (.connecting target, .none)
  | .connecting target, .connected ok =>
      some (if ok then .copying target else .done (.error .os), .none)
  | .copying _, .closed => some (.touching, .none)
  | .touching, .touch => some (.done (.ok ()), .sessions (p.table.touchByAddr c.client p.now))
  | _, _ => none

/-- A step of `cleanup_loop`. The loop runs in the clone of the session manager
made before any callback is set, so a removed session is shut down at once. -/
def sweepStep (p : Plane) (event : SweepEvent) : Option Plane :=
  match p.sweep, event with
  | .waiting, .pass =>
      if p.due ≤ p.now then
        some { p with sweep := .collecting [] [], due := p.due + 30 * 10 ^ 9 }
      else
        none
  | .collecting seen toRemove, .examine key =>
      if key ∈ seen then none
      else
        (p.table.sessions.lookup key).map fun session =>
          let timedOut := session.isTimedOut config.sessionTimeoutSeconds p.now
          { p with
            sweep := .collecting (key :: seen) (if timedOut then toRemove ++ [key] else toRemove) }
  | .collecting _ toRemove, .collected => some { p with sweep := .removing toRemove }
  | .removing (key :: toRemove), .remove =>
      match p.table.sessions.lookup key with
      | some session =>
          some { p with table := p.table.remove key, sweep := .shutting session toRemove }
      | none => some { p with sweep := .removing toRemove }
  | .shutting session toRemove, .shutdown =>
      some { p with table := p.table.shutdownSockets session, sweep := .removing toRemove }
  | .removing [], .rest => some { p with sweep := .waiting }
  | _, _ => none

namespace Plane

/-- The effect of a step on what the tasks share. -/
def perform (p : Plane) : Effect → Plane
  | .none => p
  | .acquire => { p with readers := p.readers + 1 }
  | .store endpoint => { p with cache := some endpoint }
  | .count address cached =>
      { p with
        counts := p.counts.increment address
        readers := if cached then p.readers - 1 else p.readers }
  | .sessions table => { p with table }

/-- A task enters a phase. -/
def enter (p : Plane) (i : ℕ) (phase : Phase) : Plane :=
  { p with connections := Function.update p.connections i { p.connections i with phase } }

end Plane

/-- One step of the data plane. -/
def step (p : Plane) : Action → Option Plane
  | .connection i event =>
      (advance config p (p.connections i) event).map fun (phase, effect) =>
        (p.perform effect).enter i phase
  | .queryClear j u =>
      match p.queries j with
      | some _ => none
      | none =>
          some { p with
            table := p.table.clear u.key
            queries := Function.update p.queries j (some u) }
  | .queryInstall j =>
      (p.queries j).map fun u =>
        { p with
          table := p.table.insert u.key (u.session p.now)
          queries := Function.update p.queries j none }
  | .cleanup event => sweepStep config p event
  | .tick nanos => some { p with now := p.now + nanos }
  | .invalidate => if p.readers = 0 then some { p with cache := none } else none

/-- The process has just started: no session has been installed, no packet and no
connection handled, and the cleanup rests. -/
structure Plane.Initial (p : Plane) : Prop where
  table : p.table = {}
  readers : p.readers = 0
  sweep : p.sweep = .waiting
  connections : ∀ i, (p.connections i).phase = .arrived
  queries : ∀ j, p.queries j = none

/-! ### Packets of one client -/

namespace Sample

/-- The configuration with one UDP port. -/
abbrev settings : Config := UdpDirector.Sample.settings

/-- The address the packets come from. -/
def client : SocketAddr := { ip := .v4 203 0 113 7, port := 50000 }

/-- Packets of one client at the data port, before the first of them. -/
def plane : Plane where
  connections := fun _ => { client, proxyPort := 7777, protocol := .udp }

lemma initial_plane : plane.Initial where
  table := rfl
  readers := rfl
  sweep := rfl
  connections := fun _ => rfl
  queries := fun _ => rfl

/-- The route that a query of the client is answered with. -/
def answer (targetIp : String) : Upsert where
  client := { client with port := 40000 }
  targetIp
  portMappings := (∅ : Table (UInt16 × Protocol) UInt16).insert (7777, .udp) 7000

/-- An upsert of a query. -/
def query (targetIp : String) : List Action := [.queryClear 0 (answer targetIp), .queryInstall 0]

/-- The steps of a packet from the absence check to the install, around a list with
one Pod. -/
def establish : List Action :=
  [.read, .list (some [UdpDirector.Sample.pod "game-0" "uid-0" "10.0.0.1"]), .store,
    .clear].map (.connection 0)

/-- The state that some labels lead to. -/
def reach (p : Plane) (acts : List Action) (h : (Run.run (step settings) p acts).isSome = true) :
    Plane :=
  (Run.run (step settings) p acts).get h

lemma run_reach (p : Plane) (acts : List Action)
    (h : (Run.run (step settings) p acts).isSome = true) :
    Run.run (step settings) p acts = some (reach p acts h) :=
  (Option.some_get h).symm

lemma step_reach (p : Plane) (a : Action)
    (h : (Run.run (step settings) p [a]).isSome = true) :
    step settings p a = some (reach p [a] h) :=
  (Run.run_singleton p a).symm.trans (run_reach p [a] h)

end Sample

end Proxy

end UdpDirector
