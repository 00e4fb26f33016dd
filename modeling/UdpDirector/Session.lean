import UdpDirector.Config
import UdpDirector.Net.SocketAddr

/-!
The session table and the upstream sockets of its sessions (`session.rs`).

* `Session`, `UpstreamSocket`: a route with its last activity and the sockets it
  stores, and what outlives a session, the flag that stops a receive task;
* `SessionState`: the table together with every session socket created so far,
  and the operations that hold one entry of the table locked: `clear`, `insert`,
  `remove`, `touch`, `getOrCreate`;
* `SessionState.route`: where the packets of a client IP go.
-/

namespace UdpDirector

/-! ### Sessions -/

/-- The key of a session. -/
inductive SessionKey where
  | legacyIp (ip : IpAddr)
  | exactSocket (addr : SocketAddr)
  deriving DecidableEq, Repr

/-- A session socket, named by its place among all sockets created. -/
abbrev SocketId := ℕ

/-- `SessionSocket`, with the client its receive task forwards to. -/
structure UpstreamSocket where
  clientAddr : SocketAddr
  proxyPort : UInt16
  shutdown : Bool := false
  deriving DecidableEq, Repr

/-- Session information for a client connection. -/
structure Session where
  targetIp : String
  portMappings : Table (UInt16 × Protocol) UInt16
  lastActivity : Instant
  udpSockets : Table (UInt16 × UInt16) SocketId := ∅

/-- The error kinds of the session functions. -/
inductive ErrorKind where
  | notFound
  | invalidInput
  deriving DecidableEq, Repr

/-- `std::io::Error`. -/
structure IoError where
  kind : ErrorKind
  message : String
  deriving DecidableEq, Repr

namespace Session

/-- `Session::new_multi_port`. -/
def newMultiPort (targetIp : String) (portMappings : Table (UInt16 × Protocol) UInt16)
    (now : Instant) : Session :=
  { targetIp, portMappings, lastActivity := now }

/-- `Session::get_target_addr`. -/
def getTargetAddr (session : Session) (proxyPort : UInt16) (protocol : Protocol) :
    Except IoError SocketAddr :=
  match session.portMappings.lookup (proxyPort, protocol) with
  | none =>
      .error
        { kind := .notFound
          message := "No port mapping found for proxy port " ++ toString proxyPort.toNat ++ " ("
            ++ protocol.text ++ ")" }
  | some targetPort =>
      match parseSocketAddr (targetText session.targetIp targetPort) with
      | some addr => .ok addr
      | none =>
          .error
            { kind := .invalidInput
              message := "Invalid socket address: invalid socket address syntax" }

/-- `Session::touch`. -/
def touch (session : Session) (now : Instant) : Session :=
  { session with lastActivity := now }

/-- `Session::is_timed_out`. -/
def isTimedOut (session : Session) (timeoutSeconds : ℕ) (now : Instant) : Bool :=
  timeoutSeconds * 10 ^ 9 < now - session.lastActivity

/-- The address and ports of a session, without its activity and sockets. -/
def route (session : Session) : String × Table (UInt16 × Protocol) UInt16 :=
  (session.targetIp, session.portMappings)

/-- The session stores a socket. -/
def Stores (session : Session) (id : SocketId) : Prop :=
  ∃ key, session.udpSockets.lookup key = some id

end Session

/-! ### The table and the sockets -/

/-- The session table, and every session socket created so far. -/
structure SessionState where
  sessions : Table SessionKey Session := ∅
  sockets : List UpstreamSocket := []

namespace SessionState

/-- The key `get_by_addr` and `get_mut_by_addr` resolve: the exact socket if it
has a session, the client IP otherwise. -/
def resolve (s : SessionState) (addr : SocketAddr) : SessionKey :=
  if (s.sessions.lookup (.exactSocket addr)).isSome then .exactSocket addr else .legacyIp addr.ip

/-- `SessionManager::get`. -/
def get (s : SessionState) (ip : IpAddr) : Option Session :=
  s.sessions.lookup (.legacyIp ip)

/-- `SessionManager::get_by_addr`. -/
def getByAddr (s : SessionState) (addr : SocketAddr) : Option Session :=
  s.sessions.lookup (s.resolve addr)

/-- The sockets of a session told to stop, as `Session::shutdown_sockets` does. -/
def shutdownSockets (s : SessionState) (session : Session) : SessionState :=
  { s with
    sockets := s.sockets.mapIdx fun id socket =>
      if session.udpSockets.entries.any fun e => e.2 == id then
        { socket with shutdown := true }
      else socket }

/-- `get_mut` followed by `shutdown_sockets`, nothing without a session. -/
def clear (s : SessionState) (key : SessionKey) : SessionState :=
  match s.sessions.lookup key with
  | some session =>
      { s.shutdownSockets session with
        sessions := s.sessions.insert key { session with udpSockets := ∅ } }
  | none => s

/-- `sessions.insert`; the replaced session is dropped. -/
def insert (s : SessionState) (key : SessionKey) (session : Session) : SessionState :=
  { s with sessions := s.sessions.insert key session }

/-- `sessions.remove`, the session still to be shut down. -/
def remove (s : SessionState) (key : SessionKey) : SessionState :=
  { s with sessions := s.sessions.erase key }

/-- `SessionManager::touch_by_addr`. -/
def touchByAddr (s : SessionState) (addr : SocketAddr) (now : Instant) : SessionState :=
  { s with sessions := Table.alter (s.resolve addr) (fun session => session.touch now) s.sessions }

/-- `Session::get_or_create_udp_socket` on the session under a key, none where
there is no session. The receive task starts with the socket. -/
def getOrCreate (s : SessionState) (key : SessionKey) (proxyPort : UInt16)
    (clientAddr : SocketAddr) : Option (SocketId × SessionState) := do
  let session ← s.sessions.lookup key
  match session.udpSockets.lookup (proxyPort, clientAddr.port) with
  | some id => return (id, s)
  | none =>
      let id := s.sockets.length
      let udpSockets := session.udpSockets.insert (proxyPort, clientAddr.port) id
      return (id,
        { sessions := s.sessions.insert key { session with udpSockets }
          sockets := s.sockets ++ [{ clientAddr, proxyPort }] })

/-- Where the packets of a client IP go. -/
def route (s : SessionState) (ip : IpAddr) :
    Option (String × Table (UInt16 × Protocol) UInt16) :=
  (s.get ip).map Session.route

/-! ### Routes -/

/-- Shutting sockets down leaves every route in place. -/
lemma route_clear (s : SessionState) (key : SessionKey) (ip : IpAddr) :
    (s.clear key).route ip = s.route ip := by
  rw [clear]
  cases h : s.sessions.lookup key with
  | none => rfl
  | some session =>
      rw [route, route, get, get]
      rcases eq_or_ne (SessionKey.legacyIp ip) key with rfl | hne
      · simp [h, Session.route]
      · rw [AList.lookup_insert_ne hne]

/-- A new session is the route of its own client IP and of no other. -/
lemma route_insert (s : SessionState) (ip : IpAddr) (session : Session) :
    (s.insert (.legacyIp ip) session).route = Function.update s.route ip (some session.route) := by
  funext j
  rcases eq_or_ne j ip with rfl | hne
  · rw [Function.update_self, route, get, insert, AList.lookup_insert, Option.map_some]
  · rw [Function.update_of_ne hne, route, get, insert, AList.lookup_insert_ne (by simpa using hne)]
    rfl

end SessionState

end UdpDirector
