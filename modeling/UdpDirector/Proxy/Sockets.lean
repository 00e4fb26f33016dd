import UdpDirector.Proxy.Operations

/-!
The upstream sockets of the sessions.

* `Owned`: a session under a client IP stores a socket under a data port and a
  source port only if the socket was created for these three and still runs; a
  session that is out of the table stores none that is in it;
* `Stored`: every socket that still runs is stored by the session under its client IP,
  or by the one out of the table;
* `Owned.apply`, `Stored.apply`: what each operation on the table keeps;
* `no_leak`: in a run in which no route replaces a session that stores sockets, no
  socket is leaked;
* `leaked_of_install`, `Leaked.step`: where one does, its sockets are leaked, and
  stay so;
* `socket_leaked`: a packet forwarded between the two steps of an upsert brings this
  about.
-/

namespace UdpDirector

/-! ### Sockets of a session -/

lemma Session.stores_iff {session : Session} {id : SocketId} :
    session.Stores id ↔ (session.udpSockets.entries.any fun e => e.2 == id) = true := by
  simp only [Stores, Table.lookup_eq_some, List.any_eq_true, beq_iff_eq]
  constructor
  · rintro ⟨key, hmem⟩
    exact ⟨⟨key, id⟩, hmem, rfl⟩
  · rintro ⟨⟨key, id⟩, hmem, rfl⟩
    exact ⟨key, hmem⟩

@[simp] lemma Upsert.not_stores (u : Upsert) (now : Instant) (id : SocketId) :
    ¬(u.session now).Stores id := by
  simp [Session.Stores, session, Session.newMultiPort]

namespace SessionState

/-- A shutdown reaches the sockets that the session stores. -/
lemma getElem?_shutdownSockets_of_stores {session : Session} {id : SocketId}
    (s : SessionState) (h : session.Stores id) :
    (s.shutdownSockets session).sockets[id]?
      = s.sockets[id]?.map fun socket => { socket with shutdown := true } := by
  simp only [shutdownSockets, List.getElem?_mapIdx, Session.stores_iff.mp h, if_true]

/-- A shutdown leaves the sockets that the session does not store. -/
lemma getElem?_shutdownSockets_of_not_stores {session : Session} {id : SocketId}
    (s : SessionState) (h : ¬session.Stores id) :
    (s.shutdownSockets session).sockets[id]? = s.sockets[id]? := by
  rw [Session.stores_iff, Bool.not_eq_true] at h
  simp only [shutdownSockets, List.getElem?_mapIdx, h, Bool.false_eq_true, if_false, Option.map_id']

/-- A socket that runs after a shutdown is not stored by the session, and ran before. -/
lemma of_running_shutdownSockets {s : SessionState} {session : Session} {id : SocketId}
    {socket : UpstreamSocket} (h : (s.shutdownSockets session).sockets[id]? = some socket)
    (hrunning : socket.shutdown = false) :
    ¬session.Stores id ∧ s.sockets[id]? = some socket := by
  by_cases hid : session.Stores id
  · rw [getElem?_shutdownSockets_of_stores s hid, Option.map_eq_some_iff] at h
    obtain ⟨old, -, rfl⟩ := h
    simp at hrunning
  · rw [getElem?_shutdownSockets_of_not_stores s hid] at h
    exact ⟨hid, h⟩

/-- The session under a client IP after a session under a key has been altered. -/
lemma exists_of_get_alter {s : SessionState} {key : SessionKey} {f : Session → Session}
    {t : List UpstreamSocket} {ip : IpAddr} {session' : Session}
    (h : get { sessions := Table.alter key f s.sessions, sockets := t } ip = some session') :
    ∃ session, s.get ip = some session
      ∧ (session' = session ∧ key ≠ .legacyIp ip ∨ key = .legacyIp ip ∧ session' = f session) := by
  by_cases hkey : SessionKey.legacyIp ip = key
  · rw [get, ← hkey, Table.lookup_alter, Option.map_eq_some_iff] at h
    obtain ⟨session, hsession, rfl⟩ := h
    exact ⟨session, hsession, .inr ⟨hkey.symm, rfl⟩⟩
  · rw [get, Table.lookup_alter_ne f _ hkey] at h
    exact ⟨session', h, .inl ⟨rfl, fun heq => hkey heq.symm⟩⟩

lemma sockets_clear_of_some {s : SessionState} {key : SessionKey} {session : Session}
    (h : s.sessions.lookup key = some session) :
    (s.clear key).sockets = (s.shutdownSockets session).sockets := by
  rw [clear, h]

lemma sockets_clear_of_none {s : SessionState} {key : SessionKey}
    (h : s.sessions.lookup key = none) : (s.clear key).sockets = s.sockets := by
  rw [clear, h]

/-- Without sessions of exact sockets, the client IP is looked up. -/
lemma resolve_of_legacy {s : SessionState} {addr : SocketAddr}
    (h : s.sessions.lookup (.exactSocket addr) = none) : s.resolve addr = .legacyIp addr.ip := by
  rw [resolve, h]
  rfl

end SessionState

namespace TableOp

/-- The cleanup removes a session only once the last one has been shut down, and shuts
down the one it has removed. -/
def Enabled (removed : Option Session) : TableOp → Prop
  | .remove _ => removed = none
  | .shutdown session => removed = some session
  | _ => True

section

variable {s : SessionState} {u : Upsert} {now : Instant} {key : SessionKey} {ip : IpAddr}

lemma get_insert (h : .legacyIp ip = u.key) :
    ((insert u now).apply s).get ip = some (u.session now) := by
  rw [apply, SessionState.get, SessionState.insert, h, AList.lookup_insert]

lemma get_insert_ne (h : .legacyIp ip ≠ u.key) : ((insert u now).apply s).get ip = s.get ip := by
  rw [apply, SessionState.get, SessionState.insert, AList.lookup_insert_ne h, SessionState.get]

lemma get_remove (h : .legacyIp ip = key) : ((remove key).apply s).get ip = none := by
  rw [apply, SessionState.get, SessionState.remove, h, AList.lookup_erase]

lemma get_remove_ne (h : .legacyIp ip ≠ key) : ((remove key).apply s).get ip = s.get ip := by
  rw [apply, SessionState.get, SessionState.remove, AList.lookup_erase_ne h, SessionState.get]

end

/-- The table after a packet has asked for its socket. -/
lemma apply_openSocket {s : SessionState} {client : SocketAddr} (proxyPort : UInt16)
    (h : s.sessions.lookup (.exactSocket client) = none) :
    (openSocket client proxyPort).apply s = s
      ∨ ∃ session, s.get client.ip = some session
        ∧ session.udpSockets.lookup (proxyPort, client.port) = none
        ∧ (openSocket client proxyPort).apply s
          = { sessions := Table.alter (.legacyIp client.ip)
                (fun session => { session with
                  udpSockets :=
                    session.udpSockets.insert (proxyPort, client.port) s.sockets.length })
                s.sessions
              sockets := s.sockets ++ [{ clientAddr := client, proxyPort }] } := by
  rw [apply, SessionState.resolve_of_legacy h]
  split
  · rename_i hcreate
    obtain ⟨session, hsession, ⟨-, rfl⟩ | ⟨hlookup, rfl, rfl⟩⟩ :=
      SessionState.getOrCreate_eq_some hcreate
    · exact .inl rfl
    · exact .inr ⟨session, hsession, hlookup, rfl⟩
  · exact .inl rfl

end TableOp

/-! ### Owned sockets -/

/-- A running socket that was created for a client IP, a data port and a source
port. -/
structure UpstreamSocket.Serves (socket : UpstreamSocket) (ip : IpAddr) (port source : UInt16) :
    Prop where
  ip : socket.clientAddr.ip = ip
  source : socket.clientAddr.port = source
  port : socket.proxyPort = port
  running : socket.shutdown = false

/-- What a session stores: under a data port and a source port, a socket that was
created for them and for the client IP of the session, and that still runs. The
session out of the table stores none of these. -/
structure Owned (s : SessionState) (removed : Option Session) : Prop where
  legacy : ∀ addr, s.sessions.lookup (.exactSocket addr) = none
  stored : ∀ ip session port source id, s.get ip = some session →
    session.udpSockets.lookup (port, source) = some id →
    ∃ socket, s.sockets[id]? = some socket ∧ socket.Serves ip port source
  apart : ∀ session ∈ removed, ∀ id, session.Stores id →
    id < s.sockets.length ∧ ∀ ip session', s.get ip = some session' → ¬session'.Stores id

namespace Owned

variable {s : SessionState} {removed : Option Session} {op : TableOp}

/-- A socket is stored by one session only. -/
lemma eq_of_stores (h : Owned s removed) {ip ip' : IpAddr} {session session' : Session}
    {id : SocketId} (hget : s.get ip = some session) (hid : session.Stores id)
    (hget' : s.get ip' = some session') (hid' : session'.Stores id) : ip = ip' := by
  obtain ⟨⟨port, source⟩, hlookup⟩ := hid
  obtain ⟨⟨port', source'⟩, hlookup'⟩ := hid'
  obtain ⟨socket, hsocket, hserves⟩ := h.stored ip session port source id hget hlookup
  obtain ⟨socket', hsocket', hserves'⟩ := h.stored ip' session' port' source' id hget' hlookup'
  rw [hsocket] at hsocket'
  obtain rfl := Option.some.inj hsocket'
  rw [← hserves.ip, hserves'.ip]

lemma lt_of_stores (h : Owned s removed) {ip : IpAddr} {session : Session} {id : SocketId}
    (hget : s.get ip = some session) (hid : session.Stores id) : id < s.sockets.length := by
  obtain ⟨⟨port, source⟩, hlookup⟩ := hid
  obtain ⟨socket, hsocket, -⟩ := h.stored ip session port source id hget hlookup
  exact (List.getElem?_eq_some_iff.mp hsocket).1

/-- A session is under the client IP. -/
lemma exists_ip (h : Owned s removed) {key : SessionKey} {session : Session}
    (hlookup : s.sessions.lookup key = some session) :
    ∃ ip, key = .legacyIp ip ∧ s.get ip = some session := by
  cases key with
  | legacyIp ip => exact ⟨ip, rfl, hlookup⟩
  | exactSocket addr =>
      rw [h.legacy addr] at hlookup
      simp at hlookup

/-- A socket of another session survives a `clear`. -/
lemma getElem?_clear (h : Owned s removed) {key : SessionKey} {ip : IpAddr} {session : Session}
    {id : SocketId} (hget : s.get ip = some session) (hid : session.Stores id)
    (hkey : key ≠ .legacyIp ip) : (s.clear key).sockets[id]? = s.sockets[id]? := by
  cases hlookup : s.sessions.lookup key with
  | none => rw [SessionState.sockets_clear_of_none hlookup]
  | some session' =>
      obtain ⟨ip', rfl, hget'⟩ := h.exists_ip hlookup
      rw [SessionState.sockets_clear_of_some hlookup]
      refine SessionState.getElem?_shutdownSockets_of_not_stores s fun hid' => hkey ?_
      rw [h.eq_of_stores hget hid hget' hid']

@[simp] lemma length_shutdownSockets (s : SessionState) (session : Session) :
    (s.shutdownSockets session).sockets.length = s.sockets.length := by
  simp [SessionState.shutdownSockets]

@[simp] lemma length_clear (s : SessionState) (key : SessionKey) :
    (s.clear key).sockets.length = s.sockets.length := by
  cases h : s.sessions.lookup key with
  | none => rw [SessionState.sockets_clear_of_none h]
  | some session => rw [SessionState.sockets_clear_of_some h, length_shutdownSockets]

lemma stored_apply (h : Owned s removed) (hop : op.Enabled removed) {ip : IpAddr}
    {session' : Session} {port source : UInt16} {id : SocketId}
    (hget : (op.apply s).get ip = some session')
    (hid : session'.udpSockets.lookup (port, source) = some id) :
    ∃ socket, (op.apply s).sockets[id]? = some socket ∧ socket.Serves ip port source := by
  cases op with
  | keep => exact h.stored ip session' port source id hget hid
  | clear key =>
      have hget' := hget
      rw [TableOp.apply, SessionState.get, SessionState.sessions_clear] at hget'
      obtain ⟨session, hsession, ⟨rfl, hkey⟩ | ⟨-, rfl⟩⟩ :=
        SessionState.exists_of_get_alter (s := s) (t := s.sockets) hget'
      · rw [TableOp.apply, h.getElem?_clear hsession ⟨_, hid⟩ hkey]
        exact h.stored ip session' port source id hsession hid
      · simp at hid
  | insert u now =>
      by_cases hip : SessionKey.legacyIp ip = u.key
      · rw [TableOp.get_insert hip] at hget
        obtain rfl := Option.some.inj hget
        exact absurd ⟨_, hid⟩ (u.not_stores now id)
      · rw [TableOp.get_insert_ne hip] at hget
        exact h.stored ip session' port source id hget hid
  | openSocket client proxyPort =>
      obtain heq | ⟨session, hsession, -, heq⟩ :=
        TableOp.apply_openSocket proxyPort (h.legacy client)
      · rw [heq] at hget ⊢
        exact h.stored ip session' port source id hget hid
      · rw [heq] at hget ⊢
        obtain ⟨session, hsession, ⟨rfl, -⟩ | ⟨hip, rfl⟩⟩ := SessionState.exists_of_get_alter hget
        · have hlt := h.lt_of_stores hsession ⟨_, hid⟩
          rw [List.getElem?_append_left hlt]
          exact h.stored ip session' port source id hsession hid
        · obtain rfl := SessionKey.legacyIp.inj hip
          by_cases hkey : (port, source) = (proxyPort, client.port)
          · obtain ⟨rfl, rfl⟩ := Prod.mk.inj hkey
            rw [AList.lookup_insert] at hid
            obtain rfl := Option.some.inj hid
            exact ⟨{ clientAddr := client, proxyPort := port }, by simp, rfl, rfl, rfl, rfl⟩
          · rw [AList.lookup_insert_ne hkey] at hid
            have hlt := h.lt_of_stores hsession ⟨_, hid⟩
            rw [List.getElem?_append_left hlt]
            exact h.stored _ session port source id hsession hid
  | touch client now =>
      obtain ⟨session, hsession, ⟨rfl, -⟩ | ⟨-, rfl⟩⟩ := SessionState.exists_of_get_alter hget
      · exact h.stored ip session' port source id hsession hid
      · exact h.stored ip session port source id hsession hid
  | remove key =>
      by_cases hip : SessionKey.legacyIp ip = key
      · rw [TableOp.get_remove hip] at hget
        simp at hget
      · rw [TableOp.get_remove_ne hip] at hget
        exact h.stored ip session' port source id hget hid
  | shutdown session =>
      rw [TableOp.apply, SessionState.getElem?_shutdownSockets_of_not_stores]
      · exact h.stored ip session' port source id hget hid
      · exact fun hstores => (h.apart session hop id hstores).2 ip session' hget ⟨_, hid⟩

/-- What a session stores after an operation was stored before or is new. -/
lemma stores_of_apply (h : Owned s removed) {ip : IpAddr} {session' : Session} {id : SocketId}
    (hget : (op.apply s).get ip = some session') (hid : session'.Stores id)
    (hlt : id < s.sockets.length) : ∃ session, s.get ip = some session ∧ session.Stores id := by
  cases op with
  | keep | shutdown => exact ⟨session', hget, hid⟩
  | clear key =>
      rw [TableOp.apply, SessionState.get, SessionState.sessions_clear] at hget
      obtain ⟨session, hsession, ⟨rfl, -⟩ | ⟨-, rfl⟩⟩ :=
        SessionState.exists_of_get_alter (s := s) (t := s.sockets) hget
      · exact ⟨session', hsession, hid⟩
      · simp [Session.Stores] at hid
  | insert u now =>
      by_cases hip : SessionKey.legacyIp ip = u.key
      · rw [TableOp.get_insert hip] at hget
        obtain rfl := Option.some.inj hget
        exact absurd hid (u.not_stores now id)
      · rw [TableOp.get_insert_ne hip] at hget
        exact ⟨session', hget, hid⟩
  | openSocket client proxyPort =>
      obtain heq | ⟨-, -, -, heq⟩ := TableOp.apply_openSocket proxyPort (h.legacy client)
      · rw [heq] at hget
        exact ⟨session', hget, hid⟩
      · rw [heq] at hget
        obtain ⟨session, hsession, ⟨rfl, -⟩ | ⟨-, rfl⟩⟩ := SessionState.exists_of_get_alter hget
        · exact ⟨session', hsession, hid⟩
        · obtain ⟨key, hkey⟩ := hid
          by_cases heq : key = (proxyPort, client.port)
          · rw [heq, AList.lookup_insert] at hkey
            obtain rfl := Option.some.inj hkey
            exact absurd hlt (lt_irrefl _)
          · rw [AList.lookup_insert_ne heq] at hkey
            exact ⟨session, hsession, key, hkey⟩
  | touch client now =>
      obtain ⟨session, hsession, ⟨rfl, -⟩ | ⟨-, rfl⟩⟩ := SessionState.exists_of_get_alter hget
      · exact ⟨session', hsession, hid⟩
      · exact ⟨session, hsession, hid⟩
  | remove key =>
      by_cases hip : SessionKey.legacyIp ip = key
      · rw [TableOp.get_remove hip] at hget
        simp at hget
      · rw [TableOp.get_remove_ne hip] at hget
        exact ⟨session', hget, hid⟩

/-- No operation forgets a socket. -/
lemma length_apply (s : SessionState) (op : TableOp) :
    s.sockets.length ≤ (op.apply s).sockets.length := by
  cases op with
  | keep | insert | touch | remove => exact le_rfl
  | clear key => rw [TableOp.apply, length_clear]
  | openSocket client proxyPort =>
      rw [TableOp.apply]
      split
      · rename_i hcreate
        obtain ⟨session, -, ⟨-, rfl⟩ | ⟨-, -, rfl⟩⟩ := SessionState.getOrCreate_eq_some hcreate
        · exact le_rfl
        · simp
      · exact le_rfl
  | shutdown session => rw [TableOp.apply, length_shutdownSockets]

lemma apart_apply (h : Owned s removed) :
    ∀ session ∈ op.removed s removed, ∀ id, session.Stores id →
      id < (op.apply s).sockets.length
        ∧ ∀ ip session', (op.apply s).get ip = some session' → ¬session'.Stores id := by
  have hold : ∀ session ∈ removed, ∀ id, session.Stores id →
      id < (op.apply s).sockets.length
        ∧ ∀ ip session', (op.apply s).get ip = some session' → ¬session'.Stores id := by
    intro session hsession id hid
    obtain ⟨hlt, hnot⟩ := h.apart session hsession id hid
    refine ⟨hlt.trans_le (length_apply s op), fun ip session' hget hid' => ?_⟩
    obtain ⟨old, hold, hid''⟩ := h.stores_of_apply hget hid' hlt
    exact hnot ip old hold hid''
  cases op with
  | remove key =>
      intro session hsession id hid
      obtain ⟨ip, rfl, hget⟩ := h.exists_ip hsession
      refine ⟨h.lt_of_stores hget hid, fun ip' session' hget' hid' => ?_⟩
      by_cases hip : SessionKey.legacyIp ip' = .legacyIp ip
      · rw [TableOp.get_remove hip] at hget'
        simp at hget'
      · rw [TableOp.get_remove_ne hip] at hget'
        exact hip (congrArg _ (h.eq_of_stores hget' hid' hget hid))
  | shutdown session => simp [TableOp.removed]
  | _ => exact hold

/-- **Every operation keeps the sockets owned.** -/
theorem apply (h : Owned s removed) (hop : op.Enabled removed) :
    Owned (op.apply s) (op.removed s removed) where
  legacy addr := TableOp.lookup_apply_of_none (h.legacy addr) (by simp [Upsert.key])
  stored _ _ _ _ _ hget hid := h.stored_apply hop hget hid
  apart := h.apart_apply

end Owned

/-! ### Stored and leaked sockets -/

/-- Every socket that runs is stored by the session under its client IP, or by the
one out of the table. -/
def Stored (s : SessionState) (removed : Option Session) : Prop :=
  ∀ id socket, s.sockets[id]? = some socket → socket.shutdown = false →
    (∃ session, s.get socket.clientAddr.ip = some session ∧ session.Stores id)
      ∨ ∃ session ∈ removed, session.Stores id

/-- A socket that runs and that nothing stores. -/
structure Leaked (s : SessionState) (removed : Option Session) (id : SocketId) : Prop where
  running : ∃ socket, s.sockets[id]? = some socket ∧ socket.shutdown = false
  absent : ∀ ip session, s.get ip = some session → ¬session.Stores id
  absent_removed : ∀ session ∈ removed, ¬session.Stores id

section

variable {s : SessionState} {removed : Option Session} {op : TableOp}

/-- A socket that a session stores is stored by the session altered, if the alteration
keeps it. -/
lemma SessionState.stores_alter {ip : IpAddr} {key : SessionKey} {f : Session → Session}
    {t : List UpstreamSocket} {session : Session} {id : SocketId} (hget : s.get ip = some session)
    (hid : session.Stores id) (hf : key = .legacyIp ip → (f session).Stores id) :
    ∃ session', get { sessions := Table.alter key f s.sessions, sockets := t } ip = some session'
      ∧ session'.Stores id := by
  by_cases hkey : SessionKey.legacyIp ip = key
  · refine ⟨f session, ?_, hf hkey.symm⟩
    rw [get] at hget ⊢
    rw [← hkey, Table.lookup_alter, hget, Option.map_some]
  · refine ⟨session, ?_, hid⟩
    rw [get, Table.lookup_alter_ne f _ hkey]
    exact hget

/-- **Every operation keeps the sockets stored**, if no route replaces a session that
stores sockets. -/
theorem Stored.apply (h : Stored s removed) (hs : Owned s removed) (hop : op.Enabled removed)
    (hinsert : ∀ u now, op = .insert u now → ∀ session, s.sessions.lookup u.key = some session →
      ∀ id, ¬session.Stores id) : Stored (op.apply s) (op.removed s removed) := by
  intro id socket hsocket hrunning
  cases op with
  | keep => exact h id socket hsocket hrunning
  | clear key =>
      cases hlookup : s.sessions.lookup key with
      | none =>
          rw [TableOp.apply, SessionState.clear, hlookup] at hsocket ⊢
          exact h id socket hsocket hrunning
      | some cleared =>
          rw [TableOp.apply, SessionState.sockets_clear_of_some hlookup] at hsocket
          obtain ⟨hcleared, hsocket⟩ :=
            SessionState.of_running_shutdownSockets hsocket hrunning
          obtain ⟨session, hget, hid⟩ | hremoved := h id socket hsocket hrunning
          · left
            have hkey : key ≠ .legacyIp socket.clientAddr.ip := by
              rintro rfl
              rw [SessionState.get, hlookup] at hget
              obtain rfl := Option.some.inj hget
              exact hcleared hid
            rw [TableOp.apply, SessionState.get, SessionState.sessions_clear]
            exact SessionState.stores_alter (t := s.sockets) hget hid fun heq => absurd heq hkey
          · exact .inr hremoved
  | insert u now =>
      obtain ⟨session, hget, hid⟩ | hremoved := h id socket hsocket hrunning
      · left
        have hkey : SessionKey.legacyIp socket.clientAddr.ip ≠ u.key := by
          intro hkey
          rw [SessionState.get, hkey] at hget
          exact hinsert u now rfl session hget id hid
        exact ⟨session, by rw [TableOp.get_insert_ne hkey, hget], hid⟩
      · exact .inr hremoved
  | openSocket client proxyPort =>
      obtain heq | ⟨opened, hopened, hlookup, heq⟩ :=
        TableOp.apply_openSocket proxyPort (hs.legacy client)
      · rw [heq] at hsocket ⊢
        exact h id socket hsocket hrunning
      · rw [heq] at hsocket ⊢
        by_cases hlt : id < s.sockets.length
        · -- an older socket stays where it is stored
          rw [List.getElem?_append_left hlt] at hsocket
          obtain ⟨session, hget, key, hkey⟩ | hremoved := h id socket hsocket hrunning
          · left
            refine SessionState.stores_alter hget ⟨key, hkey⟩ fun hip => ⟨key, ?_⟩
            have hne : key ≠ (proxyPort, client.port) := by
              rintro rfl
              rw [← SessionKey.legacyIp.inj hip, hopened] at hget
              obtain rfl := Option.some.inj hget
              rw [hlookup] at hkey
              simp at hkey
            rw [AList.lookup_insert_ne hne]
            exact hkey
          · exact .inr hremoved
        · -- the new socket is stored at once
          left
          obtain rfl : id = s.sockets.length := by
            have hle := (List.getElem?_eq_some_iff.mp hsocket).1
            rw [List.length_append, List.length_singleton] at hle
            exact Nat.le_antisymm (Nat.lt_succ_iff.mp hle) (Nat.not_lt.mp hlt)
          rw [List.getElem?_append_right le_rfl, Nat.sub_self, List.getElem?_cons_zero] at hsocket
          obtain rfl := Option.some.inj hsocket
          rw [SessionState.get] at hopened
          rw [SessionState.get, Table.lookup_alter, hopened, Option.map_some]
          exact ⟨_, rfl, (proxyPort, client.port), AList.lookup_insert _⟩
  | touch client now =>
      obtain ⟨session, hget, hid⟩ | hremoved := h id socket hsocket hrunning
      · exact .inl (SessionState.stores_alter hget hid fun _ => hid)
      · exact .inr hremoved
  | remove key =>
      obtain ⟨session, hget, hid⟩ | ⟨session, hsession, -⟩ := h id socket hsocket hrunning
      · by_cases hip : SessionKey.legacyIp socket.clientAddr.ip = key
        · exact .inr ⟨session, by rw [← hip]; exact hget, hid⟩
        · exact .inl ⟨session, by rw [TableOp.get_remove_ne hip, hget], hid⟩
      · rw [hop] at hsession
        simp at hsession
  | shutdown session =>
      obtain ⟨hid, hsocket⟩ := SessionState.of_running_shutdownSockets hsocket hrunning
      obtain hstored | ⟨session', hsession', hid'⟩ := h id socket hsocket hrunning
      · exact .inl hstored
      · rw [hop] at hsession'
        obtain rfl := Option.some.inj hsession'
        exact absurd hid' hid

namespace Leaked

variable {id : SocketId}

/-- **A leaked socket is never told to stop.** -/
theorem apply (h : Leaked s removed id) (hs : Owned s removed) (hop : op.Enabled removed) :
    Leaked (op.apply s) (op.removed s removed) id := by
  obtain ⟨⟨socket, hsocket, hrunning⟩, habsent, hremoved⟩ := h
  have hlt : id < s.sockets.length := (List.getElem?_eq_some_iff.mp hsocket).1
  refine ⟨⟨socket, ?_, hrunning⟩, fun ip session' hget hid => ?_, fun session hsession hid => ?_⟩
  · cases op with
    | keep | insert | touch | remove => exact hsocket
    | clear key =>
        cases hlookup : s.sessions.lookup key with
        | none => rw [TableOp.apply, SessionState.sockets_clear_of_none hlookup, hsocket]
        | some session =>
            obtain ⟨ip, rfl, hget⟩ := hs.exists_ip hlookup
            rw [TableOp.apply, SessionState.sockets_clear_of_some hlookup,
              SessionState.getElem?_shutdownSockets_of_not_stores s (habsent ip session hget),
              hsocket]
    | openSocket client proxyPort =>
        obtain heq | ⟨session, -, -, heq⟩ := TableOp.apply_openSocket proxyPort (hs.legacy client)
        · rw [heq, hsocket]
        · rw [heq, List.getElem?_append_left hlt, hsocket]
    | shutdown session =>
        rw [TableOp.apply,
          SessionState.getElem?_shutdownSockets_of_not_stores s (hremoved session hop), hsocket]
  · obtain ⟨session, hold, hid⟩ := hs.stores_of_apply hget hid hlt
    exact habsent ip session hold hid
  · cases op with
    | remove key =>
        obtain ⟨ip, -, hget⟩ := hs.exists_ip hsession
        exact habsent ip session hget hid
    | shutdown session => simp [TableOp.removed] at hsession
    | _ => exact hremoved session hsession hid

/-- **A route that replaces a session leaks the sockets it stores.** -/
theorem of_insert (hs : Owned s removed) {u : Upsert} {session : Session} (now : Instant)
    (hlookup : s.sessions.lookup u.key = some session) (hid : session.Stores id) :
    Leaked ((TableOp.insert u now).apply s) removed id := by
  obtain ⟨⟨port, source⟩, hkey⟩ := hid
  obtain ⟨socket, hsocket, hserves⟩ := hs.stored _ session port source id hlookup hkey
  have hlt : id < s.sockets.length := (List.getElem?_eq_some_iff.mp hsocket).1
  refine ⟨⟨socket, hsocket, hserves.running⟩, fun ip session' hget hid' => ?_,
    fun out hout hid' => ?_⟩
  · obtain ⟨old, hold, hstores⟩ := hs.stores_of_apply hget hid' hlt
    have hip := hs.eq_of_stores hold hstores hlookup ⟨_, hkey⟩
    rw [hip, TableOp.get_insert rfl] at hget
    obtain rfl := Option.some.inj hget
    exact u.not_stores now id hid'
  · exact (hs.apart out hout id hid').2 _ session hlookup ⟨_, hkey⟩

end Leaked

end

/-! ### Runs of the data plane -/

namespace Proxy

variable {config : Config} {p q : Plane} {a : Action}

/-- A route that is installed replaces no session that stores sockets. -/
def Vacant (p : Plane) (a : Action) : Prop :=
  ∀ u ∈ p.installs a, ∀ session, p.table.sessions.lookup u.key = some session →
    ∀ id, ¬session.Stores id

lemma Performs.enabled {op : TableOp} (h : Performs p a op) : op.Enabled p.sweep.removed := by
  cases h with
  | remove hsweep =>
      rw [hsweep]
      rfl
  | shutdown hsweep =>
      rw [hsweep]
      rfl
  | _ => trivial

lemma owned_initial (h0 : p.Initial) : Owned p.table p.sweep.removed := by
  rw [h0.table, h0.sweep]
  exact ⟨fun _ => rfl, fun _ _ _ _ _ h => by simp [SessionState.get] at h, by simp [Sweep.removed]⟩

lemma stored_initial (h0 : p.Initial) : Stored p.table p.sweep.removed := by
  rw [h0.table]
  intro id socket h
  simp at h

/-- **In every run the sockets are owned.** -/
theorem owned_of_run {p₀ : Plane} {acts : List Action} (h0 : p₀.Initial)
    (hrun : Run.run (step config) p₀ acts = some p) : Owned p.table p.sweep.removed := by
  refine Run.run_invariant (I := fun p => Owned p.table p.sweep.removed) ?_ (owned_initial h0) hrun
  intro s a t hs hstep
  obtain ⟨op, hop, htable, hremoved⟩ := performs_of_step hstep
  rw [htable, hremoved]
  exact hs.apply hop.enabled

/-- A step that replaces no session with sockets keeps the sockets stored. -/
lemma stored_of_step (hs : Owned p.table p.sweep.removed) (hp : Stored p.table p.sweep.removed)
    (hG : Vacant p a) (h : step config p a = some q) : Stored q.table q.sweep.removed := by
  obtain ⟨op, hop, htable, hremoved⟩ := performs_of_step h
  rw [htable, hremoved]
  refine hp.apply hs hop.enabled ?_
  rintro u now rfl
  cases hop with
  | insert hu => exact hG u hu

/-- **Leaked sockets stay leaked.** -/
lemma leaked_of_run {id : SocketId} {acts : List Action} (hs : Owned p.table p.sweep.removed)
    (hp : Leaked p.table p.sweep.removed id) (hrun : Run.run (step config) p acts = some q) :
    Leaked q.table q.sweep.removed id := by
  refine (Run.run_invariant
    (I := fun p => Owned p.table p.sweep.removed ∧ Leaked p.table p.sweep.removed id)
    ?_ ⟨hs, hp⟩ hrun).2
  rintro s a t ⟨hs, hleaked⟩ hstep
  obtain ⟨op, hop, htable, hremoved⟩ := performs_of_step hstep
  rw [htable, hremoved]
  exact ⟨hs.apply hop.enabled, hleaked.apply hs hop.enabled⟩

/-- A step that installs a route performs its insertion. -/
lemma performs_insert_of_step {u : Upsert} (h : step config p a = some q)
    (hu : p.installs a = some u) :
    q.table = (TableOp.insert u p.now).apply p.table ∧ q.sweep.removed = p.sweep.removed := by
  cases a with
  | connection i event =>
      obtain ⟨phase, effect, hmoves, rfl⟩ := exists_moves_of_step h
      rw [table_move, sweep_move]
      generalize hphase : (p.connections i).phase = old at hmoves
      cases hmoves with
      | install =>
          rw [Plane.installs, hphase] at hu
          obtain rfl := Option.some.inj hu
          exact ⟨rfl, rfl⟩
      | _ => simp [Plane.installs] at hu
  | queryInstall j =>
      obtain ⟨u', hu', rfl⟩ := Option.map_eq_some_iff.mp h
      rw [Plane.installs, hu'] at hu
      obtain rfl := Option.some.inj hu
      exact ⟨rfl, rfl⟩
  | queryClear | cleanup | tick | invalidate => simp [Plane.installs] at hu

/-- A step that replaces a session with sockets leaks them. -/
lemma exists_leaked_of_step (hs : Owned p.table p.sweep.removed) (hG : ¬Vacant p a)
    (h : step config p a = some q) : ∃ id, Leaked q.table q.sweep.removed id := by
  simp only [Vacant, not_forall, not_not] at hG
  obtain ⟨u, hu, session, hlookup, id, hid⟩ := hG
  obtain ⟨htable, hremoved⟩ := performs_insert_of_step h hu
  rw [htable, hremoved]
  exact ⟨id, .of_insert hs p.now hlookup hid⟩

/-- **No upstream socket is leaked exactly when no route replaces a session that stores
sockets.** At the end of a run, with no removal half done, every socket that runs is
stored by the session under its client IP if and only if this holds of every step of
the run. -/
theorem sockets_stored_iff {p₀ : Plane} {acts : List Action} (h0 : p₀.Initial)
    (hrun : Run.run (step config) p₀ acts = some p) (hsweep : p.sweep.removed = none) :
    (∀ id socket, p.table.sockets[id]? = some socket → socket.shutdown = false →
        ∃ session, p.table.get socket.clientAddr.ip = some session ∧ session.Stores id)
      ↔ Run.Along (step config) Vacant p₀ acts := by
  constructor
  · intro hstored
    by_contra hG
    obtain ⟨pre, a, post, r, rfl, hpre, hr⟩ := Run.exists_of_not_along hG
    rw [Run.run_append, hpre, Option.bind_some, Run.run_cons, Option.bind_eq_some_iff] at hrun
    obtain ⟨t, hstep, hpost⟩ := hrun
    obtain ⟨id, hleaked⟩ := exists_leaked_of_step (owned_of_run h0 hpre) hr hstep
    have hp := leaked_of_run (owned_of_run h0 (Run.run_concat hpre hstep)) hleaked hpost
    obtain ⟨socket, hsocket, hrunning⟩ := hp.running
    obtain ⟨session, hget, hid⟩ := hstored id socket hsocket hrunning
    exact hp.absent _ session hget hid
  · intro hG id socket hsocket hrunning
    have hp : Owned p.table p.sweep.removed ∧ Stored p.table p.sweep.removed := by
      refine Run.run_invariant_along
        (I := fun p => Owned p.table p.sweep.removed ∧ Stored p.table p.sweep.removed)
        ?_ ⟨owned_initial h0, stored_initial h0⟩ hG hrun
      rintro s a t ⟨hs, hstored⟩ hg hstep
      obtain ⟨op, hop, htable, hremoved⟩ := performs_of_step hstep
      refine ⟨?_, stored_of_step hs hstored hg hstep⟩
      rw [htable, hremoved]
      exact hs.apply hop.enabled
    obtain hstored | ⟨session, hsession, -⟩ := hp.2 id socket hsocket hrunning
    · exact hstored
    · rw [hsweep] at hsession
      simp at hsession

namespace Sample

/-- A packet forwarded once a query has been answered, and a second query answered
after that. -/
def forwarded : List Action :=
  query "10.0.0.1" ++ [.connection 0 .arrive, .connection 0 (.forward true)] ++ query "10.0.0.9"

/-- The same packet forwarded between the two steps of the second answer. -/
def crossed : List Action :=
  query "10.0.0.1" ++ [.connection 0 .arrive, .queryClear 0 (answer "10.0.0.9"),
    .connection 0 (.forward true), .queryInstall 0]

def afterForwarded : Plane := reach plane forwarded (by decide +kernel)

def afterCrossed : Plane := reach plane crossed (by decide +kernel)

end Sample

/-- The packet came before both steps of the second answer: its socket has been told to
stop, and no route has replaced a session with sockets. -/
theorem sockets_stored_iff_sample :
    Run.Along (step Sample.settings) Vacant Sample.plane Sample.forwarded := by
  have hsockets : Sample.afterForwarded.table.sockets
      = [{ clientAddr := Sample.client, proxyPort := 7777, shutdown := true }] := by
    decide +kernel
  have hremoved : Sample.afterForwarded.sweep.removed = none :=
    Option.isNone_iff_eq_none.mp (by decide +kernel)
  have hrun : Run.run (step Sample.settings) Sample.plane Sample.forwarded
      = some Sample.afterForwarded :=
    Sample.run_reach _ _ _
  refine (sockets_stored_iff Sample.initial_plane hrun hremoved).mp ?_
  intro id socket hsocket hrunning
  rw [hsockets, List.getElem?_singleton] at hsocket
  obtain ⟨-, hsome⟩ := Option.ite_none_right_eq_some.mp hsocket
  obtain rfl := Option.some.inj hsome
  simp at hrunning

/-- **An upsert leaks the socket of a packet forwarded in between**: a query is
answered, a packet finds its session, a second query shuts down the sockets of that
session, the packet creates a new one in it, and the query replaces the session. -/
theorem socket_leaked :
    Sample.plane.Initial
      ∧ Run.run (step Sample.settings) Sample.plane Sample.crossed = some Sample.afterCrossed
      ∧ Sample.afterCrossed.sweep.removed = none
      ∧ Sample.afterCrossed.table.sockets = [{ clientAddr := Sample.client, proxyPort := 7777 }]
      ∧ (Sample.afterCrossed.table.get Sample.client.ip).map (fun session =>
          (session.targetIp, session.udpSockets.entries.length)) = some ("10.0.0.9", 0) :=
  ⟨Sample.initial_plane, Sample.run_reach _ _ _, by decide +kernel, by decide +kernel,
    by decide +kernel⟩

end Proxy

end UdpDirector
