import UdpDirector.Proxy.Plane

/-!
What one step of the data plane does to the session table, said once.

* `TableOp`: the operations that hold one entry of the table locked, and the
  shutdown of a session taken out of it;
* `exists_of_lookup_apply`, `lookup_apply_of_none`: only an insertion brings a
  session, and only an insertion or a touch renews one;
* `Performs p a op`: the step `a` from `p` performs the operation `op`;
  `performs_of_step`: every step performs one;
* `Plane.installs`: the route a step installs.
-/

namespace UdpDirector

/-! ### Operations on the table -/

/-- An operation on the session table. -/
inductive TableOp where
  | keep
  | clear (key : SessionKey)
  | insert (u : Upsert) (now : Instant)
  | openSocket (client : SocketAddr) (proxyPort : UInt16)
  | touch (client : SocketAddr) (now : Instant)
  | remove (key : SessionKey)
  | shutdown (session : Session)

namespace TableOp

/-- The session out of the table after an operation. -/
def removed (s : SessionState) (removed : Option Session) : TableOp → Option Session
  | .remove key => s.sessions.lookup key
  | .shutdown _ => none
  | _ => removed

/-- The table after an operation. -/
def apply (s : SessionState) : TableOp → SessionState
  | .keep => s
  | .clear key => s.clear key
  | .insert u now => s.insert u.key (u.session now)
  | .openSocket client proxyPort =>
      match s.getOrCreate (s.resolve client) proxyPort client with
      | some (_, t) => t
      | none => s
  | .touch client now => s.touchByAddr client now
  | .remove key => s.remove key
  | .shutdown session => s.shutdownSockets session

end TableOp

namespace SessionState

variable {s : SessionState}

lemma sessions_clear (s : SessionState) (key : SessionKey) :
    (s.clear key).sessions
      = Table.alter key (fun session => { session with udpSockets := ∅ }) s.sessions := by
  rw [clear, Table.alter]
  cases s.sessions.lookup key <;> rfl

/-- A socket is found in the session, or created and stored there. -/
lemma getOrCreate_eq_some {key : SessionKey} {proxyPort : UInt16} {client : SocketAddr}
    {id : SocketId} {t : SessionState} (h : s.getOrCreate key proxyPort client = some (id, t)) :
    ∃ session, s.sessions.lookup key = some session
      ∧ (session.udpSockets.lookup (proxyPort, client.port) = some id ∧ t = s
        ∨ session.udpSockets.lookup (proxyPort, client.port) = none ∧ id = s.sockets.length
          ∧ t = { sessions := Table.alter key
                    (fun session => { session with
                      udpSockets := session.udpSockets.insert (proxyPort, client.port) id })
                    s.sessions
                  sockets := s.sockets ++ [{ clientAddr := client, proxyPort }] }) := by
  obtain ⟨session, hsession, h⟩ := Option.bind_eq_some_iff.mp h
  refine ⟨session, hsession, ?_⟩
  split at h
  · rename_i found hfound
    obtain ⟨rfl, rfl⟩ := Prod.mk.inj (Option.some.inj h)
    exact .inl ⟨hfound, rfl⟩
  · rename_i hfound
    obtain ⟨rfl, rfl⟩ := Prod.mk.inj (Option.some.inj h)
    refine .inr ⟨hfound, rfl, ?_⟩
    rw [Table.alter, hsession]

end SessionState

namespace TableOp

variable {s : SessionState} {op : TableOp} {k : SessionKey}

/-- Where the session under a key comes from. -/
lemma exists_of_lookup_apply {session' : Session}
    (h : (op.apply s).sessions.lookup k = some session') :
    (∃ u now, op = .insert u now ∧ k = u.key ∧ session' = u.session now)
      ∨ ∃ session, s.sessions.lookup k = some session
        ∧ (session'.lastActivity = session.lastActivity
          ∨ ∃ client now, op = .touch client now ∧ k = s.resolve client) := by
  cases op with
  | keep => exact .inr ⟨session', h, .inl rfl⟩
  | clear key =>
      rw [apply, SessionState.sessions_clear] at h
      obtain ⟨session, hsession, hor⟩ := Table.exists_of_lookup_alter h
      refine .inr ⟨session, hsession, .inl ?_⟩
      rcases hor with rfl | ⟨-, rfl⟩ <;> rfl
  | insert u now =>
      by_cases hk : k = u.key
      · rw [apply, SessionState.insert, hk, AList.lookup_insert] at h
        exact .inl ⟨u, now, rfl, hk, (Option.some.inj h).symm⟩
      · rw [apply, SessionState.insert, AList.lookup_insert_ne hk] at h
        exact .inr ⟨session', h, .inl rfl⟩
  | openSocket client proxyPort =>
      rw [apply] at h
      split at h
      · rename_i id t hcreate
        obtain ⟨-, -, ⟨-, rfl⟩ | ⟨-, -, rfl⟩⟩ := SessionState.getOrCreate_eq_some hcreate
        · exact .inr ⟨session', h, .inl rfl⟩
        · obtain ⟨session, hsession, hor⟩ := Table.exists_of_lookup_alter h
          refine .inr ⟨session, hsession, .inl ?_⟩
          rcases hor with rfl | ⟨-, rfl⟩ <;> rfl
      · exact .inr ⟨session', h, .inl rfl⟩
  | touch client now =>
      obtain ⟨session, hsession, hor⟩ := Table.exists_of_lookup_alter h
      refine .inr ⟨session, hsession, ?_⟩
      rcases hor with rfl | ⟨hk, -⟩
      · exact .inl rfl
      · exact .inr ⟨client, now, rfl, hk⟩
  | remove key =>
      by_cases hk : k = key
      · rw [apply, SessionState.remove, hk, AList.lookup_erase] at h
        exact absurd h (by simp)
      · rw [apply, SessionState.remove, AList.lookup_erase_ne hk] at h
        exact .inr ⟨session', h, .inl rfl⟩
  | shutdown session => exact .inr ⟨session', h, .inl rfl⟩

/-- Only an insertion brings a session. -/
lemma lookup_apply_of_none (hnone : s.sessions.lookup k = none)
    (hop : ∀ u now, op = .insert u now → k ≠ u.key) : (op.apply s).sessions.lookup k = none := by
  rw [Option.eq_none_iff_forall_ne_some]
  intro session' h
  obtain ⟨u, now, hinsert, hk, -⟩ | ⟨session, hsession, -⟩ := exists_of_lookup_apply h
  · exact hop u now hinsert hk
  · rw [hnone] at hsession
    exact absurd hsession (by simp)

end TableOp

/-! ### The steps of a task -/

namespace Proxy

variable {config : Config} {p q : Plane}

/-- A task with a session is about to forward, or to look the session up. -/
lemma Connection.routed_eq (c : Connection) (first : Bool) :
    c.routed first = .forwarding first ∨ c.routed first = .looking := by
  unfold Connection.routed
  cases c.protocol
  · exact .inl rfl
  · exact .inr rfl

/-- A task with an endpoint is about to install it, or has failed. -/
lemma Connection.supported_eq (c : Connection) (endpoint : Endpoint) :
    c.supported endpoint = .clearing endpoint false
      ∨ ∃ error, c.supported endpoint = .done (.error error) := by
  unfold Connection.supported
  split
  · exact .inl rfl
  · exact .inr ⟨_, rfl⟩

lemma Connection.routed_ne {c : Connection} {phase : Phase} {first : Bool}
    (hforwarding : .forwarding first ≠ phase) (hlooking : .looking ≠ phase) :
    c.routed first ≠ phase := by
  rcases c.routed_eq first with heq | heq <;> rwa [heq]

lemma Connection.supported_ne {c : Connection} {phase : Phase} {endpoint : Endpoint}
    (hclearing : .clearing endpoint false ≠ phase)
    (hdone : ∀ error, .done (.error error) ≠ phase) : c.supported endpoint ≠ phase := by
  rcases c.supported_eq endpoint with heq | ⟨error, heq⟩
  · rwa [heq]
  · rw [heq]
    exact hdone error

/-- The ways a task moves on. -/
inductive Moves (config : Config) (p : Plane) (c : Connection) :
    Phase → Event → Phase → Effect → Prop where
  | found {session} (hget : p.table.getByAddr c.client = some session) :
      Moves config p c .arrived .arrive (c.routed false) .none
  | absent (hget : p.table.getByAddr c.client = none) :
      Moves config p c .arrived .arrive .reading .none
  | hit {endpoint} (hcache : p.cache = some endpoint)
      (hport : endpoint.supports c.proxyPort c.protocol = true) :
      Moves config p c .reading .read (.clearing endpoint true) .acquire
  | other {endpoint} (hcache : p.cache = some endpoint)
      (hport : endpoint.supports c.proxyPort c.protocol = false) :
      Moves config p c .reading .read (.querying false) .none
  | miss (hcache : p.cache = none) : Moves config p c .reading .read (.querying true) .none
  | fault {store reply fault} (hquery : queryDefaultEndpoint config p.counts reply = .error fault) :
      Moves config p c (.querying store) (.list reply) (faulted fault) .none
  | fetch {reply endpoint} (hquery : queryDefaultEndpoint config p.counts reply = .ok endpoint) :
      Moves config p c (.querying true) (.list reply) (.storing endpoint) .none
  | query {reply endpoint} (hquery : queryDefaultEndpoint config p.counts reply = .ok endpoint) :
      Moves config p c (.querying false) (.list reply) (c.supported endpoint) .none
  | store {endpoint} (hreaders : p.readers = 0) :
      Moves config p c (.storing endpoint) .store (c.supported endpoint) (.store endpoint)
  | clear {endpoint cached} :
      Moves config p c (.clearing endpoint cached) .clear (.installing endpoint cached)
        (.sessions (p.table.clear (c.upsert endpoint).key))
  | install {endpoint cached} :
      Moves config p c (.installing endpoint cached) .install (.counting endpoint.address cached)
        (.sessions (p.table.insert (c.upsert endpoint).key ((c.upsert endpoint).session p.now)))
  | count {address cached} :
      Moves config p c (.counting address cached) .count (c.routed true) (.count address cached)
  | forward {first bound socket target table}
      (hforward : proxyPacketBidirectional p.table c.client c.proxyPort bound
        = .ok (socket, target, table)) :
      Moves config p c (.forwarding first) (.forward bound) (.sending first socket target)
        (.sessions table)
  | sent {first socket target} :
      Moves config p c (.sending first socket target) (.sent true)
        (if first then .done (.ok ()) else .touching) .none
  | lookup {session target} (hget : p.table.getByAddr c.client = some session)
      (htarget : session.getTargetAddr c.proxyPort .tcp = .ok target) :
      Moves config p c .looking .lookup (.connecting target) .none
  | connected {target} :
      Moves config p c (.connecting target) (.connected true) (.copying target) .none
  | closed {target} : Moves config p c (.copying target) .closed .touching .none
  | touch :
      Moves config p c .touching .touch (.done (.ok ()))
        (.sessions (p.table.touchByAddr c.client p.now))
  | unforwarded {first bound error} :
      Moves config p c (.forwarding first) (.forward bound) (.done (.error error)) .none
  | unsent {first socket target} :
      Moves config p c (.sending first socket target) (.sent false) (.done (.error .os)) .none
  | lost {error} : Moves config p c .looking .lookup (.done (.error error)) .none
  | refused {target} :
      Moves config p c (.connecting target) (.connected false) (.done (.error .os)) .none

/-- **The inversion of a step of a task**: every enabled event is a move. -/
theorem moves_of_advance {c : Connection} {event : Event} {phase : Phase} {effect : Effect}
    (h : advance config p c event = some (phase, effect)) :
    Moves config p c c.phase event phase effect := by
  unfold advance at h
  generalize c.phase = old at h ⊢
  split at h
  · -- arrive
    split at h
    · rename_i hget
      obtain ⟨rfl, rfl⟩ := Prod.mk.inj (Option.some.inj h)
      exact .found hget
    · rename_i hget
      obtain ⟨rfl, rfl⟩ := Prod.mk.inj (Option.some.inj h)
      exact .absent hget
  · -- read
    split at h
    · rename_i endpoint hcache
      split at h
      · rename_i hport
        obtain ⟨rfl, rfl⟩ := Prod.mk.inj (Option.some.inj h)
        exact .hit hcache hport
      · rename_i hport
        obtain ⟨rfl, rfl⟩ := Prod.mk.inj (Option.some.inj h)
        exact .other hcache (by simpa using hport)
    · rename_i hcache
      obtain ⟨rfl, rfl⟩ := Prod.mk.inj (Option.some.inj h)
      exact .miss hcache
  · -- list
    split at h
    · rename_i hquery
      obtain ⟨rfl, rfl⟩ := Prod.mk.inj (Option.some.inj h)
      exact .fault hquery
    · rename_i hquery
      split at h
      · rename_i hstore
        obtain ⟨rfl, rfl⟩ := Prod.mk.inj (Option.some.inj h)
        subst hstore
        exact .fetch hquery
      · rename_i hstore
        obtain ⟨rfl, rfl⟩ := Prod.mk.inj (Option.some.inj h)
        rw [Bool.not_eq_true] at hstore
        subst hstore
        exact .query hquery
  · -- store
    obtain ⟨hreaders, h⟩ := Option.ite_none_right_eq_some.mp h
    obtain ⟨rfl, rfl⟩ := Prod.mk.inj (Option.some.inj h)
    exact .store hreaders
  · -- clear
    obtain ⟨rfl, rfl⟩ := Prod.mk.inj (Option.some.inj h)
    exact .clear
  · -- install
    obtain ⟨rfl, rfl⟩ := Prod.mk.inj (Option.some.inj h)
    exact .install
  · -- count
    obtain ⟨rfl, rfl⟩ := Prod.mk.inj (Option.some.inj h)
    exact .count
  · -- forward
    split at h
    · obtain ⟨rfl, rfl⟩ := Prod.mk.inj (Option.some.inj h)
      exact .unforwarded
    · rename_i hforward
      obtain ⟨rfl, rfl⟩ := Prod.mk.inj (Option.some.inj h)
      exact .forward hforward
  · -- sent
    split at h
    · rename_i hok
      obtain ⟨rfl, rfl⟩ := Prod.mk.inj (Option.some.inj h)
      subst hok
      exact .sent
    · rename_i hok
      obtain ⟨rfl, rfl⟩ := Prod.mk.inj (Option.some.inj h)
      rw [Bool.not_eq_true] at hok
      subst hok
      exact .unsent
  · -- lookup
    split at h
    · obtain ⟨rfl, rfl⟩ := Prod.mk.inj (Option.some.inj h)
      exact .lost
    · rename_i hget
      split at h
      · obtain ⟨rfl, rfl⟩ := Prod.mk.inj (Option.some.inj h)
        exact .lost
      · rename_i htarget
        obtain ⟨rfl, rfl⟩ := Prod.mk.inj (Option.some.inj h)
        exact .lookup hget htarget
  · -- connected
    obtain ⟨rfl, rfl⟩ := Prod.mk.inj (Option.some.inj h)
    split
    · rename_i hok
      subst hok
      exact .connected
    · rename_i hok
      rw [Bool.not_eq_true] at hok
      subst hok
      exact .refused
  · -- closed
    obtain ⟨rfl, rfl⟩ := Prod.mk.inj (Option.some.inj h)
    exact .closed
  · -- touch
    obtain ⟨rfl, rfl⟩ := Prod.mk.inj (Option.some.inj h)
    exact .touch
  · simp at h

/-- A step of a task is a move of it, performed. -/
lemma exists_moves_of_step {i : ℕ} {event : Event}
    (h : step config p (.connection i event) = some q) :
    ∃ phase effect, Moves config p (p.connections i) (p.connections i).phase event phase effect
      ∧ q = (p.perform effect).enter i phase := by
  obtain ⟨⟨phase, effect⟩, hadvance, rfl⟩ := Option.map_eq_some_iff.mp h
  exact ⟨phase, effect, moves_of_advance hadvance, rfl⟩

/-! ### The steps of the cleanup -/

/-- The session out of the table and still to be shut down. -/
def Sweep.removed : Sweep → Option Session
  | .shutting session _ => some session
  | _ => none

/-- The ways the cleanup moves on. -/
inductive Sweeps (config : Config) (p : Plane) : Sweep → SweepEvent → Plane → Prop where
  | pass (hdue : p.due ≤ p.now) :
      Sweeps config p .waiting .pass
        { p with sweep := .collecting [] [], due := p.due + 30 * 10 ^ 9 }
  | spare {seen toRemove key session} (hlookup : p.table.sessions.lookup key = some session)
      (hlive : session.isTimedOut config.sessionTimeoutSeconds p.now = false) :
      Sweeps config p (.collecting seen toRemove) (.examine key)
        { p with sweep := .collecting (key :: seen) toRemove }
  | collect {seen toRemove key session} (hlookup : p.table.sessions.lookup key = some session)
      (hlate : session.isTimedOut config.sessionTimeoutSeconds p.now = true) :
      Sweeps config p (.collecting seen toRemove) (.examine key)
        { p with sweep := .collecting (key :: seen) (toRemove ++ [key]) }
  | collected {seen toRemove} :
      Sweeps config p (.collecting seen toRemove) .collected { p with sweep := .removing toRemove }
  | remove {key toRemove session} (hlookup : p.table.sessions.lookup key = some session) :
      Sweeps config p (.removing (key :: toRemove)) .remove
        { p with table := p.table.remove key, sweep := .shutting session toRemove }
  | gone {key toRemove} (hlookup : p.table.sessions.lookup key = none) :
      Sweeps config p (.removing (key :: toRemove)) .remove { p with sweep := .removing toRemove }
  | shutdown {session toRemove} :
      Sweeps config p (.shutting session toRemove) .shutdown
        { p with table := p.table.shutdownSockets session, sweep := .removing toRemove }
  | rest : Sweeps config p (.removing []) .rest { p with sweep := .waiting }

/-- **The inversion of a step of the cleanup.** -/
theorem sweeps_of_sweepStep {event : SweepEvent} (h : sweepStep config p event = some q) :
    Sweeps config p p.sweep event q := by
  unfold sweepStep at h
  generalize p.sweep = old at h ⊢
  split at h
  · -- pass
    obtain ⟨hdue, h⟩ := Option.ite_none_right_eq_some.mp h
    obtain rfl := Option.some.inj h
    exact .pass hdue
  · -- examine
    obtain ⟨-, h⟩ := Option.ite_none_left_eq_some.mp h
    obtain ⟨session, hlookup, rfl⟩ := Option.map_eq_some_iff.mp h
    cases hlate : session.isTimedOut config.sessionTimeoutSeconds p.now with
    | true => exact .collect hlookup hlate
    | false => exact .spare hlookup hlate
  · -- collected
    obtain rfl := Option.some.inj h
    exact .collected
  · -- remove
    split at h
    · rename_i hlookup
      obtain rfl := Option.some.inj h
      exact .remove hlookup
    · rename_i hlookup
      obtain rfl := Option.some.inj h
      exact .gone hlookup
  · -- shutdown
    obtain rfl := Option.some.inj h
    exact .shutdown
  · -- rest
    obtain rfl := Option.some.inj h
    exact .rest
  · simp at h

/-! ### The steps of the data plane -/

/-- The cases of a step, with what each is enabled by. -/
inductive Steps (config : Config) (p : Plane) : Action → Plane → Prop where
  | connection {i event phase effect}
      (hmoves : Moves config p (p.connections i) (p.connections i).phase event phase effect) :
      Steps config p (.connection i event) ((p.perform effect).enter i phase)
  | queryClear {j u} (hidle : p.queries j = none) :
      Steps config p (.queryClear j u)
        { p with table := p.table.clear u.key, queries := Function.update p.queries j (some u) }
  | queryInstall {j u} (hu : p.queries j = some u) :
      Steps config p (.queryInstall j)
        { p with
          table := p.table.insert u.key (u.session p.now)
          queries := Function.update p.queries j none }
  | cleanup {event q} (hsweeps : Sweeps config p p.sweep event q) :
      Steps config p (.cleanup event) q
  | tick {nanos} : Steps config p (.tick nanos) { p with now := p.now + nanos }
  | invalidate (hreaders : p.readers = 0) : Steps config p .invalidate { p with cache := none }

/-- **The inversion of a step.** -/
theorem steps_of_step {a : Action} (h : step config p a = some q) : Steps config p a q := by
  cases a with
  | connection i event =>
      obtain ⟨phase, effect, hmoves, rfl⟩ := exists_moves_of_step h
      exact .connection hmoves
  | queryClear j u =>
      simp only [step] at h
      split at h
      · simp at h
      · rename_i hidle
        obtain rfl := Option.some.inj h
        exact .queryClear hidle
  | queryInstall j =>
      obtain ⟨u, hu, rfl⟩ := Option.map_eq_some_iff.mp h
      exact .queryInstall hu
  | cleanup event => exact .cleanup (sweeps_of_sweepStep h)
  | tick nanos =>
      obtain rfl := Option.some.inj h
      exact .tick
  | invalidate =>
      obtain ⟨hreaders, h⟩ := Option.ite_none_right_eq_some.mp h
      obtain rfl := Option.some.inj h
      exact .invalidate hreaders

/-! ### What a step leaves in place -/

/-- The table after an effect. -/
def Effect.table (p : Plane) : Effect → SessionState
  | .sessions table => table
  | _ => p.table

@[simp] lemma table_move (p : Plane) (effect : Effect) (i : ℕ) (phase : Phase) :
    ((p.perform effect).enter i phase).table = effect.table p := by
  cases effect <;> rfl

@[simp] lemma now_move (p : Plane) (effect : Effect) (i : ℕ) (phase : Phase) :
    ((p.perform effect).enter i phase).now = p.now := by
  cases effect <;> rfl

@[simp] lemma sweep_move (p : Plane) (effect : Effect) (i : ℕ) (phase : Phase) :
    ((p.perform effect).enter i phase).sweep = p.sweep := by
  cases effect <;> rfl

lemma connections_move (p : Plane) (effect : Effect) (i : ℕ) (phase : Phase) :
    ((p.perform effect).enter i phase).connections
      = Function.update p.connections i { p.connections i with phase } := by
  cases effect <;> rfl

/-- A step of a task leaves the other tasks where they are, and no other step moves
one. -/
lemma connections_of_step {a : Action} (h : step config p a = some q) (i : ℕ)
    (ha : ∀ event, a ≠ .connection i event) : q.connections i = p.connections i := by
  cases steps_of_step h with
  | @connection j event phase effect hmoves =>
      have hne : i ≠ j := by
        rintro rfl
        exact ha event rfl
      rw [connections_move, Function.update_of_ne hne]
  | cleanup hsweeps =>
      generalize p.sweep = sweep at hsweeps
      cases hsweeps <;> rfl
  | _ => rfl

/-- **A step as one task sees it**: a move of its own, or a step of others that leaves it
alone. -/
lemma moves_or_others {a : Action} (h : step config p a = some q) (i : ℕ) :
    (∃ event phase effect, a = .connection i event
        ∧ Moves config p (p.connections i) (p.connections i).phase event phase effect
        ∧ q = (p.perform effect).enter i phase)
      ∨ (∀ event, a ≠ .connection i event) ∧ q.connections i = p.connections i := by
  by_cases ha : ∃ event, a = .connection i event
  · obtain ⟨event, rfl⟩ := ha
    obtain ⟨phase, effect, hmoves, rfl⟩ := exists_moves_of_step h
    exact .inl ⟨event, phase, effect, rfl, hmoves, rfl⟩
  · have hne : ∀ event, a ≠ .connection i event := fun event heq => ha ⟨event, heq⟩
    exact .inr ⟨hne, connections_of_step h i hne⟩

/-! ### The operation of a step -/

/-- The route a step installs. -/
def Plane.installs (p : Plane) : Action → Option Upsert
  | .connection i .install =>
      match (p.connections i).phase with
      | .installing endpoint _ => some ((p.connections i).upsert endpoint)
      | _ => none
  | .queryInstall j => p.queries j
  | _ => none

/-- The operation on the table that a step performs. -/
inductive Performs (p : Plane) : Action → TableOp → Prop where
  | keep {a} : Performs p a .keep
  | clear {a} (u : Upsert) : Performs p a (.clear u.key)
  | insert {a u} (hu : p.installs a = some u) : Performs p a (.insert u p.now)
  | openSocket {i bound first} (hphase : (p.connections i).phase = .forwarding first) :
      Performs p (.connection i (.forward bound))
        (.openSocket (p.connections i).client (p.connections i).proxyPort)
  | touch {i} (hphase : (p.connections i).phase = .touching) :
      Performs p (.connection i .touch) (.touch (p.connections i).client p.now)
  | remove {key toRemove} (hsweep : p.sweep = .removing (key :: toRemove)) :
      Performs p (.cleanup .remove) (.remove key)
  | shutdown {session toRemove} (hsweep : p.sweep = .shutting session toRemove) :
      Performs p (.cleanup .shutdown) (.shutdown session)

/-- The table after a packet has been handed to a socket. -/
lemma table_of_proxyPacketBidirectional {s t : SessionState} {client target : SocketAddr}
    {proxyPort : UInt16} {bound : Bool} {id : SocketId}
    (h : proxyPacketBidirectional s client proxyPort bound = .ok (id, target, t)) :
    t = (TableOp.openSocket client proxyPort).apply s := by
  unfold proxyPacketBidirectional at h
  split at h
  · simp at h
  · split at h
    · simp at h
    · split at h
      · simp at h
      · split at h
        · simp at h
        · rename_i hcreate
          obtain ⟨-, -, rfl⟩ : _ = id ∧ _ = target ∧ _ = t := by simpa using h
          rw [TableOp.apply, hcreate]

/-- A move of a task performs one operation on the table. -/
lemma Moves.performs {i : ℕ} {event : Event} {phase : Phase} {effect : Effect}
    (h : Moves config p (p.connections i) (p.connections i).phase event phase effect) :
    ∃ op, Performs p (.connection i event) op ∧ effect.table p = op.apply p.table := by
  generalize hphase : (p.connections i).phase = old at h
  cases h with
  | clear => exact ⟨_, .clear ((p.connections i).upsert _), rfl⟩
  | install =>
      refine ⟨_, .insert ?_, rfl⟩
      rw [Plane.installs, hphase]
  | forward hforward => exact ⟨_, .openSocket hphase, table_of_proxyPacketBidirectional hforward⟩
  | touch => exact ⟨_, .touch hphase, rfl⟩
  | _ => exact ⟨_, .keep, rfl⟩

/-- **Every step performs one operation on the table.** -/
theorem performs_of_step {a : Action} (h : step config p a = some q) :
    ∃ op, Performs p a op ∧ q.table = op.apply p.table
      ∧ q.sweep.removed = op.removed p.table p.sweep.removed := by
  cases steps_of_step h with
  | connection hmoves =>
      obtain ⟨op, hop, htable⟩ := hmoves.performs
      refine ⟨op, hop, by rw [table_move, htable], ?_⟩
      rw [sweep_move]
      cases hop <;> rfl
  | @queryClear j u hidle => exact ⟨_, .clear u, rfl, rfl⟩
  | queryInstall hu => exact ⟨_, .insert hu, rfl, rfl⟩
  | cleanup hsweeps =>
      generalize hsweep : p.sweep = sweep at hsweeps
      cases hsweeps with
      | remove hlookup => exact ⟨_, .remove hsweep, rfl, hlookup.symm⟩
      | shutdown => exact ⟨_, .shutdown hsweep, rfl, rfl⟩
      | _ => exact ⟨_, .keep, rfl, rfl⟩
  | tick | invalidate => exact ⟨_, .keep, rfl, rfl⟩

end Proxy

end UdpDirector
