import UdpDirector.Proxy.Monitor
import UdpDirector.Proxy.Strategy

/-!
Default sessions and the balancing strategy.

* `Connection.busy`: a task is between its absence check and the count of its session;
  `OneAtATime`: only one task is;
* `Balancing`: no task finds its port in the cached endpoint, and the capacities of the
  listed backends are numbers of `i64`;
* `Placed`: the endpoint a task is about to install is admitted by the strategy, with
  the counts as they are and the resources the task has listed;
* `default_session_admitted`: in a run under both, every default session is on a backend
  that the strategy admits;
* `cached_session_not_admitted`: the cached endpoint is installed whatever the counts.
-/

namespace UdpDirector

namespace Proxy

variable {config : Config} {p q : Plane} {a : Action} {s s' : Monitored} {act : MonitoredAction}

/-! ### Establishments -/

/-- The endpoint that a task has chosen and not yet installed. -/
def Phase.endpoint : Phase → Option Endpoint
  | .storing endpoint | .clearing endpoint _ | .installing endpoint _ => some endpoint
  | _ => none

/-- The task has checked for a session, found none, and not yet counted one. -/
def Connection.busy (c : Connection) : Bool :=
  match c.phase with
  | .counting _ _ => true
  | _ => c.establishing

/-- A task that finds no session does so while no other one is establishing one. -/
def OneAtATime (s : Monitored) (act : MonitoredAction) : Prop :=
  ∀ i, act = .act (.connection i .arrive) →
    s.plane.table.getByAddr (s.plane.connections i).client = none →
      ∀ j, (s.plane.connections j).busy = false

/-- No task finds its port in the cached endpoint, and the capacities of the backends a
task lists are numbers of `i64`. -/
def Balancing (config : Config) (s : Monitored) (act : MonitoredAction) : Prop :=
  (∀ i endpoint, act = .act (.connection i .read) → s.plane.cache = some endpoint →
      endpoint.supports (s.plane.connections i).proxyPort (s.plane.connections i).protocol = false)
    ∧ ∀ i, act = .list i true → Fits config.getLoadBalancing s.plane.counts
        (listedBackends config s.cluster.objects)

/-- At most one task is establishing a session, and the endpoint it has chosen is
admitted. -/
structure Placed (config : Config) (s : Monitored) : Prop where
  single : ∀ i j, (s.plane.connections i).busy = true → (s.plane.connections j).busy = true → i = j
  placed : ∀ i endpoint, (s.plane.connections i).phase.endpoint = some endpoint →
    Admits config.getLoadBalancing s.plane.counts
      (listedBackends config (s.listed i).objects) endpoint.address

/-! ### One step -/

lemma busy_of_endpoint {c : Connection} {endpoint : Endpoint}
    (h : c.phase.endpoint = some endpoint) : c.busy = true := by
  cases hphase : c.phase <;>
    simp [Phase.endpoint, Connection.busy, Connection.establishing, hphase] at h ⊢

/-- A busy task was busy before, or has just found no session. -/
lemma Moves.busy {c : Connection} {event : Event} {phase : Phase} {effect : Effect}
    (h : Moves config p c c.phase event phase effect)
    (hbusy : ({ c with phase } : Connection).busy = true) :
    c.busy = true ∨ event = .arrive ∧ p.table.getByAddr c.client = none := by
  have hrouted : ∀ first, ({ c with phase := c.routed first } : Connection).busy = false := by
    intro first
    rcases c.routed_eq first with heq | heq <;> rw [heq] <;> rfl
  have hold : ∀ {old}, c.phase = old → ({ c with phase := old } : Connection).busy = true →
      c.busy = true := by
    rintro old rfl hold
    exact hold
  generalize hc : c.phase = old at h
  cases h with
  | absent hget => exact .inr ⟨rfl, hget⟩
  | hit | other | miss | fetch | query | store | clear | install => exact .inl (hold hc rfl)
  | @fault _ _ fault =>
      cases fault <;> simp [faulted, Connection.busy, Connection.establishing] at hbusy
  | found | count => simp [hrouted] at hbusy
  | @sent first => cases first <;> simp [Connection.busy, Connection.establishing] at hbusy
  | _ => simp [Connection.busy, Connection.establishing] at hbusy

/-- Where an endpoint that a task is about to install comes from. -/
lemma Moves.endpoint {c : Connection} {old phase : Phase} {event : Event} {effect : Effect}
    {endpoint : Endpoint} (h : Moves config p c old event phase effect)
    (hendpoint : phase.endpoint = some endpoint) :
    (event = .read ∧ p.cache = some endpoint
        ∧ endpoint.supports c.proxyPort c.protocol = true)
      ∨ (∃ reply, event = .list reply
        ∧ queryDefaultEndpoint config p.counts reply = .ok endpoint)
      ∨ old.endpoint = some endpoint := by
  have hsupported : ∀ endpoint', (c.supported endpoint').endpoint = some endpoint →
      endpoint' = endpoint := by
    intro endpoint' hsupported
    obtain heq | ⟨error, heq⟩ := c.supported_eq endpoint'
    · rw [heq] at hsupported
      exact Option.some.inj hsupported
    · simp [heq, Phase.endpoint] at hsupported
  have hrouted : ∀ first, (c.routed first).endpoint = none := by
    intro first
    rcases c.routed_eq first with heq | heq <;> rw [heq] <;> rfl
  cases h with
  | hit hcache hport =>
      obtain rfl := Option.some.inj hendpoint
      exact .inl ⟨rfl, hcache, hport⟩
  | fetch hquery =>
      obtain rfl := Option.some.inj hendpoint
      exact .inr (.inl ⟨_, rfl, hquery⟩)
  | query hquery =>
      obtain rfl := hsupported _ hendpoint
      exact .inr (.inl ⟨_, rfl, hquery⟩)
  | store =>
      obtain rfl := hsupported _ hendpoint
      exact .inr (.inr rfl)
  | clear => exact .inr (.inr hendpoint)
  | found | count => simp [hrouted] at hendpoint
  | @fault _ _ fault => cases fault <;> simp [faulted, Phase.endpoint] at hendpoint
  | @sent first => cases first <;> simp [Phase.endpoint] at hendpoint
  | _ => simp [Phase.endpoint] at hendpoint

/-- Only the count of a session changes the counts. -/
lemma counts_of_step (h : step config p a = some q) :
    q.counts = p.counts ∨ ∃ i, a = .connection i .count ∧ (p.connections i).busy = true := by
  cases steps_of_step h with
  | @connection i event phase effect hmoves =>
      generalize hphase : (p.connections i).phase = old at hmoves
      cases hmoves with
      | count => exact .inr ⟨i, rfl, by rw [Connection.busy, hphase]⟩
      | _ => exact .inl rfl
  | cleanup hsweeps =>
      generalize p.sweep = sweep at hsweeps
      cases hsweeps <;> exact .inl rfl
  | _ => exact .inl rfl

/-- The tasks after a step of the data plane: at most one establishes a session. -/
lemma single_of_step (hsingle : ∀ i j, (p.connections i).busy = true →
      (p.connections j).busy = true → i = j)
    (hone : ∀ i, a = .connection i .arrive → p.table.getByAddr (p.connections i).client = none →
      ∀ j, (p.connections j).busy = false)
    (hstep : step config p a = some q) :
    ∀ i j, (q.connections i).busy = true → (q.connections j).busy = true → i = j := by
  have hbusy : ∀ i, (q.connections i).busy = true → (p.connections i).busy = true
      ∨ a = .connection i .arrive ∧ p.table.getByAddr (p.connections i).client = none := by
    intro i hi
    obtain ⟨event, phase, effect, rfl, hmoves, rfl⟩ | ⟨-, htask⟩ := moves_or_others hstep i
    · rw [connections_move, Function.update_self] at hi
      obtain hbefore | ⟨rfl, hget⟩ := hmoves.busy hi
      · exact .inl hbefore
      · exact .inr ⟨rfl, hget⟩
    · rw [htask] at hi
      exact .inl hi
  intro i j hi hj
  obtain hi | ⟨hi, hget⟩ := hbusy i hi
  · obtain hj | ⟨hj, hget⟩ := hbusy j hj
    · exact hsingle i j hi hj
    · simp [hone j hj hget i] at hi
  · obtain hj | ⟨hj, -⟩ := hbusy j hj
    · simp [hone i hi hget j] at hj
    · rw [hi] at hj
      exact (Action.connection.inj hj).1

/-- An endpoint that a task has chosen before a step of another task or of none is
admitted after it. -/
lemma Placed.of_unmoved (h : Placed config s) (hstep : step config s.plane a = some q) {i : ℕ}
    (ha : ∀ event, a ≠ .connection i event) {endpoint : Endpoint}
    (hendpoint : (q.connections i).phase.endpoint = some endpoint) :
    Admits config.getLoadBalancing q.counts (listedBackends config (s.listed i).objects)
      endpoint.address := by
  rw [connections_of_step hstep i ha] at hendpoint
  obtain hcounts | ⟨j, rfl, hj⟩ := counts_of_step hstep
  · rw [hcounts]
    exact h.placed i endpoint hendpoint
  · -- the task that counts would be busy besides this one
    obtain rfl := h.single i j (busy_of_endpoint hendpoint) hj
    exact absurd rfl (ha .count)

/-- A task that has chosen an endpoint stores it, clears or installs. -/
lemma Moves.event_of_endpoint {c : Connection} {old phase : Phase} {event : Event}
    {effect : Effect} {endpoint : Endpoint} (h : Moves config p c old event phase effect)
    (hold : old.endpoint = some endpoint) :
    event = .store ∨ event = .clear ∨ event = .install := by
  cases h <;> simp [Phase.endpoint] at hold ⊢

/-- A task that moves on with an endpoint it has chosen before leaves the counts. -/
lemma Placed.of_moved (h : Placed config s) {i : ℕ} {event : Event}
    (hstep : step config s.plane (.connection i event) = some q) {endpoint : Endpoint}
    (hold : (s.plane.connections i).phase.endpoint = some endpoint)
    (hevent : event = .store ∨ event = .clear ∨ event = .install) :
    Admits config.getLoadBalancing q.counts
      (listedBackends config ((s.follow (.connection i event) q).listed i).objects)
      endpoint.address := by
  have hlisted : (s.follow (.connection i event) q).listed i = s.listed i := by
    rcases hevent with rfl | rfl | rfl <;> rfl
  rw [hlisted]
  obtain hcounts | ⟨j, heq, -⟩ := counts_of_step hstep
  · rw [hcounts]
    exact h.placed i endpoint hold
  · obtain rfl := (Action.connection.inj heq).2
    simp at hevent

/-- **A step keeps the endpoints admitted**, one establishment at a time and without hits
of the cache. -/
theorem Placed.step (h : Placed config s) (hone : OneAtATime s act)
    (hbalancing : Balancing config s act) (hstep : Monitored.step config s act = some s') :
    Placed config s' := by
  cases Monitored.steps_of_step hstep with
  | @act a q hlocal hplane =>
      refine ⟨single_of_step h.single (fun i ha => hone i (congrArg _ ha)) hplane, ?_⟩
      intro i endpoint hendpoint
      obtain ⟨event, phase, effect, rfl, hmoves, rfl⟩ | ⟨hne, -⟩ := moves_or_others hplane i
      · rw [Monitored.plane_follow, connections_move, Function.update_self] at hendpoint
        obtain ⟨rfl, hcache, hport⟩ | ⟨reply, rfl, -⟩ | hold := hmoves.endpoint hendpoint
        · rw [hbalancing.1 i endpoint rfl hcache] at hport
          simp at hport
        · simp [Action.isLocal] at hlocal
        · exact h.of_moved hplane hold (hmoves.event_of_endpoint hold)
      · rw [Monitored.listed_follow hne]
        exact h.of_unmoved hplane hne hendpoint
  | @list i ok q hplane =>
      refine ⟨single_of_step h.single (by simp) hplane, ?_⟩
      intro j endpoint hendpoint
      dsimp only at hendpoint ⊢
      by_cases hj : j = i
      · subst hj
        rw [Function.update_self]
        obtain hcounts | ⟨k, heq, -⟩ := counts_of_step hplane
        · obtain ⟨phase, effect, hmoves, rfl⟩ := exists_moves_of_step hplane
          rw [connections_move, Function.update_self] at hendpoint
          obtain ⟨heq, -⟩ | ⟨reply, heq, hquery⟩ | hold := hmoves.endpoint hendpoint
          · simp at heq
          · -- a list that has failed yields no endpoint
            cases ok with
            | true =>
                obtain rfl := Event.list.inj heq
                rw [hcounts]
                exact admits_of_query hquery (hbalancing.2 j rfl)
            | false =>
                obtain rfl := Event.list.inj heq
                obtain ⟨-, items, -, -, -, hitems, -⟩ := exists_selected_of_query hquery
                simp [Monitored.reply] at hitems
          · obtain heq | heq | heq := hmoves.event_of_endpoint hold <;> simp at heq
        · simp at heq
      · rw [Function.update_of_ne hj]
        refine h.of_unmoved hplane ?_ hendpoint
        rintro event heq
        exact hj (Action.connection.inj heq).1.symm
  | _ => exact ⟨h.single, h.placed⟩

/-! ### Runs -/

/-- **Every default session is on a backend that the strategy admits** in a run with one
establishment at a time, in which no task finds its port in the cached endpoint and the
capacities fit: with the counts at its install and the resources its task has listed. -/
theorem default_session_admitted {s₀ : Monitored} {acts : List MonitoredAction} {i : ℕ}
    (h₀ : s₀.Initial) (hone : Run.Along (Monitored.step config) OneAtATime s₀ acts)
    (hbalancing : Run.Along (Monitored.step config) (Balancing config) s₀ acts)
    (hrun : Run.run (Monitored.step config) s₀ acts = some s)
    (hstep : Monitored.step config s (.act (.connection i .install)) = some s') :
    ∃ u, s.plane.installs (.connection i .install) = some u
      ∧ (s'.plane.table.get u.client.ip).map Session.targetIp = some u.targetIp
      ∧ Admits config.getLoadBalancing s.plane.counts
          (listedBackends config (s.listed i).objects) u.targetIp := by
  have hinitial : Placed config s₀ := by
    constructor
    · intro i j hi
      rw [Connection.busy, h₀.plane.connections i, Connection.establishing,
        h₀.plane.connections i] at hi
      simp at hi
    · intro i endpoint hendpoint
      rw [h₀.plane.connections i] at hendpoint
      simp [Phase.endpoint] at hendpoint
  have hplaced : Placed config s :=
    (Run.run_invariant_along
      (G := fun s act => OneAtATime s act ∧ Balancing config s act)
      (fun _ _ _ h hG hstep => h.step hG.1 hG.2 hstep) hinitial (hone.and hbalancing) hrun)
  cases Monitored.steps_of_step hstep with
  | act hlocal hplane =>
      obtain ⟨phase, effect, hmoves, rfl⟩ := exists_moves_of_step hplane
      rw [Monitored.plane_follow, table_move]
      generalize hphase : (s.plane.connections i).phase = old at hmoves
      cases hmoves with
      | @install endpoint cached =>
          have hget : SessionState.get (s.plane.table.insert
              ((s.plane.connections i).upsert endpoint).key
              (((s.plane.connections i).upsert endpoint).session s.plane.now))
                ((s.plane.connections i).upsert endpoint).client.ip
              = some (((s.plane.connections i).upsert endpoint).session s.plane.now) :=
            AList.lookup_insert _
          exact ⟨(s.plane.connections i).upsert endpoint, by rw [Plane.installs, hphase],
            congrArg (Option.map Session.targetIp) hget,
            hplaced.placed i endpoint (by rw [hphase]; rfl)⟩

namespace Sample

/-- The first client up to its install, without a cached endpoint. -/
def placing : List MonitoredAction :=
  .change pods :: [.act (.connection 0 .arrive), .act (.connection 0 .read), .list 0 true,
    .act (.connection 0 .store), .act (.connection 0 .clear)]

/-- The first client, with its session counted. -/
def placedFirst : List MonitoredAction :=
  placing ++ [.act (.connection 0 .install), .act (.connection 0 .count)]

/-- The second client up to its install, with the endpoint of the first one. -/
def placingSecond : List MonitoredAction :=
  placedFirst ++ [.act (.connection 1 .arrive), .act (.connection 1 .read),
    .act (.connection 1 .clear)]

/-- The first client once it has found no session. -/
def arrived : Monitored :=
  Run.reached (Monitored.step settings) clients
    [.change pods, .act (.connection 0 .arrive)] (by decide +kernel)

/-- The first client about to install its session. -/
def beforeFirst : Monitored :=
  Run.reached (Monitored.step settings) clients placing (by decide +kernel)

/-- The first client once it has installed its session. -/
def afterInstall : Monitored :=
  Run.reached (Monitored.step settings) beforeFirst [.act (.connection 0 .install)]
    (by decide +kernel)

/-- The first client once its session is counted. -/
def afterFirst : Monitored :=
  Run.reached (Monitored.step settings) clients placedFirst (by decide +kernel)

/-- The second client about to install its session. -/
def beforeSecond : Monitored :=
  Run.reached (Monitored.step settings) clients placingSecond (by decide +kernel)

lemma oneAtATime_placing : Run.Along (Monitored.step settings) OneAtATime clients placing := by
  refine ⟨by simp [OneAtATime], fun s hs => ⟨?_, fun t _ => ?_⟩⟩
  · obtain rfl := Option.some.inj hs
    exact fun _ _ _ _ => rfl
  · exact Run.along_of_forall (by simp [OneAtATime]) t

/-- The first client is done when the second one arrives. -/
lemma oneAtATime_placingSecond :
    Run.Along (Monitored.step settings) OneAtATime clients placingSecond := by
  have hfirst : Run.Along (Monitored.step settings) OneAtATime clients placedFirst :=
    (Run.along_append _ _ _).mpr ⟨oneAtATime_placing, fun t _ =>
      Run.along_of_forall (by simp [OneAtATime]) t⟩
  refine (Run.along_append _ _ _).mpr ⟨hfirst, fun s hs => ⟨?_, fun t _ => ?_⟩⟩
  · obtain rfl : afterFirst = s := Option.some.inj ((Run.run_reached _ _ _).symm.trans hs)
    rintro - - - (_ | j)
    · decide +kernel
    · have hlater : afterFirst.plane.connections (j + 1) = clients.plane.connections (j + 1) :=
        Monitored.connections_of_run (Run.run_reached _ _ _)
          (by simp [placedFirst, placing, Monitored.task])
      rw [hlater]
      rfl
  · exact Run.along_of_forall (by simp [OneAtATime]) t

/-- The first client finds nothing cached. -/
lemma balancing_placing :
    Run.Along (Monitored.step settings) (Balancing settings) clients placing := by
  have hfits : ∀ act (s : Monitored), ∀ i, act = MonitoredAction.list i true →
      Fits settings.getLoadBalancing s.plane.counts
        (listedBackends settings s.cluster.objects) :=
    fun _ _ _ _ => trivial
  refine ⟨⟨by simp, hfits _ _⟩, fun s hs => ⟨⟨by simp, hfits _ _⟩, fun t ht =>
    ⟨⟨?_, hfits _ t⟩, fun u _ => ?_⟩⟩⟩
  · intro i endpoint _ hcache
    have hnone : arrived.plane.cache.isNone = true := by decide +kernel
    obtain rfl : arrived = t := Option.some.inj ((Run.run_reached _ _ _).symm.trans
      (Run.run_concat ((Run.run_singleton _ _).trans hs) ht))
    simp [hcache] at hnone
  · exact Run.along_of_forall
      (fun act hact s => ⟨fun i endpoint heq => by simp [heq] at hact, hfits act s⟩) u

end Sample

/-- The first client, on the Pod without sessions. -/
theorem default_session_admitted_sample :
    ∃ u, Sample.beforeFirst.plane.installs (.connection 0 .install) = some u
      ∧ (Sample.afterInstall.plane.table.get u.client.ip).map Session.targetIp = some u.targetIp
      ∧ Admits Sample.settings.getLoadBalancing Sample.beforeFirst.plane.counts
          (listedBackends Sample.settings (Sample.beforeFirst.listed 0).objects) u.targetIp :=
  default_session_admitted Sample.initial_clients Sample.oneAtATime_placing
    Sample.balancing_placing (Run.run_reached _ _ _)
    ((Run.run_singleton _ _).symm.trans (Run.run_reached _ _ _))

/-- **The cached endpoint is installed whatever the counts**: two clients, one after the
other; the second one reads the endpoint of the first one from the cache, and is placed
on a Pod with one session, while the other Pod has none. -/
theorem cached_session_not_admitted :
    Sample.clients.Initial
      ∧ Run.Along (Monitored.step Sample.settings) OneAtATime Sample.clients Sample.placingSecond
      ∧ Run.run (Monitored.step Sample.settings) Sample.clients Sample.placingSecond
        = some Sample.beforeSecond
      ∧ (Monitored.step Sample.settings Sample.beforeSecond
          (.act (.connection 1 .install))).isSome = true
      ∧ (Sample.beforeSecond.plane.installs (.connection 1 .install)).map Upsert.targetIp
        = some "10.0.0.1"
      ∧ ¬Admits Sample.settings.getLoadBalancing Sample.beforeSecond.plane.counts
          (listedBackends Sample.settings (Sample.beforeSecond.listed 1).objects) "10.0.0.1" := by
  refine ⟨Sample.initial_clients, Sample.oneAtATime_placingSecond, Run.run_reached _ _ _,
    by decide +kernel, by decide +kernel, ?_⟩
  rintro ⟨-, hleast⟩
  have hother : ∃ b ∈ listedBackends Sample.settings (Sample.beforeSecond.listed 1).objects,
      Sample.beforeSecond.plane.counts.count b.2
        < Sample.beforeSecond.plane.counts.count "10.0.0.1" := by
    decide +kernel
  obtain ⟨b, hb, hlt⟩ := hother
  exact absurd (hleast b hb) (Nat.not_le.mpr hlt)

end Proxy

end UdpDirector
