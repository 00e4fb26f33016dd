import UdpDirector.Foundation.Refinement
import UdpDirector.Proxy.Operations

/-!
The cached default endpoint between the tasks that fill it and the monitor that
invalidates it (`resource_monitor.rs`).

* `currentTarget`: the text by which the monitor knows the default endpoint, made from
  the first listed resource; `checkDefaultEndpoint`: what a check decides on a list;
* `Monitored`: the data plane, the resources of the cluster with their version, and the
  monitor; the list a task has seen last and the list the cached endpoint comes from are
  kept beside them;
* `Monitored.step`: the steps. A list replies with the resources the cluster has then;
* `steps_of_step`: what one of them does, said once; `plane_of_run`: a run is a run of the
  data plane.
-/

namespace UdpDirector

/-! ### A check -/

/-- The text for the current default endpoint: the name of the first resource, with its
address and port if both can be extracted. -/
def currentTarget (mapping : ResourceMapping) :
    List DynamicObject → Except Fault (Option String)
  | [] => .ok none
  | resource :: _ =>
      let resourceName := resource.metadata.name.getD "unknown"
      match mapping.addressPath with
      | none => .ok (some resourceName)
      | some addressPath =>
          match extractAddress resource addressPath mapping.addressType with
          | .error .panic => .error .panic
          | .error (.error _) => .ok (some resourceName)
          | .ok address =>
              match extractPort resource mapping.portPath mapping.portName with
              | .error .panic => .error .panic
              | .error (.error _) => .ok (some resourceName)
              | .ok port =>
                  .ok (some (resourceName ++ " (" ++ address ++ ":" ++ toString port.toNat ++ ")"))

/-- `ResourceMonitor::check_default_endpoint` on the reply to its list, up to the
invalidation: the text to remember where it differs from the last one, none where the
check leaves the cache alone. -/
def checkDefaultEndpoint (config : Config) (last : Option String)
    (reply : Option (List DynamicObject)) : Except Fault (Option (Option String)) :=
  match config.resourceQueryMapping.lookup config.defaultEndpoint.resourceType with
  | none => .ok none
  | some mapping => do
      let some items := reply
        | .error (.error ("Failed to list resources: " ++ mapping.resource))
      let resources ← filterSnapshot config.defaultEndpoint.statusQuery
        config.defaultEndpoint.annotationSelector items
      let current ← currentTarget mapping resources
      return if current = last then none else some current

namespace Proxy

/-! ### States -/

/-- Where the monitor is: between two checks, about to invalidate the cache because of a
list taken at a version, or gone. -/
inductive MonitorPhase where
  | waiting
  | invalidating (current : Option String) (version : ℕ)
  | panicked
  deriving DecidableEq, Repr

/-- A list: the version of the cluster, and the objects replied. -/
structure Listing where
  version : ℕ := 0
  objects : List DynamicObject := []

/-- The data plane, the cluster and the monitor. The listings are not part of the
program: they say where the endpoints come from. -/
structure Monitored where
  plane : Plane
  cluster : Listing := {}
  lastDefaultEndpoint : Option String := none
  monitor : MonitorPhase := .waiting
  /-- What a task has listed, or would have listed where it reads the cache. -/
  listed : ℕ → Listing := fun _ => {}
  /-- The list that the endpoint stored last was chosen from. -/
  stored : Listing := {}

/-- A step of the data plane, the list of a task, a change of the cluster, or a step of
the monitor. -/
inductive MonitoredAction where
  | act (a : Action)
  /-- A list of a task succeeds or fails. -/
  | list (i : ℕ) (ok : Bool)
  | change (objects : List DynamicObject)
  /-- The list of a check succeeds or fails. -/
  | check (ok : Bool)
  | invalidate

/-- A step of the data plane that neither lists resources nor is one of the monitor. -/
def Action.isLocal : Action → Bool
  | .connection _ (.list _) | .invalidate => false
  | _ => true

namespace Monitored

/-- The reply to a list. -/
def reply (s : Monitored) (ok : Bool) : Option (List DynamicObject) :=
  if ok then some s.cluster.objects else none

/-! ### Steps -/

/-- The state after a local step of the data plane to `q`. -/
def follow (s : Monitored) (a : Action) (q : Plane) : Monitored :=
  { s with
    plane := q
    listed :=
      match a with
      | .connection i .read => Function.update s.listed i s.cluster
      | _ => s.listed
    stored :=
      match a with
      | .connection i .store => s.listed i
      | _ => s.stored }

variable (config : Config)

/-- One step. -/
def step (s : Monitored) : MonitoredAction → Option Monitored
  | .act a => if a.isLocal then (Proxy.step config s.plane a).map (s.follow a) else none
  | .list i ok =>
      (Proxy.step config s.plane (.connection i (.list (s.reply ok)))).map fun q =>
        { s with plane := q, listed := Function.update s.listed i s.cluster }
  | .change objects => some { s with cluster := { version := s.cluster.version + 1, objects } }
  | .check ok =>
      match s.monitor with
      | .waiting =>
          match checkDefaultEndpoint config s.lastDefaultEndpoint (s.reply ok) with
          | .ok (some current) =>
              some { s with monitor := .invalidating current s.cluster.version }
          | .ok none | .error (.error _) => some s
          | .error .panic => some { s with monitor := .panicked }
      | _ => none
  | .invalidate =>
      match s.monitor with
      | .invalidating current _ =>
          (Proxy.step config s.plane .invalidate).map fun q =>
            { s with
              plane := q
              lastDefaultEndpoint := current
              monitor := .waiting }
      | _ => none

/-- The process has just started, with nothing cached and nothing counted. -/
structure Initial (s : Monitored) : Prop where
  plane : s.plane.Initial
  cache : s.plane.cache = none
  counts : s.plane.counts = ∅
  lastDefaultEndpoint : s.lastDefaultEndpoint = none
  monitor : s.monitor = .waiting

/-- The task that a step may move. -/
def task : MonitoredAction → Option ℕ
  | .act (.connection i _) | .list i _ => some i
  | _ => none

/-! ### The inversion of a step -/

variable {config} {s s' : Monitored}

/-- The cases of a step, with what each is enabled by. -/
inductive Steps (config : Config) (s : Monitored) : MonitoredAction → Monitored → Prop where
  | act {a q} (hlocal : a.isLocal = true) (hstep : Proxy.step config s.plane a = some q) :
      Steps config s (.act a) (s.follow a q)
  | list {i ok q} (hstep : Proxy.step config s.plane (.connection i (.list (s.reply ok))) = some q) :
      Steps config s (.list i ok)
        { s with plane := q, listed := Function.update s.listed i s.cluster }
  | change {objects} :
      Steps config s (.change objects)
        { s with cluster := { version := s.cluster.version + 1, objects } }
  | differ {ok current} (hmonitor : s.monitor = .waiting)
      (hcheck : checkDefaultEndpoint config s.lastDefaultEndpoint (s.reply ok)
        = .ok (some current)) :
      Steps config s (.check ok) { s with monitor := .invalidating current s.cluster.version }
  | agree {ok} (hmonitor : s.monitor = .waiting)
      (hcheck : ∀ current, checkDefaultEndpoint config s.lastDefaultEndpoint (s.reply ok)
        ≠ .ok (some current))
      (hfault : checkDefaultEndpoint config s.lastDefaultEndpoint (s.reply ok) ≠ .error .panic) :
      Steps config s (.check ok) s
  | panic {ok} (hmonitor : s.monitor = .waiting)
      (hcheck : checkDefaultEndpoint config s.lastDefaultEndpoint (s.reply ok) = .error .panic) :
      Steps config s (.check ok) { s with monitor := .panicked }
  | invalidate {current version} (hmonitor : s.monitor = .invalidating current version)
      (hreaders : s.plane.readers = 0) :
      Steps config s .invalidate
        { s with
          plane := { s.plane with cache := none }
          lastDefaultEndpoint := current
          monitor := .waiting }

@[simp] lemma plane_follow (s : Monitored) (a : Action) (q : Plane) : (s.follow a q).plane = q := rfl

/-- **The inversion of a step.** -/
theorem steps_of_step {act : MonitoredAction} (h : step config s act = some s') :
    Steps config s act s' := by
  cases act with
  | act a =>
      obtain ⟨hlocal, h⟩ := Option.ite_none_right_eq_some.mp h
      obtain ⟨q, hstep, rfl⟩ := Option.map_eq_some_iff.mp h
      exact .act hlocal hstep
  | list i ok =>
      obtain ⟨q, hstep, rfl⟩ := Option.map_eq_some_iff.mp h
      exact .list hstep
  | change objects =>
      obtain rfl := Option.some.inj h
      exact .change
  | check ok =>
      simp only [step] at h
      split at h
      · rename_i hmonitor
        split at h
        · rename_i hcheck
          obtain rfl := Option.some.inj h
          exact .differ hmonitor hcheck
        · rename_i hcheck
          obtain rfl := Option.some.inj h
          exact .agree hmonitor (by simp [hcheck]) (by simp [hcheck])
        · rename_i hcheck
          obtain rfl := Option.some.inj h
          exact .agree hmonitor (by simp [hcheck]) (by simp [hcheck])
        · rename_i hcheck
          obtain rfl := Option.some.inj h
          exact .panic hmonitor hcheck
      · simp at h
  | invalidate =>
      simp only [step] at h
      split at h
      · rename_i hmonitor
        obtain ⟨q, hstep, rfl⟩ := Option.map_eq_some_iff.mp h
        cases Proxy.steps_of_step hstep with
        | invalidate hreaders => exact .invalidate hmonitor hreaders
      · simp at h

/-- A step leaves the tasks it does not move where they are. -/
lemma connections_of_step {act : MonitoredAction} (h : step config s act = some s') {i : ℕ}
    (hi : task act ≠ some i) : s'.plane.connections i = s.plane.connections i := by
  cases steps_of_step h with
  | act hlocal hstep =>
      refine Proxy.connections_of_step hstep i ?_
      rintro event rfl
      exact hi rfl
  | list hstep =>
      refine Proxy.connections_of_step hstep i ?_
      rintro event heq
      exact hi (congrArg some (Action.connection.inj heq).1)
  | _ => rfl

/-- A run leaves the tasks it does not move where they are. -/
lemma connections_of_run {acts : List MonitoredAction} {i : ℕ}
    (hrun : Run.run (step config) s acts = some s') (hi : ∀ act ∈ acts, task act ≠ some i) :
    s'.plane.connections i = s.plane.connections i := by
  refine Run.run_invariant_along (G := fun _ act => task act ≠ some i)
    (I := fun t => t.plane.connections i = s.plane.connections i) ?_ rfl
    (Run.along_of_forall (fun act hact _ => hi act hact) s) hrun
  intro t act t' ht hact hstep
  rw [connections_of_step hstep hact, ht]

/-! ### The data plane by itself -/

/-- The steps of the data plane in a step. -/
def planeLabels (s : Monitored) : MonitoredAction → List Action
  | .act a => [a]
  | .list i ok => [.connection i (.list (s.reply ok))]
  | .invalidate => [.invalidate]
  | .change _ | .check _ => []

variable (config) in
/-- The data plane sees of the monitor that it invalidates the cached endpoint. -/
def dataPlane : Run.Refinement (step config) (Proxy.step config) where
  inv _ := True
  abs s := s.plane
  label := planeLabels
  inv_step _ _ := trivial
  abs_step {s act s'} _ h := by
    cases steps_of_step h with
    | act hlocal hstep | list hstep => exact (Run.run_singleton _ _).trans hstep
    | invalidate hmonitor hreaders =>
        exact (Run.run_singleton _ _).trans (if_pos hreaders)
    | change | differ | agree | panic => rfl

/-- A run is a run of the data plane. -/
lemma plane_of_run {acts : List MonitoredAction} (hrun : Run.run (step config) s acts = some s') :
    Run.run (Proxy.step config) s.plane ((dataPlane config).labels s acts) = some s'.plane :=
  (dataPlane config).run_labels trivial hrun

/-! ### Where the cached endpoint comes from -/

/-- The endpoints to store and the cached one are chosen from the lists kept for them. -/
structure Sourced (config : Config) (s : Monitored) : Prop where
  storing : ∀ i endpoint, (s.plane.connections i).phase = .storing endpoint →
    ∃ counts, queryDefaultEndpoint config counts (some (s.listed i).objects) = .ok endpoint
  cached : ∀ endpoint, s.plane.cache = some endpoint →
    ∃ counts, queryDefaultEndpoint config counts (some s.stored.objects) = .ok endpoint

end Monitored

variable {config : Config} {p q : Plane} {a : Action}

/-- A task about to store an endpoint has queried for it. -/
lemma Moves.storing {c : Connection} {old phase : Phase} {event : Event} {effect : Effect}
    {endpoint : Endpoint} (h : Moves config p c old event phase effect)
    (hphase : phase = .storing endpoint) :
    ∃ reply, event = .list reply ∧ queryDefaultEndpoint config p.counts reply = .ok endpoint := by
  cases h with
  | fetch hquery =>
      obtain rfl := Phase.storing.inj hphase
      exact ⟨_, rfl, hquery⟩
  | found | count => exact absurd hphase (Connection.routed_ne (by simp) (by simp))
  | query | store => exact absurd hphase (Connection.supported_ne (by simp) (by simp))
  | @fault _ _ fault => cases fault <;> simp [faulted] at hphase
  | @sent first => cases first <;> simp at hphase
  | _ => simp at hphase

/-- Only a store brings an endpoint into the cache. -/
lemma cache_of_step (h : step config p a = some q) {endpoint : Endpoint}
    (hcache : q.cache = some endpoint) :
    (p.cache = some endpoint ∧ ∀ i, a ≠ .connection i .store)
      ∨ ∃ i, a = .connection i .store ∧ (p.connections i).phase = .storing endpoint := by
  cases steps_of_step h with
  | @connection i event phase effect hmoves =>
      generalize hphase : (p.connections i).phase = old at hmoves
      cases hmoves with
      | store =>
          obtain rfl := Option.some.inj hcache
          exact .inr ⟨i, rfl, hphase⟩
      | _ => exact .inl ⟨hcache, by simp⟩
  | cleanup hsweeps =>
      generalize p.sweep = sweep at hsweeps
      cases hsweeps <;> exact .inl ⟨hcache, by simp⟩
  | invalidate => simp at hcache
  | _ => exact .inl ⟨hcache, by simp⟩

namespace Monitored

variable {s s' s₀ : Monitored} {act : MonitoredAction} {acts : List MonitoredAction}

/-- A step that does not move a task leaves what it has listed. -/
lemma listed_follow {i : ℕ} (ha : ∀ event, a ≠ .connection i event) :
    (s.follow a q).listed i = s.listed i := by
  unfold follow
  dsimp only
  split
  · rename_i j
    have hne : i ≠ j := by
      rintro rfl
      exact ha .read rfl
    rw [Function.update_of_ne hne]
  · rfl

lemma stored_follow (ha : ∀ i, a ≠ .connection i .store) : (s.follow a q).stored = s.stored := by
  unfold follow
  dsimp only
  split
  · rename_i j
    exact absurd rfl (ha j)
  · rfl

/-- A task about to store an endpoint was so before, or has just listed the resources it
is chosen from. -/
lemma storing_of_step (hstep : Monitored.step config s act = some s') {i : ℕ}
    {endpoint : Endpoint} (hphase : (s'.plane.connections i).phase = .storing endpoint) :
    (s.plane.connections i).phase = .storing endpoint ∧ s'.listed i = s.listed i
      ∨ s'.listed i = s.cluster
        ∧ ∃ counts, queryDefaultEndpoint config counts (some s.cluster.objects) = .ok endpoint := by
  cases steps_of_step hstep with
  | @act a q hlocal hplane =>
      obtain ⟨event, phase, effect, rfl, hmoves, rfl⟩ | ⟨hne, htask⟩ := moves_or_others hplane i
      · rw [plane_follow, connections_move, Function.update_self] at hphase
        obtain ⟨reply, rfl, -⟩ := hmoves.storing hphase
        simp [Action.isLocal] at hlocal
      · rw [plane_follow, htask] at hphase
        exact .inl ⟨hphase, listed_follow hne⟩
  | @list j ok q hplane =>
      dsimp only at hphase ⊢
      by_cases hi : i = j
      · subst hi
        obtain ⟨phase, effect, hmoves, rfl⟩ := exists_moves_of_step hplane
        rw [connections_move, Function.update_self] at hphase
        obtain ⟨reply, heq, hquery⟩ := hmoves.storing hphase
        obtain rfl := Event.list.inj heq
        rw [Function.update_self]
        cases ok with
        | true => exact .inr ⟨rfl, _, hquery⟩
        | false =>
            obtain ⟨-, items, -, -, -, hitems, -⟩ := exists_selected_of_query hquery
            simp [reply] at hitems
      · have hne : ∀ event, Action.connection j (.list (s.reply ok)) ≠ .connection i event := by
          rintro event heq
          exact hi (Action.connection.inj heq).1.symm
        rw [Proxy.connections_of_step hplane i hne] at hphase
        exact .inl ⟨hphase, Function.update_of_ne hi _ _⟩
  | _ => exact .inl ⟨hphase, rfl⟩

/-- A cached endpoint was cached before, or has just been stored by a task. -/
lemma cached_of_step (hstep : Monitored.step config s act = some s') {endpoint : Endpoint}
    (hcache : s'.plane.cache = some endpoint) :
    s.plane.cache = some endpoint ∧ s'.stored = s.stored
      ∨ ∃ i, (s.plane.connections i).phase = .storing endpoint ∧ s'.stored = s.listed i := by
  cases steps_of_step hstep with
  | act hlocal hplane =>
      obtain ⟨hcache, hne⟩ | ⟨i, rfl, hphase⟩ := cache_of_step hplane hcache
      · exact .inl ⟨hcache, stored_follow hne⟩
      · exact .inr ⟨i, hphase, rfl⟩
  | list hplane =>
      obtain ⟨hcache, -⟩ | ⟨j, heq, -⟩ := cache_of_step hplane hcache
      · exact .inl ⟨hcache, rfl⟩
      · simp at heq
  | invalidate => simp at hcache
  | _ => exact .inl ⟨hcache, rfl⟩

/-- **Every step keeps the sources of the endpoints.** -/
theorem Sourced.step (h : Sourced config s) (hstep : Monitored.step config s act = some s') :
    Sourced config s' where
  storing i endpoint hphase := by
    obtain ⟨hbefore, hlisted⟩ | ⟨hlisted, hquery⟩ := storing_of_step hstep hphase
    · rw [hlisted]
      exact h.storing i endpoint hbefore
    · rw [hlisted]
      exact hquery
  cached endpoint hcache := by
    obtain ⟨hbefore, hstored⟩ | ⟨i, hphase, hstored⟩ := cached_of_step hstep hcache
    · rw [hstored]
      exact h.cached endpoint hbefore
    · rw [hstored]
      exact h.storing i endpoint hphase

lemma sourced_initial (h₀ : s₀.Initial) : Sourced config s₀ where
  storing i endpoint hphase := by
    rw [h₀.plane.connections i] at hphase
    simp at hphase
  cached endpoint hcache := by
    rw [h₀.cache] at hcache
    simp at hcache

/-- **In every run the cached endpoint is chosen from the list kept for it.** -/
theorem sourced_of_run (h₀ : s₀.Initial)
    (hrun : Run.run (Monitored.step config) s₀ acts = some s) : Sourced config s :=
  Run.run_invariant (fun _ _ _ h hstep => h.step hstep) (sourced_initial h₀) hrun

end Monitored

namespace Sample

/-- The first packets of two clients. -/
def clients : Monitored where
  plane :=
    { connections := fun i =>
        { client := if i = 0 then client else { client with ip := .v4 203 0 113 8 }
          proxyPort := 7777, protocol := .udp } }

/-- Two Pods of the default endpoint. -/
def pods : List DynamicObject :=
  [UdpDirector.Sample.pod "game-0" "uid-0" "10.0.0.1",
    UdpDirector.Sample.pod "game-1" "uid-1" "10.0.0.2"]

lemma initial_clients : clients.Initial where
  plane := ⟨rfl, rfl, rfl, fun _ => rfl, fun _ => rfl⟩
  cache := rfl
  counts := rfl
  lastDefaultEndpoint := rfl
  monitor := rfl

end Sample

end Proxy

end UdpDirector
