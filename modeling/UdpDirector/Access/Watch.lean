import UdpDirector.Access.Discipline
import UdpDirector.Foundation.WriteLog

/-!
The watch of a cold query (`K8sClient::wait_for_pod_change`), the writes it is
told of, and the wall clock.

* `Watched`: the world together with the log of its Pod writes, the revision that
  each version text names, how far each open watch has read, and the wall clock;
* `WatchEvent`, `WaitEvent`: what the API answers to a watch; `wait` is what
  `wait_for_pod_change` does on an answer. The API tells of a write that concerns
  the label selector before it tells of anything later, and may end a watch or
  refuse it at any time, with 410 or otherwise;
* `Watched.step`: a step of the world, of a watch or of the clock;
* `Watched.Serves`: lists are those of the current revision, and one version text
  names one revision;
* `world_of_run`: a run with its watches is a run of the world.
-/

namespace UdpDirector

variable (ext : Externals) (config : Config)

/-- The world with what its API server knows of its past, and the wall clock in
nanoseconds since the epoch. -/
structure Watched where
  world : World ext config
  log : WriteLog String DynamicObject
  /-- The revision of the lists that bore a version. -/
  named : String → Option ℕ := fun _ => none
  /-- The revision up to which the open watch of a query has read. -/
  cursors : TaskId → Option ℕ := fun _ => none
  wall : ℤ

/-- An event of a watch stream. -/
inductive WatchEvent where
  /-- A Pod was added, modified or deleted. -/
  | change
  /-- Nothing that concerns the watch was written before a revision. -/
  | bookmark (revision : ℕ)
  | error (code : ℕ)

/-- What a query that waits for a Pod change is answered. -/
inductive WaitEvent where
  | opened
  /-- The watch is refused, with the code of an error of the API. -/
  | refused (code : Option ℕ)
  | event (e : WatchEvent)
  | failed
  | closed

/-- An action of the world, of the watch of a query, or of the clock. -/
inductive WatchAction where
  | act (action : Action)
  | wait (q : TaskId) (event : WaitEvent)
  | wall (nanos : ℕ)

/-- Where `wait_for_pod_change` stands: its stream is open, or it has returned. -/
inductive Wait where
  | reading (cursor : ℕ)
  | returned (changed : Bool)

variable {ext config}

/-- The loop over the events of the stream. -/
def WatchEvent.outcome (cursor : ℕ) : WatchEvent → Wait
  | .bookmark revision => .reading (max cursor revision)
  | .error code => .returned (decide (code = 410))
  | .change => .returned true

/-- What the API may tell a watch on Pods that satisfy `P` at a place in the log. -/
def WatchEvent.Told (log : WriteLog String DynamicObject) (P : DynamicObject → Bool) (cursor : ℕ) :
    WatchEvent → Prop
  | .change => log.Unread P cursor
  | .bookmark revision => revision ≤ log.revision
      ∧ ¬∃ k < revision, cursor ≤ k ∧ log.touches P k = true
  | .error _ => True

instance (log : WriteLog String DynamicObject) (P : DynamicObject → Bool) (cursor : ℕ) :
    DecidablePred (WatchEvent.Told log P cursor)
  | .change => inferInstanceAs (Decidable (log.Unread P cursor))
  | .bookmark revision => inferInstanceAs (Decidable (revision ≤ log.revision
      ∧ ¬∃ k < revision, cursor ≤ k ∧ log.touches P k = true))
  | .error _ => inferInstanceAs (Decidable True)

/-- `K8sClient::wait_for_pod_change` on an answer, none where the API does not
give it: `start` is the revision the list version names. -/
def wait (log : WriteLog String DynamicObject) (labels : Table String String)
    (start : Option ℕ) : Option ℕ → WaitEvent → Option Wait
  | none, .opened => start.map .reading
  | none, .refused code => some (.returned (decide (code = some 410)))
  | some cursor, .event e =>
      if e.Told log (matchesLabels labels) cursor then some (e.outcome cursor) else none
  | some _, .failed => some (.returned false)
  | some _, .closed => some (.returned true)
  | _, _ => none

/-- The write of a Pod that an action makes, if it makes one. -/
def World.written (w w' : World ext config) : Action → Option (String × Option DynamicObject)
  | .write name o => some (name, some o)
  | .delete name => (w.cluster.live name).map fun _ => (name, none)
  | .task q (.patch _) => do
      let target ← w.allocating q
      let (name, _) ← (allocateRequest target.choice.candidate.pod).toOption
      -- a patch that changes nothing leaves the version
      if (w'.cluster.live name).bind (·.metadata.resourceVersion)
          = (w.cluster.live name).bind (·.metadata.resourceVersion) then
        none
      else
        some (name, w'.cluster.live name)
  | _ => none

namespace Watched

/-- Decisions read the wall clock, and a watch ends by the answers it gets. -/
def permits (x : Watched ext config) : Action → Bool
  | .task _ (.watched _) => false
  | .task _ (.decide now) => now = ⟨x.wall, 0⟩
  | _ => true

/-- The version texts after an action: a list names the current revision. -/
def namedAfter (x : Watched ext config) : Action → String → Option ℕ
  | .task _ (.list (some (_, version))) =>
      Function.update x.named version (some x.log.revision)
  | _ => x.named

/-- The watches after an action: a request that moves on holds none yet. -/
def cursorsAfter (x : Watched ext config) : Action → TaskId → Option ℕ
  | .task q _ => Function.update x.cursors q none
  | _ => x.cursors

/-- The state after an action of the world. -/
def acted (x : Watched ext config) (action : Action) (world : World ext config) :
    Watched ext config :=
  { x with
    world
    log := x.log.extend (x.world.written world action).toList
    named := x.namedAfter action
    cursors := x.cursorsAfter action }

/-- The selector and the version of a query that watches. -/
def watching (x : Watched ext config) (q : TaskId) : Option (Access × String) :=
  match (x.world.tasks q).phase with
  | .running a (.watching version) => some (a, version)
  | _ => none

/-- The state once the watch of a query has read up to a revision. -/
def readTo (x : Watched ext config) (q : TaskId) (cursor : ℕ) : Watched ext config :=
  { x with cursors := Function.update x.cursors q (some cursor) }

/-- The state once a watch stands somewhere. -/
def waited (x : Watched ext config) (q : TaskId) : Wait → Option (Watched ext config)
  | .reading cursor => some (x.readTo q cursor)
  | .returned changed =>
      (UdpDirector.step x.world (.task q (.watched changed))).map
        (x.acted (.task q (.watched changed)))

/-- One step of the world, of a watch or of the clock. -/
def step (x : Watched ext config) : WatchAction → Option (Watched ext config)
  | .act action =>
      if x.permits action then (UdpDirector.step x.world action).map (x.acted action) else none
  | .wait q event => do
      let (a, version) ← x.watching q
      x.waited q (← UdpDirector.wait x.log a.labels (x.named version) (x.cursors q) event)
  | .wall nanos => some { x with wall := x.wall + nanos }

/-- Nothing has been asked, and the log is empty. -/
structure Initial (x : Watched ext config) : Prop where
  world : x.world.Initial
  writes : x.log.writes = []
  origin : x.log.origin = x.world.cluster.live
  named : ∀ version, x.named version = none
  cursors : ∀ q, x.cursors q = none

/-- What the API promises of a list: it is the one of the current revision, and
its version names no other. -/
def Serves (x : Watched ext config) : WatchAction → Prop
  | .act (.task q (.list (some (indices, version)))) =>
      Linearizable x.world (.task q (.list (some (indices, version))))
        ∧ (version ≠ "" → ∀ r ∈ x.named version, r = x.log.revision)
  | _ => True

variable {x x' : Watched ext config} {q : TaskId}

@[simp] lemma log_acted (action : Action) (world : World ext config) :
    (x.acted action world).log = x.log.extend (x.world.written world action).toList := rfl

@[simp] lemma world_acted (action : Action) (world : World ext config) :
    (x.acted action world).world = world := rfl

lemma cursorsAfter_self (x : Watched ext config) (q : TaskId) (event : Event) :
    x.cursorsAfter (.task q event) q = none :=
  Function.update_self ..

/-- An action opens no watch. -/
lemma mem_of_cursorsAfter {action : Action} {cursor : ℕ} (h : cursor ∈ x.cursorsAfter action q) :
    cursor ∈ x.cursors q := by
  unfold cursorsAfter at h
  split at h
  · rename_i q' event
    by_cases heq : q = q'
    · subst heq
      simp at h
    · rwa [Function.update_of_ne heq] at h
  · exact h

@[simp] lemma world_readTo (cursor : ℕ) : (x.readTo q cursor).world = x.world := rfl

@[simp] lemma log_readTo (cursor : ℕ) : (x.readTo q cursor).log = x.log := rfl

@[simp] lemma cursors_readTo_self (x : Watched ext config) (q : TaskId) (cursor : ℕ) :
    (x.readTo q cursor).cursors q = some cursor :=
  Function.update_self ..

lemma cursors_readTo_of_ne (x : Watched ext config) {q q' : TaskId} (cursor : ℕ) (h : q' ≠ q) :
    (x.readTo q cursor).cursors q' = x.cursors q' :=
  Function.update_of_ne h ..

/-- What a list names is still named, where it names no other revision. -/
lemma namedAfter_of_named {action : Action} (hserves : x.Serves (.act action)) {version : String}
    {r : ℕ} (hversion : version ≠ "") (hr : x.named version = some r) :
    x.namedAfter action version = some r := by
  unfold namedAfter
  split
  · rename_i indices version'
    by_cases heq : version = version'
    · subst heq
      rw [Function.update_self, hserves.2 hversion r hr]
    · rw [Function.update_of_ne heq, hr]
  · exact hr

/-- The cases of a step, with what each is enabled by. -/
inductive Steps (x : Watched ext config) : WatchAction → Watched ext config → Prop where
  | act {action world} (hpermits : x.permits action = true)
      (hstep : UdpDirector.step x.world action = some world) :
      Steps x (.act action) (x.acted action world)
  | read {q event a version cursor} (hphase : (x.world.tasks q).phase = .running a (.watching version))
      (hwait : UdpDirector.wait x.log a.labels (x.named version) (x.cursors q) event
        = some (.reading cursor)) :
      Steps x (.wait q event) (x.readTo q cursor)
  | returned {q event a version changed world}
      (hphase : (x.world.tasks q).phase = .running a (.watching version))
      (hwait : UdpDirector.wait x.log a.labels (x.named version) (x.cursors q) event
        = some (.returned changed))
      (hstep : UdpDirector.step x.world (.task q (.watched changed)) = some world) :
      Steps x (.wait q event) (x.acted (.task q (.watched changed)) world)
  | wall {nanos} : Steps x (.wall nanos) { x with wall := x.wall + nanos }

lemma watching_eq_some {a : Access} {version : String} (h : x.watching q = some (a, version)) :
    (x.world.tasks q).phase = .running a (.watching version) := by
  rw [watching] at h
  split at h
  · rename_i hphase
    obtain ⟨rfl, rfl⟩ := Prod.mk.inj (Option.some.inj h)
    exact hphase
  · simp at h

/-- **The inversion of a step.** -/
theorem steps_of_step {act : WatchAction} (h : x.step act = some x') : x.Steps act x' := by
  cases act with
  | act action =>
      obtain ⟨hpermits, h⟩ := Option.ite_none_right_eq_some.mp h
      obtain ⟨world, hstep, rfl⟩ := Option.map_eq_some_iff.mp h
      exact .act hpermits hstep
  | wait q event =>
      simp only [step, bind, Option.bind_eq_some_iff] at h
      obtain ⟨⟨a, version⟩, hwatching, stand, hwait, h⟩ := h
      cases stand with
      | reading cursor =>
          obtain rfl := Option.some.inj h
          exact .read (watching_eq_some hwatching) hwait
      | returned changed =>
          obtain ⟨world, hstep, rfl⟩ := Option.map_eq_some_iff.mp h
          exact .returned (watching_eq_some hwatching) hwait hstep
  | wall nanos =>
      obtain rfl := Option.some.inj h
      exact .wall

/-! ### A run with its watches is a run of the world -/

/-- A step is an action of the world, or leaves the world alone. -/
lemma world_of_step {act : WatchAction} (h : x.step act = some x') :
    (∃ action, UdpDirector.step x.world action = some x'.world ∧ x' = x.acted action x'.world)
      ∨ x'.world = x.world := by
  cases steps_of_step h with
  | act hpermits hstep => exact .inl ⟨_, hstep, rfl⟩
  | read => exact .inr rfl
  | returned hphase hwait hstep => exact .inl ⟨_, hstep, rfl⟩
  | wall => exact .inr rfl

/-- **A run with its watches is a run of the world.** -/
theorem world_of_run {acts : List WatchAction} (hrun : Run.run step x acts = some x') :
    ∃ actions, Run.run UdpDirector.step x.world actions = some x'.world := by
  refine Run.run_invariant (I := fun y : Watched ext config =>
    ∃ actions, Run.run UdpDirector.step x.world actions = some y.world) ?_ ⟨[], rfl⟩ hrun
  rintro u act v ⟨actions, hactions⟩ hstep
  rcases world_of_step hstep with ⟨action, haction, -⟩ | hworld
  · exact ⟨actions ++ [action], Run.run_concat hactions haction⟩
  · exact ⟨actions, by rw [hworld, hactions]⟩

end Watched

/-! ### The log is the history of the cluster -/

/-- A request that leaves the cluster alone writes nothing. -/
lemma World.written_of_cluster_eq {w w' : World ext config} (q : TaskId) (event : Event)
    (h : w'.cluster = w.cluster) : w.written w' (.task q event) = none := by
  cases event with
  | patch served => simp [written, h]
  | _ => rfl

/-- An accepted patch that changes the Pod is recorded. -/
lemma World.written_of_put {w w' : World ext config} {q : TaskId} {a : Access}
    {target : Target ext config} {name version fresh : String} {served : Option String}
    {o o' : DynamicObject} (hphase : (w.tasks q).phase = .running a (.allocating target))
    (hr : allocateRequest target.choice.candidate.pod = .ok (name, version))
    (hlive : w.cluster.live name = some o) (hlive' : w'.cluster.live name = some o')
    (hversion : o'.metadata.resourceVersion = some fresh)
    (hne : o.metadata.resourceVersion ≠ some fresh) :
    w.written w' (.task q (.patch served)) = some (name, some o') := by
  simp [written, allocating, hphase, hr, hlive, hlive', hversion, Except.toOption, Ne.symm hne]

/-- **The write of an action is all it does to the cluster.** -/
theorem World.live_of_step {w w' : World ext config} {action : Action}
    (h : step w action = some w') :
    w'.cluster.live = (w.written w' action).toList.foldl WriteLog.write w.cluster.live := by
  cases action with
  | task q event =>
      obtain ⟨p', eff, hmoves, rfl⟩ := exists_moves_of_step h
      generalize hphase : (w.tasks q).phase = phase at hmoves
      cases hmoves with
      | @patch a target name version fresh cluster hr hp =>
          obtain ⟨o, hlive, -, ⟨rfl, -⟩ | ⟨hlabel, hkey, hfresh, rfl⟩⟩ :=
            Cluster.patchLabel_eq_accepted hp
          · rw [written_of_cluster_eq q _ (w.cluster_move q _ _), cluster_move]
            rfl
          · have hne : o.metadata.resourceVersion ≠ some fresh :=
              hfresh o (w.cluster.mem_live name o hlive) (w.cluster.key_live name o hlive) fresh rfl
            have hlive' : (w.move q (.running a (.clearing target))
                (.write (w.cluster.put name _ hkey hfresh))).cluster.live name
                = some (o.patched target.key "Allocated" fresh) := by
              rw [cluster_move]
              exact Function.update_self ..
            rw [written_of_put hphase hr hlive hlive' rfl hne, cluster_move]
            rfl
      | _ =>
          rw [written_of_cluster_eq q _ (w.cluster_move q _ _), cluster_move]
          rfl
  | write name o =>
      obtain ⟨hkey, hfresh, rfl⟩ := step_write h
      rfl
  | delete name =>
      obtain rfl := Option.some.inj h
      rw [written]
      cases hlive : w.cluster.live name with
      | none => exact Function.update_eq_self_iff.mpr hlive.symm
      | some o => rfl
  | tick d nanos | dataPlane d sessions =>
      obtain rfl := Option.some.inj h
      rfl

namespace Watched

variable {x x' : Watched ext config}

/-- The stored Pods are those of the log. -/
lemma live_of_step {act : WatchAction} (h : x.step act = some x')
    (hlive : x.log.live = x.world.cluster.live) : x'.log.live = x'.world.cluster.live := by
  cases steps_of_step h with
  | act hpermits hstep =>
      rw [acted, WriteLog.live_extend, hlive, World.live_of_step hstep]
  | returned hphase hwait hstep =>
      rw [acted, WriteLog.live_extend, hlive, World.live_of_step hstep]
  | read | wall => exact hlive

/-- **The stored Pods are those of the log**, in every run. -/
theorem live_of_run {x₀ : Watched ext config} {acts : List WatchAction} (h₀ : x₀.Initial)
    (hrun : Run.run step x₀ acts = some x) : x.log.live = x.world.cluster.live := by
  refine Run.run_invariant (I := fun y : Watched ext config => y.log.live = y.world.cluster.live)
    (fun _ _ _ hlive hstep => live_of_step hstep hlive) ?_ hrun
  rw [WriteLog.live, WriteLog.contents, h₀.writes, List.take_nil]
  exact h₀.origin

/-- While nothing has been written, the Pods are those of the beginning. -/
lemma live_of_revision_eq_zero {x₀ : Watched ext config} {acts : List WatchAction}
    (h₀ : x₀.Initial) (hrun : Run.run step x₀ acts = some x) (hrevision : x.log.revision = 0) :
    x.world.cluster.live = x₀.world.cluster.live := by
  have horigin : x.log.origin = x₀.log.origin := by
    refine Run.run_invariant (I := fun y : Watched ext config => y.log.origin = x₀.log.origin) ?_
      rfl hrun
    intro u act v hu hstep
    cases steps_of_step hstep <;> exact hu
  rw [← live_of_run h₀ hrun, ← h₀.origin, ← horigin, WriteLog.live, hrevision]
  rfl

end Watched

end UdpDirector
