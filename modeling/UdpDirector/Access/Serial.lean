import UdpDirector.Access.Schedule

/-!
One director serves its queries as if one at a time.

The serial schedule is built along the run. Writes of others are turns as they
come. A query that holds the lock and has its snapshot is replayed from where the
snapshot was taken, step by step (`Ahead`); the writes since then are performed
after it, which they may be because they read the cluster alone. When it is
answered its turn is complete, and when it gives up the replay is dropped
(`Level`).

* `Steady`: no other writer between the deciding snapshot of a query and its
  patch;
* `Serial`: a serial run with the answers of the concurrent one;
* `level_or_ahead_of_run`: the invariant of every run;
* `serializable`: no patch is stale, nobody waits with the lock, and labels,
  routes and answers are those of the serial run.
-/

namespace UdpDirector

variable {ext : Externals} {config : Config}

/-! ### Places and assumptions -/

/-- The stages from the snapshot on. -/
def Stage.engaged : Stage ext config → Bool
  | .deciding _ _ | .extracting _ | .allocating _ | .clearing _ | .installing _ => true
  | _ => false

/-- The query holds the lock and has its snapshot. -/
def Phase.engaged : Phase ext config → Bool
  | .running a stage => a.character.isSome && stage.engaged
  | _ => false

/-- The request has changed no Pod and no route. -/
def Phase.uncommitted : Phase ext config → Bool
  | .running _ stage => stage.uncommitted
  | _ => true

/-- The copies a phase works on are stored. -/
def Phase.Stored (c : Cluster) : Phase ext config → Prop
  | .running _ (.deciding resources _) => ∀ o ∈ resources, ∃ name, c.live name = some o
  | .running _ (.extracting choice) => ∃ name, c.live name = some choice.candidate.object
  | .running _ (.allocating target) =>
      ∃ name, c.live name = some target.choice.candidate.object
  | _ => True

/-- The query waits for capacity: for the POST, or for a change of a Pod. -/
def Stage.awaitsCapacity : Stage ext config → Bool
  | .signalling _ _ | .awaitingDemand _ | .watching _ => true
  | _ => false

/-- Where the packets of every client of a director go. -/
def World.routes (w : World ext config) (d : ℕ) :
    IpAddr → Option (String × Table (UInt16 × Protocol) UInt16) :=
  (w.directors d).sessions.route

/-- The steps of queries whose lists are linearizable, and writes of others; no
packet and no cleanup changes a route. -/
structure Queries (w : World ext config) (action : Action) : Prop where
  linearizable : Linearizable w action
  dataPlane : ∀ d sessions, action ≠ .dataPlane d sessions

/-- No other writer changes a Pod between the deciding snapshot of a query and its
patch. -/
def Steady (acts : List Action) : Prop :=
  ∀ pre q reply mid served post,
    acts = pre ++ .task q (.list reply) :: mid ++ .task q (.patch served) :: post →
    (∀ reply', .task q (.list reply') ∉ mid) → ∀ action ∈ mid, action.writes = false

lemma Steady.init {acts post : List Action} (h : Steady (acts ++ post)) : Steady acts := by
  rintro pre q reply mid served post' rfl hmid
  exact h pre q reply mid served (post' ++ post) (by simp) hmid

lemma Phase.holds_of_engaged {p : Phase ext config} (h : p.engaged = true) : p.holds = true := by
  rcases p with _ | ⟨a, stage⟩ | _ | _ <;> first | cases stage | skip
  all_goals simp_all [Phase.engaged, Phase.holds, Stage.engaged, Stage.locked]

lemma Phase.Refused.engaged {p : Phase ext config} (h : p.Refused) : p.engaged = false := by
  cases h <;> rfl

lemma Phase.Refused.succeeded {p : Phase ext config} (h : p.Refused) : p.succeeded = false := by
  cases h <;> rfl

lemma Phase.ended_of_succeeded {p : Phase ext config} (h : p.succeeded = true) :
    p.ended = true := by
  unfold Phase.succeeded at h
  split at h
  · rfl
  · simp at h

/-! ### Steps with no lasting effect -/

/-- The step of a request that is not engaged changes no Pod and no route and is no
success, and engages it only by a list. -/
lemma Moves.idle {w : World ext config} {q : TaskId} {p p' : Phase ext config} {event : Event}
    {eff : Effect} (h : Moves w q p event p' eff) (hfits : p.Fits (w.tasks q).request)
    (hidle : p.engaged = false) :
    (∀ c, eff.clusterAfter c = c) ∧ (∀ s, eff.sessionsAfter s = s) ∧ p'.succeeded = false
      ∧ (p'.engaged = true → ∃ a stage indices version resources,
        p = .running a stage ∧ event = .list (some (indices, version))
          ∧ (stage = .listing ∨ stage = .relisting) ∧ a.character.isSome = true
          ∧ filterSnapshot config.defaultEndpoint.statusQuery
            config.defaultEndpoint.annotationSelector (w.cluster.pick indices) = .ok resources
          ∧ p' = .running a (.deciding resources version)) := by
  have hengaged : ∀ {a : Access} {stage : Stage ext config}, p = .running a stage →
      stage.engaged = true → a.character.isSome = true → False := by
    rintro a stage rfl hstage hsome
    simp [Phase.engaged, hsome, hstage] at hidle
  cases h with
  | reject hp => exact ⟨fun _ => rfl, fun _ => rfl, hp.succeeded, by simp [hp.engaged]⟩
  | refuse hstage hp => exact ⟨fun _ => rfl, fun _ => rfl, hp.succeeded, by simp [hp.engaged]⟩
  | list hstage hr =>
      refine ⟨fun _ => rfl, fun _ => rfl, rfl,
        fun hp' => ⟨_, _, _, _, _, rfl, rfl, hstage, ?_, hr, rfl⟩⟩
      simpa [Phase.engaged, Stage.engaged] using hp'
  | assign hd => exact (hengaged rfl rfl (by rw [(decision_eq_assign hd).1]; rfl)).elim
  | connected hr hc => exact (hengaged rfl rfl (hfits.isSome rfl)).elim
  | allocate hr hc => exact (hengaged rfl rfl (hfits.isSome rfl)).elim
  | patch hr hp => exact (hengaged rfl rfl (hfits.isSome rfl)).elim
  | clear => exact (hengaged rfl rfl (hfits.isSome rfl)).elim
  | install => exact (hengaged rfl rfl (hfits.isSome rfl)).elim
  | _ => exact ⟨fun _ => rfl, fun _ => rfl, rfl, by simp [Phase.engaged, Stage.engaged]⟩

/-- A move without an effect on the session table keeps the routes. -/
lemma routes_move {w : World ext config} {q : TaskId} {p : Phase ext config} {eff : Effect}
    (heff : ∀ s, eff.sessionsAfter s = s) (d : ℕ) : (w.move q p eff).routes d = w.routes d := by
  have h : KeepsRoutes (w, .task q .start, w.move q p eff) := keepsRoutes_move heff
  exact congrArg SessionState.route (h d)

/-- A move that puts a session table in place. -/
lemma routes_move_sessions {w : World ext config} {q : TaskId} {p : Phase ext config} {d : ℕ}
    (hdirector : (w.tasks q).director = d) (sessions : SessionState) :
    (w.move q p (.sessions sessions)).routes d = sessions.route := by
  subst hdirector
  exact congrArg SessionState.route (w.sessions_move q p (.sessions sessions))

/-! ### Serial runs -/

section

variable (w₀ : World ext config) (acts : List Action) (w : World ext config) (turns : List Turn)
  (s : World ext config)

/-- A serial run with the answers of the run so far: the queries answered with a
success have their turns in the order in which they last took the lock, each
with steps it has taken, and no other query has begun. -/
structure Serial : Prop where
  run : Run.run step w₀ (schedule turns) = some s
  linearizable : Run.Along step Linearizable w₀ (schedule turns)
  replays : ∀ t ∈ turns, t.actions.Sublist acts
  order : turns.filterMap Turn.task = (acquisitions acts).dedup.filter w.succeeded
  answered : ∀ q, w.succeeded q = true → (s.tasks q).phase = (w.tasks q).phase
  others : ∀ q, w.succeeded q = false → s.tasks q = w₀.tasks q

/-- The serial run has caught up: it has the Pods and routes of the run so far, and
its writes. -/
structure Level (d : ℕ) : Prop extends Serial w₀ acts w turns s where
  cluster : s.cluster = w.cluster
  routes : s.routes d = w.routes d
  writes : (schedule turns).filter Action.writes = acts.filter Action.writes

/-- The serial run is in the turn of the engaged query: the steps of the query since
its start lead to the same place, and the writes since its snapshot, performed
after them, to the same Pods. -/
structure Ahead (d : ℕ) (q : TaskId) (events : List Event) (u : World ext config)
    (since : List Action) : Prop extends Serial w₀ acts w turns s where
  engaged : (w.tasks q).phase.engaged = true
  run_turn : Run.run step s (events.map (.task q)) = some u
  linearizable_turn : Run.Along step Linearizable s (events.map (.task q))
  replays_turn : List.Sublist (events.map (.task q)) acts
  phase : (u.tasks q).phase = (w.tasks q).phase
  stored : (w.tasks q).phase.Stored s.cluster
  untouched : (w.tasks q).phase.uncommitted = true →
    u.cluster = s.cluster ∧ u.routes d = s.routes d
  snapshot : ∃ pre reply post, acts = pre ++ .task q (.list reply) :: post
    ∧ (∀ reply', .task q (.list reply') ∉ post) ∧ post.filter Action.writes = since
  run_since : ∃ v, Run.run step u since = some v ∧ v.cluster = w.cluster
  routes : u.routes d = w.routes d
  writes : (schedule turns).filter Action.writes ++ since = acts.filter Action.writes

end

section

variable {w₀ : World ext config} {acts : List Action} {w w' : World ext config}
  {turns : List Turn} {s : World ext config} {d : ℕ} {q : TaskId} {events : List Event}
  {u : World ext config} {since : List Action} {action : Action}

/-- Success is final. -/
lemma phase_of_succeeded (hstep : step w action = some w') (hq : w.succeeded q = true) :
    (w'.tasks q).phase = (w.tasks q).phase :=
  phase_of_ended (Phase.ended_of_succeeded hq) ((Run.run_singleton w action).trans hstep)

/-- A step that answers nobody with a success keeps the serial run. -/
lemma Serial.keep (h : Serial w₀ acts w turns s) (hstep : step w action = some w')
    (hnew : ∀ q, w'.succeeded q = true → w.succeeded q = true) :
    Serial w₀ (acts ++ [action]) w' turns s := by
  have hsucceeded : w'.succeeded = w.succeeded := by
    funext q
    cases hq : w.succeeded q with
    | true => rw [World.succeeded, phase_of_succeeded hstep hq, ← World.succeeded, hq]
    | false =>
        rw [Bool.eq_false_iff]
        intro hq'
        simp [hnew q hq'] at hq
  exact
    { run := h.run
      linearizable := h.linearizable
      replays := fun t ht => (h.replays t ht).trans (List.sublist_append_left _ _)
      order := by
        rw [h.order, hsucceeded, acquisitions_concat, filter_dedup_of_drop]
        intro q hq
        obtain rfl := acquires_eq_some hq
        obtain ⟨a, stage, -, hphase⟩ := free_of_step_acquire hstep
        rw [World.succeeded, hphase]
        rfl
      answered := by
        intro q hq
        rw [hsucceeded] at hq
        rw [h.answered q hq, phase_of_succeeded hstep hq]
      others := by
        rw [hsucceeded]
        exact h.others }

/-- Writes are turns of their own at the end of a serial run. -/
lemma Serial.append_writes (h : Serial w₀ acts w turns s) {rest : List Action}
    (hwrites : ∀ action ∈ rest, action.writes = true) (hmem : ∀ action ∈ rest, action ∈ acts)
    {v : World ext config} (hrun : Run.run step s rest = some v) :
    ∃ turns', schedule turns' = schedule turns ++ rest ∧ Serial w₀ acts w turns' v := by
  obtain ⟨turns', hschedule, htask, hturns⟩ := exists_turns_of_writes hwrites
  obtain ⟨htasks, -⟩ := frame_of_run_writes hwrites hrun
  refine ⟨turns ++ turns', by rw [schedule_append, hschedule], ?_⟩
  exact
    { run := by
        rw [schedule_append, hschedule]
        exact Run.run_trans h.run hrun
      linearizable := by
        rw [schedule_append, hschedule]
        refine (Run.along_append _ _ _).mpr ⟨h.linearizable, fun t _ => ?_⟩
        refine Run.along_of_forall (fun action haction t => ?_) t
        have hw := hwrites action haction
        cases action with
        | task q event => simp [Action.writes] at hw
        | _ => trivial
      replays := by
        intro t ht
        rcases List.mem_append.mp ht with ht | ht
        · exact h.replays t ht
        · obtain ⟨action, haction, heq⟩ := hturns t ht
          rw [heq]
          exact List.singleton_sublist.mpr (hmem action haction)
      order := by rw [List.filterMap_append, htask, List.append_nil, h.order]
      answered := by
        rw [htasks]
        exact h.answered
      others := by
        rw [htasks]
        exact h.others }

/-- In a serial run nobody is under way. -/
lemma Serial.holds (h : Serial w₀ acts w turns s) (h₀ : w₀.Initial) (q : TaskId) :
    (s.tasks q).phase.holds = false := by
  cases hq : w.succeeded q with
  | true =>
      rw [h.answered q hq]
      exact Phase.holds_of_ended (Phase.ended_of_succeeded hq)
  | false =>
      rw [h.others q hq, h₀.entry q]
      rfl

/-! ### While nobody is engaged -/

/-- A step without a lasting effect keeps the serial run level. -/
lemma Level.keep (h : Level w₀ acts w turns s d) (hstep : step w action = some w')
    (hnew : ∀ q, w'.succeeded q = true → w.succeeded q = true)
    (hcluster : w'.cluster = w.cluster) (hroutes : w'.routes d = w.routes d)
    (hwrites : action.writes = false) : Level w₀ (acts ++ [action]) w' turns s d where
  toSerial := h.toSerial.keep hstep hnew
  cluster := h.cluster.trans hcluster.symm
  routes := h.routes.trans hroutes.symm
  writes := by simp [h.writes, hwrites]

/-- A write of others is the next turn. -/
lemma Level.write (h : Level w₀ acts w turns s d) (hstep : step w action = some w')
    (hwrites : action.writes = true) :
    ∃ turns' s', Level w₀ (acts ++ [action]) w' turns' s' d := by
  obtain ⟨htasks, hdirectors⟩ := frame_of_writes hwrites hstep
  obtain ⟨s', hstep', hcluster'⟩ := exists_step_writes hwrites h.cluster hstep
  obtain ⟨-, hdirectors'⟩ := frame_of_writes hwrites hstep'
  have hserial : Serial w₀ (acts ++ [action]) w' turns s :=
    h.toSerial.keep hstep fun q hq => by rwa [World.succeeded, htasks] at hq
  obtain ⟨turns', hschedule, hserial'⟩ := hserial.append_writes
    (by simpa using hwrites) (by simp) ((Run.run_singleton s action).trans hstep')
  refine ⟨turns', s', hserial', hcluster', ?_, ?_⟩
  · rw [World.routes, World.routes, hdirectors, hdirectors']
    exact h.routes
  · rw [hschedule, List.filter_append, List.filter_append, h.writes]

/-- Alone, a query that starts is handed the lock at once and lists. -/
lemma exists_run_snapshot (hs : s.Disciplined) (hidle : ∀ r, (s.tasks r).phase.holds = false)
    {a : Access} (hentry : (s.tasks q).phase = .entry)
    (hprepare : prepare config (s.tasks q).request = .ok a) (hsome : a.character.isSome = true)
    {indices : List ℕ} {version : String} {resources : List DynamicObject}
    (hr : filterSnapshot config.defaultEndpoint.statusQuery
      config.defaultEndpoint.annotationSelector (s.cluster.pick indices) = .ok resources)
    (hlin : ∀ o, o ∈ s.cluster.pick indices
      ↔ (∃ name, s.cluster.live name = some o) ∧ matchesLabels a.labels o = true) :
    ∃ u, Run.run step s
        ([.start, .acquire, .list (some (indices, version))].map (.task q)) = some u
      ∧ Run.Along step Linearizable s
        ([.start, .acquire, .list (some (indices, version))].map (.task q))
      ∧ (u.tasks q).phase = .running a (.deciding resources version)
      ∧ u.cluster = s.cluster ∧ ∀ d, u.routes d = s.routes d := by
  obtain ⟨s₁, hs₁⟩ : ∃ s₁, s₁ = s.move q (.running a .locking) .none := ⟨_, rfl⟩
  have hstart : step s (.task q .start) = some s₁ := by
    rw [hs₁]
    exact step_of_advance (by simp [advance, hentry, hprepare, hsome])
  have hphase₁ : (s₁.tasks q).phase = .running a .locking := by rw [hs₁, World.phase_move]
  -- the lock is free, for nobody else is under way
  have hfree : (s₁.director q).assignments = none := by
    rw [Option.eq_none_iff_forall_ne_some]
    intro r hheld
    obtain ⟨-, hholds⟩ := ((hs.step hstart).held _ r).mp hheld
    rcases eq_or_ne r q with rfl | hne
    · simp [hphase₁, Phase.holds, Stage.locked] at hholds
    · rw [hs₁, s.tasks_move_of_ne q _ _ hne, hidle r] at hholds
      cases hholds
  obtain ⟨s₂, hs₂⟩ : ∃ s₂, s₂ = s₁.move q (.running a .listing) .lock := ⟨_, rfl⟩
  have hacquire : step s₁ (.task q .acquire) = some s₂ := by
    rw [hs₂]
    exact step_of_advance (by simp [advance, hphase₁, hfree])
  have hphase₂ : (s₂.tasks q).phase = .running a .listing := by rw [hs₂, World.phase_move]
  have hcluster₂ : s₂.cluster = s.cluster := by
    rw [hs₂, World.cluster_move, hs₁, World.cluster_move]
    rfl
  have hlist : step s₂ (.task q (.list (some (indices, version))))
      = some (s₂.move q (.running a (.deciding resources version)) .none) :=
    step_of_advance (by simp [advance, hphase₂, listed, hcluster₂, hr])
  have hlocked : Run.run step s [.task q .start, .task q .acquire] = some s₂ :=
    Run.run_concat ((Run.run_singleton _ _).trans hstart) hacquire
  refine ⟨_, Run.run_concat hlocked hlist, ?_, World.phase_move _ _ _ _, ?_, fun d => ?_⟩
  · refine (Run.along_append s ([.task q .start, .task q .acquire] : List Action) _).mpr
      ⟨⟨trivial, fun _ _ => ⟨trivial, fun _ _ => trivial⟩⟩, fun t ht => ⟨?_, fun _ _ => trivial⟩⟩
    obtain rfl := Option.some.inj (ht.symm.trans hlocked)
    intro a' stage' hphase' o
    rw [hphase₂] at hphase'
    obtain ⟨rfl, -⟩ := Phase.running.inj hphase'
    rw [hcluster₂]
    exact hlin o
  · exact (World.cluster_move s₂ q _ _).trans hcluster₂
  · rw [routes_move fun _ => rfl, hs₂, routes_move fun _ => rfl, hs₁, routes_move fun _ => rfl]

/-- Where a query engages, its turn is replayed from its start: alone, it lists the
same Pods. -/
lemma Level.engage (h₀ : w₀.Initial) (hone : ∀ q, (w₀.tasks q).director = d)
    (hacts : Run.run step w₀ acts = some w) (h : Level w₀ acts w turns s d)
    {a : Access} {stage : Stage ext config} {indices : List ℕ} {version : String}
    {resources : List DynamicObject} (hphase : (w.tasks q).phase = .running a stage)
    (hstage : stage = .listing ∨ stage = .relisting) (hsome : a.character.isSome = true)
    (hr : filterSnapshot config.defaultEndpoint.statusQuery
      config.defaultEndpoint.annotationSelector (w.cluster.pick indices) = .ok resources)
    (hlin : Linearizable w (.task q (.list (some (indices, version)))))
    (hstep : step w (.task q (.list (some (indices, version))))
      = some (w.move q (.running a (.deciding resources version)) .none)) :
    ∃ u, Ahead w₀ (acts ++ [.task q (.list (some (indices, version)))])
      (w.move q (.running a (.deciding resources version)) .none) turns s d q
      [.start, .acquire, .list (some (indices, version))] u [] := by
  have hrecorded := recorded_of_run h₀ hone hacts
  have hholds : (w.tasks q).phase.holds = true := by
    rw [hphase]
    rcases hstage with rfl | rfl <;> simp [Phase.holds, hsome, Stage.locked]
  have htask : s.tasks q = w₀.tasks q := h.others q (by rw [World.succeeded, hphase]; rfl)
  have hprepare : prepare config (s.tasks q).request = .ok a := by
    rw [htask, ← (task_of_run hacts q).2.1]
    exact prepared_of_run h₀ hacts hphase
  have hlin' := hlin a stage hphase
  obtain ⟨u, hrun, hlinearizable, hu, hcluster, hroutes⟩ := exists_run_snapshot
    (disciplined_of_run h₀ h.run) (h.holds h₀) (by rw [htask, h₀.entry q]) hprepare hsome
    (h.cluster ▸ hr) (h.cluster ▸ hlin')
  refine ⟨u, ?_⟩
  exact
    { toSerial := h.toSerial.keep hstep fun r hr => by
        rcases eq_or_ne r q with rfl | hne
        · simp [World.succeeded, Phase.succeeded] at hr
        · rwa [World.succeeded, w.tasks_move_of_ne q _ _ hne] at hr
      engaged := by simp [Phase.engaged, hsome, Stage.engaged]
      run_turn := hrun
      linearizable_turn := hlinearizable
      replays_turn := (hrecorded.acquired q hholds).1.append (List.Sublist.refl [_])
      phase := by rw [World.phase_move, hu]
      stored := by
        rw [World.phase_move, h.cluster]
        exact fun o ho => ((hlin' o).mp ((mem_filterSnapshot hr).mp ho).1).1
      untouched := fun _ => ⟨hcluster, hroutes d⟩
      snapshot := ⟨acts, _, [], rfl, by simp, rfl⟩
      run_since := ⟨u, rfl, by simp [Effect.clusterAfter, hcluster, h.cluster]⟩
      routes := by rw [hroutes, routes_move fun _ => rfl, h.routes]
      writes := by simp [h.writes, Action.writes] }

/-! ### While a query is engaged -/

namespace Ahead

/-- The writes since the snapshot are writes, and the run has performed them. -/
lemma of_mem_since (h : Ahead w₀ acts w turns s d q events u since) (ha : action ∈ since) :
    action.writes = true ∧ action ∈ acts := by
  obtain ⟨pre, reply, post, rfl, -, rfl⟩ := h.snapshot
  obtain ⟨ha, hwrites⟩ := List.mem_filter.mp ha
  exact ⟨hwrites, List.mem_append_right _ (List.mem_cons_of_mem _ ha)⟩

/-- A step of others without a lasting effect. -/
lemma keep (h : Ahead w₀ acts w turns s d q events u since) (hstep : step w action = some w')
    (hnew : ∀ q, w'.succeeded q = true → w.succeeded q = true)
    (htask : w'.tasks q = w.tasks q) (hcluster : w'.cluster = w.cluster)
    (hroutes : w'.routes d = w.routes d) (hlist : ∀ reply, action ≠ .task q (.list reply))
    (hwrites : action.writes = false) :
    Ahead w₀ (acts ++ [action]) w' turns s d q events u since where
  toSerial := h.toSerial.keep hstep hnew
  engaged := htask ▸ h.engaged
  run_turn := h.run_turn
  linearizable_turn := h.linearizable_turn
  replays_turn := h.replays_turn.trans (List.sublist_append_left _ _)
  phase := htask ▸ h.phase
  stored := htask ▸ h.stored
  untouched := htask ▸ h.untouched
  snapshot := by
    obtain ⟨pre, reply, post, rfl, hlast, rfl⟩ := h.snapshot
    refine ⟨pre, reply, post ++ [action], by simp, fun reply' hmem => ?_, by simp [hwrites]⟩
    rcases List.mem_append.mp hmem with hmem | hmem
    · exact hlast reply' hmem
    · exact hlist reply' (List.mem_singleton.mp hmem).symm
  run_since := hcluster ▸ h.run_since
  routes := h.routes.trans hroutes.symm
  writes := by simp [h.writes, hwrites]

/-- A write of others is performed after the turn. -/
lemma write (h : Ahead w₀ acts w turns s d q events u since) (hstep : step w action = some w')
    (hwrites : action.writes = true) :
    Ahead w₀ (acts ++ [action]) w' turns s d q events u (since ++ [action]) := by
  obtain ⟨htasks, hdirectors⟩ := frame_of_writes hwrites hstep
  obtain ⟨v, hv, hcluster⟩ := h.run_since
  obtain ⟨v', hstep', hcluster'⟩ := exists_step_writes hwrites hcluster hstep
  exact
    { toSerial := h.toSerial.keep hstep fun r hr => by rwa [World.succeeded, htasks] at hr
      engaged := htasks ▸ h.engaged
      run_turn := h.run_turn
      linearizable_turn := h.linearizable_turn
      replays_turn := h.replays_turn.trans (List.sublist_append_left _ _)
      phase := htasks ▸ h.phase
      stored := htasks ▸ h.stored
      untouched := htasks ▸ h.untouched
      snapshot := by
        obtain ⟨pre, reply, post, rfl, hlast, rfl⟩ := h.snapshot
        refine ⟨pre, reply, post ++ [action], by simp, fun reply' hmem => ?_, by simp [hwrites]⟩
        rcases List.mem_append.mp hmem with hmem | hmem
        · exact hlast reply' hmem
        · obtain rfl := List.mem_singleton.mp hmem
          simp [Action.writes] at hwrites
      run_since := ⟨v', Run.run_concat hv hstep', hcluster'⟩
      routes := by
        rw [World.routes, World.routes, hdirectors]
        exact h.routes
      writes := by rw [← List.append_assoc, h.writes, List.filter_append]; simp [hwrites] }

/-- **A query that gives up has changed nothing**: without its turn the serial run is
level. -/
lemma level (h : Ahead w₀ acts w turns s d q events u since)
    (huncommitted : (w.tasks q).phase.uncommitted = true) :
    ∃ turns' s', Level w₀ acts w turns' s' d := by
  obtain ⟨hcluster, hroutes⟩ := h.untouched huncommitted
  obtain ⟨v, hv, hv'⟩ := h.run_since
  have hwrites : ∀ action ∈ since, action.writes = true := fun a ha => (h.of_mem_since ha).1
  obtain ⟨s', hs', hcluster'⟩ := exists_run_writes hwrites hcluster.symm hv
  obtain ⟨-, hdirectors⟩ := frame_of_run_writes hwrites hs'
  obtain ⟨turns', hschedule, hserial⟩ :=
    h.toSerial.append_writes hwrites (fun a ha => (h.of_mem_since ha).2) hs'
  refine ⟨turns', s', hserial, hcluster'.trans hv', ?_, ?_⟩
  · rw [← h.routes, hroutes, World.routes, World.routes, hdirectors]
  · rw [hschedule, List.filter_append, ← h.writes, List.filter_eq_self.mpr hwrites]

/-- **The replay follows a step of the query.** -/
lemma follow (h : Ahead w₀ acts w turns s d q events u since) {event : Event}
    {p : Phase ext config} {eff eff' : Effect}
    (hstep : step w (.task q event) = some (w.move q p eff))
    (hreplay : step u (.task q event) = some (u.move q p eff'))
    (hengaged : p.engaged = true) (hstored : p.Stored s.cluster)
    (huntouched : p.uncommitted = true → (w.tasks q).phase.uncommitted = true ∧ eff' = .none)
    (hlist : ∀ reply, event ≠ .list reply)
    (hsince : ∃ v, Run.run step (u.move q p eff') since = some v
      ∧ v.cluster = (w.move q p eff).cluster)
    (hroutes : (u.move q p eff').routes d = (w.move q p eff).routes d) :
    Ahead w₀ (acts ++ [.task q event]) (w.move q p eff) turns s d q (events ++ [event])
      (u.move q p eff') since where
  toSerial := h.toSerial.keep hstep fun r hr => by
    rcases eq_or_ne r q with rfl | hne
    · rw [World.succeeded, World.phase_move] at hr
      rcases p with _ | _ | _ | _ <;> simp [Phase.engaged, Phase.succeeded] at hengaged hr
    · rwa [World.succeeded, w.tasks_move_of_ne q p eff hne] at hr
  engaged := by rwa [World.phase_move]
  run_turn := by
    rw [List.map_append]
    exact Run.run_concat h.run_turn hreplay
  linearizable_turn := by
    rw [List.map_append]
    exact (Run.along_append _ _ _).mpr
      ⟨h.linearizable_turn, fun t _ => ⟨linearizable_of_ne_list hlist, fun _ _ => trivial⟩⟩
  replays_turn := by
    rw [List.map_append]
    exact h.replays_turn.append (List.Sublist.refl _)
  phase := by rw [World.phase_move, World.phase_move]
  stored := by rwa [World.phase_move]
  untouched := by
    rw [World.phase_move]
    intro hp
    obtain ⟨huncommitted, rfl⟩ := huntouched hp
    rw [World.cluster_move, routes_move fun _ => rfl]
    exact h.untouched huncommitted
  snapshot := by
    obtain ⟨pre, reply, post, rfl, hlast, rfl⟩ := h.snapshot
    refine ⟨pre, reply, post ++ [.task q event], by simp, fun reply' hmem => ?_,
      by simp [Action.writes]⟩
    rcases List.mem_append.mp hmem with hmem | hmem
    · exact hlast reply' hmem
    · exact hlist reply' (Action.task.inj (List.mem_singleton.mp hmem)).2.symm
  run_since := hsince
  routes := hroutes
  writes := by simp [h.writes, Action.writes]

/-- **An answered query completes its turn.** -/
lemma complete (h : Ahead w₀ acts w turns s d q events u since)
    (hlast : (acquisitions acts).getLast? = some q) {event : Event} {p : Phase ext config}
    {eff eff' : Effect} (hstep : step w (.task q event) = some (w.move q p eff))
    (hreplay : step u (.task q event) = some (u.move q p eff'))
    (hsucceeded : p.succeeded = true) (hlist : ∀ reply, event ≠ .list reply)
    (hacquire : event ≠ .acquire) (hcluster : (w.move q p eff).cluster = w.cluster)
    (hcluster' : (u.move q p eff').cluster = u.cluster)
    (hroutes : (u.move q p eff').routes d = (w.move q p eff).routes d) :
    ∃ turns' s', Level w₀ (acts ++ [.task q event]) (w.move q p eff) turns' s' d := by
  have hwrites : ∀ action ∈ since, action.writes = true := fun a ha => (h.of_mem_since ha).1
  have hacquires : (Action.task q event).acquires = none := by
    cases event <;> simp_all [Action.acquires]
  have hnew : w.succeeded q = false := by
    have hengaged := h.engaged
    rw [World.succeeded]
    generalize (w.tasks q).phase = phase at hengaged
    cases phase <;> first | rfl | simp [Phase.engaged] at hengaged
  have hself : (w.move q p eff).succeeded q = true := by rwa [World.succeeded, World.phase_move]
  have hothers : ∀ r, r ≠ q → (w.move q p eff).succeeded r = w.succeeded r := fun r hne => by
    rw [World.succeeded, World.succeeded, w.tasks_move_of_ne q p eff hne]
  have hturn : Run.run step s ((events ++ [event]).map (.task q)) = some (u.move q p eff') := by
    rw [List.map_append]
    exact Run.run_concat h.run_turn hreplay
  have hserial : Serial w₀ (acts ++ [.task q event]) (w.move q p eff)
      (turns ++ [.query q (events ++ [event])]) (u.move q p eff') :=
    { run := by
        rw [schedule_append, schedule_singleton]
        exact Run.run_trans h.run hturn
      linearizable := by
        rw [schedule_append, schedule_singleton]
        refine (Run.along_append _ _ _).mpr ⟨h.linearizable, fun t ht => ?_⟩
        obtain rfl : s = t := Option.some.inj (h.run.symm.trans ht)
        rw [Turn.actions, List.map_append]
        refine (Run.along_append _ _ _).mpr
          ⟨h.linearizable_turn, fun t _ => ⟨linearizable_of_ne_list hlist, fun _ _ => trivial⟩⟩
      replays := by
        intro t ht
        rcases List.mem_append.mp ht with ht | ht
        · exact (h.replays t ht).trans (List.sublist_append_left _ _)
        · obtain rfl := List.mem_singleton.mp ht
          rw [Turn.actions, List.map_append]
          exact h.replays_turn.append (List.Sublist.refl _)
      order := by
        rw [List.filterMap_append, h.order, acquisitions_concat, hacquires, Option.toList_none,
          List.append_nil, filter_dedup_of_last hlast hself hnew hothers]
        rfl
      answered := by
        intro r hr
        rcases eq_or_ne r q with rfl | hne
        · rw [World.phase_move, World.phase_move]
        · rw [hothers r hne] at hr
          rw [tasks_of_run_task hturn hne, w.tasks_move_of_ne q p eff hne, h.answered r hr]
      others := by
        intro r hr
        rcases eq_or_ne r q with rfl | hne
        · simp [hself] at hr
        · rw [hothers r hne] at hr
          rw [tasks_of_run_task hturn hne, h.others r hr] }
  -- the writes since the snapshot come after the turn
  obtain ⟨v, hv, hv'⟩ := h.run_since
  obtain ⟨v', hrun', hcluster''⟩ := exists_run_writes hwrites hcluster' hv
  obtain ⟨-, hdirectors⟩ := frame_of_run_writes hwrites hrun'
  obtain ⟨turns', hschedule, hserial'⟩ := hserial.append_writes hwrites
    (fun a ha => List.mem_append_left _ (h.of_mem_since ha).2) hrun'
  refine ⟨turns', v', hserial', by rw [hcluster'', hv', hcluster], ?_, ?_⟩
  · rw [← hroutes, World.routes, World.routes, hdirectors]
  · have hquery : ((events ++ [event]).map (Action.task q)).filter Action.writes = [] := by
      rw [List.filter_eq_nil_iff]
      intro action haction
      obtain ⟨event', -, rfl⟩ := List.mem_map.mp haction
      simp [Action.writes]
    rw [hschedule, schedule_append, schedule_singleton, Turn.actions, List.filter_append,
      List.filter_append, hquery, List.append_nil, List.filter_eq_self.mpr hwrites, h.writes]
    simp [Action.writes]

/-- Without a write since the snapshot, the turn has led to the same Pods. -/
lemma cluster_eq (h : Ahead w₀ acts w turns s d q events u since) {served : Option String}
    (hsteady : Steady (acts ++ [.task q (.patch served)])) :
    since = [] ∧ u.cluster = w.cluster := by
  have hsince : since = [] := by
    obtain ⟨pre, reply, post, rfl, hlast, rfl⟩ := h.snapshot
    rw [List.filter_eq_nil_iff]
    intro action haction
    simp [hsteady pre q reply post served [] (by simp) hlast action haction]
  subst hsince
  obtain ⟨v, hv, hcluster⟩ := h.run_since
  obtain rfl := Option.some.inj hv
  exact ⟨rfl, hcluster⟩

/-- **A step of the engaged query**: it is replayed, it completes the turn, or the
query gives up. -/
lemma step_task (h₀ : w₀.Initial) (hone : ∀ q, (w₀.tasks q).director = d)
    (hacts : Run.run step w₀ acts = some w) {event : Event}
    (hsteady : Steady (acts ++ [.task q event]))
    (h : Ahead w₀ acts w turns s d q events u since)
    (hstep : step w (.task q event) = some w') :
    (∃ turns' s', Level w₀ (acts ++ [.task q event]) w' turns' s' d
        ∧ (w'.tasks q).phase.engaged = false)
      ∨ ∃ events' u', Ahead w₀ (acts ++ [.task q event]) w' turns s d q events' u' since := by
  obtain ⟨p', eff, hmoves, rfl⟩ := exists_moves_of_step hstep
  have hrecorded := recorded_of_run h₀ hone hacts
  have hturn := task_of_run (Run.run_trans h.run h.run_turn) q
  have htask := task_of_run hacts q
  have hclient : (u.tasks q).client = (w.tasks q).client := hturn.2.2.trans htask.2.2.symm
  have hdirector : (u.tasks q).director = d := hturn.1.trans (hone q)
  have hlast := (hrecorded.acquired q (Phase.holds_of_engaged h.engaged)).2
  have hfits := (disciplined_of_run h₀ hacts).fits q
  have hu := h.phase
  have hengaged := h.engaged
  have hstored := h.stored
  -- a query that gives up leaves no turn
  have hquit : (w.tasks q).phase.uncommitted = true → (∀ c, eff.clusterAfter c = c) →
      (∀ s, eff.sessionsAfter s = s) → p'.succeeded = false → p'.engaged = false →
      ∃ turns' s', Level w₀ (acts ++ [.task q event]) (w.move q p' eff) turns' s' d
        ∧ ((w.move q p' eff).tasks q).phase.engaged = false := by
    intro huncommitted hcluster hsessions hsucceeded hidle
    obtain ⟨turns', s', hlevel⟩ := h.level huncommitted
    refine ⟨turns', s', hlevel.keep hstep (fun r hr => ?_) ?_ (routes_move hsessions d) rfl, ?_⟩
    · rcases eq_or_ne r q with rfl | hne
      · rw [World.succeeded, World.phase_move, hsucceeded] at hr
        cases hr
      · rwa [World.succeeded, w.tasks_move_of_ne q p' eff hne] at hr
    · rw [World.cluster_move, hcluster]
    · rw [World.phase_move, hidle]
  -- a step that touches no Pod keeps the replay in step
  have hmove : ∀ {eff' : Effect}, eff'.clusterAfter u.cluster = u.cluster →
      ∃ v, Run.run step (u.move q p' eff') since = some v ∧ v.cluster = w.cluster := by
    intro eff' heff
    obtain ⟨v, hv, hcluster⟩ := h.run_since
    obtain ⟨v', hv', hcluster'⟩ := exists_run_writes (fun a ha => (h.of_mem_since ha).1)
      ((World.cluster_move u q p' eff').trans heff) hv
    exact ⟨v', hv', hcluster'.trans hcluster⟩
  have hkeep : eff = .none → (u.move q p' .none).routes d = (w.move q p' eff).routes d := by
    rintro rfl
    rw [routes_move fun _ => rfl, routes_move fun _ => rfl, h.routes]
  generalize hphase : (w.tasks q).phase = phase at hmoves hfits hu hengaged hstored hquit
  cases hmoves with
  | refuse hstage hp =>
      exact .inl (hquit hstage (fun _ => rfl) (fun _ => rfl) hp.succeeded hp.engaged)
  | reply hd => simp [Phase.engaged, (decision_eq_reply hd).1] at hengaged
  | wait hd hdc =>
      refine .inl (hquit rfl (fun _ => rfl) (fun _ => rfl) rfl ?_)
      simp [Phase.engaged, Stage.engaged]
  | assign hd =>
      rename_i a resources version now choice
      have hreplay : advance u q (.decide now) = some (.running a (.extracting choice), .none) := by
        simp [advance, hu, decided, hd]
      refine .inr ⟨_, _, h.follow hstep (step_of_advance hreplay) ?_
        (hstored _ (decision_eq_assign hd).2.2.1) (fun _ => ⟨by rw [hphase]; rfl, rfl⟩) (by simp)
        (hmove rfl) (hkeep rfl)⟩
      rw [Phase.engaged, (decision_eq_assign hd).1]
      rfl
  | connected hr hc =>
      rename_i a choice services target
      have hreplay : advance u q (.extract services)
          = some (.running a (.clearing target), .none) := by
        simp [advance, hu, extracted, hr, hc]
      exact .inr ⟨_, _, h.follow hstep (step_of_advance hreplay) hengaged trivial
        (absurd · Bool.false_ne_true) (by simp)
        (hmove rfl) (hkeep rfl)⟩
  | allocate hr hc =>
      rename_i a choice services target
      have hreplay : advance u q (.extract services)
          = some (.running a (.allocating target), .none) := by
        simp [advance, hu, extracted, hr, hc]
      obtain ⟨rfl, -⟩ := resolve_eq_ok hr
      exact .inr ⟨_, _, h.follow hstep (step_of_advance hreplay) hengaged hstored
        (fun _ => ⟨by rw [hphase]; rfl, rfl⟩) (by simp) (hmove rfl) (hkeep rfl)⟩
  | patch hr hp =>
      rename_i a target name version fresh cluster
      obtain ⟨rfl, hcluster⟩ := h.cluster_eq hsteady
      have hreplay : advance u q (.patch (some fresh))
          = some (.running a (.clearing target), .write cluster) := by
        simp [advance, hu, allocated, hr, hcluster, hp]
      refine .inr ⟨_, _, h.follow hstep (step_of_advance hreplay) hengaged trivial
        (absurd · Bool.false_ne_true) (by simp)
        ⟨_, rfl, by simp [Effect.clusterAfter]⟩ ?_⟩
      rw [routes_move fun _ => rfl, routes_move fun _ => rfl, h.routes]
  | clear =>
      rename_i a target
      have hreplay : advance u q .clear = some (.running a (.installing target),
          .sessions ((u.director q).sessions.clear (.legacyIp (u.tasks q).client.ip))) := by
        simp [advance, hu]
      refine .inr ⟨_, _, h.follow hstep (step_of_advance hreplay) hengaged trivial
        (absurd · Bool.false_ne_true) (by simp)
        (hmove rfl) ?_⟩
      rw [routes_move_sessions hdirector, routes_move_sessions (hrecorded.director q)]
      funext ip
      rw [SessionState.route_clear, SessionState.route_clear, World.director, World.director,
        hdirector, hrecorded.director]
      exact congrFun h.routes ip
  | install =>
      rename_i a target
      have hreplay : advance u q .install = some (.done (.ok target.response),
          .sessions ((u.director q).sessions.insert (.legacyIp (u.tasks q).client.ip)
            (Session.newMultiPort target.ip target.routes (u.director q).now))) := by
        simp [advance, hu]
      obtain ⟨turns', s', hlevel⟩ := h.complete hlast hstep (step_of_advance hreplay) rfl (by simp)
        (by simp)
        (by simp [Effect.clusterAfter]) (by simp [Effect.clusterAfter]) (by
          rw [routes_move_sessions hdirector, routes_move_sessions (hrecorded.director q),
            SessionState.route_insert, SessionState.route_insert, hclient, World.director,
            World.director, hdirector, hrecorded.director]
          exact congrArg (Function.update · _ _) h.routes)
      exact .inl ⟨turns', s', hlevel, by rw [World.phase_move]; rfl⟩
  | list hstage hr =>
      rcases hstage with rfl | rfl <;> simp [Phase.engaged, Stage.engaged] at hengaged
  | _ => simp [Phase.engaged, Stage.engaged] at hengaged

end Ahead

/-! ### Every run -/

/-- Engaged is one query at most. -/
lemma eq_of_engaged (h₀ : w₀.Initial) (hone : ∀ q, (w₀.tasks q).director = d)
    (hacts : Run.run step w₀ acts = some w) (hq : (w.tasks q).phase.engaged = true) {r : TaskId}
    (hr : (w.tasks r).phase.holds = true) : r = q := by
  have hrecorded := recorded_of_run h₀ hone hacts
  exact (disciplined_of_run h₀ hacts).eq_of_holds
    ((hrecorded.director r).trans (hrecorded.director q).symm) (Phase.holds_of_engaged hq) hr

/-- A step of a request that is not engaged, while the serial run is level. -/
lemma Level.step_task (h₀ : w₀.Initial) (hone : ∀ q, (w₀.tasks q).director = d)
    (hacts : Run.run step w₀ acts = some w) (h : Level w₀ acts w turns s d)
    (hidle : ∀ r, (w.tasks r).phase.engaged = false) {event : Event}
    (hlin : Linearizable w (.task q event)) (hstep : step w (.task q event) = some w') :
    (∃ turns' s', Level w₀ (acts ++ [.task q event]) w' turns' s' d
        ∧ ∀ r, (w'.tasks r).phase.engaged = false)
      ∨ ∃ turns' s' q' events u since,
        Ahead w₀ (acts ++ [.task q event]) w' turns' s' d q' events u since := by
  obtain ⟨p', eff, hmoves, rfl⟩ := exists_moves_of_step hstep
  obtain ⟨hcluster, hsessions, hsucceeded, hengages⟩ :=
    hmoves.idle ((disciplined_of_run h₀ hacts).fits q) (hidle q)
  cases hp' : p'.engaged with
  | true =>
      obtain ⟨a, stage, indices, version, resources, hphase, rfl, hstage, hsome, hr, rfl⟩ :=
        hengages hp'
      have heff : eff = .none := by
        rw [hphase] at hmoves
        cases hmoves <;> rfl
      subst heff
      obtain ⟨u, hahead⟩ := h.engage h₀ hone hacts hphase hstage hsome hr hlin hstep
      exact .inr ⟨turns, s, q, _, u, _, hahead⟩
  | false =>
      refine .inl ⟨turns, s, h.keep hstep (fun r hr => ?_) ?_ (routes_move hsessions d) rfl,
        fun r => ?_⟩
      · rcases eq_or_ne r q with rfl | hne
        · rw [World.succeeded, World.phase_move, hsucceeded] at hr
          cases hr
        · rwa [World.succeeded, w.tasks_move_of_ne q p' eff hne] at hr
      · rw [World.cluster_move, hcluster]
      · rcases eq_or_ne r q with rfl | hne
        · rw [World.phase_move, hp']
        · rw [w.tasks_move_of_ne q p' eff hne, hidle r]

/-- A step of another request while a query is engaged. -/
lemma Ahead.step_other (h₀ : w₀.Initial) (hone : ∀ q, (w₀.tasks q).director = d)
    (hacts : Run.run step w₀ acts = some w) (h : Ahead w₀ acts w turns s d q events u since)
    {r : TaskId} (hne : r ≠ q) {event : Event} (hstep : step w (.task r event) = some w') :
    Ahead w₀ (acts ++ [.task r event]) w' turns s d q events u since := by
  obtain ⟨p', eff, hmoves, rfl⟩ := exists_moves_of_step hstep
  have hidle : (w.tasks r).phase.engaged = false := by
    rw [Bool.eq_false_iff]
    exact fun hr => hne (eq_of_engaged h₀ hone hacts h.engaged (Phase.holds_of_engaged hr))
  obtain ⟨hcluster, hsessions, hsucceeded, -⟩ :=
    hmoves.idle ((disciplined_of_run h₀ hacts).fits r) hidle
  refine h.keep hstep (fun r' hr' => ?_) (w.tasks_move_of_ne r p' eff hne.symm) ?_
    (routes_move hsessions d) (by simp [hne]) rfl
  · rcases eq_or_ne r' r with rfl | hne'
    · rw [World.succeeded, World.phase_move, hsucceeded] at hr'
      cases hr'
    · rwa [World.succeeded, w.tasks_move_of_ne r p' eff hne'] at hr'
  · rw [World.cluster_move, hcluster]

end

/-- **The serial run follows every run**: it is level while no query is engaged, and
ahead in the turn of the one that is. -/
theorem level_or_ahead_of_run {w₀ w : World ext config} {acts : List Action} {d : ℕ}
    (h₀ : w₀.Initial) (hone : ∀ q, (w₀.tasks q).director = d)
    (hqueries : Run.Along step Queries w₀ acts) (hsteady : Steady acts)
    (hrun : Run.run step w₀ acts = some w) :
    (∃ turns s, Level w₀ acts w turns s d ∧ ∀ q, (w.tasks q).phase.engaged = false)
      ∨ ∃ turns s q events u since, Ahead w₀ acts w turns s d q events u since := by
  revert hsteady
  refine Run.run_induction_along (P := fun as w => Steady as →
    (∃ turns s, Level w₀ as w turns s d ∧ ∀ q, (w.tasks q).phase.engaged = false)
      ∨ ∃ turns s q events u since, Ahead w₀ as w turns s d q events u since) ?_ ?_ hqueries hrun
  · refine fun _ => .inl ⟨[], w₀, ?_, fun q => by rw [h₀.entry q]; rfl⟩
    exact
      { run := rfl
        linearizable := trivial
        replays := by simp
        order := rfl
        answered := fun _ _ => rfl
        others := fun _ _ => rfl
        cluster := rfl
        routes := rfl
        writes := rfl }
  · intro as u action v hu _ ih hguard hstep hsteady
    rcases em (action.writes = true) with hwrites | hwrites
    · have htasks := (frame_of_writes hwrites hstep).1
      rcases ih hsteady.init with
        ⟨turns, s, hlevel, hidle⟩ | ⟨turns, s, q, events, x, since, hahead⟩
      · obtain ⟨turns', s', hlevel'⟩ := hlevel.write hstep hwrites
        exact .inl ⟨turns', s', hlevel', by rwa [htasks]⟩
      · exact .inr ⟨turns, s, q, events, x, _, hahead.write hstep hwrites⟩
    · cases action with
      | task r event =>
          rcases ih hsteady.init with
            ⟨turns, s, hlevel, hidle⟩ | ⟨turns, s, q, events, x, since, hahead⟩
          · exact hlevel.step_task h₀ hone hu hidle hguard.linearizable hstep
          · rcases eq_or_ne r q with rfl | hne
            · rcases hahead.step_task h₀ hone hu hsteady hstep with
                ⟨turns', s', hlevel, hidle⟩ | ⟨events', x', hahead'⟩
              · refine .inl ⟨turns', s', hlevel, fun r' => ?_⟩
                rcases eq_or_ne r' r with rfl | hne
                · exact hidle
                · rw [tasks_of_step hstep fun event h => hne (Action.task.inj h).1.symm,
                    Bool.eq_false_iff]
                  exact fun hr => hne
                    (eq_of_engaged h₀ hone hu hahead.engaged (Phase.holds_of_engaged hr))
              · exact .inr ⟨turns, s, r, events', x', since, hahead'⟩
            · exact .inr ⟨turns, s, q, events, x, since, hahead.step_other h₀ hone hu hne hstep⟩
      | write name o => exact absurd rfl hwrites
      | delete name => exact absurd rfl hwrites
      | dataPlane d' sessions => exact absurd rfl (hguard.dataPlane d' sessions)
      | tick d' nanos =>
          obtain rfl := Option.some.inj hstep
          have hroutes : (u.updateDirector d' fun x => { x with now := x.now + nanos }).routes d
              = u.routes d := by
            rw [World.routes, World.routes, World.updateDirector]
            rcases eq_or_ne d d' with rfl | hne <;> simp [*]
          rcases ih hsteady.init with
            ⟨turns, s, hlevel, hidle⟩ | ⟨turns, s, q, events, x, since, hahead⟩
          · exact .inl ⟨turns, s, hlevel.keep hstep (fun _ h => h) rfl hroutes rfl, hidle⟩
          · exact .inr ⟨turns, s, q, events, x, since,
              hahead.keep hstep (fun _ h => h) rfl rfl hroutes (by simp) rfl⟩

/-! ### Serializability -/

/-- A patch of a query whose snapshot is undisturbed carries the stored version. -/
lemma Ahead.patch_accepted {w₀ w : World ext config} {acts : List Action} {turns : List Turn}
    {s : World ext config} {d : ℕ} {q : TaskId} {events : List Event} {u : World ext config}
    {since : List Action} (h : Ahead w₀ acts w turns s d q events u since) {served : Option String}
    (hsteady : Steady (acts ++ [.task q (.patch served)])) {a : Access}
    {target : Target ext config} (hphase : (w.tasks q).phase = .running a (.allocating target))
    {name version : String}
    (hr : allocateRequest target.choice.candidate.pod = .ok (name, version)) (fresh : String) :
    w.cluster.patchLabel name version target.key "Allocated" fresh ≠ some none := by
  obtain ⟨-, hcluster⟩ := h.cluster_eq hsteady
  have huncommitted := h.untouched (by rw [hphase]; rfl)
  have hstored := h.stored
  rw [hphase, ← huncommitted.1, hcluster] at hstored
  obtain ⟨name', hlive⟩ := hstored
  obtain ⟨hname, hversion⟩ := allocateRequest_eq_ok hr
  rw [Externals.metadata_podOf target.choice.candidate.decoded] at hname hversion
  obtain rfl : name' = name :=
    Option.some.inj ((w.cluster.key_live name' _ hlive).symm.trans hname)
  exact Cluster.patchLabel_ne_refused hlive hversion

/-- **Assignments within one director are serializable**: with linearizable lists,
and no other writer between the deciding snapshot of a query and its patch, no
patch is refused as stale; no query holds the lock while it waits for capacity;
and once nobody holds the lock, the Pods, the routes and the answers are those of
a serial run, in which the queries answered with a success take their turns in
the order in which they last took the lock. -/
theorem serializable {w₀ w : World ext config} {acts : List Action} {d : ℕ} (h₀ : w₀.Initial)
    (hone : ∀ q, (w₀.tasks q).director = d) (hqueries : Run.Along step Queries w₀ acts)
    (hsteady : Steady acts) (hrun : Run.run step w₀ acts = some w) :
    (∀ pre q served post u a target name version, acts = pre ++ .task q (.patch served) :: post →
        Run.run step w₀ pre = some u → (u.tasks q).phase = .running a (.allocating target) →
        allocateRequest target.choice.candidate.pod = .ok (name, version) →
        ∀ fresh, u.cluster.patchLabel name version target.key "Allocated" fresh ≠ some none)
      ∧ (∀ q a stage, (w.directors d).assignments = some q →
        (w.tasks q).phase = .running a stage → stage.awaitsCapacity = false)
      ∧ ((w.directors d).assignments = none → ∃ turns s, Level w₀ acts w turns s d) := by
  refine ⟨?_, ?_, ?_⟩
  · rintro pre q served post u a target name version rfl hu hphase hr fresh
    have hpre : Steady (pre ++ [.task q (.patch served)]) := by
      have hsteady' : Steady (pre ++ [.task q (.patch served)] ++ post) := by simpa using hsteady
      exact hsteady'.init
    have hengaged : (u.tasks q).phase.engaged = true := by
      have hsome := ((disciplined_of_run h₀ hu).fits q)
      rw [hphase] at hsome ⊢
      rw [Phase.engaged, hsome.isSome rfl]
      rfl
    rcases level_or_ahead_of_run h₀ hone hqueries.init hpre.init hu with
      ⟨turns, s, -, hidle⟩ | ⟨turns, s, q', events, x, since, hahead⟩
    · simp [hidle q] at hengaged
    · obtain rfl := eq_of_engaged h₀ hone hu hahead.engaged (Phase.holds_of_engaged hengaged)
      exact hahead.patch_accepted hpre hphase hr fresh
  · intro q a stage hheld hphase
    obtain ⟨-, hholds⟩ := ((disciplined_of_run h₀ hrun).held d q).mp hheld
    rw [hphase] at hholds
    cases stage <;> first | rfl | simp [Phase.holds, Stage.locked] at hholds
  · intro hfree
    rcases level_or_ahead_of_run h₀ hone hqueries hsteady hrun with
      ⟨turns, s, hlevel, -⟩ | ⟨turns, s, q, events, u, since, hahead⟩
    · exact ⟨turns, s, hlevel⟩
    · have hheld := ((disciplined_of_run h₀ hrun).held d q).mpr
        ⟨(recorded_of_run h₀ hone hrun).director q, Phase.holds_of_engaged hahead.engaged⟩
      simp [hfree] at hheld

/-! ### Two queries in turn -/

/-- Every query that patches has listed before, or is one of these. -/
def listsFirst : List TaskId → List Action → Bool
  | _, [] => true
  | listed, .task q (.list _) :: acts => listsFirst (q :: listed) acts
  | listed, .task q (.patch _) :: acts => listed.contains q && listsFirst listed acts
  | listed, _ :: acts => listsFirst listed acts

lemma exists_list_of_listsFirst {listed : List TaskId} {pre post : List Action} {q : TaskId}
    {served : Option String}
    (h : listsFirst listed (pre ++ .task q (.patch served) :: post) = true) :
    q ∈ listed ∨ ∃ reply, .task q (.list reply) ∈ pre := by
  induction pre generalizing listed with
  | nil =>
      rw [List.nil_append, listsFirst, Bool.and_eq_true, List.contains_iff_mem] at h
      exact .inl h.1
  | cons action pre ih =>
      rw [List.cons_append] at h
      unfold listsFirst at h
      split at h
      · rename_i heq
        cases heq
      · rename_i q' reply acts heq
        obtain ⟨rfl, rfl⟩ := List.cons.inj heq
        rcases ih h with hlisted | ⟨reply', hmem⟩
        · rcases List.mem_cons.mp hlisted with rfl | hlisted
          · exact .inr ⟨reply, List.mem_cons_self⟩
          · exact .inl hlisted
        · exact .inr ⟨reply', List.mem_cons_of_mem _ hmem⟩
      · rename_i q' served' acts heq
        obtain ⟨rfl, rfl⟩ := List.cons.inj heq
        refine (ih (Bool.and_eq_true_iff.mp h).2).imp id ?_
        exact fun ⟨reply, hmem⟩ => ⟨reply, List.mem_cons_of_mem _ hmem⟩
      · rename_i action' acts _ _ heq
        obtain ⟨rfl, rfl⟩ := List.cons.inj heq
        refine (ih h).imp id ?_
        exact fun ⟨reply, hmem⟩ => ⟨reply, List.mem_cons_of_mem _ hmem⟩

/-- After a write of others every query lists before it patches. -/
def refreshed : List Action → Bool
  | [] => true
  | action :: acts => (!action.writes || listsFirst [] acts) && refreshed acts

lemma listsFirst_of_refreshed {pre post : List Action} {action : Action}
    (h : refreshed (pre ++ action :: post) = true) (hwrites : action.writes = true) :
    listsFirst [] post = true := by
  induction pre with
  | nil =>
      rw [List.nil_append, refreshed, hwrites] at h
      exact (Bool.and_eq_true_iff.mp h).1
  | cons b pre ih => exact ih (Bool.and_eq_true_iff.mp h).2

lemma steady_of_refreshed {acts : List Action} (h : refreshed acts = true) : Steady acts := by
  rintro pre q reply mid served post rfl hmid action haction
  by_contra hwrites
  obtain ⟨before, after, rfl⟩ := List.append_of_mem haction
  have hsplit : pre ++ .task q (.list reply) :: (before ++ action :: after)
        ++ .task q (.patch served) :: post
      = (pre ++ .task q (.list reply) :: before)
        ++ action :: (after ++ .task q (.patch served) :: post) := by simp
  rw [hsplit] at h
  have hlists := listsFirst_of_refreshed h (by simpa using hwrites)
  rcases exists_list_of_listsFirst hlists with hnil | ⟨reply', hmem⟩
  · cases hnil
  · exact hmid reply' (by simp [hmem])

/-- Two queries contend for the lock: the first one waits for capacity and takes the lock again
after the second one, and so it does in the serial run. -/
theorem serializable_sample :
    ∃ (turns : List Turn) (s : World Sample.decoders Sample.demandSettings),
      turns.filterMap Turn.task = [1, 0]
        ∧ Run.run step Sample.pairWorld (schedule turns) = some s
        ∧ s.cluster = Sample.contended.cluster
        ∧ ∀ q ∈ [0, 1], (s.tasks q).phase = (Sample.contended.tasks q).phase := by
  have hlists : Run.Along step ListsStored Sample.pairWorld Sample.contention := by decide +kernel
  have hqueries : Run.Along step Queries Sample.pairWorld Sample.contention := by
    refine hlists.imp fun action haction w h => ⟨h.linearizable, ?_⟩
    rintro d sessions rfl
    simp [Sample.contention, Sample.untilFlight, Sample.untilPatch] at haction
  obtain ⟨turns, s, hlevel⟩ := (serializable (d := 0) Sample.initial_pairWorld (fun _ => rfl)
    hqueries (steady_of_refreshed (by decide +kernel)) Sample.run_contended).2.2 (by decide +kernel)
  refine ⟨turns, s, hlevel.order.trans (by decide +kernel), hlevel.run, hlevel.cluster, ?_⟩
  exact fun q hq => hlevel.answered q (by revert q; decide +kernel)

end UdpDirector
