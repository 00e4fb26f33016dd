import UdpDirector.Access.Flights
import UdpDirector.Access.Watch

/-!
No Pod write is missed by a query that waits.

* `Watched.SnapshotAt`: the resources of a list at a revision;
* `Watched.WaitsFrom`: a query waits on a decision it made at a revision, and its
  watch has passed over nothing since that concerns its selector;
* `Watched.Knows`: what a query knows of the log, by its phase; `knows_of_run`
  carries it through every run;
* `Watched.Relists`: the next decision of a query is made on a later list;
* `no_write_missed`: a write after the revision decided on is still to be
  delivered by the watch, and is in the list decided on next.
-/

namespace UdpDirector

variable {ext : Externals} {config : Config}

/-- The version of the snapshot a query waits on. -/
def Stage.version : Stage ext config → Option String
  | .signalling _ version | .awaitingDemand version | .watching version => some version
  | _ => none

namespace Watched

/-- The resources are those of a list at a revision. -/
def SnapshotAt (x : Watched ext config) (a : Access) (r : ℕ) (resources : List DynamicObject) :
    Prop :=
  r ≤ x.log.revision ∧ ∃ items : List DynamicObject,
    (∀ o, o ∈ items ↔ (∃ name, x.log.contents r name = some o) ∧ matchesLabels a.labels o = true)
      ∧ filterSnapshot config.defaultEndpoint.statusQuery
          config.defaultEndpoint.annotationSelector items = .ok resources

/-- The query waits on a decision without a free seat, made at a revision, and its
watch has passed over no write since that concerns it. -/
structure WaitsFrom (x : Watched ext config) (q : TaskId) (a : Access) (version : String) (r : ℕ) :
    Prop where
  named : version ≠ "" → x.named version = some r
  decided : ∃ resources t, t ≤ x.wall ∧ x.SnapshotAt a r resources
    ∧ decision ext config a resources ⟨t, 0⟩ = .ok .cold
  read : ∀ cursor ∈ x.cursors q, r ≤ cursor ∧ cursor ≤ x.log.revision
    ∧ ∀ k, r ≤ k → k < cursor → x.log.touches (matchesLabels a.labels) k = false

/-- What a query knows of the log. -/
def Knows (x : Watched ext config) (q : TaskId) : Phase ext config → Prop
  | .running a (.deciding resources version) =>
      ∃ r, x.SnapshotAt a r resources ∧ (version ≠ "" → x.named version = some r)
  | .running a (.signalling _ version) | .running a (.awaitingDemand version) =>
      ∃ r, x.WaitsFrom q a version r
  | .running a (.watching version) => version ≠ "" ∧ ∃ r, x.WaitsFrom q a version r
  | _ => True

/-- What stays true of the log and of the watch of a query. -/
structure Grows (x x' : Watched ext config) (q : TaskId) : Prop where
  log : ∃ more, x'.log = x.log.extend more
  named : ∀ version ≠ "", ∀ r, x.named version = some r → x'.named version = some r
  wall : x.wall ≤ x'.wall
  cursors : ∀ cursor ∈ x'.cursors q, cursor ∈ x.cursors q

variable {x x' : Watched ext config} {q : TaskId} {a : Access} {r : ℕ}

/-! ### The past of a log -/

lemma Grows.revision_le (h : x.Grows x' q) : x.log.revision ≤ x'.log.revision := by
  obtain ⟨more, hlog⟩ := h.log
  rw [hlog]
  exact x.log.revision_le_extend more

lemma SnapshotAt.grows {resources : List DynamicObject} (h : x.SnapshotAt a r resources)
    (hgrows : x.Grows x' q) : x'.SnapshotAt a r resources := by
  obtain ⟨hr, items, hitems, hfilter⟩ := h
  obtain ⟨more, hlog⟩ := hgrows.log
  refine ⟨hr.trans hgrows.revision_le, items, fun o => ?_, hfilter⟩
  rw [hitems o, hlog, WriteLog.contents_extend hr]

lemma WaitsFrom.grows {version : String} (h : x.WaitsFrom q a version r)
    (hgrows : x.Grows x' q) : x'.WaitsFrom q a version r where
  named hversion := hgrows.named version hversion r (h.named hversion)
  decided := by
    obtain ⟨resources, t, ht, hsnapshot, hcold⟩ := h.decided
    exact ⟨resources, t, ht.trans hgrows.wall, hsnapshot.grows hgrows, hcold⟩
  read cursor hcursor := by
    obtain ⟨hr, hle, hread⟩ := h.read cursor (hgrows.cursors cursor hcursor)
    obtain ⟨more, hlog⟩ := hgrows.log
    refine ⟨hr, hle.trans hgrows.revision_le, fun k hk hlt => ?_⟩
    rw [hlog, WriteLog.touches_extend (hlt.trans_le hle)]
    exact hread k hk hlt

lemma Knows.grows {p : Phase ext config} (h : x.Knows q p) (hgrows : x.Grows x' q) :
    x'.Knows q p := by
  unfold Knows at h ⊢
  split at h
  · obtain ⟨r, hsnapshot, hnamed⟩ := h
    exact ⟨r, hsnapshot.grows hgrows,
      fun hversion => hgrows.named _ hversion r (hnamed hversion)⟩
  · obtain ⟨r, hwaits⟩ := h
    exact ⟨r, hwaits.grows hgrows⟩
  · obtain ⟨r, hwaits⟩ := h
    exact ⟨r, hwaits.grows hgrows⟩
  · obtain ⟨hversion, r, hwaits⟩ := h
    exact ⟨hversion, r, hwaits.grows hgrows⟩
  · trivial

/-! ### What a step does to what queries know -/

/-- An action of the world that the API serves makes the log grow. -/
lemma grows_acted {action : Action} (hserves : x.Serves (.act action)) (world : World ext config)
    (q : TaskId) : x.Grows (x.acted action world) q where
  log := ⟨_, rfl⟩
  named _ hversion _ hr := namedAfter_of_named hserves hversion hr
  wall := le_rfl
  cursors _ hcursor := mem_of_cursorsAfter hcursor

lemma serves_watched (x : Watched ext config) (q : TaskId) (changed : Bool) :
    x.Serves (.act (.task q (.watched changed))) := trivial

/-- A list shows the current revision. -/
lemma knows_list {world : World ext config} {indices : List ℕ} {version : String}
    {resources : List DynamicObject} {stage : Stage ext config}
    (hserves : x.Serves (.act (.task q (.list (some (indices, version))))))
    (hlive : x.log.live = x.world.cluster.live)
    (hphase : (x.world.tasks q).phase = .running a stage)
    (hfilter : filterSnapshot config.defaultEndpoint.statusQuery
      config.defaultEndpoint.annotationSelector (x.world.cluster.pick indices) = .ok resources) :
    (x.acted (.task q (.list (some (indices, version)))) world).SnapshotAt a x.log.revision resources
      ∧ (x.acted (.task q (.list (some (indices, version)))) world).named version
        = some x.log.revision := by
  refine ⟨⟨x.log.revision_le_extend _, x.world.cluster.pick indices, fun o => ?_, hfilter⟩,
    Function.update_self ..⟩
  rw [hserves.1 a stage hphase o, log_acted, WriteLog.contents_extend le_rfl, ← hlive]
  rfl

/-- A move of a query keeps what it knows. -/
lemma Knows.moves {p p' : Phase ext config} {event : Event} {eff : Effect} (h : x'.Knows q p)
    (hmoves : Moves x.world q p event p' eff)
    (hlist : ∀ a stage indices version resources, event = .list (some (indices, version)) →
      p = .running a stage → filterSnapshot config.defaultEndpoint.statusQuery
        config.defaultEndpoint.annotationSelector (x.world.cluster.pick indices) = .ok resources →
      x'.Knows q (.running a (.deciding resources version)))
    (hdecide : ∀ now, event = .decide now → now = ⟨x'.wall, 0⟩)
    (hcursors : x'.cursors q = none) : x'.Knows q p' := by
  cases hmoves with
  | reject hp | refuse _ hp => cases hp <;> trivial
  | list hstage hr => exact hlist _ _ _ _ _ rfl rfl hr
  | wait hd hdc =>
      obtain ⟨r, hsnapshot, hnamed⟩ := h
      rw [hdecide _ rfl] at hd
      exact ⟨r, hnamed, ⟨_, _, le_rfl, hsnapshot, hd⟩,
        fun cursor hcursor => by simp [hcursors] at hcursor⟩
  | rejoin | signal => exact h
  | poll => exact h
  | accept hv => exact ⟨hv, h⟩
  | _ => trivial

/-- A watch that goes on has passed over nothing that concerns it. -/
lemma WaitsFrom.read_on {version : String} {event : WaitEvent} {cursor : ℕ}
    (h : x.WaitsFrom q a version r) (hversion : version ≠ "")
    (hwait : UdpDirector.wait x.log a.labels (x.named version) (x.cursors q) event
      = some (.reading cursor)) :
    (x.readTo q cursor).WaitsFrom q a version r where
  named := h.named
  decided := h.decided
  read c hc := by
    obtain rfl : cursor = c := Option.some.inj ((x.cursors_readTo_self q cursor).symm.trans hc)
    obtain ⟨-, -, -, ⟨hr, -⟩, -⟩ := h.decided
    cases hcursors : x.cursors q with
    | none =>
        rw [hcursors] at hwait
        cases event with
        | opened =>
            rw [wait, h.named hversion] at hwait
            obtain rfl : r = cursor := Wait.reading.inj (Option.some.inj hwait)
            exact ⟨le_rfl, hr, fun k hk hlt => absurd hlt (not_lt_of_ge hk)⟩
        | _ => simp [wait] at hwait
    | some old =>
        obtain ⟨hrold, hle, hread⟩ := h.read old hcursors
        rw [hcursors] at hwait
        cases event with
        | event e =>
            obtain ⟨htold, hwait⟩ := Option.ite_none_right_eq_some.mp hwait
            cases e with
            | bookmark revision =>
                obtain rfl : max old revision = cursor := Wait.reading.inj (Option.some.inj hwait)
                refine ⟨hrold.trans (le_max_left _ _), max_le hle htold.1, fun k hk hlt => ?_⟩
                rcases lt_max_iff.mp hlt with hlt | hlt
                · exact hread k hk hlt
                · by_cases hkold : k < old
                  · exact hread k hk hkold
                  · rw [← Bool.not_eq_true]
                    exact fun htouches => htold.2 ⟨k, hlt, not_lt.mp hkold, htouches⟩
            | _ => simp [WatchEvent.outcome] at hwait
        | _ => simp [wait] at hwait

/-- **Every step keeps what the queries know.** -/
lemma knows_of_step {act : WatchAction} (hstep : x.step act = some x') (hserves : x.Serves act)
    (hlive : x.log.live = x.world.cluster.live)
    (hknows : ∀ q, x.Knows q (x.world.tasks q).phase) (q : TaskId) :
    x'.Knows q (x'.world.tasks q).phase := by
  cases steps_of_step hstep with
  | @act action world hpermits hworld =>
      have hgrows := grows_acted hserves world q
      obtain ⟨event, p', eff, rfl, hmoves, rfl⟩ | ⟨-, htask⟩ := moves_or_others hworld q
      · have hphase :
            ((x.acted (.task q event) (x.world.move q p' eff)).world.tasks q).phase = p' :=
          x.world.phase_move q p' eff
        rw [hphase]
        refine ((hknows q).grows hgrows).moves hmoves ?_ ?_ (x.cursorsAfter_self q event)
        · rintro a stage indices version resources rfl hstage hfilter
          obtain ⟨hsnapshot, hnamed⟩ := knows_list hserves hlive hstage hfilter
          exact ⟨_, hsnapshot, fun _ => hnamed⟩
        · rintro now rfl
          exact of_decide_eq_true hpermits
      · rw [world_acted, htask]
        exact (hknows q).grows hgrows
  | @read q' event a version cursor hphase hwait =>
      by_cases heq : q = q'
      · subst heq
        have hold := hknows q
        rw [hphase] at hold
        obtain ⟨hversion, r, hwaits⟩ := hold
        rw [world_readTo, hphase]
        exact ⟨hversion, r, hwaits.read_on hversion hwait⟩
      · refine (hknows q).grows ⟨⟨[], by simp⟩, fun _ _ _ h => h, le_rfl, fun c hc => ?_⟩
        rwa [x.cursors_readTo_of_ne cursor heq] at hc
  | @returned q' event a version changed world hphase hwait hworld =>
      have hgrows := grows_acted (x.serves_watched q' changed) world q
      by_cases heq : q = q'
      · subst heq
        obtain ⟨p', eff, hmoves, rfl⟩ := exists_moves_of_step hworld
        have hphase' : ((x.acted (.task q (.watched changed)) (x.world.move q p' eff)).world.tasks
            q).phase = p' := x.world.phase_move q p' eff
        rw [hphase']
        exact ((hknows q).grows hgrows).moves hmoves (by simp) (by simp)
          (x.cursorsAfter_self q (.watched changed))
      · rw [world_acted, tasks_of_step hworld fun event' h => heq (Action.task.inj h).1.symm]
        exact (hknows q).grows hgrows
  | @wall nanos =>
      refine (hknows q).grows ⟨⟨[], by simp⟩, fun _ _ _ h => h, ?_, fun _ h => h⟩
      exact Int.le_add_of_nonneg_right (Int.natCast_nonneg nanos)

/-- **What a query knows of the log**, in every run. -/
theorem knows_of_run {x₀ : Watched ext config} {acts : List WatchAction} (h₀ : x₀.Initial)
    (hrun : Run.run step x₀ acts = some x) (hserved : Run.Along step Serves x₀ acts) (q : TaskId) :
    x.Knows q (x.world.tasks q).phase := by
  have hinv : x.log.live = x.world.cluster.live ∧ ∀ q, x.Knows q (x.world.tasks q).phase := by
    refine Run.run_invariant_along (I := fun y : Watched ext config =>
      y.log.live = y.world.cluster.live ∧ ∀ q, y.Knows q (y.world.tasks q).phase) ?_ ?_ hserved hrun
    · rintro u act v ⟨hlive, hknows⟩ hserves hstep
      exact ⟨live_of_step hstep hlive, knows_of_step hstep hserves hlive hknows⟩
    · refine ⟨live_of_run h₀ (Run.run_nil x₀), fun q => ?_⟩
      rw [h₀.world.entry q]
      trivial
  exact hinv.2 q

/-! ### The next decision -/

/-- The query has ended, or goes on and decides on a list that is no older than a
revision. -/
def Relists (x : Watched ext config) (q : TaskId) (a : Access) (r : ℕ) : Prop :=
  (x.world.tasks q).phase.ended = true
    ∨ ∃ stage, (x.world.tasks q).phase = .running a stage
      ∧ ∀ resources version, stage = .deciding resources version →
        ∃ r', r ≤ r' ∧ x.SnapshotAt a r' resources

/-- A query that stays where it is decides on the same list. -/
lemma Relists.grows (h : x.Relists q a r) (hgrows : x.Grows x' q)
    (hphase : (x'.world.tasks q).phase = (x.world.tasks q).phase) : x'.Relists q a r := by
  rw [Relists, hphase]
  rcases h with hended | ⟨stage, hstage, hdeciding⟩
  · exact .inl hended
  · refine .inr ⟨stage, hstage, fun resources version heq => ?_⟩
    obtain ⟨r', hr', hsnapshot⟩ := hdeciding resources version heq
    exact ⟨r', hr', hsnapshot.grows hgrows⟩

/-- A query that moves decides on a list it makes then. -/
lemma Relists.acted {event : Event} {world : World ext config} (h : x.Relists q a r)
    (hr : r ≤ x.log.revision) (hlive : x.log.live = x.world.cluster.live)
    (hserves : x.Serves (.act (.task q event)))
    (hstep : UdpDirector.step x.world (.task q event) = some world) :
    (x.acted (.task q event) world).Relists q a r := by
  rw [Relists, world_acted]
  rcases h with hended | ⟨stage, hstage, -⟩
  · rw [phase_of_ended hended ((Run.run_singleton _ _).trans hstep)]
    exact .inl hended
  · obtain ⟨p', eff, hmoves, rfl⟩ := exists_moves_of_step hstep
    rw [World.phase_move]
    rcases hmoves.ended_or_running hstage with hended | ⟨stage', rfl⟩
    · exact .inl hended
    · refine .inr ⟨stage', rfl, ?_⟩
      rintro resources version rfl
      rw [hstage] at hmoves
      cases hmoves with
      | list hlisting hfilter =>
          exact ⟨_, hr, (knows_list hserves hlive hstage hfilter).1⟩
      | refuse _ hp => cases hp

/-- **The next list of a query that waits is no older than the wait.** -/
theorem relists_of_run {acts : List WatchAction} (hrun : Run.run step x acts = some x')
    (hserved : Run.Along step Serves x acts) (hlive : x.log.live = x.world.cluster.live)
    (hrelists : x.Relists q a r) (hr : r ≤ x.log.revision) : x'.Relists q a r := by
  have hinv : x'.log.live = x'.world.cluster.live ∧ r ≤ x'.log.revision ∧ x'.Relists q a r := by
    refine Run.run_invariant_along (I := fun y : Watched ext config =>
      y.log.live = y.world.cluster.live ∧ r ≤ y.log.revision ∧ y.Relists q a r) ?_
      ⟨hlive, hr, hrelists⟩ hserved hrun
    rintro u act v ⟨hlive, hr, hrelists⟩ hserves hstep
    refine ⟨live_of_step hstep hlive, ?_⟩
    cases steps_of_step hstep with
    | @act action world hpermits hworld =>
        have hgrows := grows_acted hserves world q
        refine ⟨hr.trans hgrows.revision_le, ?_⟩
        by_cases hq : ∃ event, action = .task q event
        · obtain ⟨event, rfl⟩ := hq
          exact hrelists.acted hr hlive hserves hworld
        · refine hrelists.grows hgrows ?_
          rw [world_acted, tasks_of_step hworld fun event heq => hq ⟨event, heq⟩]
    | read | wall => exact ⟨hr, hrelists⟩
    | @returned q' event b version changed world hphase hwait hworld =>
        have hserves' := u.serves_watched q' changed
        have hgrows := grows_acted hserves' world q
        refine ⟨hr.trans hgrows.revision_le, ?_⟩
        by_cases heq : q = q'
        · subst heq
          exact hrelists.acted hr hlive hserves' hworld
        · refine hrelists.grows hgrows ?_
          rw [world_acted, tasks_of_step hworld fun event' h => heq (Action.task.inj h).1.symm]
  exact hinv.2.2

/-! ### No write is missed -/

/-- A write that concerns an open watch makes it return. -/
lemma told_of_unread {version : String} {cursor k : ℕ}
    (hphase : (x.world.tasks q).phase = .running a (.watching version))
    (hcursor : x.cursors q = some cursor) (hk : cursor ≤ k)
    (htouches : x.log.touches (matchesLabels a.labels) k = true) :
    ∃ x', x.step (.wait q (.event .change)) = some x'
      ∧ (x'.world.tasks q).phase = .running a .relocking := by
  have hunread : x.log.Unread (matchesLabels a.labels) cursor :=
    ⟨k, WriteLog.lt_revision_of_touches htouches, hk, htouches⟩
  have hadvance : advance x.world q (.watched true) = some (.running a .relocking, .none) := by
    simp [advance, hphase]
  refine ⟨x.acted (.task q (.watched true)) (x.world.move q (.running a .relocking) .none), ?_,
    by rw [world_acted, World.phase_move]⟩
  simp [step, watching, hphase, hcursor, wait, WatchEvent.Told, hunread, WatchEvent.outcome, waited,
    UdpDirector.step, hadvance]

/-- A watch opens at the revision of the version it is opened from. -/
lemma opens {version : String}
    (hphase : (x.world.tasks q).phase = .running a (.watching version))
    (hcursor : x.cursors q = none) (hnamed : x.named version = some r) :
    x.step (.wait q .opened) = some (x.readTo q r) := by
  simp [step, watching, hphase, hcursor, wait, hnamed, waited]

/-- A query that waits has decided on a snapshot, and its watch has passed over
nothing since. -/
lemma Knows.waitsFrom {stage : Stage ext config} {version : String}
    (h : x.Knows q (.running a stage)) (hversion : stage.version = some version) :
    ∃ r, x.WaitsFrom q a version r := by
  cases stage with
  | signalling _ v | awaitingDemand v =>
      obtain rfl : v = version := Option.some.inj hversion
      exact h
  | watching v =>
      obtain rfl : v = version := Option.some.inj hversion
      exact h.2
  | _ => simp [Stage.version] at hversion

/-- The watch of a query has not passed over what concerns it. -/
lemma WaitsFrom.getD_le {version : String} {k : ℕ} (h : x.WaitsFrom q a version r) (hk : r ≤ k)
    (htouches : x.log.touches (matchesLabels a.labels) k = true) : (x.cursors q).getD r ≤ k := by
  cases hcursor : x.cursors q with
  | none => exact hk
  | some cursor =>
      obtain ⟨-, -, hread⟩ := h.read cursor hcursor
      rw [Option.getD_some]
      by_contra hlt
      rw [hread k hk (not_le.mp hlt)] at htouches
      simp at htouches

/-- **No Pod write is missed by a query that waits.** -/
theorem no_write_missed {x₀ x : Watched ext config} {acts : List WatchAction} (h₀ : x₀.Initial)
    (hrun : Run.run step x₀ acts = some x) (hserved : Run.Along step Serves x₀ acts) {q : TaskId}
    {a : Access} {stage : Stage ext config} (hphase : (x.world.tasks q).phase = .running a stage)
    (hwaits : stage.waiting = true ∨ stage.version.isSome = true) :
    -- what was written since the decision is still to be delivered by the watch
    (∀ version, stage.version = some version → version ≠ "" → ∃ r, x.named version = some r
      ∧ (∃ resources t, t ≤ x.wall ∧ x.SnapshotAt a r resources
        ∧ decision ext config a resources ⟨t, 0⟩ = .ok .cold)
      ∧ ∀ k, r ≤ k → x.log.touches (matchesLabels a.labels) k = true →
        (x.cursors q).getD r ≤ k)
    -- the watch opens there, and returns when it is told
    ∧ (∀ version, stage = .watching version → x.cursors q = none → ∃ r, x.named version = some r
      ∧ x.step (.wait q .opened) = some (x.readTo q r))
    ∧ (∀ version cursor k, stage = .watching version → x.cursors q = some cursor → cursor ≤ k →
      x.log.touches (matchesLabels a.labels) k = true →
      ∃ x', x.step (.wait q (.event .change)) = some x'
        ∧ (x'.world.tasks q).phase = .running a .relocking)
    -- and the next decision is made on a list with all that is written now
    ∧ ∀ acts' y, Run.run step x acts' = some y → Run.Along step Serves x acts' →
      ∀ resources version, (y.world.tasks q).phase = .running a (.deciding resources version) →
        ∃ r, x.log.revision ≤ r ∧ y.SnapshotAt a r resources := by
  have hknows := knows_of_run h₀ hrun hserved q
  rw [hphase] at hknows
  refine ⟨?_, ?_, ?_, ?_⟩
  · intro version hstage hversion
    obtain ⟨r, hwaitsFrom⟩ := hknows.waitsFrom hstage
    exact ⟨r, hwaitsFrom.named hversion, hwaitsFrom.decided,
      fun k hk htouches => hwaitsFrom.getD_le hk htouches⟩
  · rintro version rfl hcursor
    obtain ⟨hversion, r, hwaitsFrom⟩ := hknows
    exact ⟨r, hwaitsFrom.named hversion, opens hphase hcursor (hwaitsFrom.named hversion)⟩
  · rintro version cursor k rfl hcursor hk htouches
    exact told_of_unread hphase hcursor hk htouches
  · intro acts' y hrun' hserved' resources version hdeciding
    have hrelists : x.Relists q a x.log.revision := by
      refine .inr ⟨stage, hphase, ?_⟩
      rintro resources version rfl
      rcases hwaits with h | h <;> simp [Stage.waiting, Stage.version] at h
    rcases relists_of_run hrun' hserved' (live_of_run h₀ hrun) hrelists le_rfl with
      hended | ⟨stage', hstage', hlist⟩
    · simp [hdeciding, Phase.ended] at hended
    · rw [hdeciding] at hstage'
      exact hlist resources version (Phase.running.inj hstage').2.symm

end Watched

/-! ### A Pod that gets ready during the callback -/

namespace Sample

/-- No Pod at all, with an empty log. -/
def emptyWatched : Watched decoders demandSettings where
  world := emptyWorld
  log := { origin := fun _ => none }
  wall := 0

lemma initial_emptyWatched : emptyWatched.Initial where
  world := initial_emptyWorld
  writes := rfl
  origin := rfl
  named := fun _ => rfl
  cursors := fun _ => rfl

/-- A query up to the lock. -/
def untilLock : List WatchAction := [.act (.task 0 .start), .act (.task 0 .acquire)]

/-- The list that finds no Pod. -/
def emptyList : WatchAction := .act (.task 0 (.list (some ([], "1"))))

/-- The query waits, a Pod gets ready during the POST, and the watch is opened. -/
def untilWatch : List WatchAction :=
  [.act (.task 0 (.decide ⟨0, 0⟩)), .act (.task 0 .signal), .act (.task 0 .poll),
    .act (.write "game-0" (pod "game-0" "uid-0" "10.0.0.1")),
    .act (.task 0 (.reply (some 202))), .act (.task 0 .accept), .wait 0 .opened]

/-- The query that watches after the Pod got ready. -/
def watching : Watched decoders demandSettings :=
  Run.reached Watched.step emptyWatched (untilLock ++ emptyList :: untilWatch) (by decide +kernel)

lemma run_watching :
    Run.run Watched.step emptyWatched (untilLock ++ emptyList :: untilWatch) = some watching :=
  Run.run_reached _ _ _

/-- The query that is about to list. -/
def locked : Watched decoders demandSettings :=
  Run.reached Watched.step emptyWatched untilLock (by decide +kernel)

/-- The first list is that of a cluster that is still empty. -/
lemma serves_emptyList : locked.Serves emptyList := by
  have hlive : locked.world.cluster.live = fun _ => none := rfl
  have hnamed : locked.named "1" = none := rfl
  refine ⟨fun a stage hphase o => ?_, fun _ r hr => ?_⟩
  · simp [Cluster.pick, hlive]
  · rw [hnamed] at hr
    simp at hr

lemma serves_watching :
    Run.Along Watched.step Watched.Serves emptyWatched (untilLock ++ emptyList :: untilWatch) := by
  refine (Run.along_append ..).mpr ⟨⟨trivial, fun _ _ => ⟨trivial, fun _ _ => trivial⟩⟩,
    fun t ht => ⟨?_, fun u _ => ?_⟩⟩
  · obtain rfl : locked = t := Option.some.inj ((Run.run_reached _ _ _).symm.trans ht)
    exact serves_emptyList
  · refine Run.along_of_forall (fun act hact y => ?_) u
    simp only [untilWatch, List.mem_cons, List.not_mem_nil, or_false] at hact
    rcases hact with rfl | rfl | rfl | rfl | rfl | rfl | rfl <;> trivial

end Sample

/-- A Pod that gets ready during the POST makes the watch return. -/
theorem no_write_missed_sample : ∃ a x',
    Sample.watching.step (.wait 0 (.event .change)) = some x'
      ∧ (x'.world.tasks 0).phase = .running a .relocking := by
  obtain ⟨⟨a, version⟩, hwatching⟩ :=
    Option.isSome_iff_exists.mp (by decide +kernel : (Sample.watching.watching 0).isSome = true)
  have htouches : (Sample.watching.watching 0).all
      (fun p => Sample.watching.log.touches (matchesLabels p.1.labels) 0) = true := by
    decide +kernel
  rw [hwatching, Option.all_some] at htouches
  obtain ⟨x', hstep, hphase⟩ := (Watched.no_write_missed Sample.initial_emptyWatched
    Sample.run_watching Sample.serves_watching (Watched.watching_eq_some hwatching)
    (.inl rfl)).2.2.1 version 0 0 rfl (by decide +kernel) le_rfl htouches
  exact ⟨a, x', hstep, hphase⟩

end UdpDirector
