import UdpDirector.Access.Route
import UdpDirector.Access.Serial
import UdpDirector.Proxy.Router

/-!
Whole directors: the query server and the data plane of each process on one session table,
interleaved in any order (`main.rs`).

* `Deployment`: the directors and requests of a world, and beside each director the rest of
  its data plane. The session table, the clock and the upserts of queries that are half done
  are kept once, with the directors; `plane` is the data plane that reads them there;
* `step`: a step of a request or of the cluster, or one of the data plane of a director;
* `queries`, `dataPlane`: a run of the whole is a run of the world, in which packets and
  cleanup are what other writers of the session tables do, and a run of the data plane of
  each director, in which the queries are those that install routes;
* `composes`: so every property of the runs of either holds in the whole.
-/

namespace UdpDirector

variable {ext : Externals} {config : Config}

/-- The route of a query between the two halves of its upsert. -/
def World.installing (w : World ext config) (q : TaskId) : Option Upsert :=
  match (w.tasks q).phase with
  | .running _ (.installing target) =>
      some { client := (w.tasks q).client, targetIp := target.ip, portMappings := target.routes }
  | _ => none

variable (ext config) in
/-- Directors with their data planes. -/
structure Deployment where
  world : World ext config
  /-- The data plane of a director, but for what it shares with the query server. -/
  own : ℕ → Proxy.Plane

namespace Deployment

/-- A step of the requests, the cluster and the clocks, or of the data plane of a director. -/
inductive Action where
  | serve (a : UdpDirector.Action)
  | forward (d : ℕ) (a : Proxy.Action)

/-- The data plane of a director, on the session table and the clock of the director. -/
def plane (x : Deployment ext config) (d : ℕ) : Proxy.Plane :=
  { x.own d with
    table := (x.world.directors d).sessions
    now := (x.world.directors d).now
    queries := fun q =>
      if (x.world.tasks q).director = d then x.world.installing q else none }

/-- A step that is not made by the data plane. -/
def isServed : UdpDirector.Action → Bool
  | .dataPlane .. => false
  | _ => true

/-- A step that is made by the tasks of the data plane, not by a query or the clock. -/
def isForwarded : Proxy.Action → Bool
  | .connection .. | .cleanup _ | .invalidate => true
  | .queryClear .. | .queryInstall _ | .tick _ => false

/-- One step. -/
def step (x : Deployment ext config) : Action → Option (Deployment ext config)
  | .serve a =>
      if isServed a then
        (UdpDirector.step x.world a).map fun world => { x with world }
      else
        none
  | .forward d a =>
      if isForwarded a then
        (Proxy.step config (x.plane d) a).map fun p =>
          { world := x.world.updateDirector d fun director => { director with sessions := p.table }
            own := Function.update x.own d p }
      else
        none

/-- The processes have just started. -/
structure Initial (x : Deployment ext config) : Prop where
  world : x.world.Initial
  plane : ∀ d, (x.plane d).Initial
  cache : ∀ d, (x.plane d).cache = none

/-! ### The queries of a deployment -/

/-- The step of the world. -/
def worldLabels (x : Deployment ext config) : Action → List UdpDirector.Action
  | .serve a => [a]
  | .forward d a =>
      match Proxy.step config (x.plane d) a with
      | some p => [.dataPlane d p.table]
      | none => []

variable (ext config) in
/-- The queries see the data planes as other writers of the session tables. -/
def queries : Run.Refinement
    (step : Deployment ext config → Action → Option (Deployment ext config))
    (UdpDirector.step : World ext config → UdpDirector.Action → Option (World ext config)) where
  inv _ := True
  abs x := x.world
  label := worldLabels
  inv_step _ _ := trivial
  abs_step {x a y} _ h := by
    cases a with
    | serve a =>
        obtain ⟨-, h⟩ := Option.ite_none_right_eq_some.mp h
        obtain ⟨world, hworld, rfl⟩ := Option.map_eq_some_iff.mp h
        exact (Run.run_singleton _ _).trans hworld
    | forward d a =>
        obtain ⟨-, h⟩ := Option.ite_none_right_eq_some.mp h
        obtain ⟨p, hp, rfl⟩ := Option.map_eq_some_iff.mp h
        rw [worldLabels, hp]
        rfl

/-! ### The data planes of a deployment -/

/-- A step of a request as a half of an upsert. -/
def halves (client : SocketAddr) (q : TaskId) : Phase ext config → Event → List Proxy.Action
  | .running _ (.clearing target), .clear =>
      [.queryClear q { client, targetIp := target.ip, portMappings := target.routes }]
  | .running _ (.installing _), .install => [.queryInstall q]
  | _, _ => []

/-- The step of the data plane of a director. -/
def planeLabels (d : ℕ) (x : Deployment ext config) : Action → List Proxy.Action
  | .serve (.task q event) =>
      let task := x.world.tasks q
      if task.director = d then halves task.client q task.phase event else []
  | .serve (.tick d' nanos) => if d' = d then [.tick nanos] else []
  | .serve _ => []
  | .forward d' a => if d' = d then [a] else []

section

variable {x y : Deployment ext config} {d : ℕ} {q : TaskId} {event : Event}
  {phase : Phase ext config} {eff : Effect}

/-- A plane is what it shares, and the rest. -/
lemma plane_congr (hown : y.own d = x.own d)
    (hsessions : (y.world.directors d).sessions = (x.world.directors d).sessions)
    (hnow : (y.world.directors d).now = (x.world.directors d).now)
    (hqueries : ∀ q, (y.plane d).queries q = (x.plane d).queries q) : y.plane d = x.plane d := by
  have hq : (y.plane d).queries = (x.plane d).queries := funext hqueries
  rw [plane, plane] at hq ⊢
  rw [hown, hsessions, hnow]
  congr 1

/-- A step of the tasks of the data plane leaves the clock and the queries alone. -/
lemma frame_of_isForwarded {p p' : Proxy.Plane} {a : Proxy.Action} (ha : isForwarded a = true)
    (h : Proxy.step config p a = some p') : p'.now = p.now ∧ p'.queries = p.queries := by
  cases Proxy.steps_of_step h with
  | @connection i event phase effect hmoves => cases effect <;> exact ⟨rfl, rfl⟩
  | cleanup hsweeps =>
      generalize p.sweep = sweep at hsweeps
      cases hsweeps <;> exact ⟨rfl, rfl⟩
  | invalidate => exact ⟨rfl, rfl⟩
  | _ => cases ha

lemma installing_of_phase {w : World ext config} {a : Access} {target : Target ext config}
    (h : (w.tasks q).phase = .running a (.installing target)) :
    w.installing q = some
      { client := (w.tasks q).client, targetIp := target.ip, portMappings := target.routes } := by
  rw [World.installing, h]

lemma installing_of_refused {w : World ext config} (h : (w.tasks q).phase = phase)
    (hrefused : phase.Refused) : w.installing q = none := by
  rw [World.installing, h]
  cases hrefused <;> rfl

lemma installing_of_uncommitted {w : World ext config} {a : Access} {stage : Stage ext config}
    (h : (w.tasks q).phase = .running a stage) (hstage : stage.uncommitted = true) :
    w.installing q = none := by
  rw [World.installing, h]
  cases stage with
  | installing target => cases hstage
  | _ => rfl

lemma halves_of_uncommitted {client : SocketAddr} {a : Access} {stage : Stage ext config}
    (hstage : stage.uncommitted = true) : halves client q (.running a stage) event = [] := by
  cases stage with
  | clearing target | installing target => cases hstage
  | _ => rfl

/-- A step of a request that neither begins nor ends an upsert leaves every plane alone. -/
lemma plane_move (heff : ∀ s, eff.sessionsAfter s = s) (hold : x.world.installing q = none)
    (hnew : (x.world.move q phase eff).installing q = none) (d : ℕ) :
    plane { x with world := x.world.move q phase eff } d = x.plane d := by
  have hsessions : KeepsRoutes (x.world, .task q .start, x.world.move q phase eff) :=
    keepsRoutes_move heff
  refine plane_congr rfl (hsessions d) (x.world.now_move q phase eff d) fun q' => ?_
  simp only [plane]
  rw [(x.world.task_move q phase eff q').1]
  rcases eq_or_ne q' q with rfl | hne
  · rw [hold, hnew]
  · rw [World.installing, World.installing, x.world.tasks_move_of_ne q phase eff hne]

/-- A step of a request leaves the planes of other directors alone. -/
lemma plane_move_of_ne (hd : d ≠ (x.world.tasks q).director) :
    plane { x with world := x.world.move q phase eff } d = x.plane d := by
  have hdirector := x.world.directors_move_of_ne q phase eff hd
  refine plane_congr rfl (congrArg Director.sessions hdirector) (congrArg Director.now hdirector)
    fun q' => ?_
  simp only [plane]
  rw [(x.world.task_move q phase eff q').1]
  rcases eq_or_ne q' q with rfl | hne
  · rw [if_neg hd.symm, if_neg hd.symm]
  · rw [World.installing, World.installing, x.world.tasks_move_of_ne q phase eff hne]

/-- A step of a request that begins or ends an upsert is one of the plane of its director. -/
lemma plane_move_sessions {sessions : SessionState} (hd : (x.world.tasks q).director = d) :
    plane { x with world := x.world.move q phase (.sessions sessions) } d
      = { x.plane d with
          table := sessions
          queries := Function.update (x.plane d).queries q
            ((x.world.move q phase (.sessions sessions)).installing q) } := by
  subst hd
  have hqueries : (plane { x with world := x.world.move q phase (.sessions sessions) }
      (x.world.tasks q).director).queries = Function.update
        (x.plane (x.world.tasks q).director).queries q
          ((x.world.move q phase (.sessions sessions)).installing q) := by
    funext q'
    simp only [plane]
    rw [(x.world.task_move q phase (.sessions sessions) q').1]
    rcases eq_or_ne q' q with rfl | hne
    · rw [Function.update_self, if_pos rfl]
    · rw [Function.update_of_ne hne, World.installing, World.installing,
        x.world.tasks_move_of_ne q phase _ hne]
  rw [plane] at hqueries ⊢
  dsimp only at hqueries ⊢
  rw [hqueries, x.world.sessions_move, x.world.now_move]
  rfl

/-- **A step of a request is one of the plane of its director**, or none. -/
lemma run_planeLabels_task (d : ℕ) (h : Moves x.world q (x.world.tasks q).phase event phase eff) :
    Run.run (Proxy.step config) (x.plane d) (planeLabels d x (.serve (.task q event)))
      = some (plane { x with world := x.world.move q phase eff } d) := by
  rw [planeLabels]
  rcases eq_or_ne (x.world.tasks q).director d with hd | hd
  swap
  · rw [if_neg hd, plane_move_of_ne hd.symm]
    rfl
  rw [if_pos hd]
  generalize hphase : (x.world.tasks q).phase = old at h
  have hpending : (x.plane d).queries q = x.world.installing q := if_pos hd
  have hnew := x.world.phase_move q phase eff
  cases h with
  | @clear a target =>
      have hidle : (x.plane d).queries q = none := by
        rw [hpending, World.installing, hphase]
      rw [plane_move_sessions hd, installing_of_phase hnew, (x.world.task_move q _ _ q).2.2]
      subst hd
      exact (Run.run_singleton _ _).trans (by simp only [Proxy.step, hidle]; rfl)
  | @install a target =>
      have hu := hpending.trans (installing_of_phase hphase)
      rw [plane_move_sessions hd, World.installing, hnew]
      subst hd
      exact (Run.run_singleton _ _).trans (by simp only [Proxy.step, hu]; rfl)
  | reject hrefused =>
      refine congrArg some
        (plane_move (fun _ => rfl) ?_ (installing_of_refused hnew hrefused) d).symm
      rw [World.installing, hphase]
  | refuse hstage hrefused =>
      rw [halves_of_uncommitted hstage]
      refine congrArg some
        (plane_move (fun _ => rfl) ?_ (installing_of_refused hnew hrefused) d).symm
      exact installing_of_uncommitted hphase hstage
  | @list a stage indices version resources hstage hr =>
      have hun : stage.uncommitted = true := by rcases hstage with rfl | rfl <;> rfl
      rw [halves_of_uncommitted hun]
      refine congrArg some (plane_move ?_ (installing_of_uncommitted hphase hun) ?_ d).symm
      · exact fun _ => rfl
      · rw [World.installing, hnew]
  | _ =>
      refine congrArg some (plane_move ?_ ?_ ?_ d).symm
      · exact fun _ => rfl
      · rw [World.installing, hphase]
      · rw [World.installing, hnew]

/-- A step of a data plane leaves those of other directors alone, and is kept. -/
lemma plane_forward {a : Proxy.Action} {p : Proxy.Plane} (d' : ℕ) (ha : isForwarded a = true)
    (hp : Proxy.step config (x.plane d') a = some p) (d : ℕ) :
    plane
        { world := x.world.updateDirector d' fun director => { director with sessions := p.table }
          own := Function.update x.own d' p } d
      = if d' = d then p else x.plane d := by
  obtain ⟨hnow, hqueries⟩ := frame_of_isForwarded ha hp
  rcases eq_or_ne d' d with rfl | hne
  · have hshared : plane
          { world := x.world.updateDirector d' fun director => { director with sessions := p.table }
            own := Function.update x.own d' p } d'
        = { p with now := (x.plane d').now, queries := (x.plane d').queries } := by
      simp only [plane, World.updateDirector, Function.update_self]
      rfl
    rw [if_pos rfl, hshared, ← hnow, ← hqueries]
  · rw [if_neg hne]
    refine plane_congr ?_ ?_ ?_ ?_
    · exact Function.update_of_ne hne.symm _ _
    · simp [World.updateDirector, hne.symm]
    · simp [World.updateDirector, hne.symm]
    · exact fun _ => rfl

end

variable (ext config) in
/-- The data plane of a director sees the queries as those that install routes. -/
def dataPlane (d : ℕ) : Run.Refinement
    (step : Deployment ext config → Action → Option (Deployment ext config))
    (Proxy.step config) where
  inv _ := True
  abs x := x.plane d
  label := planeLabels d
  inv_step _ _ := trivial
  abs_step {x action y} _ h := by
    cases action with
    | serve a =>
        obtain ⟨hserved, h⟩ := Option.ite_none_right_eq_some.mp h
        obtain ⟨world, hworld, rfl⟩ := Option.map_eq_some_iff.mp h
        cases a with
        | task q event =>
            obtain ⟨phase, eff, hmoves, rfl⟩ := exists_moves_of_step hworld
            exact run_planeLabels_task d hmoves
        | write name o =>
            obtain ⟨hkey, hfresh, rfl⟩ := step_write hworld
            rfl
        | delete name =>
            obtain rfl := Option.some.inj hworld
            rfl
        | tick d' nanos =>
            obtain rfl := Option.some.inj hworld
            rcases eq_or_ne d' d with rfl | hne
            · rw [planeLabels, if_pos rfl]
              refine (Run.run_singleton _ _).trans (congrArg some ?_)
              simp only [plane, World.updateDirector, Function.update_self]
              rfl
            · rw [planeLabels, if_neg hne]
              refine congrArg some (Eq.symm ?_)
              refine plane_congr rfl ?_ ?_ fun _ => rfl
              · simp [World.updateDirector, hne.symm]
              · simp [World.updateDirector, hne.symm]
        | dataPlane d' sessions => cases hserved
    | forward d' a =>
        obtain ⟨hforwarded, h⟩ := Option.ite_none_right_eq_some.mp h
        obtain ⟨p, hp, rfl⟩ := Option.map_eq_some_iff.mp h
        rw [planeLabels, plane_forward d' hforwarded hp]
        rcases eq_or_ne d' d with rfl | hne
        · rw [if_pos rfl, if_pos rfl]
          exact (Run.run_singleton _ _).trans hp
        · rw [if_neg hne, if_neg hne]
          rfl

/-! ### Runs of a deployment -/

/-- The steps of the requests, the cluster and the clocks. -/
def Action.served : Action → Option UdpDirector.Action
  | .serve a => some a
  | .forward .. => none

/-- The steps of the tasks of the data plane of a director. -/
def Action.forwarded (d : ℕ) : Action → Option Proxy.Action
  | .serve _ => none
  | .forward d' a => if d' = d then some a else none

section

variable {x y x₀ : Deployment ext config} {action : Action} {acts : List Action}

lemma filter_worldLabels (h : x.step action = some y) :
    (worldLabels x action).filter isServed = action.served.toList := by
  cases action with
  | serve a =>
      obtain ⟨hserved, -⟩ := Option.ite_none_right_eq_some.mp h
      simp [worldLabels, Action.served, hserved]
  | forward d a =>
      rw [worldLabels]
      split <;> rfl

lemma filter_planeLabels (d : ℕ) (h : x.step action = some y) :
    (planeLabels d x action).filter isForwarded = (action.forwarded d).toList := by
  cases action with
  | serve a =>
      cases a with
      | task q event =>
          rw [planeLabels]
          split
          · unfold halves
            split <;> rfl
          · rfl
      | tick d' nanos =>
          rw [planeLabels]
          split <;> rfl
      | _ => rfl
  | forward d' a =>
      obtain ⟨hforwarded, -⟩ := Option.ite_none_right_eq_some.mp h
      rw [planeLabels, Action.forwarded]
      split
      · simp [hforwarded]
      · rfl

/-- **The parts of a deployment are the query servers and the data planes**: any interleaving
of the whole is a run of the world, with its requests in the same order and other writers for
the data planes, and beside it a run of the data plane of each director, with its packets,
connections and cleanup in the same order and upserts of queries between them. -/
theorem composes (hrun : Run.run step x₀ acts = some x) :
    (Run.run UdpDirector.step x₀.world ((queries ext config).labels x₀ acts) = some x.world
        ∧ ((queries ext config).labels x₀ acts).filter isServed = acts.filterMap Action.served)
      ∧ ∀ d, Run.run (Proxy.step config) (x₀.plane d) ((dataPlane ext config d).labels x₀ acts)
            = some (x.plane d)
          ∧ ((dataPlane ext config d).labels x₀ acts).filter isForwarded
              = acts.filterMap (Action.forwarded d) :=
  ⟨⟨(queries ext config).run_labels trivial hrun,
      (queries ext config).filter_labels filter_worldLabels hrun⟩,
    fun d => ⟨(dataPlane ext config d).run_labels trivial hrun,
      (dataPlane ext config d).filter_labels (filter_planeLabels d) hrun⟩⟩

end

namespace Sample

/-- One director with a query of a client, and packets of the same host. -/
def deployment : Deployment UdpDirector.Sample.decoders UdpDirector.Sample.settings where
  world := UdpDirector.Sample.world "10.0.0.1"
  own := fun _ => Proxy.Sample.plane

lemma initial_deployment : deployment.Initial where
  world := UdpDirector.Sample.initial_world "10.0.0.1"
  plane := fun _ =>
    { table := rfl
      readers := rfl
      sweep := rfl
      connections := fun _ => rfl
      queries := fun _ => ite_self _ }
  cache := fun _ => rfl

/-- The query up to the end of its upsert. -/
def upToInstall : List Action :=
  (UdpDirector.Sample.untilPatch 0
    ++ [UdpDirector.Action.task 0 (.patch (some "2")), .task 0 .clear]).map .serve

/-- A packet is handed a socket. -/
def handedOver : List Action :=
  [.forward 0 (.connection 0 .arrive), .forward 0 (.connection 0 (.forward true))]

/-- The query is answered, and a packet of its client is handed a socket. -/
def answeredAndCarried : List Action :=
  upToInstall ++ [.serve (.task 0 .install)] ++ handedOver

lemma isSome_carried : (Run.run step deployment answeredAndCarried).isSome = true := by
  decide +kernel

end Sample

/-- The run of the data plane has the two steps of the packet, after the upsert. -/
theorem composes_sample :
    ((dataPlane _ _ 0).labels Sample.deployment Sample.answeredAndCarried).filter isForwarded
      = [.connection 0 .arrive, .connection 0 (.forward true)] :=
  ((composes (Run.run_reached _ _ Sample.isSome_carried)).2 0).2

end Deployment

end UdpDirector
