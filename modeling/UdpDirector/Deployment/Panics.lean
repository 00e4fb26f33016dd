import UdpDirector.Access.FreeSeat
import UdpDirector.Access.Panics
import UdpDirector.Deployment
import UdpDirector.Proxy.Panics

/-!
Directors do not panic.

* `never_panics`: in a run in which the clocks are in range, no request and no task of any
  director panics, whatever the cluster holds and whatever clients send.
-/

namespace UdpDirector

variable {ext : Externals} {config : Config}

namespace Deployment

variable {x₀ x : Deployment ext config} {acts : List Action}

/-- The decisions of the queries of a deployment are steps of its own. -/
lemma mem_of_decide {q : TaskId} {now : OffsetDateTime} (hrun : Run.run step x₀ acts = some x)
    (hmem : .task q (.decide now) ∈ (queries ext config).labels x₀ acts) :
    .serve (.task q (.decide now)) ∈ acts := by
  obtain ⟨pre, action, post, y, z, rfl, -, -, hlabel, -⟩ :=
    (queries ext config).exists_of_mem_labels hrun hmem
  replace hlabel : .task q (.decide now) ∈ worldLabels y action := hlabel
  rw [worldLabels.eq_def] at hlabel
  split at hlabel
  · obtain rfl := List.mem_singleton.mp hlabel
    simp
  · split at hlabel <;> simp at hlabel

/-- **Nothing panics.** If the configured paths are readable and the clocks are in range, the wall
clock a day and a reconnect window before the last date and the monotonic one far enough from
its end for a boot timeout, then in every run, whatever clients send, whatever the API replies
and whatever the cluster holds, no request and no task of any director panics, and no mutex is
poisoned for those to come. -/
theorem never_panics (hpaths : config.Readable) (hoffsets : ext.ReadsOffsets) (h₀ : x₀.Initial)
    (hrun : Run.run step x₀ acts = some x)
    (hearly : ∀ q now, .serve (.task q (.decide now)) ∈ acts → now.Early)
    (hlasts : x.world.Lasts) :
    (∀ q, (x.world.tasks q).phase ≠ .panicked)
      ∧ (∀ d, (x.world.directors d).demand.poisoned = false)
      ∧ ∀ d i, ((x.plane d).connections i).phase ≠ .panicked := by
  have hworld := (queries ext config).run_labels trivial hrun
  have hquiet := quiet_of_run hpaths hoffsets h₀.world hworld
    (fun q now hmem => hearly q now (mem_of_decide hrun hmem)) hlasts
  exact ⟨hquiet.unpanicked, hquiet.healthy, fun d i => Proxy.unpanicked_of_run hpaths (h₀.plane d)
    ((dataPlane ext config d).run_labels trivial hrun) i⟩

/-- A clock is advanced by its own steps only. -/
lemma now_of_step {a : Action} {y : Deployment ext config} (h : step x a = some y)
    (ha : ∀ d nanos, a ≠ .serve (.tick d nanos)) (d : ℕ) :
    (y.world.directors d).now = (x.world.directors d).now := by
  have hupdate : ∀ (w : World ext config) d' (sessions : SessionState),
      ((w.updateDirector d' fun director => { director with sessions }).directors d).now
        = (w.directors d).now := by
    intro w d' sessions
    rcases eq_or_ne d d' with rfl | hne
    · simp [World.updateDirector]
    · simp [World.updateDirector, hne]
  cases a with
  | forward d' a =>
      obtain ⟨-, h⟩ := Option.ite_none_right_eq_some.mp h
      obtain ⟨p, -, rfl⟩ := Option.map_eq_some_iff.mp h
      exact hupdate _ _ _
  | serve a =>
      obtain ⟨-, h⟩ := Option.ite_none_right_eq_some.mp h
      obtain ⟨world, hworld, rfl⟩ := Option.map_eq_some_iff.mp h
      cases a with
      | task q event =>
          obtain ⟨p, eff, -, rfl⟩ := exists_moves_of_step hworld
          exact x.world.now_move q p eff d
      | write name o =>
          obtain ⟨-, -, rfl⟩ := step_write hworld
          rfl
      | delete name =>
          obtain rfl := Option.some.inj hworld
          rfl
      | tick d' nanos => exact absurd rfl (ha d' nanos)
      | dataPlane d' sessions =>
          obtain rfl := Option.some.inj hworld
          exact hupdate _ _ _

namespace Sample

/-- One director with a Pod whose one character is disconnected, and packets of the host of a
client. -/
def fullDeployment : Deployment UdpDirector.Sample.windowDecoders UdpDirector.Sample.fullSettings
    where
  world := UdpDirector.Sample.fullWatched.world
  own := fun _ => Proxy.Sample.plane

lemma initial_fullDeployment : fullDeployment.Initial where
  world := UdpDirector.Sample.initial_fullWatched.world
  plane := fun _ =>
    { table := rfl
      readers := rfl
      sweep := rfl
      connections := fun _ => rfl
      queries := fun _ => ite_self _ }
  cache := fun _ => rfl

/-- A query finds the window open and asks for capacity, finds it closed and is answered; a packet
of its client is handed a socket. -/
def freedAndCarried : List Action :=
  ([.start, .acquire, .list (some ([0], "2")), .decide ⟨60 * 10 ^ 9, 0⟩, .signal, .poll,
      .reply (some 202), .accept, .watched true, .acquire, .list (some ([0], "2")),
      .decide ⟨120 * 10 ^ 9, 0⟩, .extract none, .patch (some "3"), .clear, .install].map
    fun event => .serve (.task 0 event)) ++ handedOver

lemma isSome_freed : (Run.run step fullDeployment freedAndCarried).isSome = true := by
  decide +kernel

/-- The packet has its socket. -/
def freed : Deployment UdpDirector.Sample.windowDecoders UdpDirector.Sample.fullSettings :=
  Run.reached step fullDeployment freedAndCarried isSome_freed

lemma run_freed : Run.run step fullDeployment freedAndCarried = some freed := Run.run_reached _ _ _

/-- No clock has advanced, and the boot timeout of five minutes is in range. -/
lemma lasts_freed : freed.world.Lasts := by
  have hnow : ∀ d, (freed.world.directors d).now = 0 := by
    refine Run.run_invariant_along (I := fun x => ∀ d, (x.world.directors d).now = 0)
      (fun x a y hx ha hstep d => (now_of_step hstep ha d).trans (hx d)) (fun _ => rfl) ?_ run_freed
    refine Run.along_of_forall (fun a ha _ => ?_) _
    rintro d nanos rfl
    simp [freedAndCarried, handedOver] at ha
  intro d demandConfig hdemand
  obtain rfl := Option.some.inj hdemand
  rw [hnow d]
  decide

/-- The one time that is read has no offset. -/
lemma readsOffsets_windowDecoders : UdpDirector.Sample.windowDecoders.ReadsOffsets := by
  intro raw at_ h
  obtain ⟨-, heq⟩ := Option.ite_none_right_eq_some.mp h
  rw [← Option.some.inj heq]
  decide

lemma readable_fullSettings : UdpDirector.Sample.fullSettings.Readable :=
  { UdpDirector.Sample.readable_settings with }

lemma early_of_mem_freedAndCarried {q : TaskId} {now : OffsetDateTime}
    (hmem : .serve (.task q (.decide now)) ∈ freedAndCarried) : now.Early := by
  have hnow : now = ⟨60 * 10 ^ 9, 0⟩ ∨ now = ⟨120 * 10 ^ 9, 0⟩ := by
    simp only [freedAndCarried, handedOver, List.map_cons, List.map_nil, List.cons_append,
      List.nil_append, List.mem_cons, List.not_mem_nil, Action.serve.injEq,
      UdpDirector.Action.task.injEq, Event.decide.injEq, reduceCtorEq, and_false, false_or,
      or_false] at hmem
    exact hmem.imp And.right And.right
  rw [OffsetDateTime.Early]
  rcases hnow with rfl | rfl <;> decide

end Sample

/-- A query that is answered and a packet of its client do not panic. -/
theorem never_panics_sample :
    ((Sample.freed.world.tasks 0).phase ≠ .panicked
        ∧ (Sample.freed.world.directors 0).demand.poisoned = false)
      ∧ ((Sample.freed.plane 0).connections 0).phase ≠ .panicked := by
  obtain ⟨hqueries, hmutex, htasks⟩ := never_panics Sample.readable_fullSettings
    Sample.readsOffsets_windowDecoders Sample.initial_fullDeployment Sample.run_freed
    (fun _ _ hmem => Sample.early_of_mem_freedAndCarried hmem) Sample.lasts_freed
  exact ⟨⟨hqueries 0, hmutex 0⟩, htasks 0 0⟩

end Deployment

end UdpDirector
