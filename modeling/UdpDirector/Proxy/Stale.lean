import UdpDirector.Proxy.Monitor

/-!
Invalidations of the cached endpoint and older lists.

* `Overtakes`: an invalidation comes while a task is about to store an endpoint from an
  older list;
* `Since`: since an invalidation, what is cached and what is about to be stored is from
  lists no older than that of its check; `Since.step` keeps it;
* `invalidation_upheld_iff`: an invalidation is upheld in every run that follows it
  exactly where it overtakes no task;
* `invalidation_undone`: a task that has listed before a change stores its endpoint after
  the invalidation.
-/

namespace UdpDirector

namespace Proxy

namespace Monitored

variable {config : Config} {s s' s₀ r r' : Monitored} {act : MonitoredAction} {version : ℕ}

/-! ### Versions -/

/-- The monitor invalidates the cache because of a list that it has taken. -/
def Dated (s : Monitored) : Prop :=
  ∀ current version, s.monitor = .invalidating current version → version ≤ s.cluster.version

lemma Dated.step (h : Dated s) (hstep : Monitored.step config s act = some s') : Dated s' := by
  intro current version hmonitor
  cases steps_of_step hstep with
  | change => exact Nat.le_succ_of_le (h current version hmonitor)
  | differ =>
      obtain ⟨-, rfl⟩ := MonitorPhase.invalidating.inj hmonitor
      exact le_rfl
  | panic | invalidate => simp at hmonitor
  | _ => exact h current version hmonitor

lemma dated_of_run {acts : List MonitoredAction} (h₀ : s₀.Initial)
    (hrun : Run.run (Monitored.step config) s₀ acts = some s) : Dated s := by
  refine Run.run_invariant (fun _ _ _ h hstep => h.step hstep) ?_ hrun
  intro current version hmonitor
  rw [h₀.monitor] at hmonitor
  simp at hmonitor

/-! ### Stores after an invalidation -/

/-- A task is about to store an endpoint from a list older than a version. -/
def Overtakes (version : ℕ) (s : Monitored) : Prop :=
  ∃ i endpoint, (s.plane.connections i).phase = .storing endpoint
    ∧ (s.listed i).version < version

/-- What is cached and what is about to be stored is from lists no older than a
version. -/
structure Since (version : ℕ) (s : Monitored) : Prop where
  cluster : version ≤ s.cluster.version
  storing : ∀ i endpoint, (s.plane.connections i).phase = .storing endpoint →
    version ≤ (s.listed i).version
  cached : ∀ endpoint, s.plane.cache = some endpoint → version ≤ s.stored.version

/-- The version of the cluster does not go back. -/
lemma version_le_of_step (hstep : Monitored.step config s act = some s') :
    s.cluster.version ≤ s'.cluster.version := by
  cases steps_of_step hstep with
  | change => exact Nat.le_succ _
  | _ => exact le_rfl

/-- **A step stores nothing older than an invalidation** that has overtaken no task. -/
lemma Since.step (h : Since version s) (hstep : Monitored.step config s act = some s') :
    Since version s' where
  cluster := h.cluster.trans (version_le_of_step hstep)
  storing i endpoint hphase := by
    obtain ⟨hbefore, hlisted⟩ | ⟨hlisted, -⟩ := storing_of_step hstep hphase
    · rw [hlisted]
      exact h.storing i endpoint hbefore
    · rw [hlisted]
      exact h.cluster
  cached endpoint hcache := by
    obtain ⟨hbefore, hstored⟩ | ⟨i, hphase, hstored⟩ := cached_of_step hstep hcache
    · rw [hstored]
      exact h.cached endpoint hbefore
    · rw [hstored]
      exact h.storing i endpoint hphase

/-- An invalidation that overtakes no task leaves nothing older. -/
lemma since_of_invalidate {current : Option String} (hr : Dated r)
    (hmonitor : r.monitor = .invalidating current version) (hclear : ¬Overtakes version r)
    (hstep : Monitored.step config r .invalidate = some r') : Since version r' := by
  have hcluster : version ≤ r.cluster.version := hr current version hmonitor
  cases steps_of_step hstep with
  | invalidate =>
      refine ⟨hcluster, fun i endpoint hphase => ?_, by simp⟩
      by_contra hold
      exact hclear ⟨i, endpoint, hphase, not_le.mp hold⟩

/-- A task about to store an endpoint can do so while nobody reads the cache. -/
lemma exists_store {i : ℕ} {endpoint : Endpoint}
    (hphase : (s.plane.connections i).phase = .storing endpoint) (hreaders : s.plane.readers = 0) :
    ∃ s', Monitored.step config s (.act (.connection i .store)) = some s'
      ∧ s'.plane.cache = some endpoint ∧ s'.stored = s.listed i := by
  have hadvance : advance config s.plane (s.plane.connections i) .store
      = some ((s.plane.connections i).supported endpoint, .store endpoint) := by
    simp [advance, hphase, hreaders]
  have hplane : (Proxy.step config s.plane (.connection i .store)).map Plane.cache
      = some (some endpoint) := by
    rw [Proxy.step, hadvance]
    rfl
  obtain ⟨q, hplane, hcache⟩ := Option.map_eq_some_iff.mp hplane
  refine ⟨s.follow (.connection i .store) q, ?_, hcache, rfl⟩
  rw [Monitored.step, hplane]
  rfl

/-- A task that an invalidation has overtaken can store its endpoint. -/
lemma exists_store_of_overtakes (hovertakes : Overtakes version r)
    (hstep : Monitored.step config r .invalidate = some r') :
    ∃ i s endpoint, Monitored.step config r' (.act (.connection i .store)) = some s
      ∧ s.plane.cache = some endpoint ∧ s.stored.version < version := by
  obtain ⟨i, endpoint, hphase, hold⟩ := hovertakes
  have hafter : r'.plane.readers = 0 ∧ r'.plane.connections = r.plane.connections
      ∧ r'.listed = r.listed := by
    cases steps_of_step hstep with
    | invalidate hmonitor hreaders => exact ⟨hreaders, rfl, rfl⟩
  obtain ⟨hreaders, hconnections, hlisted⟩ := hafter
  rw [← hconnections] at hphase
  obtain ⟨s, hstore, hcache, hstored⟩ := exists_store hphase hreaders
  exact ⟨i, s, endpoint, hstore, hcache, by rwa [hstored, hlisted]⟩

/-! ### Runs -/

/-- **An invalidation is upheld exactly where it overtakes no task**: whatever steps
follow, every endpoint cached then is chosen from a list no older than that of the check,
if and only if no task is about to store an endpoint from an older list when the cache is
invalidated. -/
theorem invalidation_upheld_iff {pre : List MonitoredAction} {current : Option String}
    (h₀ : s₀.Initial) (hpre : Run.run (Monitored.step config) s₀ pre = some r)
    (hmonitor : r.monitor = .invalidating current version)
    (hstep : Monitored.step config r .invalidate = some r') :
    (∀ mid s endpoint, Run.run (Monitored.step config) r' mid = some s →
        s.plane.cache = some endpoint →
          version ≤ s.stored.version
            ∧ ∃ counts, queryDefaultEndpoint config counts (some s.stored.objects) = .ok endpoint)
      ↔ ¬Overtakes version r := by
  constructor
  · intro hupheld hovertakes
    obtain ⟨i, s, endpoint, hstore, hcache, hold⟩ := exists_store_of_overtakes hovertakes hstep
    obtain ⟨hle, -⟩ := hupheld [.act (.connection i .store)] s endpoint
      ((Run.run_singleton _ _).trans hstore) hcache
    exact absurd hle (not_le.mpr hold)
  · intro hclear mid s endpoint hmid hcache
    have hs : Since version s :=
      Run.run_invariant (fun _ _ _ h hstep => h.step hstep)
        (since_of_invalidate (dated_of_run h₀ hpre) hmonitor hclear hstep) hmid
    have hrun := Run.run_trans (Run.run_concat hpre hstep) hmid
    exact ⟨hs.cached endpoint hcache, (sourced_of_run h₀ hrun).cached endpoint hcache⟩

end Monitored

namespace Sample

/-- The monitor has checked the first Pods. -/
def checked : Monitored :=
  Run.reached (Monitored.step settings) clients [.change pods, .check true] (by decide +kernel)

/-- It has invalidated the cache. -/
def emptied : Monitored :=
  Run.reached (Monitored.step settings) checked [.invalidate] (by decide +kernel)

/-- The steps of a task up to its list. -/
def listing : List MonitoredAction :=
  [.act (.connection 0 .arrive), .act (.connection 0 .read), .list 0 true]

/-- The task has stored its endpoint. -/
def storedOnce : Monitored :=
  Run.reached (Monitored.step settings) emptied (listing ++ [.act (.connection 0 .store)])
    (by decide +kernel)

/-- The Pods are replaced once the task has listed, and a check finds out. -/
def replacing : List MonitoredAction :=
  [.change pods, .check true, .invalidate] ++ listing
    ++ [.change [UdpDirector.Sample.pod "game-2" "uid-2" "10.0.0.3"], .check true]

def replaced : Monitored :=
  Run.reached (Monitored.step settings) clients replacing (by decide +kernel)

/-- The monitor has invalidated the cache again. -/
def emptiedAgain : Monitored :=
  Run.reached (Monitored.step settings) replaced [.invalidate] (by decide +kernel)

/-- The task has stored its endpoint after that. -/
def storedLate : Monitored :=
  Run.reached (Monitored.step settings) emptiedAgain [.act (.connection 0 .store)]
    (by decide +kernel)

end Sample

/-- An endpoint listed and stored after an invalidation. -/
theorem invalidation_upheld_iff_sample :
    ∃ endpoint, Sample.storedOnce.plane.cache = some endpoint
      ∧ 1 ≤ Sample.storedOnce.stored.version := by
  have hmonitor : Sample.checked.monitor = .invalidating (some "game-0 (10.0.0.1:7000)") 1 := by
    decide +kernel
  have hclear : ¬Monitored.Overtakes 1 Sample.checked := by
    rintro ⟨i, endpoint, hphase, -⟩
    have harrived : Sample.checked.plane.connections i = Sample.clients.plane.connections i :=
      Monitored.connections_of_run (Run.run_reached _ _ _) (by simp [Monitored.task])
    simp [harrived, Sample.clients] at hphase
  have hsome : Sample.storedOnce.plane.cache.isSome = true := by decide +kernel
  obtain ⟨endpoint, hcache⟩ := Option.isSome_iff_exists.mp hsome
  have hstep : Monitored.step Sample.settings Sample.checked .invalidate = some Sample.emptied :=
    (Run.run_singleton _ _).symm.trans (Run.run_reached _ _ _)
  have hupheld := (Monitored.invalidation_upheld_iff Sample.initial_clients
    (Run.run_reached _ _ _) hmonitor hstep).mpr hclear
  exact ⟨endpoint, hcache, (hupheld _ _ endpoint (Run.run_reached _ _ _) hcache).1⟩

/-- **An invalidation is undone by an older list**: a task lists, the Pods are replaced,
a check lists them and invalidates the cache, and the task stores its endpoint. -/
theorem invalidation_undone :
    Sample.clients.Initial
      ∧ Run.run (Monitored.step Sample.settings) Sample.clients Sample.replacing
        = some Sample.replaced
      ∧ Sample.replaced.monitor = .invalidating (some "game-2 (10.0.0.3:7000)") 2
      ∧ Monitored.step Sample.settings Sample.replaced .invalidate = some Sample.emptiedAgain
      ∧ Monitored.step Sample.settings Sample.emptiedAgain (.act (.connection 0 .store))
        = some Sample.storedLate
      ∧ Sample.storedLate.plane.cache.map Endpoint.address = some "10.0.0.1"
      ∧ Sample.storedLate.stored.version = 1 :=
  ⟨Sample.initial_clients, Run.run_reached _ _ _, by decide +kernel,
    (Run.run_singleton _ _).symm.trans (Run.run_reached _ _ _),
    (Run.run_singleton _ _).symm.trans (Run.run_reached _ _ _), by decide +kernel,
    by decide +kernel⟩

end Proxy

end UdpDirector
