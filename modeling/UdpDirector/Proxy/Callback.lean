import UdpDirector.Proxy.Cleanup

/-!
The clones of the session manager, and the callback of the cleanup.

* `SessionManager`: what a clone copies. The table is shared, so it is not part of
  it; the timeout and the callback are copied;
* `Managed`: the data plane, the clones in use, the one that `cleanup_loop` runs in,
  and the calls made so far; `Managed.step`: its steps;
* `Managed.loop_of_step`: no step changes the clone of the cleanup;
* `calls_iff`: the removed sessions are those reported exactly in the runs that remove
  none;
* `removal_not_reported`: a session that times out is removed without a call.
-/

namespace UdpDirector

/-- `SessionManager`, without the table that its clones share. -/
structure SessionManager (F : Type*) where
  timeoutSeconds : ℕ
  cleanupCallback : Option F

namespace SessionManager

variable {F : Type*}

/-- `SessionManager::new`: the manager, and the clone that `cleanup_loop` runs in. -/
def new (timeoutSeconds : ℕ) : SessionManager F × SessionManager F :=
  let manager : SessionManager F := { timeoutSeconds, cleanupCallback := none }
  (manager, manager)

/-- `SessionManager::set_cleanup_callback`. -/
def setCleanupCallback (manager : SessionManager F) (callback : F) : SessionManager F :=
  { manager with cleanupCallback := some callback }

end SessionManager

namespace Proxy

/-! ### States and steps -/

/-- The session that a step of the cleanup removes. -/
def Plane.removes (p : Plane) : Action → Option Session
  | .cleanup .remove =>
      match p.sweep with
      | .removing (key :: _) => p.table.sessions.lookup key
      | _ => none
  | _ => none

/-- The data plane and the clones of its session manager. -/
structure Managed (F : Type*) where
  plane : Plane
  /-- The manager and its clones, by the places that hold them. -/
  managers : ℕ → Option (SessionManager F)
  /-- The clone that `cleanup_loop` runs in. -/
  loop : SessionManager F
  /-- The calls of callbacks, each with the target it was called with. -/
  calls : List (F × String) := []
  /-- The sessions that the cleanup has removed. -/
  removed : List Session := []

/-- A step of the data plane, a clone of a manager, or a new callback for one. -/
inductive ManagedAction (F : Type*) where
  | act (a : Action)
  | clone (i j : ℕ)
  | setCleanupCallback (i : ℕ) (callback : F)

namespace Managed

variable {F : Type*}

/-- A manager as `main` sets it up: the callback is set once `new` has started the
cleanup. -/
def start (plane : Plane) (timeoutSeconds : ℕ) (callback : F) : Managed F where
  plane
  managers := Function.update (fun _ => none) 0
    (some ((SessionManager.new timeoutSeconds).1.setCleanupCallback callback))
  loop := (SessionManager.new timeoutSeconds).2

/-- The call that the cleanup makes for a session it removes. -/
def call (m : Managed F) (session : Session) : Option (F × String) :=
  m.loop.cleanupCallback.map fun callback => (callback, session.targetIp)

variable (config : Config)

/-- One step. The cleanup compares with the timeout of its own clone. -/
def step (m : Managed F) : ManagedAction F → Option (Managed F)
  | .act a =>
      (Proxy.step { config with sessionTimeoutSeconds := m.loop.timeoutSeconds } m.plane a).map
        fun q =>
          { m with
            plane := q
            calls := ((m.plane.removes a).bind m.call).toList ++ m.calls
            removed := (m.plane.removes a).toList ++ m.removed }
  | .clone i j =>
      (m.managers i).map fun manager =>
        { m with managers := Function.update m.managers j (some manager) }
  | .setCleanupCallback i callback =>
      (m.managers i).map fun manager =>
        { m with
          managers := Function.update m.managers i (some (manager.setCleanupCallback callback)) }

variable {config} {m m' : Managed F} {act : ManagedAction F}

/-- The session that a step removes. -/
def removes (m : Managed F) : ManagedAction F → Option Session
  | .act a => m.plane.removes a
  | _ => none

/-- A step of the cleanup reports the session it removes to the callback of its own
clone, which no step changes. -/
lemma reports_of_step (h : step config m act = some m') :
    m'.loop = m.loop ∧ m'.removed = (m.removes act).toList ++ m.removed
      ∧ m'.calls = ((m.removes act).bind m.call).toList ++ m.calls := by
  cases act with
  | act a =>
      obtain ⟨q, -, rfl⟩ := Option.map_eq_some_iff.mp h
      exact ⟨rfl, rfl, rfl⟩
  | clone i j =>
      obtain ⟨manager, -, rfl⟩ := Option.map_eq_some_iff.mp h
      exact ⟨rfl, rfl, rfl⟩
  | setCleanupCallback i callback =>
      obtain ⟨manager, -, rfl⟩ := Option.map_eq_some_iff.mp h
      exact ⟨rfl, rfl, rfl⟩

/-! ### Runs -/

/-- **The cleanup calls nothing**, whichever callbacks are set. -/
lemma calls_of_run {acts : List (ManagedAction F)} (hnone : m.loop.cleanupCallback = none)
    (hcalls : m.calls = []) (hrun : Run.run (step config) m acts = some m') : m'.calls = [] := by
  refine (Run.run_invariant
    (I := fun m : Managed F => m.loop.cleanupCallback = none ∧ m.calls = []) ?_
    ⟨hnone, hcalls⟩ hrun).2
  rintro s act t ⟨hnone, hcalls⟩ hstep
  obtain ⟨hloop, -, hreported⟩ := reports_of_step hstep
  refine ⟨by rw [hloop, hnone], ?_⟩
  have hcall : (s.removes act).bind s.call = none := by
    rw [Option.bind_eq_none_iff]
    intro session _
    rw [call, hnone, Option.map_none]
  rw [hreported, hcall, hcalls]
  rfl

/-- The cleanup has removed no session exactly when no step has removed one. -/
lemma removed_eq_nil_iff {acts : List (ManagedAction F)}
    (hrun : Run.run (step config) m acts = some m') :
    m'.removed = [] ↔ m.removed = [] ∧ Run.Along (step config) (fun m act => m.removes act = none)
      m acts := by
  induction acts generalizing m with
  | nil =>
      obtain rfl := Option.some.inj hrun
      exact (and_iff_left trivial).symm
  | cons act acts ih =>
      obtain ⟨u, hu, hrun⟩ := Option.bind_eq_some_iff.mp hrun
      obtain ⟨-, hremoved, -⟩ := reports_of_step hu
      rw [ih hrun, hremoved, List.append_eq_nil_iff, Option.toList_eq_nil_iff, Run.Along]
      constructor
      · rintro ⟨⟨hnone, hnil⟩, halong⟩
        refine ⟨hnil, hnone, fun t ht => ?_⟩
        obtain rfl := Option.some.inj (hu.symm.trans ht)
        exact halong
      · rintro ⟨hnil, hnone, halong⟩
        exact ⟨⟨hnone, hnil⟩, halong u hu⟩

end Managed

/-- **The removed sessions are those reported exactly in the runs that remove none**:
after `set_cleanup_callback`, the calls of the cleanup are one for each session it has
removed, with its target, if and only if no step of the run has removed one. -/
theorem calls_iff {F : Type*} {config : Config} {plane : Plane} {timeoutSeconds : ℕ} {callback : F}
    {acts : List (ManagedAction F)} {m : Managed F}
    (hrun : Run.run (Managed.step config) (.start plane timeoutSeconds callback) acts = some m) :
    m.calls.Perm (m.removed.map fun session => (callback, session.targetIp))
      ↔ Run.Along (Managed.step config) (fun m act => m.removes act = none)
          (.start plane timeoutSeconds callback) acts := by
  have hcalls : m.calls = [] := Managed.calls_of_run rfl rfl hrun
  rw [hcalls, List.nil_perm, List.map_eq_nil_iff, Managed.removed_eq_nil_iff hrun]
  exact and_iff_right rfl

namespace Sample

/-- The manager of `main`, with the callback named 0. -/
def managed : Managed ℕ := .start plane 300 0

/-- The session of a query, a pass of the cleanup 30 seconds later. -/
def spared : List (ManagedAction ℕ) :=
  (query "10.0.0.1").map .act ++ [.act (.tick (30 * 10 ^ 9)), .act (.cleanup .pass),
    .act (.cleanup (.examine (.legacyIp client.ip))), .act (.cleanup .collected),
    .act (.cleanup .rest)]

/-- The session of a query, a pass of the cleanup once it has timed out. -/
def timedOut : List (ManagedAction ℕ) :=
  overdue.map .act ++ [.act (.cleanup .remove), .act (.cleanup .shutdown), .act (.cleanup .rest)]

end Sample

/-- A pass that finds no session timed out. -/
theorem calls_iff_sample :
    Run.Along (Managed.step Sample.settings) (fun m act => m.removes act = none) Sample.managed
      Sample.spared :=
  (calls_iff (Run.run_reached _ _ (by decide +kernel))).mp (by decide +kernel)

/-- **A session is removed without a call**: `main` sets the callback, a session times
out, and the cleanup removes it. -/
theorem removal_not_reported : ∃ m : Managed ℕ,
    Run.run (Managed.step Sample.settings) Sample.managed Sample.timedOut = some m
      ∧ m.removed.map Session.targetIp = ["10.0.0.1"] ∧ m.calls = []
      ∧ ¬m.calls.Perm (m.removed.map fun session => (0, session.targetIp)) :=
  ⟨_, Run.run_reached _ _ (by decide +kernel), by decide +kernel, by decide +kernel,
    by decide +kernel⟩

end Proxy

end UdpDirector
