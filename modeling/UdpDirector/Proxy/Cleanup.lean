import UdpDirector.Proxy.Operations

/-!
The cleanup and the sessions it removes.

`cleanup_loop` first collects the keys of the sessions that have timed out and then
removes them one by one, whatever is under them by then.

* `Plane.Renews`: the steps that give the session under a key a new activity;
* `Spared`: the discipline that no step renews a session whose key is collected and
  not yet removed;
* `Overdue`: the sessions under these keys have timed out; `Overdue.step` keeps it
  under the discipline;
* `removed_overdue`: the cleanup then removes only sessions that have timed out, and
  none renewed since it stopped collecting;
* `renewed_session_removed`: without the discipline it removes a session installed
  while it was about to.
-/

namespace UdpDirector

namespace Proxy

variable {config : Config} {p q : Plane} {a : Action} {key : SessionKey}

namespace Sweep

/-- The keys collected and not yet removed. -/
def toRemove : Sweep → List SessionKey
  | .waiting => []
  | .collecting _ toRemove | .removing toRemove | .shutting _ toRemove => toRemove

/-- The cleanup collects keys. -/
def isCollecting : Sweep → Bool
  | .collecting _ _ => true
  | _ => false

end Sweep

/-! ### The discipline -/

/-- The step gives the session under a key a new activity. -/
def Plane.Renews (p : Plane) (a : Action) (key : SessionKey) : Prop :=
  (∃ u ∈ p.installs a, key = u.key)
    ∨ ∃ i, a = .connection i .touch ∧ (p.connections i).phase = .touching
      ∧ key = p.table.resolve (p.connections i).client
      ∧ (p.table.sessions.lookup key).isSome = true

/-- No session under a key collected and not yet removed is renewed. -/
def Spared (p : Plane) (a : Action) : Prop :=
  ∀ key ∈ p.sweep.toRemove, ¬p.Renews a key

/-- The sessions under the keys collected and not yet removed have timed out. -/
def Overdue (config : Config) (p : Plane) : Prop :=
  ∀ key ∈ p.sweep.toRemove, ∀ session, p.table.sessions.lookup key = some session →
    session.isTimedOut config.sessionTimeoutSeconds p.now = true

lemma overdue_initial (h0 : p.Initial) : Overdue config p := by
  intro key hkey
  rw [h0.sweep] at hkey
  simp [Sweep.toRemove] at hkey

/-! ### One step -/

/-- A session that has timed out stays so until it is renewed. -/
lemma isTimedOut_mono {session session' : Session} {timeoutSeconds : ℕ} {now now' : Instant}
    (h : session.isTimedOut timeoutSeconds now = true)
    (hactivity : session'.lastActivity = session.lastActivity) (hnow : now ≤ now') :
    session'.isTimedOut timeoutSeconds now' = true := by
  simp only [Session.isTimedOut, decide_eq_true_eq] at h ⊢
  rw [hactivity]
  exact h.trans_le (Nat.sub_le_sub_right hnow _)

/-- The clock does not go back. -/
lemma now_le_of_step (h : step config p a = some q) : p.now ≤ q.now := by
  cases steps_of_step h with
  | connection hmoves => rw [now_move]
  | cleanup hsweeps =>
      generalize p.sweep = sweep at hsweeps
      cases hsweeps <;> exact le_rfl
  | tick => exact Nat.le_add_right _ _
  | _ => exact le_rfl

/-- Only a step of the cleanup moves the cleanup. -/
lemma sweep_of_step (h : step config p a = some q) (ha : ∀ event, a ≠ .cleanup event) :
    q.sweep = p.sweep := by
  cases steps_of_step h with
  | connection hmoves => rw [sweep_move]
  | @cleanup event _ hsweeps => exact absurd rfl (ha event)
  | _ => rfl

/-- A collected key was collected before, or the session under it has just been
found to have timed out. -/
lemma toRemove_of_step (h : step config p a = some q) (hkey : key ∈ q.sweep.toRemove) :
    key ∈ p.sweep.toRemove
      ∨ p.sweep.isCollecting = true ∧ q.table = p.table ∧ q.now = p.now
        ∧ ∃ session, p.table.sessions.lookup key = some session
          ∧ session.isTimedOut config.sessionTimeoutSeconds p.now = true := by
  by_cases ha : ∃ event, a = .cleanup event
  · obtain ⟨event, rfl⟩ := ha
    generalize hsweep : p.sweep = sweep
    have hsweeps := sweeps_of_sweepStep h
    rw [hsweep] at hsweeps
    cases hsweeps with
    | pass => simp [Sweep.toRemove] at hkey
    | spare | collected | shutdown => exact .inl hkey
    | collect hlookup hlate =>
        rcases List.mem_append.mp hkey with hkey | hkey
        · exact .inl hkey
        · obtain rfl := List.mem_singleton.mp hkey
          exact .inr ⟨rfl, rfl, rfl, _, hlookup, hlate⟩
    | remove | gone => exact .inl (List.mem_cons_of_mem _ hkey)
    | rest => simp [Sweep.toRemove] at hkey
  · rw [sweep_of_step h fun event heq => ha ⟨event, heq⟩] at hkey
    exact .inl hkey

/-- A step that does not renew the session under a key leaves its activity. -/
lemma lastActivity_of_step {session' : Session} (h : step config p a = some q)
    (hrenews : ¬p.Renews a key) (hlookup : q.table.sessions.lookup key = some session') :
    ∃ session, p.table.sessions.lookup key = some session
      ∧ session'.lastActivity = session.lastActivity := by
  obtain ⟨op, hop, htable, -⟩ := performs_of_step h
  rw [htable] at hlookup
  obtain ⟨u, now, rfl, hkey, -⟩ | ⟨session, hsession, hactivity | ⟨client, now, rfl, hkey⟩⟩ :=
    TableOp.exists_of_lookup_apply hlookup
  · cases hop with
    | insert hu => exact absurd (.inl ⟨u, hu, hkey⟩) hrenews
  · exact ⟨session, hsession, hactivity⟩
  · cases hop with
    | touch hphase =>
        exact absurd (.inr ⟨_, rfl, hphase, hkey, by rw [hsession]; rfl⟩) hrenews

/-- **A step under the discipline** leaves the collected sessions timed out. -/
lemma Overdue.step (hp : Overdue config p) (hG : Spared p a)
    (h : Proxy.step config p a = some q) : Overdue config q := by
  intro key hkey session' hlookup
  rcases toRemove_of_step h hkey with hold | ⟨-, htable, hnow, session, hsession, hlate⟩
  · obtain ⟨session, hsession, hactivity⟩ := lastActivity_of_step h (hG key hold) hlookup
    exact isTimedOut_mono (hp key hold session hsession) hactivity (now_le_of_step h)
  · rw [htable, hsession] at hlookup
    obtain rfl := Option.some.inj hlookup
    rw [hnow]
    exact hlate

/-- The cleanup is past its collection and will not remove a key before the next
pass. -/
def Passed (key : SessionKey) (p : Plane) : Prop :=
  p.sweep.isCollecting = false ∧ key ∉ p.sweep.toRemove

/-- A key that is passed stays so until the next pass begins. -/
lemma Passed.step (hp : Passed key p) (ha : a ≠ .cleanup .pass)
    (h : Proxy.step config p a = some q) : Passed key q := by
  refine ⟨?_, fun hkey => ?_⟩
  · by_cases hcleanup : ∃ event, a = .cleanup event
    · obtain ⟨event, rfl⟩ := hcleanup
      have hcollecting := hp.1
      have hsweeps := sweeps_of_sweepStep h
      generalize p.sweep = sweep at hsweeps hcollecting
      cases hsweeps with
      | pass => exact absurd rfl ha
      | spare | collect => simp [Sweep.isCollecting] at hcollecting
      | _ => rfl
    · rw [sweep_of_step h fun event heq => hcleanup ⟨event, heq⟩]
      exact hp.1
  · rcases toRemove_of_step h hkey with hold | ⟨hcollecting, -⟩
    · exact hp.2 hold
    · simp [hp.1] at hcollecting

/-! ### Runs -/

/-- **The cleanup removes only sessions that have timed out** in a run under the
discipline, and no session renewed after a pass has stopped collecting is removed by
that pass. -/
theorem removed_overdue {p₀ : Plane} {acts : List Action} (h0 : p₀.Initial)
    (hG : Run.Along (Proxy.step config) Spared p₀ acts)
    (hrun : Run.run (Proxy.step config) p₀ acts = some p) :
    (∀ q, Proxy.step config p (.cleanup .remove) = some q → ∀ session ∈ q.sweep.removed,
        session.isTimedOut config.sessionTimeoutSeconds p.now = true)
      ∧ ∀ pre a post r key, acts = pre ++ a :: post →
        Run.run (Proxy.step config) p₀ pre = some r → r.sweep.isCollecting = false →
        r.Renews a key → (∀ b ∈ a :: post, b ≠ .cleanup .pass) → key ∉ p.sweep.toRemove := by
  have hp : Overdue config p :=
    Run.run_invariant_along (fun _ _ _ hs hg h => hs.step hg h) (overdue_initial h0) hG hrun
  constructor
  · intro q hstep session hsession
    generalize hsweep : p.sweep = sweep
    have hsweeps := sweeps_of_sweepStep hstep
    rw [hsweep] at hsweeps
    cases hsweeps with
    | remove hlookup =>
        obtain rfl := Option.some.inj hsession
        exact hp _ (by rw [hsweep]; exact List.mem_cons_self) _ hlookup
    | gone => simp [Sweep.removed] at hsession
  · rintro pre a post r key rfl hpre hcollecting hrenews hpass
    have hr : Passed key r := by
      have hspared : Spared r a := (((Run.along_append p₀ pre _).mp hG).2 r hpre).1
      exact ⟨hcollecting, fun hkey => hspared key hkey hrenews⟩
    rw [Run.run_append, hpre, Option.bind_some] at hrun
    refine (Run.run_invariant_along (fun _ _ _ hs hb h => Passed.step hs hb h) hr ?_ hrun).2
    exact Run.along_of_forall (fun b hb _ => hpass b hb) r

namespace Sample

/-- The session of an answered query, and the cleanup once it has timed out. -/
def overdue : List Action :=
  query "10.0.0.1" ++ [.tick (301 * 10 ^ 9), .cleanup .pass,
    .cleanup (.examine (.legacyIp client.ip)), .cleanup .collected]

/-- The cleanup about to remove a session that has timed out. -/
def collected : Plane := reach plane overdue (by decide +kernel)

/-- The cleanup about to remove the session of a query answered meanwhile. -/
def renewed : Plane := reach plane (overdue ++ query "10.0.0.9") (by decide +kernel)

/-- The cleanup once it has removed a session that has timed out. -/
def swept : Plane := reach collected [.cleanup .remove] (by decide +kernel)

/-- Nothing is collected while the query is answered, and nothing is renewed after
that. -/
lemma spared_overdue : Run.Along (step settings) Spared plane overdue := by
  refine ⟨by simp [Spared, Sweep.toRemove, plane], fun t ht => ⟨?_, fun t' _ => ?_⟩⟩
  · obtain rfl := Option.some.inj ht
    simp [Spared, Sweep.toRemove, plane]
  · exact Run.along_of_forall (by simp [Spared, Plane.Renews, Plane.installs]) t'

end Sample

/-- The session of a query, 301 seconds after its answer. -/
theorem removed_overdue_sample :
    ∃ session, Sample.swept.sweep.removed = some session
      ∧ session.isTimedOut Sample.settings.sessionTimeoutSeconds Sample.collected.now = true :=
  ⟨Sample.swept.sweep.removed.get (by decide +kernel), (Option.some_get _).symm,
    (removed_overdue Sample.initial_plane Sample.spared_overdue (Sample.run_reach _ _ _)).1
      Sample.swept (Sample.step_reach _ _ _) _ (Option.get_mem _)⟩

/-- **The cleanup removes a session installed while it was about to**: a session times
out, the cleanup collects its key, a query of the client installs a new session, and
the cleanup removes this one, zero seconds after its last activity. -/
theorem renewed_session_removed :
    Sample.plane.Initial
      ∧ Run.run (step Sample.settings) Sample.plane (Sample.overdue ++ Sample.query "10.0.0.9")
        = some Sample.renewed
      ∧ ∃ q, step Sample.settings Sample.renewed (.cleanup .remove) = some q
        ∧ q.sweep.removed.map (fun session => (session.targetIp, session.isTimedOut
            Sample.settings.sessionTimeoutSeconds Sample.renewed.now)) = some ("10.0.0.9", false) :=
  ⟨Sample.initial_plane, Sample.run_reach _ _ _,
    _, Sample.step_reach Sample.renewed _ (by decide +kernel), by decide +kernel⟩

end Proxy

end UdpDirector
