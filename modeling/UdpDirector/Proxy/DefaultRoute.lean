import UdpDirector.Proxy.Operations

/-!
Default routes and the routes of others.

A packet or a connection without a session checks for one, reads the cached
endpoint or lists the resources, and installs a default route, and nothing holds
the table from the check to the install.

* `Undisturbed`: the discipline under which this is harmless: a route is
  installed for a client IP only when no other task of that IP is on its way from
  the check to the install;
* `Unrouted`: the client IPs of these tasks have no session;
  `Unrouted.step` keeps it under the discipline;
* `default_route_fresh`: a default route then replaces nothing;
* `query_route_replaced`: without the discipline it replaces the route of a query
  answered in between.
-/

namespace UdpDirector

namespace Proxy

variable {config : Config} {p q : Plane} {a : Action}

/-! ### The discipline -/

/-- No other task of the client IP is on its way from its check to its install when
a route is installed. -/
def Undisturbed (p : Plane) (a : Action) : Prop :=
  ∀ u ∈ p.installs a, ∀ j, (p.connections j).establishing = true →
    (∀ event, a ≠ .connection j event) → (p.connections j).client.ip ≠ u.client.ip

/-- The client IPs of the tasks on their way to an install have no session. -/
def Unrouted (p : Plane) : Prop :=
  ∀ j, (p.connections j).establishing = true → p.table.get (p.connections j).client.ip = none

lemma unrouted_initial (h0 : p.Initial) : Unrouted p := by
  intro j hj
  rw [Connection.establishing, h0.connections j] at hj
  simp at hj

/-! ### One step -/

/-- The table is unchanged for a client IP by a step that installs no route for it. -/
lemma get_of_step {ip : IpAddr} (h : step config p a = some q) (hget : p.table.get ip = none)
    (hinstalls : ∀ u ∈ p.installs a, ip ≠ u.client.ip) : q.table.get ip = none := by
  obtain ⟨op, hop, htable, -⟩ := performs_of_step h
  rw [SessionState.get, htable]
  refine TableOp.lookup_apply_of_none hget ?_
  rintro u now rfl
  cases hop with
  | insert hu => simpa [Upsert.key] using hinstalls u hu

@[simp] lemma establishing_routed (c : Connection) (first : Bool) :
    ({ c with phase := c.routed first } : Connection).establishing = false := by
  unfold Connection.routed
  cases c.protocol <;> rfl

/-- A task on its way to an install was on it before, or has just found no session,
and it has not installed its route. -/
lemma Moves.establishing {c : Connection} {event : Event} {phase : Phase} {effect : Effect}
    (h : Moves config p c c.phase event phase effect)
    (hphase : ({ c with phase } : Connection).establishing = true) :
    event ≠ .install ∧ (c.establishing = true ∨ p.table.getByAddr c.client = none) := by
  have hold : ∀ {old}, c.phase = old → ({ c with phase := old } : Connection).establishing = true →
      c.establishing = true := by
    rintro old rfl hold
    exact hold
  generalize hc : c.phase = old at h
  cases h with
  | absent hget => exact ⟨by simp, .inr hget⟩
  | hit | other | miss | fetch | query | store | clear => exact ⟨by simp, .inl (hold hc rfl)⟩
  | fault =>
      rename_i fault _
      cases fault <;> simp [faulted, Connection.establishing] at hphase
  | found | count => simp at hphase
  | sent =>
      split at hphase <;> simp [Connection.establishing] at hphase
  | _ => simp [Connection.establishing] at hphase

/-- The check looks at the session of the client IP as well. -/
lemma get_of_getByAddr {s : SessionState} {addr : SocketAddr} (h : s.getByAddr addr = none) :
    s.get addr.ip = none := by
  by_cases hexact : (s.sessions.lookup (.exactSocket addr)).isSome = true
  · rw [SessionState.getByAddr, SessionState.resolve, if_pos hexact] at h
    simp [h] at hexact
  · rw [SessionState.getByAddr, SessionState.resolve, if_neg hexact] at h
    exact h

/-- **A step under the discipline** leaves the client IPs of the tasks on their way
to an install without a session. -/
lemma Unrouted.step (hp : Unrouted p) (hG : Undisturbed p a) (h : Proxy.step config p a = some q) :
    Unrouted q := by
  intro j hj
  obtain ⟨event, phase, effect, rfl, hmoves, rfl⟩ | ⟨hne, htask⟩ := moves_or_others h j
  · -- the task itself has moved, and does not install on its way
    rw [connections_move, Function.update_self] at hj ⊢
    obtain ⟨hevent, hbefore⟩ := hmoves.establishing hj
    refine get_of_step h ?_ ?_
    · rcases hbefore with hbefore | hget
      · exact hp j hbefore
      · exact get_of_getByAddr hget
    · intro u hu
      rw [Plane.installs.eq_def] at hu
      cases event <;> simp_all
  · -- another step: it installs no route for a task on its way
    rw [htask] at hj ⊢
    exact get_of_step h (hp j hj) fun u hu => hG u hu j hj hne

/-! ### Runs -/

/-- A task that installs a route is on its way. -/
lemma establishing_of_step_install {i : ℕ}
    (h : Proxy.step config p (.connection i .install) = some q) :
    (p.connections i).establishing = true := by
  obtain ⟨phase, effect, hmoves, -⟩ := exists_moves_of_step h
  generalize hphase : (p.connections i).phase = old at hmoves
  cases hmoves with
  | install => rw [Connection.establishing, hphase]

/-- **A default route replaces nothing** in a run under the discipline: when a task
installs it, its client IP has no session. -/
theorem default_route_fresh {p₀ : Plane} {acts : List Action} {i : ℕ} (h0 : p₀.Initial)
    (hG : Run.Along (Proxy.step config) Undisturbed p₀ acts)
    (hrun : Run.run (Proxy.step config) p₀ acts = some p)
    (hstep : Proxy.step config p (.connection i .install) = some q) :
    p.table.get (p.connections i).client.ip = none := by
  have hp : Unrouted p :=
    Run.run_invariant_along (fun _ _ _ hs hg h => hs.step hg h) (unrouted_initial h0) hG hrun
  exact hp i (establishing_of_step_install hstep)

namespace Sample

/-- The route that a query of another client is answered with. -/
def other : Upsert := { answer "10.0.0.9" with client := { ip := .v4 198 51 100 9, port := 40000 } }

/-- The packet of one client and the query of another. -/
def apart : List Action :=
  .queryClear 0 other :: .queryInstall 0 :: .connection 0 .arrive :: establish

/-- The packet about to install its default route. -/
def cleared : Plane := reach plane apart (by decide +kernel)

/-- Nobody is on the way when the query installs its route, and the packet then only
prepares to. -/
lemma undisturbed_apart : Run.Along (step settings) Undisturbed plane apart := by
  refine ⟨by simp [Undisturbed, Plane.installs], fun t ht => ⟨?_, fun t' _ => ?_⟩⟩
  · obtain rfl := Option.some.inj ht
    intro u hu j hj
    simp [Connection.establishing, plane] at hj
  · exact Run.along_of_forall (by simp [establish, Undisturbed, Plane.installs]) t'

/-- A packet that finds no session, a query answered at once, and the packet about
to install its default route. -/
def late : List Action := .connection 0 .arrive :: query "10.0.0.9" ++ establish

/-- The state in which the default route comes late. -/
def answered : Plane := reach plane late (by decide +kernel)

end Sample

/-- The first packet of a client once a query of another one has been answered. -/
theorem default_route_fresh_sample :
    Sample.cleared.table.get (Sample.cleared.connections 0).client.ip = none :=
  default_route_fresh Sample.initial_plane Sample.undisturbed_apart (Sample.run_reach _ _ _)
    (Sample.step_reach Sample.cleared (.connection 0 .install) (by decide +kernel))

/-- **A default route replaces the route of a query**: a packet finds no session, a
query of the same client IP is answered, and the packet installs its default
route. -/
theorem query_route_replaced :
    Sample.plane.Initial
      ∧ Run.run (step Sample.settings) Sample.plane Sample.late = some Sample.answered
      ∧ (Sample.answered.table.get Sample.client.ip).map Session.targetIp = some "10.0.0.9"
      ∧ ∃ q, step Sample.settings Sample.answered (.connection 0 .install) = some q
        ∧ (q.table.get Sample.client.ip).map Session.targetIp = some "10.0.0.1" :=
  ⟨Sample.initial_plane, Sample.run_reach _ _ _, by decide +kernel,
    _, Sample.step_reach Sample.answered _ (by decide +kernel), by decide +kernel⟩

end Proxy

end UdpDirector
