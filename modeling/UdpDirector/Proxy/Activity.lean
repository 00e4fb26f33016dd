import UdpDirector.Proxy.Cleanup
import UdpDirector.Proxy.Replies

/-!
Traffic and the sessions the cleanup removes.

Only some of the steps that forward data renew the session it belongs to: a packet that
has been sent upstream by a route that it has found, and the close of a TCP connection.
The first packet of a route, the replies, and the data of an open TCP connection do not.

* `Renewal`: a step that renews the session of a client IP; `Dated`: the last activity
  of a session is the time of its last renewal in the run;
* `Fresh`: a session that has forwarded data within the timeout has been renewed within
  it; `Quiet`: a session that has timed out has forwarded no data within it;
  `quiet_iff` joins the two;
* `Atomic`: a pass of the cleanup is executed without interleaving; `Sweeping`: what
  then holds during a pass;
* `traffic_keeps_session`: where the sessions are fresh whenever a pass starts, no
  session that has forwarded data within the timeout is removed, and where they are
  not, a pass removes one;
* `replied_session_removed`: a session is removed ten seconds after a reply.
-/

namespace UdpDirector

namespace Proxy

variable {config : Config} {p q : Plane} {t t' t₀ : Traffic} {act : TrafficAction}

/-! ### Data and renewals -/

/-- The data of the session that a client IP has now. -/
def Traffic.Carried (t : Traffic) (ip : IpAddr) (f : Forwarded) : Prop :=
  f ∈ t.log ∧ f.client.ip = ip ∧ f.session = t.installed ip

/-- The step installs the session of a client IP, or touches it. -/
def Renewal (ip : IpAddr) (e : Traffic × TrafficAction × Traffic) : Prop :=
  ∃ a, e.2.1 = .act a ∧ e.1.plane.Renews a (.legacyIp ip)

/-- The sessions that have forwarded data within the timeout have been renewed within
it, in the course of some steps. -/
def Fresh (config : Config) (hist : List (Traffic × TrafficAction × Traffic)) (t : Traffic) :
    Prop :=
  ∀ ip session, t.plane.table.get ip = some session → ∀ f, t.Carried ip f →
    t.plane.now - f.time ≤ config.sessionTimeoutSeconds * 10 ^ 9 →
      ∃ e ∈ hist, Renewal ip e
        ∧ t.plane.now - e.1.plane.now ≤ config.sessionTimeoutSeconds * 10 ^ 9

/-- The sessions that have timed out have forwarded no data within the timeout. -/
def Quiet (config : Config) (t : Traffic) : Prop :=
  ∀ ip session, t.plane.table.get ip = some session →
    session.isTimedOut config.sessionTimeoutSeconds t.plane.now = true →
      ∀ f, t.Carried ip f → config.sessionTimeoutSeconds * 10 ^ 9 < t.plane.now - f.time

/-- The session that the cleanup is about to remove has forwarded no data within the
timeout. -/
def Kept (config : Config) (t : Traffic) : Prop :=
  ∀ key toRemove session, t.plane.sweep = .removing (key :: toRemove) →
    t.plane.table.sessions.lookup key = some session →
      ∃ ip, key = .legacyIp ip
        ∧ ∀ f, t.Carried ip f → config.sessionTimeoutSeconds * 10 ^ 9 < t.plane.now - f.time

/-! ### The activity of a session -/

/-- A session that a step renews has the activity of that step. -/
lemma lastActivity_of_renews {a : Action} {key : SessionKey} {session : Session}
    (h : step config p a = some q) (hrenews : p.Renews a key)
    (hlookup : q.table.sessions.lookup key = some session) : session.lastActivity = p.now := by
  obtain ⟨u, hu, rfl⟩ | ⟨i, rfl, hphase, rfl, -⟩ := hrenews
  · obtain ⟨htable, -⟩ := performs_insert_of_step h hu
    rw [htable, TableOp.apply, SessionState.insert, AList.lookup_insert] at hlookup
    obtain rfl := Option.some.inj hlookup
    rfl
  · obtain ⟨phase, effect, hmoves, rfl⟩ := exists_moves_of_step h
    rw [hphase] at hmoves
    cases hmoves with
    | touch =>
        rw [table_move, Effect.table, SessionState.touchByAddr, Table.lookup_alter] at hlookup
        obtain ⟨old, -, rfl⟩ := Option.map_eq_some_iff.mp hlookup
        rfl

/-- A step of the traffic renews a session, or leaves its activity. -/
lemma activity_of_step (hstep : Traffic.step config t act = some t') {ip : IpAddr}
    {session' : Session} (hget : t'.plane.table.get ip = some session') :
    Renewal ip (t, act, t') ∧ session'.lastActivity = t.plane.now
      ∨ ¬Renewal ip (t, act, t') ∧ ∃ session, t.plane.table.get ip = some session
        ∧ session'.lastActivity = session.lastActivity := by
  cases Traffic.steps_of_step hstep with
  | @act a q hplane =>
      by_cases hrenews : t.plane.Renews a (.legacyIp ip)
      · exact .inl ⟨⟨a, rfl, hrenews⟩, lastActivity_of_renews hplane hrenews hget⟩
      · refine .inr ⟨?_, lastActivity_of_step hplane hrenews hget⟩
        rintro ⟨b, hb, hrenews'⟩
        obtain rfl := TrafficAction.act.inj hb
        exact hrenews hrenews'
  | receive | copy =>
      refine .inr ⟨?_, session', hget, rfl⟩
      rintro ⟨a, ha, -⟩
      simp at ha

lemma now_le_of_traffic (hstep : Traffic.step config t act = some t') :
    t.plane.now ≤ t'.plane.now := by
  cases Traffic.steps_of_step hstep with
  | act hplane => exact now_le_of_step hplane
  | receive | copy => exact le_rfl

/-- The last activity of a session is the time of its last renewal among some steps. -/
structure Dated (hist : List (Traffic × TrafficAction × Traffic)) (t : Traffic) : Prop where
  past : ∀ e ∈ hist, e.1.plane.now ≤ t.plane.now
  latest : ∀ ip session, t.plane.table.get ip = some session → ∀ e ∈ hist, Renewal ip e →
    e.1.plane.now ≤ session.lastActivity
  renewed : ∀ ip session, t.plane.table.get ip = some session →
    ∃ e ∈ hist, Renewal ip e ∧ e.1.plane.now = session.lastActivity

/-- **A step dates the sessions it renews.** -/
lemma Dated.step {hist : List (Traffic × TrafficAction × Traffic)} (h : Dated hist t)
    (hstep : Traffic.step config t act = some t') : Dated (hist ++ [(t, act, t')]) t' where
  past := by
    intro e he
    rcases List.mem_append.mp he with he | he
    · exact (h.past e he).trans (now_le_of_traffic hstep)
    · obtain rfl := List.mem_singleton.mp he
      exact now_le_of_traffic hstep
  latest := by
    intro ip session' hget e he hrenewal
    obtain ⟨-, hactivity⟩ | ⟨hnot, session, hsession, hactivity⟩ := activity_of_step hstep hget
    · rw [hactivity]
      rcases List.mem_append.mp he with he | he
      · exact h.past e he
      · obtain rfl := List.mem_singleton.mp he
        exact le_rfl
    · rw [hactivity]
      rcases List.mem_append.mp he with he | he
      · exact h.latest ip session hsession e he hrenewal
      · obtain rfl := List.mem_singleton.mp he
        exact absurd hrenewal hnot
  renewed := by
    intro ip session' hget
    obtain ⟨hrenewal, hactivity⟩ | ⟨-, session, hsession, hactivity⟩ := activity_of_step hstep hget
    · exact ⟨_, List.mem_append_right _ (List.mem_singleton_self _), hrenewal, hactivity.symm⟩
    · obtain ⟨e, he, hrenewal, hnow⟩ := h.renewed ip session hsession
      exact ⟨e, List.mem_append_left _ he, hrenewal, hnow.trans hactivity.symm⟩

/-- **In every run the sessions are dated** by the steps taken. -/
lemma dated_of_run {tacts : List TrafficAction} (h₀ : t₀.Initial)
    (hrun : Run.run (Traffic.step config) t₀ tacts = some t) :
    Dated (Run.trace (Traffic.step config) t₀ tacts) t := by
  have hempty : ∀ ip session, t₀.plane.table.get ip ≠ some session := by
    intro ip session hget
    rw [h₀.plane.table] at hget
    simp [SessionState.get] at hget
  refine Run.run_induction
    (P := fun tacts t => Dated (Run.trace (Traffic.step config) t₀ tacts) t) ?_ ?_ hrun
  · exact ⟨by simp [Run.trace], fun ip session hget => absurd hget (hempty ip session),
      fun ip session hget => absurd hget (hempty ip session)⟩
  · intro tacts t act u hrun h hstep
    rw [Run.trace_concat hrun hstep]
    exact h.step hstep

/-- **The sessions are quiet if and only if they are fresh**: the cleanup compares the
timeout with the time since the last renewal. -/
theorem quiet_iff {hist : List (Traffic × TrafficAction × Traffic)} (h : Dated hist t) :
    Quiet config t ↔ Fresh config hist t := by
  constructor
  · intro hquiet ip session hget f hf hwithin
    obtain ⟨e, he, hrenewal, hnow⟩ := h.renewed ip session hget
    refine ⟨e, he, hrenewal, ?_⟩
    rw [hnow]
    by_contra hlate
    have htimed : session.isTimedOut config.sessionTimeoutSeconds t.plane.now = true :=
      decide_eq_true (not_le.mp hlate)
    exact absurd (hquiet ip session hget htimed f hf) (not_lt.mpr hwithin)
  · intro hfresh ip session hget htimed f hf
    by_contra hwithin
    obtain ⟨e, he, hrenewal, hrenewed⟩ := hfresh ip session hget f hf (not_lt.mp hwithin)
    have hlate : config.sessionTimeoutSeconds * 10 ^ 9 < t.plane.now - session.lastActivity :=
      of_decide_eq_true htimed
    have hage : t.plane.now - session.lastActivity ≤ t.plane.now - e.1.plane.now :=
      Nat.sub_le_sub_left (h.latest ip session hget e he hrenewal) _
    exact absurd (hlate.trans_le (hage.trans hrenewed)) (lt_irrefl _)

/-! ### A pass of the cleanup -/

/-- Nothing else happens during a pass of the cleanup. -/
def Atomic (t : Traffic) (act : TrafficAction) : Prop :=
  t.plane.sweep = .waiting ∨ ∃ event, act = .act (.cleanup event)

/-- The sessions are fresh whenever a pass starts in a run. -/
def Renewed (config : Config) (t₀ : Traffic) (tacts : List TrafficAction) : Prop :=
  ∀ pre r, pre ++ [.act (.cleanup .pass)] <+: tacts →
    Run.run (Traffic.step config) t₀ pre = some r →
      Fresh config (Run.trace (Traffic.step config) t₀ pre) r

/-- Nothing is renewed during a pass that is executed without interleaving. -/
lemma spared_of_atomic {a : Action} (h : Atomic t (.act a)) : Spared t.plane a := by
  rintro key hkey hrenews
  obtain hwaiting | ⟨event, heq⟩ := h
  · rw [hwaiting] at hkey
    simp [Sweep.toRemove] at hkey
  · obtain rfl := TrafficAction.act.inj heq
    simp [Plane.Renews, Plane.installs] at hrenews

/-- A step of the cleanup takes no time and renews no session, so what is quiet stays
so. -/
lemma Quiet.of_cleanup {event : SweepEvent} (h : Quiet config t)
    (hstep : step config t.plane (.cleanup event) = some q) :
    Quiet config (t.follow (.cleanup event) q) := by
  intro ip session' hget htimed f hf
  have hrenews : ¬t.plane.Renews (.cleanup event) (.legacyIp ip) := by
    simp [Plane.Renews, Plane.installs]
  have hnow : q.now = t.plane.now := by
    have hsweeps := sweeps_of_sweepStep hstep
    generalize t.plane.sweep = sweep at hsweeps
    cases hsweeps <;> rfl
  obtain ⟨session, hsession, hactivity⟩ := lastActivity_of_step hstep hrenews hget
  rw [Traffic.plane_follow, hnow, Session.isTimedOut, hactivity] at htimed
  rw [Traffic.plane_follow, hnow]
  exact h ip session hsession htimed f hf

/-- What holds during a pass: the sessions to remove have timed out, and those that have
timed out are quiet. -/
structure Sweeping (config : Config) (t : Traffic) : Prop where
  overdue : Overdue config t.plane
  quiet : t.plane.sweep ≠ .waiting → Quiet config t

/-- A pass that starts in a quiet state stays in quiet states. -/
lemma Sweeping.step (h : Sweeping config t) (hatomic : Atomic t act)
    (hpass : act = .act (.cleanup .pass) → Quiet config t)
    (hstep : Traffic.step config t act = some t') : Sweeping config t' := by
  cases Traffic.steps_of_step hstep with
  | @act a q hplane =>
      refine ⟨h.overdue.step (spared_of_atomic hatomic) hplane, fun hsweep => ?_⟩
      by_cases hcleanup : ∃ event, a = .cleanup event
      · obtain ⟨event, rfl⟩ := hcleanup
        have hquiet : Quiet config t := by
          by_cases hwaiting : t.plane.sweep = .waiting
          · -- only the start of a pass leaves the waiting cleanup
            have hsweeps := sweeps_of_sweepStep hplane
            rw [hwaiting] at hsweeps
            cases hsweeps with
            | pass => exact hpass rfl
          · exact h.quiet hwaiting
        exact hquiet.of_cleanup hplane
      · have hne : ∀ event, a ≠ .cleanup event := fun event heq => hcleanup ⟨event, heq⟩
        obtain hwaiting | ⟨event, heq⟩ := hatomic
        · rw [Traffic.plane_follow, sweep_of_step hplane hne] at hsweep
          exact absurd hwaiting hsweep
        · exact absurd (TrafficAction.act.inj heq) (hne event)
  | receive | copy =>
      refine ⟨h.overdue, fun hsweep => ?_⟩
      obtain hwaiting | ⟨event, heq⟩ := hatomic
      · exact absurd hwaiting hsweep
      · simp at heq

/-- The session about to be removed has timed out, and is quiet. -/
lemma Sweeping.kept (h : Sweeping config t) (howned : Owned t.plane.table t.plane.sweep.removed) :
    Kept config t := by
  intro key toRemove session hsweep hlookup
  obtain ⟨ip, rfl, hget⟩ := howned.exists_ip hlookup
  refine ⟨ip, rfl, h.quiet (by simp [hsweep]) ip session hget ?_⟩
  exact h.overdue _ (by rw [hsweep]; exact List.mem_cons_self) session hlookup

/-- What a step of the cleanup does to the traffic. -/
lemma step_cleanup {event : SweepEvent} (h : sweepStep config t.plane event = some q) :
    Traffic.step config t (.act (.cleanup event)) = some { t with plane := q } := by
  rw [Traffic.step, step, h]
  rfl

/-- **A pass removes a session that is not quiet.** -/
lemma exists_pass_of_not_quiet (hsweep : t.plane.sweep = .waiting)
    (hdue : t.plane.due ≤ t.plane.now) (hquiet : ¬Quiet config t) :
    ∃ events t', Run.run (Traffic.step config) t
      ((.pass :: events).map fun event => .act (.cleanup event)) = some t' ∧ ¬Kept config t' := by
  simp only [Quiet, not_forall, not_lt] at hquiet
  obtain ⟨ip, session, hget, htimed, f, hf, hwithin⟩ := hquiet
  -- the states of a pass that collects the session alone
  let p₁ : Plane :=
    { t.plane with sweep := .collecting [] [], due := t.plane.due + 30 * 10 ^ 9 }
  let p₂ : Plane := { p₁ with sweep := .collecting [.legacyIp ip] [.legacyIp ip] }
  let p₃ : Plane := { p₂ with sweep := .removing [.legacyIp ip] }
  have hpass : sweepStep config t.plane .pass = some p₁ := by
    unfold sweepStep
    rw [hsweep]
    exact if_pos hdue
  have hexamine : sweepStep config p₁ (.examine (.legacyIp ip)) = some p₂ := by
    have hlookup : p₁.table.sessions.lookup (.legacyIp ip) = some session := hget
    have hlate : session.isTimedOut config.sessionTimeoutSeconds p₁.now = true := htimed
    simp [sweepStep, p₁, p₂, hlookup, hlate]
  have hcollected : sweepStep config p₂ .collected = some p₃ := rfl
  refine ⟨[.examine (.legacyIp ip), .collected], { t with plane := p₃ }, ?_, fun hkept => ?_⟩
  · simp only [List.map_cons, List.map_nil, Run.run_cons, Run.run_nil]
    rw [step_cleanup hpass, Option.bind_some, step_cleanup hexamine, Option.bind_some,
      step_cleanup hcollected, Option.bind_some]
  · obtain ⟨ip', hip, hlate⟩ := hkept _ _ session rfl hget
    obtain rfl := SessionKey.legacyIp.inj hip
    exact absurd (hlate f hf) (not_lt.mpr hwithin)

/-! ### Runs -/

lemma Renewed.init {tacts : List TrafficAction} (h : Renewed config t₀ (tacts ++ [act])) :
    Renewed config t₀ tacts :=
  fun pre r hpre => h pre r (hpre.trans (List.prefix_append _ _))

/-- What holds during a pass holds in a run whose passes are executed without
interleaving, and start while the sessions are fresh. -/
lemma sweeping_of_run {tacts : List TrafficAction} (h₀ : t₀.Initial)
    (hatomic : Run.Along (Traffic.step config) Atomic t₀ tacts)
    (hrenewed : Renewed config t₀ tacts)
    (hrun : Run.run (Traffic.step config) t₀ tacts = some t) : Sweeping config t := by
  refine Run.run_induction_along (P := fun tacts t => Renewed config t₀ tacts → Sweeping config t)
    ?_ ?_ hatomic hrun hrenewed
  · exact fun _ => ⟨overdue_initial h₀.plane, fun hsweep => absurd h₀.plane.sweep hsweep⟩
  · intro pre r act u hpre _ h hatomic hstep hrenewed
    refine (h hrenewed.init).step hatomic ?_ hstep
    rintro rfl
    exact (quiet_iff (dated_of_run h₀ hpre)).mpr (hrenewed pre r (List.prefix_refl _) hpre)

/-- **Traffic keeps a session alive** in a run whose passes are executed without
interleaving, if the sessions are fresh whenever a pass starts: whatever session the
cleanup then removes has forwarded no data within the timeout. Where they are not fresh,
a pass removes a session that has. -/
theorem traffic_keeps_session (h₀ : t₀.Initial) :
    (∀ tacts t, Run.Along (Traffic.step config) Atomic t₀ tacts → Renewed config t₀ tacts →
      Run.run (Traffic.step config) t₀ tacts = some t → Kept config t)
      ∧ ∀ pre r, Run.run (Traffic.step config) t₀ pre = some r → r.plane.sweep = .waiting →
        r.plane.due ≤ r.plane.now → ¬Fresh config (Run.trace (Traffic.step config) t₀ pre) r →
          ∃ events t, Run.run (Traffic.step config) r
            ((.pass :: events).map fun event => .act (.cleanup event)) = some t
              ∧ ¬Kept config t := by
  constructor
  · intro tacts t hatomic hrenewed hrun
    exact (sweeping_of_run h₀ hatomic hrenewed hrun).kept
      (owned_of_run h₀.plane (Traffic.plane_of_run hrun))
  · intro pre r hpre hsweep hdue hfresh
    refine exists_pass_of_not_quiet hsweep hdue fun hquiet => ?_
    exact hfresh ((quiet_iff (dated_of_run h₀ hpre)).mp hquiet)

/-! ### One pass in a run -/

/-- A run with one pass, started while the sessions are fresh. -/
lemma renewed_of_pass {as bs : List TrafficAction} (has : .act (.cleanup .pass) ∉ as)
    (hbs : .act (.cleanup .pass) ∉ bs)
    (hfresh : ∀ r, Run.run (Traffic.step config) t₀ as = some r →
      Fresh config (Run.trace (Traffic.step config) t₀ as) r) :
    Renewed config t₀ (as ++ .act (.cleanup .pass) :: bs) := by
  rintro pre r ⟨post, heq⟩ hpre
  rw [List.append_assoc, List.singleton_append] at heq
  obtain ⟨rfl, -, -⟩ := (List.append_cons_inj_of_notMem has hbs).mp heq.symm
  exact hfresh r hpre

/-- A run with one pass, which the rest of the run consists of. -/
lemma atomic_of_pass {as : List TrafficAction} {events : List SweepEvent}
    (hsweep : t.plane.sweep = .waiting) (has : ∀ event, .act (.cleanup event) ∉ as) :
    Run.Along (Traffic.step config) Atomic t
      (as ++ events.map fun event => .act (.cleanup event)) := by
  rw [Run.along_append]
  constructor
  · induction as generalizing t with
    | nil => trivial
    | cons act as ih =>
        refine ⟨.inl hsweep, fun u hu => ih ?_ fun event hmem => has event (.tail _ hmem)⟩
        cases Traffic.steps_of_step hu with
        | @act a q hplane =>
            rw [Traffic.plane_follow, sweep_of_step hplane, hsweep]
            rintro event rfl
            exact has event List.mem_cons_self
        | receive | copy => exact hsweep
  · intro u _
    refine Run.along_of_forall (fun act hact v => .inr ?_) u
    obtain ⟨event, -, rfl⟩ := List.mem_map.mp hact
    exact ⟨event, rfl⟩

namespace Sample

/-- A packet of the client of an answered query is sent upstream, and recorded. -/
def sent : List TrafficAction :=
  (query "10.0.0.1").map .act
    ++ [.act (.connection 0 .arrive), .act (.connection 0 (.forward true)),
      .act (.connection 0 (.sent true)), .act (.connection 0 .touch)]

/-- The client is silent for 301 seconds. -/
def silent : List TrafficAction := sent ++ [.act (.tick (301 * 10 ^ 9))]

/-- The client is silent for 301 seconds, ten seconds before the end of which the
backend sends a datagram. -/
def replying : List TrafficAction :=
  sent ++ [.act (.tick (291 * 10 ^ 9)), .receive 0 .check, .receive 0 (.datagram true),
    .act (.tick (10 * 10 ^ 9))]

/-- A pass that collects the session of the client. -/
def pass : List SweepEvent := [.pass, .examine (.legacyIp client.ip), .collected]

/-- The cleanup about to remove the session, after the run with no reply. -/
def outlasted : Traffic :=
  Run.reached (Traffic.step settings) traffic
    (silent ++ pass.map fun event => .act (.cleanup event)) (by decide +kernel)

/-- The cleanup about to remove the session, after the run with a reply. -/
def answering : Traffic :=
  Run.reached (Traffic.step settings) traffic
    (replying ++ pass.map fun event => .act (.cleanup event)) (by decide +kernel)

/-- Nothing has been forwarded for 301 seconds when the pass starts. -/
lemma renewed_silent : Renewed settings traffic
    (silent ++ pass.map fun event => .act (.cleanup event)) := by
  refine renewed_of_pass (by simp [silent, sent, query]) (by simp) fun r hr => ?_
  intro ip session _ f hf hwithin
  have hlog : ∀ f ∈ (Run.reached (Traffic.step settings) traffic silent (by decide +kernel)).log,
      f.time = 0 := by
    decide +kernel
  obtain rfl := Option.some.inj (hr.symm.trans (Run.run_reached _ _ (by decide +kernel)))
  rw [hlog f hf.1] at hwithin
  exact absurd hwithin (by decide +kernel)

end Sample

/-- A session that forwarded a packet 301 seconds ago, about to be removed. -/
theorem traffic_keeps_session_sample :
    Sample.outlasted.log.length = 1
      ∧ Sample.outlasted.plane.sweep.toRemove = [.legacyIp Sample.client.ip]
      ∧ Kept Sample.settings Sample.outlasted := by
  have hinitial : Sample.traffic.Initial := ⟨Sample.initial_plane, rfl⟩
  refine ⟨by decide +kernel, by decide +kernel, ?_⟩
  exact (traffic_keeps_session hinitial).1 _ _
    (atomic_of_pass rfl (by simp [Sample.silent, Sample.sent, Sample.query]))
    Sample.renewed_silent (Run.run_reached _ _ _)

/-- **A session is removed ten seconds after a reply**: replies do not renew it. -/
theorem replied_session_removed :
    Sample.traffic.Initial
      ∧ Run.Along (Traffic.step Sample.settings) Atomic Sample.traffic
        (Sample.replying ++ Sample.pass.map fun event => .act (.cleanup event))
      ∧ Run.run (Traffic.step Sample.settings) Sample.traffic
        (Sample.replying ++ Sample.pass.map fun event => .act (.cleanup event))
        = some Sample.answering
      ∧ (∃ f, Sample.answering.Carried Sample.client.ip f ∧ f.way = .reply 0
        ∧ Sample.answering.plane.now - f.time = 10 * 10 ^ 9)
      ∧ ∃ t, Traffic.step Sample.settings Sample.answering (.act (.cleanup .remove)) = some t
        ∧ t.plane.table.get Sample.client.ip = none := by
  refine ⟨⟨Sample.initial_plane, rfl⟩,
    atomic_of_pass rfl (by simp [Sample.replying, Sample.sent, Sample.query]),
    Run.run_reached _ _ _, ⟨Sample.answering.log.head (by decide +kernel),
      ⟨List.head_mem _, by decide +kernel, by decide +kernel⟩, rfl, by decide +kernel⟩, ?_⟩
  exact ⟨Run.reached (Traffic.step Sample.settings) Sample.answering [.act (.cleanup .remove)]
    (by decide +kernel), (Run.run_singleton _ _).symm.trans (Run.run_reached _ _ _),
    by decide +kernel⟩

end Proxy

end UdpDirector
