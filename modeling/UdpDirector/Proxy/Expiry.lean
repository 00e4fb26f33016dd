import UdpDirector.Proxy.Activity
import UdpDirector.Proxy.Router

/-!
What a whole pass of the cleanup does, with everything else going on meanwhile.

* `Unexpired`: the session under a key was active at a time or later, and its key is not
  collected; `Unexpired.step` keeps it within the timeout;
* `Reaped`: how far a pass has come with a session that had timed out when it began;
* `Exhaustive`: the iterator of the table does not skip an entry that stays;
* `pass_exact`: a session that had timed out when a pass began is gone at its end, and one
  that has not timed out by its end is still there, unless it was renewed meanwhile.
-/

namespace UdpDirector

/-- Only a removal takes a session away. -/
lemma TableOp.isSome_lookup_apply {s : SessionState} {op : TableOp} {key : SessionKey}
    (h : (s.sessions.lookup key).isSome = true) (hop : op ≠ .remove key) :
    ((op.apply s).sessions.lookup key).isSome = true := by
  have halter : ∀ key' f, ((Table.alter key' f s.sessions).lookup key).isSome = true := by
    intro key' f
    rcases eq_or_ne key key' with rfl | hne
    · rw [Table.lookup_alter, Option.isSome_map, h]
    · rw [Table.lookup_alter_ne f _ hne, h]
  cases op with
  | keep | shutdown => exact h
  | clear key' =>
      rw [apply, SessionState.sessions_clear]
      exact halter _ _
  | insert u now =>
      rw [apply, SessionState.insert]
      rcases eq_or_ne key u.key with rfl | hne
      · rw [AList.lookup_insert]
        rfl
      · rwa [AList.lookup_insert_ne hne]
  | openSocket client proxyPort =>
      rw [apply]
      split
      · rename_i hcreate
        obtain ⟨-, -, ⟨-, rfl⟩ | ⟨-, -, rfl⟩⟩ := SessionState.getOrCreate_eq_some hcreate
        · exact h
        · exact halter _ _
      · exact h
  | touch client now => exact halter _ _
  | remove key' =>
      have hne : key ≠ key' := fun heq => hop (heq ▸ rfl)
      rwa [apply, SessionState.remove, AList.lookup_erase_ne hne]

namespace Proxy

variable {config : Config} {p q : Plane} {a : Action} {key : SessionKey} {acts : List Action}

namespace Sweep

/-- The keys that the iterator has come to. -/
def seen : Sweep → List SessionKey
  | .collecting seen _ => seen
  | _ => []

end Sweep

/-- A session disappears when the cleanup comes to its key. -/
lemma isSome_lookup_of_step (h : step config p a = some q)
    (hsome : (p.table.sessions.lookup key).isSome = true) (hkey : key ∉ p.sweep.toRemove) :
    (q.table.sessions.lookup key).isSome = true := by
  obtain ⟨op, hop, htable, -⟩ := performs_of_step h
  rw [htable]
  refine TableOp.isSome_lookup_apply hsome ?_
  rintro rfl
  cases hop with
  | remove hsweep =>
      rw [hsweep] at hkey
      exact hkey List.mem_cons_self

/-! ### Sessions that stay -/

/-- The session under a key was active at a time or later, and the cleanup has not collected
its key. -/
structure Unexpired (since : Instant) (key : SessionKey) (p : Plane) : Prop where
  session : ∃ session, p.table.sessions.lookup key = some session ∧ since ≤ session.lastActivity
  spared : key ∉ p.sweep.toRemove

/-- An unexpired session stays so within the timeout. -/
lemma Unexpired.step {since : Instant} (hp : Unexpired since key p)
    (hnow : p.now ≤ since + config.sessionTimeoutSeconds * 10 ^ 9)
    (hrenews : p.Renews a key → since ≤ p.now)
    (h : Proxy.step config p a = some q) : Unexpired since key q where
  session := by
    obtain ⟨session, hsession, hsince⟩ := hp.session
    obtain ⟨session', hlookup⟩ := Option.isSome_iff_exists.mp
      (isSome_lookup_of_step h (by rw [hsession]; rfl) hp.spared)
    refine ⟨session', hlookup, ?_⟩
    by_cases hrenewal : p.Renews a key
    · rw [lastActivity_of_renews h hrenewal hlookup]
      exact hrenews hrenewal
    · obtain ⟨old, hold, hactivity⟩ := lastActivity_of_step h hrenewal hlookup
      rw [hsession] at hold
      obtain rfl := Option.some.inj hold
      rwa [hactivity]
  spared := by
    intro hkey
    obtain ⟨session, hsession, hsince⟩ := hp.session
    rcases toRemove_of_step h hkey with hold | ⟨-, -, -, session', hsession', hlate⟩
    · exact hp.spared hold
    · rw [hsession] at hsession'
      obtain rfl := Option.some.inj hsession'
      rw [Session.isTimedOut, decide_eq_true_eq] at hlate
      have hage : p.now - session.lastActivity ≤ config.sessionTimeoutSeconds * 10 ^ 9 :=
        (Nat.sub_le_sub_left hsince _).trans (Nat.sub_le_iff_le_add'.mpr hnow)
      exact hlate.not_ge hage

/-! ### A pass -/

/-- The iterator over a table comes to every entry that was there when it began. -/
def Exhaustive (s : SessionState) (p : Plane) (a : Action) : Prop :=
  a = .cleanup .collected → ∀ key, (s.sessions.lookup key).isSome = true → key ∈ p.sweep.seen

/-- How far a pass is with a key. -/
def Sweep.Heeds (key : SessionKey) (gone : Prop) : Sweep → Prop
  | .waiting => gone
  | .collecting seen toRemove => key ∈ seen → key ∈ toRemove
  | .removing toRemove | .shutting _ toRemove => key ∈ toRemove ∨ gone

/-- The session under a key has timed out, and the pass has not missed it. -/
structure Reaped (config : Config) (key : SessionKey) (p : Plane) : Prop where
  late : ∀ session, p.table.sessions.lookup key = some session →
    session.isTimedOut config.sessionTimeoutSeconds p.now = true
  heeded : p.sweep.Heeds key (p.table.sessions.lookup key = none)

/-- A step without a renewal leaves a session timed out, or without one. -/
lemma late_of_step (h : step config p a = some q) (hrenews : ¬p.Renews a key)
    (hlate : ∀ session, p.table.sessions.lookup key = some session →
      session.isTimedOut config.sessionTimeoutSeconds p.now = true) :
    ∀ session, q.table.sessions.lookup key = some session →
      session.isTimedOut config.sessionTimeoutSeconds q.now = true := by
  intro session' hlookup
  obtain ⟨session, hsession, hactivity⟩ := lastActivity_of_step h hrenews hlookup
  exact isTimedOut_mono (hlate session hsession) hactivity (now_le_of_step h)

/-- A key without a session stays so without a renewal. -/
lemma lookup_none_of_step (h : step config p a = some q) (hrenews : ¬p.Renews a key)
    (hnone : p.table.sessions.lookup key = none) : q.table.sessions.lookup key = none := by
  rw [Option.eq_none_iff_forall_ne_some]
  intro session hlookup
  obtain ⟨old, hold, -⟩ := lastActivity_of_step h hrenews hlookup
  rw [hnone] at hold
  cases hold

lemma Sweep.Heeds.imp {gone gone' : Prop} {sweep : Sweep} (h : sweep.Heeds key gone)
    (hgone : gone → gone') : sweep.Heeds key gone' := by
  cases sweep with
  | waiting => exact hgone h
  | collecting seen toRemove => exact h
  | removing toRemove | shutting session toRemove => exact h.imp_right hgone

/-- **A step of a pass does not miss a session that has timed out.** -/
lemma Reaped.step {s : SessionState} (hp : Reaped config key p)
    (hkey : (s.sessions.lookup key).isSome = true) (hiter : Exhaustive s p a)
    (hrenews : ¬p.Renews a key) (hpass : a ≠ .cleanup .pass)
    (h : Proxy.step config p a = some q) : Reaped config key q := by
  refine ⟨late_of_step h hrenews hp.late, ?_⟩
  by_cases ha : ∃ event, a = .cleanup event
  · obtain ⟨event, rfl⟩ := ha
    have hsweeps := sweeps_of_sweepStep h
    have hheeded := hp.heeded
    generalize hsweep : p.sweep = sweep at hsweeps hheeded
    cases hsweeps with
    | pass => exact absurd rfl hpass
    | @spare seen toRemove key' session hlookup hlive =>
        intro hseen
        rcases List.mem_cons.mp hseen with rfl | hseen
        · -- a session that has timed out is not spared
          rw [hp.late session hlookup] at hlive
          cases hlive
        · exact hheeded hseen
    | @collect seen toRemove key' session hlookup hlate =>
        intro hseen
        rcases List.mem_cons.mp hseen with rfl | hseen
        · exact List.mem_append_right _ List.mem_cons_self
        · exact List.mem_append_left _ (hheeded hseen)
    | @collected seen toRemove =>
        have hall := hiter rfl key hkey
        rw [hsweep] at hall
        exact .inl (hheeded hall)
    | @remove key' toRemove session hlookup =>
        rcases hheeded with hmem | hnone
        · rcases List.mem_cons.mp hmem with rfl | hmem
          · exact .inr (AList.lookup_erase _ _)
          · exact .inl hmem
        · exact .inr (lookup_none_of_step h hrenews hnone)
    | @gone key' toRemove hlookup =>
        rcases hheeded with hmem | hnone
        · rcases List.mem_cons.mp hmem with rfl | hmem
          · exact .inr hlookup
          · exact .inl hmem
        · exact .inr hnone
    | @shutdown session toRemove =>
        exact hheeded.imp_right (lookup_none_of_step h hrenews)
    | rest => exact hheeded.resolve_left List.not_mem_nil
  · rw [sweep_of_step h fun event heq => ha ⟨event, heq⟩]
    exact hp.heeded.imp (lookup_none_of_step h hrenews)

/-- The clock does not go back in a run. -/
lemma now_le_of_run (hrun : Run.run (step config) p acts = some q) : p.now ≤ q.now :=
  Run.run_invariant (I := fun r => p.now ≤ r.now)
    (fun _ _ _ hr h => hr.trans (now_le_of_step h)) le_rfl hrun

/-- An unexpired session stays so up to the timeout. -/
lemma Unexpired.run {since : Instant} (hp : Unexpired since key p)
    (hrenews : Run.Along (Proxy.step config) (fun r a => r.Renews a key → since ≤ r.now) p acts)
    (hrun : Run.run (Proxy.step config) p acts = some q)
    (hnow : q.now ≤ since + config.sessionTimeoutSeconds * 10 ^ 9) : Unexpired since key q := by
  induction acts generalizing p with
  | nil =>
      obtain rfl := Option.some.inj hrun
      exact hp
  | cons a acts ih =>
      obtain ⟨r, hr, hrun⟩ := Option.bind_eq_some_iff.mp hrun
      have hpast := (now_le_of_step hr).trans (now_le_of_run hrun)
      exact ih (hp.step (hpast.trans hnow) hrenews.1 hr) (hrenews.2 r hr) hrun

/-- A pass begins with nothing collected. -/
lemma start_of_pass {p₁ : Plane} (hpass : step config p (.cleanup .pass) = some p₁) :
    p₁.table = p.table ∧ p₁.now = p.now ∧ p₁.sweep = .collecting [] [] := by
  have hsweeps := sweeps_of_sweepStep hpass
  generalize p.sweep = sweep at hsweeps
  cases hsweeps
  exact ⟨rfl, rfl, rfl⟩

/-- Of a session that had timed out at the beginning of a pass nothing is left at its end. -/
lemma reaped_of_pass {p₁ : Plane} {session : Session}
    (hpass : step config p (.cleanup .pass) = some p₁)
    (hrun : Run.run (step config) p₁ acts = some q) (hend : q.sweep = .waiting)
    (hnext : .cleanup .pass ∉ acts)
    (hiter : Run.Along (step config) (Exhaustive p.table) p₁ acts)
    (hrenews : Run.Along (step config) (fun r a => ¬r.Renews a key) p₁ acts)
    (hsession : p.table.sessions.lookup key = some session)
    (hlate : session.isTimedOut config.sessionTimeoutSeconds p.now = true) :
    q.table.sessions.lookup key = none := by
  obtain ⟨htable, hnow, hsweep⟩ := start_of_pass hpass
  have hp₁ : Reaped config key p₁ := by
    refine ⟨fun session' hsession' => ?_, ?_⟩
    · rw [htable, hsession] at hsession'
      obtain rfl := Option.some.inj hsession'
      rwa [hnow]
    · rw [hsweep]
      exact id
  have hkey : (p.table.sessions.lookup key).isSome = true := by
    rw [hsession]
    rfl
  have hcalm : Run.Along (step config) (fun _ a => a ≠ .cleanup .pass) p₁ acts := by
    refine Run.along_of_forall ?_ p₁
    rintro a ha - rfl
    exact hnext ha
  have hq := Run.run_invariant_along
    (fun _ _ _ hr hG h => Reaped.step hr hkey hG.1 hG.2.1 hG.2.2 h) hp₁
    (hiter.and (hrenews.and hcalm)) hrun
  have hheeded := hq.heeded
  rwa [hend] at hheeded

/-- A session that has not timed out at the end of a pass is still there, as active as before. -/
lemma kept_of_pass {p₁ : Plane} {session : Session}
    (hpass : step config p (.cleanup .pass) = some p₁)
    (hrun : Run.run (step config) p₁ acts = some q)
    (hrenews : Run.Along (step config) (fun r a => ¬r.Renews a key) p₁ acts)
    (hsession : p.table.sessions.lookup key = some session)
    (hlive : session.isTimedOut config.sessionTimeoutSeconds q.now = false) :
    ∃ session', q.table.sessions.lookup key = some session'
      ∧ session'.lastActivity = session.lastActivity := by
  obtain ⟨htable, -, hsweep⟩ := start_of_pass hpass
  rw [← htable] at hsession
  have hactivity : q.now ≤ session.lastActivity + config.sessionTimeoutSeconds * 10 ^ 9 := by
    rw [Session.isTimedOut, decide_eq_false_iff_not, not_lt] at hlive
    exact Nat.sub_le_iff_le_add'.mp hlive
  have hp₁ : Unexpired session.lastActivity key p₁ :=
    ⟨⟨session, hsession, le_rfl⟩, by rw [hsweep]; exact List.not_mem_nil⟩
  obtain ⟨⟨session', hsession', -⟩, -⟩ :=
    hp₁.run (hrenews.imp fun _ _ _ hr hrenewal => absurd hrenewal hr) hrun hactivity
  refine ⟨session', hsession', ?_⟩
  refine Run.run_invariant_along (I := fun r : Plane => ∀ session',
    r.table.sessions.lookup key = some session' →
      session'.lastActivity = session.lastActivity) ?_ ?_ hrenews hrun session' hsession'
  · intro r a t hr hrenewal h session'' hlookup
    obtain ⟨old, hold, heq⟩ := lastActivity_of_step h hrenewal hlookup
    rw [heq, hr old hold]
  · intro session'' hlookup
    rw [hsession] at hlookup
    rw [Option.some.inj hlookup]

/-- **A pass removes what has timed out, and nothing else**: of a session that nothing renews
between the beginning and the end of a pass, whatever else goes on meanwhile, nothing is left
at its end if it had timed out at the beginning, and it is still there if it has not timed out
at the end. -/
theorem pass_exact {p₁ : Plane} {session : Session}
    (hpass : step config p (.cleanup .pass) = some p₁)
    (hrun : Run.run (step config) p₁ acts = some q) (hend : q.sweep = .waiting)
    (hnext : .cleanup .pass ∉ acts)
    (hiter : Run.Along (step config) (Exhaustive p.table) p₁ acts)
    (hrenews : Run.Along (step config) (fun r a => ¬r.Renews a key) p₁ acts)
    (hsession : p.table.sessions.lookup key = some session) :
    (session.isTimedOut config.sessionTimeoutSeconds p.now = true →
        q.table.sessions.lookup key = none)
      ∧ (session.isTimedOut config.sessionTimeoutSeconds q.now = false →
        ∃ session', q.table.sessions.lookup key = some session'
          ∧ session'.lastActivity = session.lastActivity) :=
  ⟨reaped_of_pass hpass hrun hend hnext hiter hrenews hsession,
    kept_of_pass hpass hrun hrenews hsession⟩

namespace Sample

/-- A second client. -/
def otherClient : SocketAddr := { client with ip := .v4 203 0 113 8 }

/-- A query of a client is answered. -/
def upserted (j : ℕ) (client : SocketAddr) : List Action :=
  [.queryClear j { answer "10.0.0.1" with client }, .queryInstall j]

/-- The session of one client 301 seconds after its query, and that of another at once. -/
def lapsed : Plane :=
  reach plane (upserted 0 client ++ [.tick (301 * 10 ^ 9)] ++ upserted 1 otherClient)
    (by decide +kernel)

/-- The cleanup at the beginning of a pass. -/
def passing : Plane := reach lapsed [.cleanup .pass] (by decide +kernel)

/-- The rest of the pass. Meanwhile a packet of the first client opens a socket and is sent, and a
query of a third client is answered. -/
def reaping : List Action :=
  [.cleanup (.examine (.legacyIp client.ip)), .connection 0 .arrive,
    .cleanup (.examine (.legacyIp otherClient.ip))]
  ++ upserted 2 { client with ip := .v4 203 0 113 9 }
  ++ [.cleanup .collected, .connection 0 (.forward true), .cleanup .remove, .tick 1,
    .cleanup .shutdown, .connection 0 (.sent true), .cleanup .rest]

/-- The table after the pass. -/
def reaped : Plane := reach passing reaping (by decide +kernel)

/-- The iterator has come to its end. -/
def collects : Action → Bool
  | .cleanup .collected => true
  | _ => false

/-- Both entries are examined. -/
lemma exhaustive_reaping : Run.Along (step settings) (Exhaustive lapsed.table) passing reaping := by
  have hseen : Run.Along (step settings) (fun p a => collects a = true →
      ∀ key ∈ lapsed.table.sessions.keys, key ∈ p.sweep.seen) passing reaping := by decide +kernel
  refine hseen.imp fun a _ p h => ?_
  rintro rfl key hkey
  exact h rfl key (AList.mem_keys.mp (AList.lookup_isSome.mp hkey))

/-- Neither session is renewed. -/
lemma renews_reaping (key : SessionKey)
    (hkey : key ∈ [SessionKey.legacyIp client.ip, .legacyIp otherClient.ip]) :
    Run.Along (step settings) (fun p a => ¬p.Renews a key) passing reaping := by
  have hinstalls : Run.Along (step settings) (fun p a => ∀ u ∈ p.installs a,
      u.key ∉ [SessionKey.legacyIp client.ip, .legacyIp otherClient.ip]) passing reaping := by
    decide +kernel
  refine hinstalls.imp fun a ha p h => ?_
  rintro (⟨u, hu, rfl⟩ | ⟨i, rfl, -⟩)
  · exact h u hu hkey
  · simp [reaping, upserted] at ha

end Sample

/-- Of two sessions only the one that has timed out is gone after the pass. -/
theorem pass_exact_sample :
    Sample.reaped.table.sessions.lookup (.legacyIp Sample.client.ip) = none
      ∧ ∃ session, Sample.reaped.table.sessions.lookup (.legacyIp Sample.otherClient.ip)
          = some session ∧ session.lastActivity = 301 * 10 ^ 9 := by
  have hpass : step Sample.settings Sample.lapsed (.cleanup .pass) = some Sample.passing :=
    Sample.step_reach Sample.lapsed _ (by decide +kernel)
  have hrun := Sample.run_reach Sample.passing Sample.reaping (by decide +kernel)
  have hnext : .cleanup .pass ∉ Sample.reaping := by simp [Sample.reaping, Sample.upserted]
  constructor
  · exact (pass_exact hpass hrun rfl hnext Sample.exhaustive_reaping
      (Sample.renews_reaping (.legacyIp Sample.client.ip) (by simp))
      (Option.some_get (by decide +kernel)).symm).1 (by decide +kernel)
  · obtain ⟨session, hsession, hactivity⟩ := (pass_exact hpass hrun rfl hnext
      Sample.exhaustive_reaping (Sample.renews_reaping (.legacyIp Sample.otherClient.ip) (by simp))
      (Option.some_get (by decide +kernel)).symm).2 (by decide +kernel)
    exact ⟨session, hsession, hactivity.trans (by decide +kernel)⟩

end Proxy

end UdpDirector
