import UdpDirector.Proxy.Operations
import Mathlib.Data.Finset.Card

/-!
The counts of the load balancer against the session table.

* `SessionState.sessionsTo`: the sessions whose target is an address, and what the
  operations on the table do to their number;
* `Balances`: the steps after which the counts still fit; a default route where the
  client had no session, a route of a query that replaces one to the same address,
  and no removal;
* `Plane.Tallied`: the sessions to an address are those counted and those installed
  and still to be counted;
* `counts_eq_sessions`: in a run of such steps the counts are the numbers of
  sessions whenever nothing is half done;
* `count_outlives_session`: a removal leaves the count as it is.
-/

namespace UdpDirector

/-! ### Sessions to an address -/

/-- One session, if it is to an address. -/
def Session.share (a : String) (session : Session) : Option Unit :=
  if session.targetIp = a then some () else none

namespace SessionState

/-- The number of sessions whose target is an address. -/
def sessionsTo (s : SessionState) (a : String) : ℕ :=
  (Table.gather (fun _ => Session.share a) s.sessions).length

/-- What one key contributes to the number. -/
def shareOf (s : SessionState) (a : String) (key : SessionKey) : ℕ :=
  ((s.sessions.lookup key).bind (Session.share a)).toList.length

variable {s : SessionState} {a : String} {key : SessionKey}

lemma sessionsTo_insert (s : SessionState) (a : String) (key : SessionKey) (session : Session) :
    (s.insert key session).sessionsTo a + s.shareOf a key
      = s.sessionsTo a + (session.share a).toList.length := by
  rw [sessionsTo, sessionsTo, insert, Table.length_gather_insert, shareOf,
    Table.length_gather (fun _ => Session.share a) s.sessions key]
  omega

lemma sessionsTo_remove (s : SessionState) (a : String) (key : SessionKey) :
    (s.remove key).sessionsTo a + s.shareOf a key = s.sessionsTo a := by
  rw [sessionsTo, sessionsTo, remove, shareOf,
    Table.length_gather (fun _ => Session.share a) s.sessions key]
  exact Nat.add_comm _ _

lemma shareOf_of_none (h : s.sessions.lookup key = none) : s.shareOf a key = 0 := by
  rw [shareOf, h]
  rfl

lemma sessionsTo_of_alter {t : SessionState} {f : Session → Session}
    (ht : t.sessions = Table.alter key f s.sessions)
    (hf : ∀ session, (f session).targetIp = session.targetIp) :
    t.sessionsTo a = s.sessionsTo a := by
  rw [sessionsTo, ht]
  refine Table.length_gather_alter _ _ _ fun session _ => ?_
  rw [Session.share, Session.share, hf]

end SessionState

namespace TableOp

variable {s : SessionState} {op : TableOp} {a : String}

/-- An operation that neither inserts nor removes a session leaves the numbers. -/
lemma sessionsTo_apply (hinsert : ∀ u now, op ≠ .insert u now)
    (hremove : ∀ key, op = .remove key → s.sessions.lookup key = none) :
    (op.apply s).sessionsTo a = s.sessionsTo a := by
  cases op with
  | keep | shutdown => rfl
  | clear key => exact SessionState.sessionsTo_of_alter (s.sessions_clear key) fun _ => rfl
  | insert u now => exact absurd rfl (hinsert u now)
  | openSocket client proxyPort =>
      rw [apply]
      split
      · rename_i hcreate
        obtain ⟨-, -, ⟨-, rfl⟩ | ⟨-, -, rfl⟩⟩ := SessionState.getOrCreate_eq_some hcreate
        · rfl
        · exact SessionState.sessionsTo_of_alter rfl fun _ => rfl
      · rfl
  | touch client now => exact SessionState.sessionsTo_of_alter rfl fun _ => rfl
  | remove key =>
      have hremoved := s.sessionsTo_remove a key
      rw [SessionState.shareOf_of_none (hremove key rfl)] at hremoved
      exact hremoved

end TableOp

namespace Proxy

variable {config : Config} {p q : Plane} {act : Action} {a : String}

/-! ### The discipline -/

/-- A default route is installed where the client has no session, a route of a query
replaces one to the same address, and the cleanup removes nothing. -/
def Balances (p : Plane) (act : Action) : Prop :=
  (∀ i event, act = .connection i event → ∀ u ∈ p.installs act,
      p.table.sessions.lookup u.key = none)
    ∧ (∀ j, act = .queryInstall j → ∀ u ∈ p.queries j, ∃ session,
      p.table.sessions.lookup u.key = some session ∧ session.targetIp = u.targetIp)
    ∧ (∀ key toRemove, act = .cleanup .remove → p.sweep = .removing (key :: toRemove) →
      p.table.sessions.lookup key = none)

/-- No operation is half done. -/
structure Plane.Settled (p : Plane) : Prop where
  established : ∀ i, (p.connections i).establishing = false
  counted : ∀ i address cached, (p.connections i).phase ≠ .counting address cached
  queries : ∀ j, p.queries j = none
  sweep : p.sweep = .waiting

/-- The sessions to an address are those counted and those installed by a task that
is still to count them. -/
def Plane.Tallied (p : Plane) (a : String) : Prop :=
  ∃ uncounted : Finset ℕ,
    (∀ i, i ∈ uncounted ↔ ∃ cached, (p.connections i).phase = .counting a cached)
      ∧ p.table.sessionsTo a = p.counts.count a + uncounted.card

/-! ### One step -/

/-- A step that neither installs, removes nor counts a session keeps the tally. -/
lemma Plane.Tallied.congr (h : p.Tallied a)
    (hphase : ∀ i, (∃ cached, (q.connections i).phase = .counting a cached)
      ↔ ∃ cached, (p.connections i).phase = .counting a cached)
    (htable : q.table.sessionsTo a = p.table.sessionsTo a)
    (hcounts : q.counts.count a = p.counts.count a) : q.Tallied a := by
  obtain ⟨uncounted, hmem, htally⟩ := h
  exact ⟨uncounted, fun i => (hmem i).trans (hphase i).symm, by rw [htable, hcounts, htally]⟩

/-- A task that is neither before nor behind its count leaves the others to count. -/
lemma counting_enter {i : ℕ} {phase : Phase} {effect : Effect}
    (hold : ∀ cached, (p.connections i).phase ≠ .counting a cached)
    (hnew : ∀ cached, phase ≠ .counting a cached) (j : ℕ) :
    (∃ cached, (((p.perform effect).enter i phase).connections j).phase = .counting a cached)
      ↔ ∃ cached, (p.connections j).phase = .counting a cached := by
  rw [connections_move]
  by_cases hj : j = i
  · subst hj
    rw [Function.update_self]
    constructor
    · rintro ⟨cached, h⟩
      exact absurd h (hnew cached)
    · rintro ⟨cached, h⟩
      exact absurd h (hold cached)
  · rw [Function.update_of_ne hj]

lemma count_increment (counts : SessionCounts) (a address : String) :
    (counts.increment address).count a = counts.count a + if a = address then 1 else 0 := by
  by_cases h : a = address
  · subst h
    simp [SessionCounts.increment, SessionCounts.count]
  · simp [SessionCounts.increment, SessionCounts.count, AList.lookup_insert_ne h, h]

/-- A default route that is installed where there was no session is one more session,
still to be counted. -/
lemma Plane.Tallied.install (h : p.Tallied a) {i : ℕ} {endpoint : Endpoint} {cached : Bool}
    (hphase : (p.connections i).phase = .installing endpoint cached)
    (hnone : p.table.sessions.lookup ((p.connections i).upsert endpoint).key = none) :
    Plane.Tallied ((p.perform (.sessions (p.table.insert ((p.connections i).upsert endpoint).key
      (((p.connections i).upsert endpoint).session p.now)))).enter i
        (.counting endpoint.address cached)) a := by
  obtain ⟨uncounted, hmem, htally⟩ := h
  have hnew := p.table.sessionsTo_insert a ((p.connections i).upsert endpoint).key
    (((p.connections i).upsert endpoint).session p.now)
  rw [SessionState.shareOf_of_none hnone, htally] at hnew
  by_cases ha : endpoint.address = a
  · subst ha
    have hi : i ∉ uncounted := fun hi => by
      obtain ⟨cached', hcounting⟩ := (hmem i).mp hi
      simp [hphase] at hcounting
    refine ⟨insert i uncounted, fun j => ?_, ?_⟩
    · rw [Finset.mem_insert, hmem j, connections_move]
      by_cases hj : j = i
      · subst hj
        simp
      · rw [Function.update_of_ne hj]
        simp [hj]
    · have hshare : Session.share endpoint.address
          (((p.connections i).upsert endpoint).session p.now) = some () := if_pos rfl
      rw [hshare] at hnew
      rw [Finset.card_insert_of_notMem hi, ← Nat.add_assoc]
      exact hnew
  · refine ⟨uncounted, fun j => ?_, ?_⟩
    · rw [hmem j]
      exact (counting_enter (by simp [hphase]) (by simp [ha]) j).symm
    · have hshare : Session.share a (((p.connections i).upsert endpoint).session p.now) = none :=
        if_neg ha
      rw [hshare] at hnew
      exact hnew

/-- A session that is counted is no longer to be counted. -/
lemma Plane.Tallied.count (h : p.Tallied a) {i : ℕ} {address : String} {cached : Bool}
    (hphase : (p.connections i).phase = .counting address cached) {phase : Phase}
    (hnew : ∀ cached, phase ≠ .counting a cached) :
    Plane.Tallied ((p.perform (.count address cached)).enter i phase) a := by
  obtain ⟨uncounted, hmem, htally⟩ := h
  have hcounts := count_increment p.counts a address
  by_cases ha : a = address
  · subst ha
    have hi : i ∈ uncounted := (hmem i).mpr ⟨cached, hphase⟩
    have hcard := Finset.card_erase_add_one hi
    refine ⟨uncounted.erase i, fun j => ?_, ?_⟩
    · rw [Finset.mem_erase, hmem j, connections_move]
      by_cases hj : j = i
      · subst hj
        simp [hnew]
      · rw [Function.update_of_ne hj]
        simp [hj]
    · rw [if_pos rfl] at hcounts
      change p.table.sessionsTo a = (p.counts.increment a).count a + _
      rw [hcounts, htally, ← hcard]
      omega
  · refine ⟨uncounted, fun j => ?_, ?_⟩
    · rw [hmem j]
      refine (counting_enter (fun cached' h => ha ?_) hnew j).symm
      rw [hphase] at h
      exact (Phase.counting.inj h).1.symm
    · rw [if_neg ha] at hcounts
      change p.table.sessionsTo a = (p.counts.increment address).count a + _
      rw [hcounts, htally]
      rfl

/-- No move but an install goes to a count. -/
lemma Moves.ne_counting {c : Connection} {old phase : Phase} {event : Event} {effect : Effect}
    (h : Moves config p c old event phase effect)
    (hold : ∀ endpoint cached, old ≠ .installing endpoint cached) (address : String)
    (cached : Bool) : phase ≠ .counting address cached := by
  cases h with
  | install => exact absurd rfl (hold _ _)
  | found | count => exact Connection.routed_ne (by simp) (by simp)
  | query | store => exact Connection.supported_ne (by simp) (by simp)
  | @fault _ _ fault => cases fault <;> simp [faulted]
  | @sent first => cases first <;> simp
  | _ => simp

lemma installing_of_installs {i : ℕ} {event : Event} {u : Upsert}
    (hu : p.installs (.connection i event) = some u) :
    ∃ endpoint cached, (p.connections i).phase = .installing endpoint cached := by
  unfold Plane.installs at hu
  split at hu
  · rename_i hact
    split at hu
    · rename_i endpoint cached hphase
      obtain ⟨rfl, -⟩ := Action.connection.inj hact
      exact ⟨endpoint, cached, hphase⟩
    · simp at hu
  · rename_i hact
    simp at hact
  · simp at hu

/-- A move of a task that neither installs nor counts a session keeps the tally. -/
lemma Plane.Tallied.move (h : p.Tallied a) {i : ℕ} {event : Event} {phase : Phase}
    {effect : Effect}
    (hmoves : Moves config p (p.connections i) (p.connections i).phase event phase effect)
    (hinstalling : ∀ endpoint cached, (p.connections i).phase ≠ .installing endpoint cached)
    (hcounting : ∀ address cached, (p.connections i).phase ≠ .counting address cached) :
    Plane.Tallied ((p.perform effect).enter i phase) a := by
  have htable : (effect.table p).sessionsTo a = p.table.sessionsTo a := by
    obtain ⟨op, hperforms, hop⟩ := hmoves.performs
    rw [hop]
    cases hperforms with
    | insert hu =>
        obtain ⟨endpoint, cached, hphase⟩ := installing_of_installs hu
        exact absurd hphase (hinstalling endpoint cached)
    | _ => exact TableOp.sessionsTo_apply (by simp) (by simp)
  have hcounts : ((p.perform effect).enter i phase).counts.count a = p.counts.count a := by
    generalize (p.connections i).phase = old at hmoves hcounting
    cases hmoves with
    | count => exact absurd rfl (hcounting _ _)
    | _ => rfl
  exact h.congr (counting_enter (hcounting a) (hmoves.ne_counting hinstalling a))
    (by rw [table_move, htable]) hcounts

/-- **A step of the discipline keeps the tally.** -/
theorem Plane.Tallied.step (h : p.Tallied a) (hbalances : Balances p act)
    (hstep : Proxy.step config p act = some q) : q.Tallied a := by
  cases steps_of_step hstep with
  | @connection i event phase effect hmoves =>
      by_cases hinstalling :
          ∃ endpoint cached, (p.connections i).phase = .installing endpoint cached
      · obtain ⟨endpoint, cached, hphase⟩ := hinstalling
        rw [hphase] at hmoves
        cases hmoves
        exact h.install hphase (hbalances.1 i .install rfl _ (by simp [Plane.installs, hphase]))
      by_cases hcounting : ∃ address cached, (p.connections i).phase = .counting address cached
      · obtain ⟨address, cached, hphase⟩ := hcounting
        rw [hphase] at hmoves
        have hnew := hmoves.ne_counting (by simp) a
        cases hmoves
        exact h.count hphase hnew
      exact h.move hmoves (by simpa using hinstalling) (by simpa using hcounting)
  | queryClear hidle =>
      exact h.congr (fun _ => Iff.rfl)
        (SessionState.sessionsTo_of_alter (p.table.sessions_clear _) fun _ => rfl) rfl
  | @queryInstall j u hu =>
      obtain ⟨session, hsession, htarget⟩ := hbalances.2.1 j rfl u hu
      refine h.congr (fun _ => Iff.rfl) ?_ rfl
      have hnew := p.table.sessionsTo_insert a u.key (u.session p.now)
      rw [SessionState.shareOf, hsession, Option.bind_some, Session.share, htarget] at hnew
      exact Nat.add_right_cancel hnew
  | cleanup hsweeps =>
      generalize hsweep : p.sweep = sweep at hsweeps
      cases hsweeps with
      | remove hlookup =>
          rw [hbalances.2.2 _ _ rfl hsweep] at hlookup
          simp at hlookup
      | _ => exact h.congr (fun _ => Iff.rfl) rfl rfl
  | tick | invalidate => exact h.congr (fun _ => Iff.rfl) rfl rfl

/-! ### Runs -/

lemma tallied_initial (h₀ : p.Initial) (hcounts : p.counts = ∅) : p.Tallied a := by
  refine ⟨∅, fun i => ?_, ?_⟩
  · simp [h₀.connections i]
  · rw [h₀.table, hcounts]
    rfl

/-- A settled plane has counted every session. -/
lemma Plane.Tallied.count_eq (h : p.Tallied a) (hsettled : p.Settled) :
    p.counts.count a = p.table.sessionsTo a := by
  obtain ⟨uncounted, hmem, htally⟩ := h
  have hnone : uncounted = ∅ := by
    rw [Finset.eq_empty_iff_forall_notMem]
    intro i hi
    obtain ⟨cached, hphase⟩ := (hmem i).mp hi
    exact hsettled.counted i a cached hphase
  rw [htally, hnone, Finset.card_empty, Nat.add_zero]

/-- **The counts are the numbers of sessions** in a run of the discipline, whenever
nothing is half done. -/
theorem counts_eq_sessions {p₀ : Plane} {acts : List Action} (h₀ : p₀.Initial)
    (hcounts : p₀.counts = ∅) (hbalances : Run.Along (Proxy.step config) Balances p₀ acts)
    (hrun : Run.run (Proxy.step config) p₀ acts = some p) (hsettled : p.Settled) (a : String) :
    p.counts.count a = p.table.sessionsTo a := by
  have htallied : p.Tallied a :=
    Run.run_invariant_along (I := fun q => q.Tallied a) (fun _ _ _ h hG hstep => h.step hG hstep)
      (tallied_initial h₀ hcounts) hbalances hrun
  exact htallied.count_eq hsettled

namespace Sample

/-- The steps of the first packet up to its install. -/
def firstPacket : List Action := .connection 0 .arrive :: establish

/-- The first packet, with its session counted and the datagram sent. -/
def countedPacket : List Action :=
  firstPacket ++ [.install, .count, .forward true, .sent true].map (.connection 0)

/-- The first packet, and a pass of the cleanup once its session has timed out. -/
def wholeLife : List Action :=
  countedPacket ++ .tick (301 * 10 ^ 9) :: [.pass, .examine (.legacyIp client.ip), .collected,
    .remove, .shutdown, .rest].map .cleanup

/-- The first packet about to install its default route. -/
def beforeInstall : Plane := reach plane firstPacket (by decide +kernel)

/-- The data plane once the first packet has been sent. -/
def counted : Plane := reach plane countedPacket (by decide +kernel)

/-- The data plane once the session of the first packet has timed out. -/
def expired : Plane := reach plane wholeLife (by decide +kernel)

/-- A step of the first packet, of the cleanup or of the clock. -/
def ofFirst : Action → Bool
  | .connection j _ => j == 0
  | .cleanup _ | .tick _ => true
  | _ => false

/-- The task of a packet has ended. -/
def isDone (c : Connection) : Bool :=
  match c.phase with
  | .done _ => true
  | _ => false

/-- The cleanup is between two passes. -/
def isWaiting : Sweep → Bool
  | .waiting => true
  | _ => false

/-- Only the first packet and the cleanup are to settle in a run of such steps. -/
lemma settled_of_first {acts : List Action}
    (hrun : Run.run (Proxy.step settings) plane acts = some q) (hacts : acts.all ofFirst = true)
    (hdone : isDone (q.connections 0) = true) (hsweep : isWaiting q.sweep = true) :
    q.Settled := by
  have hrest : (∀ i, (q.connections (i + 1)).phase = .arrived) ∧ ∀ j, q.queries j = none := by
    refine Run.run_invariant_along (G := fun _ act => ofFirst act = true)
      (I := fun r => (∀ i, (r.connections (i + 1)).phase = .arrived) ∧ ∀ j, r.queries j = none)
      ?_ ⟨fun _ => rfl, fun _ => rfl⟩
      (Run.along_of_forall (fun act hact _ => List.all_eq_true.mp hacts act hact) plane) hrun
    intro r act t hr hact hstep
    refine ⟨fun i => ?_, ?_⟩
    · rw [connections_of_step hstep]
      · exact hr.1 i
      · rintro event rfl
        simp [ofFirst] at hact
    · cases steps_of_step hstep with
      | @connection i event phase effect => cases effect <;> exact hr.2
      | cleanup hsweeps =>
          generalize r.sweep = sweep at hsweeps
          cases hsweeps <;> exact hr.2
      | tick => exact hr.2
      | _ => simp [ofFirst] at hact
  have hphase : ∃ result, (q.connections 0).phase = .done result := by
    unfold isDone at hdone
    split at hdone
    · exact ⟨_, by assumption⟩
    · simp at hdone
  obtain ⟨result, hphase⟩ := hphase
  constructor
  · rintro (_ | i)
    · rw [Connection.establishing, hphase]
    · rw [Connection.establishing, hrest.1 i]
  · rintro (_ | i)
    · simp [hphase]
    · simp [hrest.1 i]
  · exact hrest.2
  · unfold isWaiting at hsweep
    split at hsweep
    · assumption
    · simp at hsweep

lemma settled_counted : counted.Settled :=
  settled_of_first (run_reach _ _ _) (by decide) (by decide +kernel) (by decide +kernel)

lemma settled_expired : expired.Settled :=
  settled_of_first (run_reach _ _ _) (by decide) (by decide +kernel) (by decide +kernel)

/-- The client has no session when the first packet installs its route. -/
lemma balances_counted : Run.Along (Proxy.step settings) Balances plane countedPacket := by
  refine (Run.along_append _ _ _).mpr ⟨?_, fun t ht => ⟨?_, fun t' _ => ?_⟩⟩
  · exact Run.along_of_forall (by simp [firstPacket, establish, Balances, Plane.installs]) plane
  · obtain rfl : beforeInstall = t := Option.some.inj ((run_reach _ _ _).symm.trans ht)
    refine ⟨?_, by simp, by simp⟩
    rintro i event heq u hu
    have hentries : beforeInstall.table.sessions.entries = [] := by decide +kernel
    have hempty : beforeInstall.table.sessions = ∅ := AList.ext hentries
    rw [hempty, AList.lookup_empty]
  · exact Run.along_of_forall (by simp [Balances, Plane.installs]) t'

end Sample

/-- The first packet of a client. -/
theorem counts_eq_sessions_sample :
    Sample.counted.counts.count "10.0.0.1" = Sample.counted.table.sessionsTo "10.0.0.1" :=
  counts_eq_sessions Sample.initial_plane rfl Sample.balances_counted (Sample.run_reach _ _ _)
    Sample.settled_counted "10.0.0.1"

/-- **A session that times out is not taken off the counts**: the first packet of a
client installs a default route, the cleanup removes its session 301 seconds later,
and the count of its backend stays at one. -/
theorem count_outlives_session :
    Sample.plane.Initial ∧ Sample.plane.counts = ∅
      ∧ Run.run (step Sample.settings) Sample.plane Sample.wholeLife = some Sample.expired
      ∧ Sample.expired.Settled
      ∧ Sample.expired.counts.count "10.0.0.1" = 1
      ∧ Sample.expired.table.sessionsTo "10.0.0.1" = 0 :=
  ⟨Sample.initial_plane, rfl, Sample.run_reach _ _ _, Sample.settled_expired, by decide +kernel,
    by decide +kernel⟩

end Proxy

end UdpDirector
