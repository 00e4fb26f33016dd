import Mathlib.Data.List.GetD
import UdpDirector.Access.Flights
import UdpDirector.Foundation.Fair

/-!
No request is left hanging.

* `Stage.prompt`: where a request goes on as soon as it is scheduled and the API replies,
  `Stage.rank` counting what is left until it is answered or waits;
* `released`: a request that holds the assignments lock gives it up;
* `waits_or_ends`: a request gets to its answer or to the wait for capacity, past the lock;
* `deadline_of_waiting`: one that waits has a deadline, which stays;
* `eventually_answered`: under fair scheduling every request ends, however many others there
  are and whatever the cluster does.
-/

namespace UdpDirector

variable {ext : Externals} {config : Config}

/-! ### Stages -/

namespace Stage

/-- The request waits for nobody but the API. -/
def prompt : Stage ext config → Bool
  | .locking | .relocking | .awaitingDemand _ | .watching _ => false
  | _ => true

/-- The steps left until the request is answered or waits. -/
def rank : Stage ext config → ℕ
  | .listing | .relisting => 6
  | .deciding _ _ => 5
  | .signalling _ _ | .extracting _ => 4
  | .allocating _ => 3
  | .clearing _ => 2
  | .installing _ => 1
  | _ => 0

end Stage

namespace Phase

/-- The request is at a prompt stage. -/
def prompt : Phase ext config → Bool
  | .running _ stage => stage.prompt
  | _ => false

/-- The request waits inside the `select!`. -/
def waiting : Phase ext config → Bool
  | .running _ stage => stage.waiting
  | _ => false

/-- The steps left until the request is answered or waits. -/
def rank : Phase ext config → ℕ
  | .running _ stage => stage.rank
  | _ => 0

/-- Whoever holds the lock is prompt. -/
lemma prompt_of_holds {p : Phase ext config} (h : p.holds = true) : p.prompt = true := by
  cases p with
  | running a stage =>
      rw [holds, Bool.and_eq_true] at h
      cases stage <;> first | rfl | exact absurd h.2 (by simp [Stage.locked])
  | _ => cases h

/-- A request that has begun is over, waits, waits for the lock, or is prompt. -/
lemma cases_of_ne_entry {p : Phase ext config} (h : p ≠ .entry) :
    p.ended = true ∨ p.waiting = true ∨ (∃ a, p = .running a .locking) ∨ p.prompt = true := by
  cases p with
  | entry => exact absurd rfl h
  | done | panicked => exact .inl rfl
  | running a stage =>
      cases stage with
      | locking => exact .inr (.inr (.inl ⟨a, rfl⟩))
      | awaitingDemand | watching | relocking | relisting => exact .inr (.inl rfl)
      | _ => exact .inr (.inr (.inr rfl))

end Phase

/-! ### One step -/

section

variable {w w' : World ext config} {q : TaskId} {p p' : Phase ext config} {event : Event}
  {eff : Effect}

/-- A prompt request ends, comes to wait, or has less left. -/
lemma Moves.rank_lt (h : Moves w q p event p' eff) (hp : p.prompt = true) :
    p'.ended = true ∨ (∃ a version, p' = .running a (.awaitingDemand version))
      ∨ p'.prompt = true ∧ p'.rank < p.rank := by
  cases h with
  | reject hrefused | refuse _ hrefused => exact .inl hrefused.ended
  | reply | poison | install => exact .inl rfl
  | rejoin | signal => exact .inr (.inl ⟨_, _, rfl⟩)
  | list hstage =>
      rcases hstage with rfl | rfl <;> exact .inr (.inr ⟨rfl, by simp [Phase.rank, Stage.rank]⟩)
  | assign | wait | connected | allocate | patch | clear =>
      exact .inr (.inr ⟨rfl, by simp [Phase.rank, Stage.rank]⟩)
  | _ => cases hp

/-- **A prompt request can go on.** -/
lemma exists_step_of_prompt (h : (w.tasks q).phase.prompt = true) :
    ∃ event w', step w (.task q event) = some w' := by
  suffices ∃ event, (advance w q event).isSome = true by
    obtain ⟨event, hsome⟩ := this
    obtain ⟨⟨phase, eff⟩, hadvance⟩ := Option.isSome_iff_exists.mp hsome
    exact ⟨event, _, step_of_advance hadvance⟩
  cases hphase : (w.tasks q).phase with
  | running a stage =>
      rw [hphase] at h
      cases stage with
      | locking | relocking | awaitingDemand | watching => cases h
      | listing | relisting => exact ⟨.list none, by simp only [advance, hphase]; rfl⟩
      | deciding => exact ⟨.decide ⟨0, 0⟩, by simp only [advance, hphase]; rfl⟩
      | signalling => exact ⟨.signal, by simp only [advance, hphase]; rfl⟩
      | extracting => exact ⟨.extract none, by simp only [advance, hphase]; rfl⟩
      | allocating target =>
          refine ⟨.patch none, ?_⟩
          simp only [advance, hphase, allocated]
          cases allocateRequest target.choice.candidate.pod <;> rfl
      | clearing => exact ⟨.clear, by simp only [advance, hphase]; rfl⟩
      | installing => exact ⟨.install, by simp only [advance, hphase]; rfl⟩
  | _ =>
      rw [hphase] at h
      cases h

/-- A request that waits for the lock can take it once it is free. -/
lemma step_acquire {a : Access} (hphase : (w.tasks q).phase = .running a .locking)
    (hfree : (w.director q).assignments = none) : ∃ w', step w (.task q .acquire) = some w' := by
  have hadvance : advance w q .acquire = some (.running a .listing, .lock) := by
    simp only [advance, hphase, hfree, if_true]
  exact ⟨_, step_of_advance hadvance⟩

/-- A request that waits past its deadline can time out. -/
lemma step_timeout {deadline : Instant} (hwaiting : (w.tasks q).phase.waiting = true)
    (hdeadline : w.deadline q = some deadline) (hnow : deadline ≤ (w.director q).now) :
    ∃ w', step w (.task q .timeout) = some w' := by
  cases hphase : (w.tasks q).phase with
  | running a stage =>
      rw [hphase] at hwaiting
      have hadvance : advance w q .timeout = some (.done (.error (.demand .timeout)), .none) := by
        have hguard : stage.waiting = true
            ∧ ∃ deadline ∈ w.deadline q, deadline ≤ (w.director q).now :=
          ⟨hwaiting, deadline, hdeadline, hnow⟩
        cases stage <;> simp only [advance, hphase] <;> exact if_pos hguard
      exact ⟨_, step_of_advance hadvance⟩
  | _ =>
      rw [hphase] at hwaiting
      cases hwaiting

/-- A timeout ends the request. -/
lemma ended_of_timeout (h : step w (.task q .timeout) = some w') :
    (w'.tasks q).phase.ended = true := by
  obtain ⟨p, eff, hmoves, rfl⟩ := exists_moves_of_step h
  rw [World.phase_move, hmoves.eq_of_timeout]
  rfl

/-- The deadline of a request is that of its flight. -/
lemma deadline_of_heldFlight {id : FlightId} {flight : Flight}
    (h : w.heldFlight q = some (id, flight)) : w.deadline q = some flight.deadline := by
  obtain ⟨id', hid, h⟩ := Option.bind_eq_some_iff.mp h
  obtain ⟨flight', hflight, h⟩ := Option.bind_eq_some_iff.mp h
  obtain ⟨rfl, rfl⟩ := Prod.mk.inj (Option.some.inj h)
  simp [World.deadline, hid, hflight]

/-- A request that waits holds a flight. -/
def World.Awaiting (w : World ext config) : Prop :=
  ∀ q, (w.tasks q).phase.waiting = true → (w.tasks q).flight.isSome = true

lemma Moves.awaiting (h : Moves w q p event p' eff)
    (hp : p.waiting = true → (w.tasks q).flight.isSome = true) (hp' : p'.waiting = true) :
    (w.flightAfter q eff).isSome = true := by
  cases h with
  | reject hrefused | refuse _ hrefused => cases hrefused <;> cases hp'
  | rejoin hf => exact Option.isSome_iff_exists.mpr ⟨_, hf⟩
  | signal | poll => rfl
  | accept | watched | reacquire => exact hp rfl
  | _ => cases hp'

/-- A step of a request leaves one that waits with a flight. -/
lemma World.Awaiting.step {action : Action} (h : w.Awaiting)
    (hstep : UdpDirector.step w action = some w') : w'.Awaiting := by
  intro r hwaiting
  obtain ⟨event, p', eff, rfl, hmoves, rfl⟩ | ⟨-, htask⟩ := moves_or_others hstep r
  · rw [phase_move] at hwaiting
    have hended : p'.ended = false := by
      cases p' <;> first | rfl | cases hwaiting
    rw [flight_move, hended]
    exact hmoves.awaiting (h r) hwaiting
  · rw [htask] at hwaiting ⊢
    exact h r hwaiting

/-- The clocks do not go back. -/
lemma World.now_le_of_step {action : Action} (hstep : UdpDirector.step w action = some w') (d : ℕ) :
    (w.directors d).now ≤ (w'.directors d).now := by
  have hupdate : ∀ (d' : ℕ) (f : Director → Director), (∀ x, x.now ≤ (f x).now) →
      (w.directors d).now ≤ ((w.updateDirector d' f).directors d).now := by
    intro d' f hf
    rcases eq_or_ne d d' with rfl | hne
    · simpa [World.updateDirector] using hf _
    · simp [World.updateDirector, hne]
  cases action with
  | task q event =>
      obtain ⟨p, eff, -, rfl⟩ := exists_moves_of_step hstep
      rw [w.now_move]
  | write name o =>
      obtain ⟨-, -, rfl⟩ := step_write hstep
      exact le_rfl
  | delete name =>
      obtain rfl := Option.some.inj hstep
      exact le_rfl
  | tick d' nanos =>
      obtain rfl := Option.some.inj hstep
      exact hupdate d' _ fun _ => Nat.le_add_right _ _
  | dataPlane d' sessions =>
      obtain rfl := Option.some.inj hstep
      exact hupdate d' _ fun _ => le_rfl

end

/-! ### Fair runs -/

/-- Fair scheduling, as far as a request depends on it. -/
structure FairTo (ρ : Run.Forever (step : World ext config → Action → Option (World ext config)))
    (q : TaskId) : Prop where
  /-- A request that waits for nobody but the API goes on. -/
  prompt : ∀ r, ρ.WeakFair (fun a => ∃ event, a = .task r event) fun w =>
    (w.tasks r).phase.prompt = true ∧ ∃ event w', step w (.task r event) = some w'
  /-- A request that finds the lock free again and again gets it. -/
  lock : ρ.StrongFair (fun a => a = .task q .acquire)
    fun w => ∃ w', step w (.task q .acquire) = some w'
  /-- A deadline that has passed ends the wait. -/
  timer : ρ.StrongFair (fun a => a = .task q .timeout)
    fun w => ∃ w', step w (.task q .timeout) = some w'
  clock : ∀ t, ∃ n, t ≤ ((ρ.state n).director q).now

section

variable {ρ : Run.Forever (step : World ext config → Action → Option (World ext config))}
  {q : TaskId}

/-- A request stays with its director. -/
lemma director_of_forever (r : TaskId) (n : ℕ) :
    ((ρ.state n).tasks r).director = ((ρ.state 0).tasks r).director :=
  ρ.always (I := fun w => (w.tasks r).director = ((ρ.state 0).tasks r).director) rfl
    (fun _ _ _ hw hstep => (task_of_step hstep r).1.trans hw) n

/-- **A request that holds the lock gives it up.** -/
lemma released (hfair : FairTo ρ q) (r : TaskId) :
    ρ.LeadsTo (fun w => (w.tasks r).phase.holds = true) fun w => (w.tasks r).phase.holds = false
    := by
  refine Run.Forever.leadsTo_of_rank (fun w => (w.tasks r).phase.rank) (hfair.prompt r) ?_ ?_ ?_
  · intro n hholds _
    have hprompt := Phase.prompt_of_holds hholds
    exact ⟨hprompt, exists_step_of_prompt hprompt⟩
  · rintro n hholds ⟨event, hlabel⟩
    have hstep := ρ.next n
    rw [hlabel] at hstep
    obtain ⟨p', eff, hmoves, heq⟩ := exists_moves_of_step hstep
    rw [heq, World.phase_move]
    obtain hended | ⟨a, version, rfl⟩ | ⟨-, hrank⟩ :=
      hmoves.rank_lt (Phase.prompt_of_holds hholds)
    · exact .inl (Phase.holds_of_ended hended)
    · exact .inl (by simp [Phase.holds, Stage.locked])
    · cases hholds' : p'.holds with
      | false => exact .inl rfl
      | true => exact .inr ⟨rfl, hrank⟩
  · intro n hholds hlabel
    rw [tasks_of_step (ρ.next n) fun event heq => hlabel ⟨event, heq⟩]
    exact .inr ⟨hholds, le_rfl⟩

/-- The lock of a director does not stay taken. -/
lemma exists_free (h₀ : (ρ.state 0).Initial) (hfair : FairTo ρ q) (d n : ℕ) :
    ∃ m, n ≤ m ∧ ((ρ.state m).directors d).assignments = none := by
  have hdisciplined : ∀ m, (ρ.state m).Disciplined :=
    ρ.always h₀.disciplined fun _ _ _ hw hstep => hw.step hstep
  cases hholder : ((ρ.state n).directors d).assignments with
  | none => exact ⟨n, le_rfl, hholder⟩
  | some r =>
      obtain ⟨hd, hholds⟩ := ((hdisciplined n).held d r).mp hholder
      obtain ⟨m, hm, hreleased⟩ := released hfair r n hholds
      -- right after the holder gives it up, nobody has it
      obtain ⟨k, hk, hbefore, hafter⟩ := Run.Forever.exists_change
        (P := fun w : World ext config => (w.tasks r).phase.holds = true) hm hholds
        (by simp [hreleased])
      refine ⟨k + 1, by omega, ?_⟩
      by_contra hne
      obtain ⟨r', hr'⟩ := Option.ne_none_iff_exists'.mp hne
      obtain ⟨hd', hholds'⟩ := ((hdisciplined (k + 1)).held d r').mp hr'
      have hnot : r' ≠ r := by
        rintro rfl
        exact hafter hholds'
      have hlabel : ∃ event, ρ.label k = .task r event := by
        by_contra hlabel
        rw [tasks_of_step (ρ.next k) fun event heq => hlabel ⟨event, heq⟩] at hafter
        exact hafter hbefore
      obtain ⟨event, hlabel⟩ := hlabel
      have hsame : (ρ.state (k + 1)).tasks r' = (ρ.state k).tasks r' := by
        refine tasks_of_step (ρ.next k) fun event' heq => hnot ?_
        rw [hlabel] at heq
        exact (Action.task.inj heq).1.symm
      rw [hsame] at hholds'
      refine hnot ((hdisciplined k).eq_of_holds ?_ hbefore hholds')
      rw [director_of_forever r' k, ← director_of_forever r' (k + 1), hd',
        director_of_forever r k, ← director_of_forever r n, hd]

/-- A request that waits for the lock does not wait for ever. -/
lemma locking_leadsTo (h₀ : (ρ.state 0).Initial) (hfair : FairTo ρ q) :
    ρ.LeadsTo (fun w => ∃ a, (w.tasks q).phase = .running a .locking)
      fun w => (w.tasks q).phase ≠ .entry ∧ ¬∃ a, (w.tasks q).phase = .running a .locking := by
  have hleaves : ∀ n event, (∃ a, ((ρ.state n).tasks q).phase = .running a .locking) →
      ρ.label n = .task q event → ((ρ.state (n + 1)).tasks q).phase ≠ .entry
        ∧ ¬∃ a, ((ρ.state (n + 1)).tasks q).phase = .running a .locking := by
    rintro n event ⟨a, hphase⟩ hlabel
    have hstep := ρ.next n
    rw [hlabel] at hstep
    obtain ⟨p', eff, hmoves, heq⟩ := exists_moves_of_step hstep
    rw [heq, World.phase_move]
    rw [hphase] at hmoves
    refine ⟨hmoves.ne_entry, ?_⟩
    rintro ⟨a', rfl⟩
    cases hmoves with
    | refuse _ hrefused => cases hrefused
  refine Run.Forever.leadsTo_of_strongFair hfair.lock ?_ ?_ ?_
  · intro n hlocking
    obtain ⟨m, hm, hfree⟩ := exists_free h₀ hfair ((ρ.state 0).tasks q).director n
    obtain ⟨a, hphase⟩ := hlocking m hm
    refine ⟨m, hm, step_acquire hphase ?_⟩
    rwa [World.director, director_of_forever q m]
  · exact fun n hlocking hlabel => hleaves n .acquire hlocking hlabel
  · intro n hlocking hlabel
    by_cases hown : ∃ event, ρ.label n = .task q event
    · obtain ⟨event, hown⟩ := hown
      exact .inl (hleaves n event hlocking hown)
    · rw [tasks_of_step (ρ.next n) fun event heq => hown ⟨event, heq⟩]
      exact .inr hlocking

/-- A prompt request gets to its answer, or waits for capacity. -/
lemma prompt_leadsTo (hfair : FairTo ρ q) :
    ρ.LeadsTo (fun w => (w.tasks q).phase.prompt = true)
      fun w => (w.tasks q).phase.ended = true ∨ (w.tasks q).phase.waiting = true := by
  refine Run.Forever.leadsTo_of_rank (fun w => (w.tasks q).phase.rank) (hfair.prompt q) ?_ ?_ ?_
  · exact fun n hprompt _ => ⟨hprompt, exists_step_of_prompt hprompt⟩
  · rintro n hprompt ⟨event, hlabel⟩
    have hstep := ρ.next n
    rw [hlabel] at hstep
    obtain ⟨p', eff, hmoves, heq⟩ := exists_moves_of_step hstep
    rw [heq, World.phase_move]
    obtain hended | ⟨a, version, rfl⟩ | hless := hmoves.rank_lt hprompt
    · exact .inl (.inl hended)
    · exact .inl (.inr rfl)
    · exact .inr hless
  · intro n hprompt hlabel
    rw [tasks_of_step (ρ.next n) fun event heq => hlabel ⟨event, heq⟩]
    exact .inr ⟨hprompt, le_rfl⟩

/-- **A request that has begun ends, or comes to wait for capacity.** -/
lemma waits_or_ends (h₀ : (ρ.state 0).Initial) (hfair : FairTo ρ q) :
    ρ.LeadsTo (fun w => (w.tasks q).phase ≠ .entry)
      fun w => (w.tasks q).phase.ended = true ∨ (w.tasks q).phase.waiting = true := by
  -- past the lock, a request that has begun is over, waits or is prompt
  have hpast : ρ.LeadsTo (fun w => (w.tasks q).phase ≠ .entry
        ∧ ¬∃ a, (w.tasks q).phase = .running a .locking)
      fun w => (w.tasks q).phase.ended = true ∨ (w.tasks q).phase.waiting = true := by
    rintro n ⟨hbegun, hpast⟩
    obtain hended | hwaiting | hlocking | hprompt := Phase.cases_of_ne_entry hbegun
    · exact ⟨n, le_rfl, .inl hended⟩
    · exact ⟨n, le_rfl, .inr hwaiting⟩
    · exact absurd hlocking hpast
    · exact prompt_leadsTo hfair n hprompt
  intro n hbegun
  by_cases hlocking : ∃ a, ((ρ.state n).tasks q).phase = .running a .locking
  · exact (locking_leadsTo h₀ hfair).trans hpast n hlocking
  · exact hpast n ⟨hbegun, hlocking⟩

/-- A request that has begun does not go back. -/
lemma ne_entry_of_forever {n : ℕ} (hbegun : ((ρ.state n).tasks q).phase ≠ .entry) {m : ℕ}
    (hm : n ≤ m) : ((ρ.state m).tasks q).phase ≠ .entry := by
  refine ρ.stays (I := fun w => (w.tasks q).phase ≠ .entry) ?_ hbegun hm
  intro k hk
  obtain ⟨event, p', eff, -, hmoves, heq⟩ | ⟨-, htask⟩ := moves_or_others (ρ.next k) q
  · rw [heq, World.phase_move]
    exact hmoves.ne_entry
  · rwa [htask]

/-- A request that waits keeps its deadline, as long as it does not end. -/
lemma deadline_of_waiting (h₀ : (ρ.state 0).Initial) {n : ℕ}
    (hwaiting : ((ρ.state n).tasks q).phase.waiting = true)
    (hrunning : ∀ m, n ≤ m → ((ρ.state m).tasks q).phase.ended = false) :
    ∃ deadline, ∀ m, n ≤ m → (ρ.state m).deadline q = some deadline := by
  have hawaiting : (ρ.state n).Awaiting :=
    ρ.always (I := World.Awaiting) (fun r h => by rw [h₀.entry r] at h; cases h)
      (fun _ _ _ hw hstep => hw.step hstep) n
  have hgrouped : (ρ.state n).Grouped :=
    ρ.always h₀.grouped (fun _ _ _ hw hstep => hw.step hstep) n
  obtain ⟨id, hid⟩ := Option.isSome_iff_exists.mp (hawaiting q hwaiting)
  obtain ⟨flight, hflight⟩ : ∃ flight, (ρ.state n).heldFlight q = some (id, flight) := by
    cases hphase : ((ρ.state n).tasks q).phase with
    | running a stage =>
        obtain ⟨flight, hflight, -⟩ := hgrouped.asked q a stage id hphase hid
        exact ⟨flight, by simp [World.heldFlight, World.director, hid, hflight]⟩
    | _ =>
        rw [hphase] at hwaiting
        cases hwaiting
  refine ⟨flight.deadline, fun m hm => ?_⟩
  suffices ∃ flight', (ρ.state m).heldFlight q = some (id, flight')
      ∧ flight'.deadline = flight.deadline by
    obtain ⟨flight', hheld, hdeadline⟩ := this
    rw [deadline_of_heldFlight hheld, hdeadline]
  induction m, hm using Nat.le_induction with
  | base => exact ⟨flight, hflight, rfl⟩
  | succ m hm ih =>
      obtain ⟨flight', hheld, hdeadline⟩ := ih
      obtain hended | ⟨flight'', hheld', hlater⟩ := World.heldFlight_of_step (ρ.next m) hheld
      · rw [hrunning (m + 1) (by omega)] at hended
        cases hended
      · exact ⟨flight'', hheld', hlater.deadline.trans hdeadline⟩

/-- **Every request ends.** In every infinite run in which the requests that wait for nobody
but the API go on, the lock goes to whoever finds it free again and again, deadlines that have
passed end the wait and the clock goes on, a request that has begun is answered, or given up,
in the end. Neither other requests for the lock nor a cluster that keeps changing, so that the
request looks for a seat again and again, keep it for ever. -/
theorem eventually_answered (h₀ : (ρ.state 0).Initial) (hfair : FairTo ρ q) {n : ℕ}
    (hbegun : ((ρ.state n).tasks q).phase ≠ .entry) :
    ∃ m, n ≤ m ∧ ((ρ.state m).tasks q).phase.ended = true := by
  by_contra hnever
  have hrunning : ∀ m, n ≤ m → ((ρ.state m).tasks q).phase.ended = false := by
    intro m hm
    rw [Bool.eq_false_iff]
    exact fun hended => hnever ⟨m, hm, hended⟩
  have hwaits : ∀ k, n ≤ k → ∃ m, k ≤ m ∧ ((ρ.state m).tasks q).phase.waiting = true := by
    intro k hk
    obtain ⟨m, hm, hended | hwaiting⟩ :=
      waits_or_ends h₀ hfair k (ne_entry_of_forever hbegun hk)
    · rw [hrunning m (hk.trans hm)] at hended
      cases hended
    · exact ⟨m, hm, hwaiting⟩
  obtain ⟨m₀, hm₀, hwaiting⟩ := hwaits n le_rfl
  obtain ⟨deadline, hdeadline⟩ := deadline_of_waiting h₀ hwaiting
    fun m hm => hrunning m (hm₀.trans hm)
  obtain ⟨late, hlate⟩ := hfair.clock deadline
  -- from then on the request can time out whenever it waits
  have hpassed : ∀ m, late ≤ m → deadline ≤ ((ρ.state m).director q).now := by
    intro m hm
    refine ρ.stays (I := fun w => deadline ≤ (w.director q).now) ?_ hlate hm
    intro k hk
    rw [World.director, (task_of_step (ρ.next k) q).1]
    exact hk.trans (World.now_le_of_step (ρ.next k) _)
  obtain ⟨m, hm, hlabel⟩ := hfair.timer m₀ fun k hk => by
    obtain ⟨m, hm, hwaiting⟩ := hwaits (max k late) (by omega)
    exact ⟨m, by omega, step_timeout hwaiting (hdeadline m (by omega)) (hpassed m (by omega))⟩
  have hstep := ρ.next m
  rw [hlabel] at hstep
  exact hnever ⟨m + 1, by omega, ended_of_timeout hstep⟩

end

/-! ### Two queries that are answered while the clock goes on -/

namespace Sample

/-- Two queries contend for the lock, then the clock goes on. -/
def label (n : ℕ) : Action := contention.getD n (.tick 0 1)

lemma label_of_le {n : ℕ} (h : 25 ≤ n) : label n = .tick 0 1 := by
  have hlength : contention.length ≤ n := h
  exact List.getD_eq_default _ _ hlength

/-- There are no more requests than these. -/
lemma le_one_of_label {n : ℕ} {r : TaskId} {event : Event} (h : label n = .task r event) :
    r ≤ 1 := by
  have hmem : ∀ action ∈ contention, ∀ r event, action = .task r event → r ≤ 1 := by
    simp +contextual [contention, untilFlight, untilPatch]
  rcases lt_or_ge n 25 with hn | hn
  · have hlength : n < contention.length := hn
    rw [label, List.getD_eq_getElem _ _ hlength] at h
    exact hmem _ (List.getElem_mem _) r event h
  · rw [label_of_le hn] at h
    cases h

lemma isSome_step_label (n : ℕ) : (step (Run.Forever.follow step pairWorld label n)
    (label n)).isSome = true := by
  rcases lt_or_ge n 25 with h | h
  · revert n
    decide +kernel
  · rw [label_of_le h]
    rfl

/-- The run of two queries that are answered while the clock goes on. -/
def forever : Run.Forever (step : World decoders demandSettings → Action → Option _) :=
  .ofLabels pairWorld label isSome_step_label

/-- Once answered, they make no step. -/
lemma ended_of_le {r : TaskId} (hr : r ≤ 1) {n : ℕ} (h : 25 ≤ n) :
    ((forever.state n).tasks r).phase.ended = true := by
  induction n, h using Nat.le_induction with
  | base =>
      revert r
      decide +kernel
  | succ n hn ih =>
      rw [tasks_of_step (forever.next n) fun event heq => ?_]
      · exact ih
      · rw [show forever.label n = label n from rfl, label_of_le hn] at heq
        cases heq

/-- No other request begins. -/
lemma entry_of_lt {r : TaskId} (hr : 1 < r) (n : ℕ) :
    ((forever.state n).tasks r).phase = .entry := by
  induction n with
  | zero => rfl
  | succ n ih =>
      rw [tasks_of_step (forever.next n) fun event heq => ?_]
      · exact ih
      · exact absurd (le_one_of_label heq) (not_le.mpr hr)

lemma not_step_of_le {r : TaskId} (hr : r ≤ 1) {n : ℕ} (h : 25 ≤ n) (event : Event) :
    ¬∃ w', step (forever.state n) (.task r event) = some w' := by
  rintro ⟨w', hstep⟩
  obtain ⟨p', eff, hmoves, -⟩ := exists_moves_of_step hstep
  have hended := ended_of_le hr h
  generalize ((forever.state n).tasks r).phase = p at hmoves hended
  cases hmoves <;> cases hended

lemma fairTo_forever {q : TaskId} (hq : q ≤ 1) : FairTo forever q where
  prompt r n hready := by
    exfalso
    obtain ⟨hprompt, event, hstep⟩ := hready (n + 25) (by omega)
    rcases le_or_gt r 1 with hr | hr
    · exact not_step_of_le hr (by omega) event hstep
    · rw [entry_of_lt hr] at hprompt
      cases hprompt
  lock n hready := by
    obtain ⟨m, hm, hstep⟩ := hready (n + 25) (by omega)
    exact absurd hstep (not_step_of_le hq (by omega) _)
  timer n hready := by
    obtain ⟨m, hm, hstep⟩ := hready (n + 25) (by omega)
    exact absurd hstep (not_step_of_le hq (by omega) _)
  clock t := by
    refine ⟨25 + t, ?_⟩
    rw [World.director, director_of_forever q (25 + t)]
    induction t with
    | zero => exact Nat.zero_le _
    | succ t ih =>
        have hstep := forever.next (25 + t)
        rw [show forever.label (25 + t) = label (25 + t) from rfl, label_of_le (by omega)] at hstep
        rw [Nat.add_succ, ← Option.some.inj hstep]
        exact Nat.succ_le_succ ih

/-- The first query begins at once. -/
lemma begun_forever : ((forever.state 1).tasks 0).phase ≠ .entry := by
  obtain ⟨p', eff, hmoves, heq⟩ := exists_moves_of_step (forever.next 0)
  rw [heq, World.phase_move]
  exact hmoves.ne_entry

/-- The second one begins after ten steps of the first and of the cluster. -/
lemma begun_second : ((forever.state 11).tasks 1).phase ≠ .entry := by
  obtain ⟨p', eff, hmoves, heq⟩ := exists_moves_of_step (forever.next 10)
  rw [heq, World.phase_move]
  exact hmoves.ne_entry

end Sample

/-- The query that waits for capacity is answered in the end, and so is the other one. -/
theorem eventually_answered_sample :
    (∃ m, 1 ≤ m ∧ ((Sample.forever.state m).tasks 0).phase.ended = true)
      ∧ ∃ m, 11 ≤ m ∧ ((Sample.forever.state m).tasks 1).phase.ended = true :=
  ⟨eventually_answered Sample.initial_pairWorld (Sample.fairTo_forever (by decide))
      Sample.begun_forever,
    eventually_answered Sample.initial_pairWorld (Sample.fairTo_forever le_rfl) Sample.begun_second⟩

end UdpDirector
