import UdpDirector.Access.Flights

/-!
The startup window that a cold query is given by the flight it joins.

* `World.demandGroup`, `World.Lingers`: the group a query is about to ask for, and that a
  query still holds a flight for it whose deadline has passed;
* `Calls`: a step in which a query calls `signal` and gets a flight; `OpensWindow`: the
  flight ends later than the call, and is a new one where the last flight of the group is
  over;
* `opensWindow_iff`: a call opens a window unless an expired flight of the group lingers;
* `Phase.timedOut`, `called_of_run`: a query answered with the startup timeout has called
  `signal`;
* `windows_open_iff`: in every run the windows are open if and only if no call meets an
  expired flight.
-/

namespace UdpDirector

variable {ext : Externals} {config : Config}

/-! ### Calls of `signal` -/

/-- The flight is the last one started for a group. -/
structure CapacityDemand.LastFlight (demand : CapacityDemand) (group : String) (id : FlightId)
    (flight : Flight) : Prop where
  started : demand.flight id = some flight
  asked : flight.group = group
  last : ∀ id' flight', demand.flight id' = some flight' → flight'.group = group → id' ≤ id

/-- The group that a query about to signal asks for. -/
def World.demandGroup (w : World ext config) (q : TaskId) : Option String :=
  match (w.tasks q).phase with
  | .running a (.signalling demandConfig _) =>
      some ((demandConfig.backendGroups.lookup a.map).getD a.map)
  | _ => none

/-- Some query of the director still holds a flight for the group asked for, although its
deadline has passed. -/
def World.Lingers (w : World ext config) (q : TaskId) : Prop :=
  ∃ group ∈ w.demandGroup q, ∃ r id flight, (w.tasks r).director = (w.tasks q).director
    ∧ w.heldFlight r = some (id, flight) ∧ flight.group = group
    ∧ flight.deadline ≤ (w.director q).now

/-- The query calls `signal` in the step and holds the flight it returns afterwards. -/
structure Calls (q : TaskId) (s : Taken ext config) : Prop where
  action : s.2.1 = .task q .signal
  unheld : (s.1.tasks q).flight = none
  held : (s.2.2.tasks q).flight ≠ none

/-- The flight returned ends later than the call. Where the last flight of the group is
over, it is a new one, and the query sends its POST when it polls it. -/
structure OpensWindow (q : TaskId) (s : Taken ext config) : Prop where
  later : ∃ id flight, s.2.2.heldFlight q = some (id, flight)
    ∧ (s.1.director q).now < flight.deadline
  own : ∀ group ∈ s.1.demandGroup q,
    (∀ id flight, (s.1.director q).demand.LastFlight group id flight →
      flight.deadline ≤ (s.1.director q).now) →
    ∃ id flight w, s.2.2.heldFlight q = some (id, flight)
      ∧ (s.1.director q).demand.flight id = none ∧ step s.2.2 (.task q .poll) = some w
      ∧ Posts (s.2.2.tasks q).director id (s.2.2, .task q .poll, w)

section

variable {w w' : World ext config} {q : TaskId}

/-- What a call does: the query awaits the demand, with the flight returned. -/
lemma Calls.inversion (h : Calls q (w, .task q .signal, w'))
    (hstep : step w (.task q .signal) = some w') :
    ∃ a demandConfig version demand id group,
      (w.tasks q).phase = .running a (.signalling demandConfig version)
        ∧ w.demandGroup q = some group
        ∧ (w.director q).demand.signal demandConfig group (w.director q).now = (demand, some id)
        ∧ (w'.tasks q).phase = .running a (.awaitingDemand version)
        ∧ w'.heldFlight q = (demand.flight id).map fun flight => (id, flight) := by
  obtain ⟨p, eff, hmoves, rfl⟩ := exists_moves_of_step hstep
  have hheld : ((w.move q p eff).tasks q).flight ≠ none := h.held
  rw [World.flight_move] at hheld
  split at hheld
  · exact absurd rfl hheld
  rename_i hended
  obtain ⟨id, hafter⟩ := Option.ne_none_iff_exists'.mp hheld
  have hunheld : (w.tasks q).flight = none := h.unheld
  obtain ⟨a, demandConfig, version, demand, -, hphase, rfl, rfl, hsignal⟩ :=
    World.signal_of_flightAfter hmoves hafter (by simp [hunheld])
  have hdemand : ((w.move q (.running a (.awaitingDemand version))
      (.demand demand (some id))).director q).demand = demand := by
    rw [World.director, (w.task_move q _ _ q).1, World.demand_move_eq, if_neg hended]
    rfl
  refine ⟨a, demandConfig, version, demand, id, _, hphase, ?_, hsignal, w.phase_move q _ _, ?_⟩
  · rw [World.demandGroup, hphase]
  · simp only [World.heldFlight, World.flight_move, if_neg hended, hdemand, World.flightAfter, bind,
      Option.bind_some]
    cases demand.flight id <;> rfl

end

/-- A call that returns a flight which is over opens no window. -/
lemma not_opensWindow {w w' : World ext config} {q : TaskId} {held : FlightId × Flight}
    (hheld : w'.heldFlight q = some held) (hover : held.2.deadline ≤ (w.director q).now) :
    ¬OpensWindow q (w, .task q .signal, w') := by
  rintro ⟨⟨id, flight, hheld', hlater⟩, -⟩
  obtain rfl : held = (id, flight) := Option.some.inj (hheld.symm.trans hheld')
  exact absurd hlater (not_lt.mpr hover)

/-! ### What a call returns -/

section

variable {demand : CapacityDemand} {demandConfig : CapacityDemandConfig} {group : String}
  {now deadline : Instant}

/-- The startup time of a configuration lies in the future. -/
lemma lt_of_checkedAdd {seconds : ℕ} (hboot : 0 < seconds)
    (h : Instant.checkedAdd now seconds = some deadline) : now < deadline := by
  rw [Instant.checkedAdd] at h
  obtain ⟨-, h⟩ := Option.ite_none_right_eq_some.mp h
  obtain rfl := Option.some.inj h
  have hpos : 0 < seconds * 10 ^ 9 := Nat.mul_pos hboot (by decide)
  exact Nat.lt_add_of_pos_right hpos

variable {w w' : World ext config} {q : TaskId}

/-- Of the flights that are held one is listed for its group, the one a call would join. -/
lemma World.Shared.lookup_of_held (h : w.Shared) {r : TaskId} {id : FlightId} {flight : Flight}
    (hd : (w.tasks r).director = (w.tasks q).director)
    (hheld : w.heldFlight r = some (id, flight)) :
    (w.director q).demand.flight id = some flight
      ∧ (w.director q).demand.swept.flights.lookup flight.group = some id := by
  obtain ⟨holders, hholders, hcounted⟩ := h (w.tasks q).director
  have hflight := World.flight_of_heldFlight' hheld
  rw [World.director, hd] at hflight
  exact ⟨hflight, hcounted.swept.listed id flight hflight ⟨r, hholders.mem_of_heldFlight hd hheld⟩⟩

/-- A flight that a call would join is held. -/
lemma World.Shared.exists_held (h : w.Shared) (hkeyed : (w.director q).demand.Keyed)
    {id : FlightId} (hlookup : (w.director q).demand.swept.flights.lookup group = some id) :
    ∃ r flight, (w.tasks r).director = (w.tasks q).director
      ∧ w.heldFlight r = some (id, flight) ∧ flight.group = group := by
  obtain ⟨holders, hholders, hcounted⟩ := h (w.tasks q).director
  obtain ⟨r, hr⟩ := hcounted.nonempty_of_lookup hlookup
  obtain ⟨hd, hflight⟩ := (hholders r id).mp hr
  obtain ⟨flight, hcell, hgroup⟩ := hkeyed.swept group id hlookup
  have hcell' : (w.director r).demand.flight id = some flight := by
    rw [World.director, hd]
    exact hcell
  exact ⟨r, flight, hd, by simp [World.heldFlight, hflight, hcell'], hgroup⟩

/-- A query that holds a flight whose POST has not been sent sends it when it polls. -/
lemma exists_step_of_unpolled {a : Access} {version : String} {id : FlightId} {flight : Flight}
    (hphase : (w.tasks q).phase = .running a (.awaitingDemand version))
    (hheld : w.heldFlight q = some (id, flight)) (haccepted : flight.accepted = .unpolled) :
    ∃ w', step w (.task q .poll) = some w' := by
  obtain ⟨_, _, _, _⟩ := flight
  obtain rfl := haccepted
  have hadvance : advance w q .poll
      = some (.running a (.awaitingDemand version), w.polled q id .inFlight) := by
    unfold advance
    rw [hphase]
    simp only [hheld]
  exact ⟨_, step_of_advance hadvance⟩

/-- The startup time of every configuration is positive, as `Config::validate` ensures. -/
def Config.BootsLater (config : Config) : Prop :=
  ∀ demandConfig, config.capacityDemand = some demandConfig → 0 < demandConfig.bootTimeoutSeconds

/-- **A call of `signal` opens a window** unless an expired flight of the group lingers. -/
theorem opensWindow_iff (hboot : config.BootsLater) (hgrouped : w.Grouped) (hshared : w.Shared)
    (hlatest : ∀ d, (w.directors d).demand.Latest) (hcalls : Calls q (w, .task q .signal, w'))
    (hstep : step w (.task q .signal) = some w') :
    OpensWindow q (w, .task q .signal, w') ↔ ¬w.Lingers q := by
  obtain ⟨a, demandConfig, version, demand, id, group, hphase, hgroup, hsignal, hphase', hheld⟩ :=
    hcalls.inversion hstep
  constructor
  · rintro ⟨⟨id', flight', hheld', hlater⟩, -⟩ ⟨group', hgroup', r, j, old, hd, hold, rfl, hover⟩
    obtain rfl : group = old.group := Option.some.inj (hgroup.symm.trans hgroup')
    obtain ⟨hcell, hlookup⟩ := hshared.lookup_of_held hd hold
    obtain ⟨hlookup', rfl⟩ | ⟨hnone, -⟩ := CapacityDemand.signal_eq_some hsignal
    · -- the expired flight is the one joined
      obtain rfl : id = j := Option.some.inj (hlookup'.symm.trans hlookup)
      have hswept : (w.director q).demand.swept.flight id = some old := hcell
      rw [hheld, CapacityDemand.flight_alterFlight_self, hswept] at hheld'
      obtain ⟨rfl, rfl⟩ := Prod.mk.inj (Option.some.inj hheld')
      exact absurd hlater (not_lt.mpr hover)
    · rw [hnone] at hlookup
      cases hlookup
  · intro hlingers
    obtain ⟨hlookup, rfl⟩ | ⟨hnone, rfl, deadline, hdeadline, rfl⟩ :=
      CapacityDemand.signal_eq_some hsignal
    · obtain ⟨r, old, hd, hold, hasked⟩ := hshared.exists_held (hgrouped.keyed _) hlookup
      obtain ⟨hcell, -⟩ := hshared.lookup_of_held hd hold
      have hopen : (w.director q).now < old.deadline := by
        by_contra hover
        exact hlingers ⟨group, hgroup, r, id, old, hd, hold, hasked, not_lt.mp hover⟩
      refine ⟨⟨id, { old with strong := old.strong + 1 }, ?_, hopen⟩, ?_⟩
      · have hswept : (w.director q).demand.swept.flight id = some old := hcell
        rw [hheld, CapacityDemand.flight_alterFlight_self, hswept]
        rfl
      · intro group' hgroup' hover
        obtain rfl : group = group' := Option.some.inj (hgroup.symm.trans hgroup')
        have hlast := (hlatest (w.tasks q).director).swept group id hlookup
        exact absurd (hover id old ⟨hcell, hasked, hlast⟩) (not_le.mpr hopen)
    · have hnew : w'.heldFlight q
          = some ((w.director q).demand.cells.length, { group, deadline }) := by
        rw [hheld, CapacityDemand.flight_started, if_pos rfl]
        rfl
      have hlater := lt_of_checkedAdd
        (hboot demandConfig (hgrouped.settled q a demandConfig version hphase)) hdeadline
      refine ⟨⟨_, _, hnew, hlater⟩, fun _ _ _ => ?_⟩
      obtain ⟨u, hu⟩ := exists_step_of_unpolled hphase' hnew rfl
      exact ⟨_, _, u, hnew, List.getElem?_eq_none le_rfl, hu, q, rfl, rfl,
        World.flight_of_heldFlight hnew⟩

end

/-! ### Queries answered with the startup timeout -/

/-- The query was answered with the startup timeout. -/
def Phase.timedOut : Phase ext config → Bool
  | .done (.error (.demand .timeout)) => true
  | _ => false

section

variable {w w' : World ext config} {q : TaskId}

lemma timedOut_fault (fault : Fault) : (fault.phase : Phase ext config).timedOut = false := by
  cases fault <;> rfl

/-- Only a query that holds a flight is answered with the startup timeout. -/
lemma Moves.flight_of_timedOut {p p' : Phase ext config} {event : Event} {eff : Effect}
    (h : Moves w q p event p' eff) (hp' : p'.timedOut = true) : (w.tasks q).flight ≠ none := by
  cases h with
  | reject _ hr => obtain rfl | ⟨message, rfl⟩ := prepare_eq_error hr <;> cases hp'
  | refuse _ _ hexits =>
      cases hexits with
      | unaccepted hheld | timeout _ hheld =>
          rw [World.flight_of_heldFlight hheld]
          simp
      | unfiltered | undecided | unresolved | unpatchable =>
          rw [timedOut_fault] at hp'
          cases hp'
      | _ => cases hp'
  | _ => cases hp'

/-- **A query that holds a flight, or is answered with the startup timeout, has called
`signal`.** -/
theorem called_of_run {w₀ : World ext config} {acts : List Action} (h₀ : w₀.Initial)
    (hrun : Run.run step w₀ acts = some w) (q : TaskId)
    (h : (w.tasks q).flight ≠ none ∨ (w.tasks q).phase.timedOut = true) :
    ∃ s ∈ Run.trace step w₀ acts, Calls q s := by
  refine Run.run_induction (P := fun as w =>
    (w.tasks q).flight ≠ none ∨ (w.tasks q).phase.timedOut = true →
      ∃ s ∈ Run.trace step w₀ as, Calls q s) ?_ ?_ hrun h
  · rintro (hflight | htimeout)
    · exact absurd (h₀.flight q) hflight
    · rw [h₀.entry q] at htimeout
      cases htimeout
  · intro as u action v hu ih hstep hv
    rw [Run.trace_concat hu hstep]
    have hkept : (u.tasks q).flight ≠ none ∨ (u.tasks q).phase.timedOut = true →
        ∃ s ∈ Run.trace step w₀ as ++ [(u, action, v)], Calls q s := by
      intro hold
      obtain ⟨s, hs, hcalls⟩ := ih hold
      exact ⟨s, List.mem_append_left _ hs, hcalls⟩
    by_cases hq : ∃ event, action = .task q event
    swap
    · rw [tasks_of_step hstep fun event heq => hq ⟨event, heq⟩] at hv
      exact hkept hv
    obtain ⟨event, rfl⟩ := hq
    by_cases hflight : (u.tasks q).flight = none
    swap
    · exact hkept (.inl hflight)
    obtain ⟨p, eff, hmoves, rfl⟩ := exists_moves_of_step hstep
    rcases hv with hv | hv
    · -- the query has just got its flight
      have hafter := hv
      rw [World.flight_move] at hafter
      split at hafter
      · exact absurd rfl hafter
      obtain ⟨id, hid⟩ := Option.ne_none_iff_exists'.mp hafter
      obtain ⟨a, demandConfig, version, demand, rfl, -⟩ :=
        World.signal_of_flightAfter hmoves hid (by simp [hflight])
      exact ⟨_, List.mem_append_right _ List.mem_cons_self, rfl, hflight, hv⟩
    · rw [World.phase_move] at hv
      exact absurd hflight (hmoves.flight_of_timedOut hv)

end

/-! ### Windows along a run -/

/-- In a run every call of `signal` opens a window, and every query answered with the startup
timeout was given an open one. -/
structure OpenWindows (w₀ : World ext config) (acts : List Action) (w : World ext config) :
    Prop where
  opens : ∀ s ∈ Run.trace step w₀ acts, ∀ q, Calls q s → OpensWindow q s
  timely : ∀ q, (w.tasks q).phase.timedOut = true →
    ∃ s ∈ Run.trace step w₀ acts, Calls q s ∧ OpensWindow q s

section

variable {w₀ w : World ext config} {acts : List Action}

/-- Every flight listed is the last one started for its group, in every run. -/
lemma latest_of_run (h₀ : w₀.Initial) (hrun : Run.run step w₀ acts = some w) :
    ∀ d, (w.directors d).demand.Latest := by
  refine Run.run_invariant (I := fun u : World ext config => ∀ d, (u.directors d).demand.Latest)
    (fun _ _ _ hu hstep => World.latest_of_step hstep hu) (fun d => ?_) hrun
  rw [h₀.demand d]
  intro group id hlookup
  simp at hlookup

/-- **A cold query joins an expired flight only where one lingers.** In every run a call of
`signal` returns a flight that ends later than the call, and a new one where the last flight of
the group is over, if and only if no query of the director still holds an expired flight for
the group; and in the whole run every call does so, and every query answered with the startup
timeout was given an open window, if and only if no call meets such a query. -/
theorem windows_open_iff (h₀ : w₀.Initial) (hboot : config.BootsLater)
    (hrun : Run.run step w₀ acts = some w) :
    (∀ s ∈ Run.trace step w₀ acts, ∀ q, Calls q s → (OpensWindow q s ↔ ¬s.1.Lingers q))
      ∧ (OpenWindows w₀ acts w
          ↔ ∀ s ∈ Run.trace step w₀ acts, ∀ q, Calls q s → ¬s.1.Lingers q) := by
  have hcall : ∀ s ∈ Run.trace step w₀ acts, ∀ q, Calls q s →
      (OpensWindow q s ↔ ¬s.1.Lingers q) := by
    rintro ⟨u, action, v⟩ hs q hcalls
    obtain ⟨pre, hpre, hstep⟩ := Run.exists_of_mem_trace hs
    obtain rfl : action = .task q .signal := hcalls.action
    exact opensWindow_iff hboot (World.grouped_of_run h₀ hpre) (World.shared_of_run h₀ hpre)
      (latest_of_run h₀ hpre) hcalls hstep
  refine ⟨hcall, fun hopen s hs q hcalls => (hcall s hs q hcalls).mp (hopen.opens s hs q hcalls),
    fun hnone => ?_⟩
  have hopens : ∀ s ∈ Run.trace step w₀ acts, ∀ q, Calls q s → OpensWindow q s :=
    fun s hs q hcalls => (hcall s hs q hcalls).mpr (hnone s hs q hcalls)
  refine ⟨hopens, fun q htimeout => ?_⟩
  obtain ⟨s, hs, hcalls⟩ := called_of_run h₀ hrun q (.inr htimeout)
  exact ⟨s, hs, hcalls, hopens s hs q hcalls⟩

end

/-! ### A flight that lingers -/

namespace Sample

/-- The first query is about to signal. -/
def beforeFlight : World decoders demandSettings :=
  Run.reached step emptyWorld
    ([.start, .acquire, .list (some ([], "1")), .decide ⟨0, 0⟩].map (.task 0)) (by decide +kernel)

/-- It has its flight. -/
def afterFlight : World decoders demandSettings :=
  Run.reached step beforeFlight [.task 0 .signal] (by decide +kernel)

lemma run_beforeFlight : Run.run step emptyWorld
    ([.start, .acquire, .list (some ([], "1")), .decide ⟨0, 0⟩].map (.task 0))
      = some beforeFlight :=
  Run.run_reached _ _ _

lemma step_afterFlight : step beforeFlight (.task 0 .signal) = some afterFlight := by
  have hrun : Run.run step beforeFlight [.task 0 .signal] = some afterFlight :=
    Run.run_reached _ _ _
  rwa [Run.run_singleton] at hrun

lemma not_lingers_beforeFlight : ¬beforeFlight.Lingers 0 := by
  rintro ⟨group, -, r, id, flight, -, hheld, -⟩
  have hflight : (beforeFlight.tasks r).flight = some id := World.flight_of_heldFlight hheld
  have hnone : (beforeFlight.tasks r).flight = none := by
    rcases eq_or_ne r 0 with rfl | hr
    · decide +kernel
    · rw [tasks_of_run_task run_beforeFlight hr]
      rfl
  rw [hnone] at hflight
  cases hflight

/-- Another query is about to signal when the window has just closed. -/
def untilLingering : List Action :=
  untilFlight 0 ++ [.tick 0 (60 * 10 ^ 9)]
    ++ [.start, .acquire, .list (some ([], "1")), .decide ⟨0, 0⟩].map (.task 1)

/-- The first query still waits, and has not noticed. -/
def lingering : World decoders demandSettings :=
  Run.reached step emptyWorld untilLingering (by decide +kernel)

/-- The second query has joined its flight. -/
def joinedLate : World decoders demandSettings :=
  Run.reached step lingering [.task 1 .signal] (by decide +kernel)

/-- It is answered at once. -/
def timedOutLate : World decoders demandSettings :=
  Run.reached step joinedLate [.task 1 .timeout] (by decide +kernel)

lemma run_lingering : Run.run step emptyWorld untilLingering = some lingering :=
  Run.run_reached _ _ _

lemma step_joinedLate : step lingering (.task 1 .signal) = some joinedLate := by
  have hrun : Run.run step lingering [.task 1 .signal] = some joinedLate := Run.run_reached _ _ _
  rwa [Run.run_singleton] at hrun

lemma step_timedOutLate : step joinedLate (.task 1 .timeout) = some timedOutLate := by
  have hrun : Run.run step joinedLate [.task 1 .timeout] = some timedOutLate :=
    Run.run_reached _ _ _
  rwa [Run.run_singleton] at hrun

lemma bootsLater_demandSettings : demandSettings.BootsLater := by
  intro demandConfig h
  obtain rfl := Option.some.inj h
  decide

end Sample

/-- The first query of a director opens a window. -/
theorem windows_open_iff_sample :
    OpensWindow 0 (Sample.beforeFlight, .task 0 .signal, Sample.afterFlight) := by
  have hrun := Run.run_concat Sample.run_beforeFlight Sample.step_afterFlight
  refine ((windows_open_iff Sample.initial_emptyWorld Sample.bootsLater_demandSettings hrun).1 _ ?_
    0 ⟨rfl, by decide +kernel, by decide +kernel⟩).mpr Sample.not_lingers_beforeFlight
  rw [Run.trace_concat Sample.run_beforeFlight Sample.step_afterFlight]
  exact List.mem_append_right _ List.mem_cons_self

/-- **A query is given a window that is over**: the deadline of a flight has passed, but the
query that waits for it has not been polled since; another query signals, joins the flight,
and is answered with the startup timeout at once. -/
theorem window_over_when_joined :
    Sample.emptyWorld.Initial ∧ Sample.demandSettings.BootsLater
      ∧ Run.run step Sample.emptyWorld
          (Sample.untilLingering ++ [.task 1 .signal] ++ [.task 1 .timeout])
            = some Sample.timedOutLate
      ∧ Calls 1 (Sample.lingering, .task 1 .signal, Sample.joinedLate)
      ∧ (∃ held ∈ Sample.joinedLate.heldFlight 1,
          held.2.deadline ≤ (Sample.lingering.director 1).now)
      ∧ (Sample.timedOutLate.tasks 1).phase.timedOut = true
      ∧ ¬OpenWindows Sample.emptyWorld
          (Sample.untilLingering ++ [.task 1 .signal] ++ [.task 1 .timeout])
          Sample.timedOutLate := by
  have hrun := Run.run_concat Sample.run_lingering Sample.step_joinedLate
  have hcalls : Calls 1 (Sample.lingering, .task 1 .signal, Sample.joinedLate) :=
    ⟨rfl, by decide +kernel, by decide +kernel⟩
  have hover : ∃ held ∈ Sample.joinedLate.heldFlight 1,
      held.2.deadline ≤ (Sample.lingering.director 1).now := by
    obtain ⟨held, hheld⟩ := Option.isSome_iff_exists.mp
      (by decide +kernel : (Sample.joinedLate.heldFlight 1).isSome = true)
    have hdeadline : (Sample.joinedLate.heldFlight 1).all
        (fun held => held.2.deadline ≤ (Sample.lingering.director 1).now) = true := by
      decide +kernel
    rw [hheld, Option.all_some, decide_eq_true_iff] at hdeadline
    exact ⟨held, hheld, hdeadline⟩
  refine ⟨Sample.initial_emptyWorld, Sample.bootsLater_demandSettings,
    Run.run_concat hrun Sample.step_timedOutLate, hcalls, hover, by decide +kernel, ?_⟩
  intro hopen
  have hmem : (Sample.lingering, Action.task 1 .signal, Sample.joinedLate)
      ∈ Run.trace step Sample.emptyWorld
          (Sample.untilLingering ++ [.task 1 .signal] ++ [.task 1 .timeout]) := by
    rw [Run.trace_concat hrun Sample.step_timedOutLate,
      Run.trace_concat Sample.run_lingering Sample.step_joinedLate]
    exact List.mem_append_left _ (List.mem_append_right _ List.mem_cons_self)
  obtain ⟨held, hheld, hdeadline⟩ := hover
  exact not_opensWindow hheld hdeadline (hopen.opens _ hmem 1 hcalls)

end UdpDirector
