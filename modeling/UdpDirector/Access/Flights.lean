import UdpDirector.Access.Outcome
import UdpDirector.Demand.References

/-!
The flights that cold queries share.

* `DemandEffect`: what a step of a request does to the demand, said once;
* `World.Shared`: the references of every flight are the queries that hold it, in
  every reachable state; `World.Grouped`: and each is one for the group of its map;
* `Courted`: a query that is about to signal has just decided on a snapshot without
  a free seat;
* `one_flight`: one flight for a group, one POST for a flight, kept until the query
  ends, and asked for only after such a snapshot.
-/

namespace UdpDirector

variable {ext : Externals} {config : Config}

/-! ### What a step does to the demand -/

/-- What a step of a request does to the demand of its director: nothing; a call of
`signal`, if it holds no flight; progress of the POST of the flight it holds. -/
inductive DemandEffect (w : World ext config) (q : TaskId) : Effect → Prop where
  | keep {eff} (heff : ∀ demand flight, eff ≠ .demand demand flight) : DemandEffect w q eff
  | signal {demandConfig group demand id} (hnone : (w.tasks q).flight = none)
      (hsignal : (w.director q).demand.signal demandConfig group (w.director q).now
        = (demand, some id)) : DemandEffect w q (.demand demand (some id))
  | poison {demandConfig group demand} (hnone : (w.tasks q).flight = none)
      (hsignal : (w.director q).demand.signal demandConfig group (w.director q).now
        = (demand, none)) : DemandEffect w q (.demand demand none)
  | post {id flight accepted} (hheld : w.heldFlight q = some (id, flight))
      (haccepted : accepted ≠ .unpolled) : DemandEffect w q (w.polled q id accepted)

/-- **Every step of a request has one of these effects on the demand.** -/
theorem demandEffect_of_advance {w : World ext config} {q : TaskId} {event : Event}
    {p : Phase ext config} {eff : Effect} (h : advance w q event = some (p, eff)) :
    DemandEffect w q eff := by
  have hmoves := moves_of_advance h
  generalize (w.tasks q).phase = phase at hmoves
  cases hmoves with
  | signal hnone hsignal => exact .signal hnone hsignal
  | poison hnone hsignal => exact .poison hnone hsignal
  | poll _ hheld hpolls => exact .post hheld hpolls.ne_unpolled
  | _ => exact .keep (by simp)

namespace World

/-- The flights of a director with the queries that hold them. -/
def Holders (w : World ext config) (d : ℕ) (holders : FlightId → Finset TaskId) : Prop :=
  ∀ q id, q ∈ holders id ↔ (w.tasks q).director = d ∧ (w.tasks q).flight = some id

/-- The references of every flight are the queries that hold it. -/
def Shared (w : World ext config) : Prop :=
  ∀ d, ∃ holders, w.Holders d holders ∧ (w.directors d).demand.Counted holders

variable {w w' : World ext config} {q : TaskId}

lemma Initial.shared (h : w.Initial) : w.Shared := by
  intro d
  refine ⟨fun _ => ∅, fun q id => by simp [h.flight q], ?_⟩
  rw [h.demand d]
  exact ⟨fun id flight hflight => by simp [CapacityDemand.flight] at hflight, by simp, by simp⟩

/-- Only the directors, the flights and the demand matter. -/
lemma Shared.congr (h : w.Shared)
    (htasks : ∀ q, (w'.tasks q).director = (w.tasks q).director
      ∧ (w'.tasks q).flight = (w.tasks q).flight)
    (hdemand : ∀ d, (w'.directors d).demand = (w.directors d).demand) : w'.Shared := by
  intro d
  obtain ⟨holders, hholders, hcounted⟩ := h d
  refine ⟨holders, fun q id => ?_, by rw [hdemand d]; exact hcounted⟩
  rw [hholders q id, (htasks q).1, (htasks q).2]

/-- One query changes the flight it holds, with the demand of its director. -/
lemma Shared.update (h : w.Shared) {flight : Option FlightId} {demand : CapacityDemand}
    (hq : (w'.tasks q).director = (w.tasks q).director ∧ (w'.tasks q).flight = flight)
    (hne : ∀ r ≠ q, w'.tasks r = w.tasks r)
    (hd : (w'.directors (w.tasks q).director).demand = demand)
    (hdne : ∀ d ≠ (w.tasks q).director, w'.directors d = w.directors d)
    (hcounted : ∀ holders, w.Holders (w.tasks q).director holders →
      (w.director q).demand.Counted holders →
      ∃ holders', demand.Counted holders'
        ∧ ∀ r id, r ∈ holders' id ↔ if r = q then flight = some id else r ∈ holders id) :
    w'.Shared := by
  intro d
  by_cases heq : d = (w.tasks q).director
  · subst heq
    obtain ⟨holders, hholders, hold⟩ := h (w.tasks q).director
    obtain ⟨holders', hnew, hmem⟩ := hcounted holders hholders hold
    refine ⟨holders', fun r id => ?_, by rw [hd]; exact hnew⟩
    rw [hmem r id]
    by_cases hr : r = q
    · subst hr
      rw [if_pos rfl, hq.1, hq.2]
      simp
    · rw [if_neg hr, hne r hr, hholders r id]
  · obtain ⟨holders, hholders, hold⟩ := h d
    refine ⟨holders, fun r id => ?_, by rw [hdne d heq]; exact hold⟩
    rw [hholders r id]
    by_cases hr : r = q
    · subst hr
      rw [hq.1]
      simp [Ne.symm heq]
    · rw [hne r hr]

lemma Shared.perform_demand (h : w.Shared) {flight : Option FlightId} {demand : CapacityDemand}
    (hcounted : ∀ holders, w.Holders (w.tasks q).director holders →
      (w.director q).demand.Counted holders →
      ∃ holders', demand.Counted holders'
        ∧ ∀ r id, r ∈ holders' id ↔ if r = q then flight = some id else r ∈ holders id) :
    (w.perform q (.demand demand flight)).Shared := by
  refine h.update ⟨?_, ?_⟩ (fun r hr => ?_) ?_ (fun d hd => ?_) hcounted <;>
    simp_all [World.perform, updateTask, updateDirector]

/-- A query that holds no flight is among no holders. -/
lemma Holders.not_mem {d : ℕ} {holders : FlightId → Finset TaskId} (h : w.Holders d holders)
    (hnone : (w.tasks q).flight = none) (id : FlightId) : q ∉ holders id := by
  intro hmem
  rw [h q id, hnone] at hmem
  simp at hmem

/-- **The effect of a step keeps the flights counted.** -/
lemma Shared.perform (h : w.Shared) {eff : Effect} (heff : DemandEffect w q eff) :
    (w.perform q eff).Shared := by
  cases heff with
  | keep hkeep =>
      refine h.congr (fun r => ?_) (fun d => ?_)
      · cases eff <;> first | exact ⟨rfl, rfl⟩ | exact absurd rfl (hkeep _ _)
      · rcases eq_or_ne d (w.tasks q).director with rfl | hd
        · cases eff <;>
            first
            | exact absurd rfl (hkeep _ _)
            | simp [World.perform, updateDirector, Director.unlock]
        · cases eff <;>
            first
            | exact absurd rfl (hkeep _ _)
            | simp [World.perform, updateDirector, hd]
  | @signal _ _ _ id hnone hsignal =>
      refine h.perform_demand fun holders hholders hcounted => ?_
      have hnot := hholders.not_mem hnone
      obtain ⟨hlookup, rfl⟩ | ⟨hlookup, rfl, deadline, -, rfl⟩ :=
        CapacityDemand.signal_eq_some hsignal
      · refine ⟨_, hcounted.join hlookup (hnot id), fun r j => ?_⟩
        by_cases hj : j = id
        · subst hj
          rw [Function.update_self, Finset.mem_insert]
          by_cases hr : r = q <;> simp [hr]
        · rw [Function.update_of_ne hj]
          by_cases hr : r = q
          · subst hr
            simp [hnot j, Ne.symm hj]
          · simp [hr]
      · refine ⟨_, hcounted.start q deadline hlookup, fun r j => ?_⟩
        by_cases hj : j = (w.director q).demand.cells.length
        · subst hj
          have hempty : holders (w.director q).demand.cells.length = ∅ := by
            rw [← Finset.not_nonempty_iff_eq_empty]
            intro hheld
            obtain ⟨flight, hflight⟩ := hcounted.known _ hheld
            exact absurd (List.getElem?_eq_some_iff.mp hflight).1 (lt_irrefl _)
          rw [Function.update_self, Finset.mem_singleton, hempty]
          by_cases hr : r = q <;> simp [hr]
        · rw [Function.update_of_ne hj]
          by_cases hr : r = q
          · subst hr
            simp [hnot j, Ne.symm hj]
          · simp [hr]
  | poison hnone hsignal =>
      refine h.perform_demand fun holders hholders hcounted => ⟨holders, ?_, fun r j => ?_⟩
      · obtain rfl | rfl := CapacityDemand.signal_eq_none hsignal
        · exact hcounted
        · exact ⟨hcounted.swept.strong, hcounted.swept.known, hcounted.swept.listed⟩
      · by_cases hr : r = q
        · subst hr
          simp [hholders.not_mem hnone j]
        · simp [hr]
  | post hheld haccepted =>
      refine h.perform_demand fun holders hholders hcounted =>
        ⟨holders, hcounted.alter _ fun flight => ⟨rfl, rfl⟩, fun r j => ?_⟩
      by_cases hr : r = q
      · subst hr
        rw [hholders r j, flight_of_heldFlight hheld]
        simp
      · simp [hr]

/-- A request that enters a phase keeps the flights counted: one that ends gives its
reference up. -/
lemma Shared.enter (h : w.Shared) (p : Phase ext config) : (w.enter q p).Shared := by
  rw [World.enter]
  split
  · cases hflight : (w.tasks q).flight with
    | none =>
        refine h.congr (fun r => ?_) (fun d => ?_)
        · rcases eq_or_ne r q with rfl | hr <;>
            simp_all [updateTask, updateDirector]
        · rcases eq_or_ne d (w.tasks q).director with rfl | hd <;>
            simp_all [updateTask, updateDirector, Director.release, Director.unlock]
    | some id =>
        have hcounted : ∀ holders, w.Holders (w.tasks q).director holders →
            (w.director q).demand.Counted holders →
            ∃ holders', ((w.director q).demand.release id).Counted holders'
              ∧ ∀ r j, r ∈ holders' j ↔ if r = q then none = some j else r ∈ holders j := by
          intro holders hholders hcounted
          have hmem : q ∈ holders id := (hholders q id).mpr ⟨rfl, hflight⟩
          refine ⟨_, hcounted.release hmem, fun r j => ?_⟩
          by_cases hj : j = id
          · subst hj
            rw [Function.update_self, Finset.mem_erase]
            by_cases hr : r = q <;> simp [hr]
          · rw [Function.update_of_ne hj]
            by_cases hr : r = q
            · subst hr
              simp [hholders r j, hflight, Ne.symm hj]
            · simp [hr]
        refine h.update (q := q) ⟨?_, ?_⟩ (fun r hr => ?_) ?_ (fun d hd => ?_) hcounted <;>
          simp_all [updateTask, updateDirector, Director.release, Director.unlock, director]
  · refine h.congr (fun r => ?_) (fun d => rfl)
    rcases eq_or_ne r q with rfl | hr <;> simp_all [updateTask]

lemma Shared.step (h : w.Shared) {action : Action} (hstep : step w action = some w') :
    w'.Shared := by
  cases action with
  | task q event =>
      obtain ⟨⟨p, eff⟩, hadvance, rfl⟩ := Option.map_eq_some_iff.mp hstep
      exact (h.perform (demandEffect_of_advance hadvance)).enter p
  | write name o =>
      obtain ⟨hkey, hfresh, rfl⟩ := step_write hstep
      exact h
  | delete name =>
      obtain rfl := Option.some.inj hstep
      exact h
  | tick d nanos | dataPlane d sessions =>
      obtain rfl := Option.some.inj hstep
      refine h.congr (fun r => ⟨rfl, rfl⟩) fun d' => ?_
      rcases eq_or_ne d' d with rfl | hd <;> simp_all [updateDirector]

/-- **In every run the references of a flight are the queries that hold it.** -/
theorem shared_of_run {w₀ w : World ext config} {acts : List Action} (h₀ : w₀.Initial)
    (hrun : Run.run UdpDirector.step w₀ acts = some w) : w.Shared :=
  Run.run_invariant (fun _ _ _ hu hstep => hu.step hstep) h₀.shared hrun

/-- A query that holds a flight is one of its holders. -/
lemma Holders.mem_of_heldFlight {d : ℕ} {holders : FlightId → Finset TaskId}
    (h : w.Holders d holders) (hd : (w.tasks q).director = d) {id : FlightId} {flight : Flight}
    (hheld : w.heldFlight q = some (id, flight)) : q ∈ holders id :=
  (h q id).mpr ⟨hd, flight_of_heldFlight hheld⟩

lemma flight_of_heldFlight' {id : FlightId} {flight : Flight}
    (h : w.heldFlight q = some (id, flight)) : (w.director q).demand.flight id = some flight := by
  simp only [heldFlight, bind, Option.bind_eq_some_iff, pure] at h
  obtain ⟨id', -, flight', hflight', h⟩ := h
  obtain ⟨rfl, rfl⟩ := Prod.mk.inj (Option.some.inj h)
  exact hflight'

/-- **Two queries that hold a flight for one group hold the same one.** -/
lemma Shared.eq_of_group (h : w.Shared) {q' : TaskId} {id id' : FlightId} {flight flight' : Flight}
    (hd : (w.tasks q).director = (w.tasks q').director)
    (hheld : w.heldFlight q = some (id, flight)) (hheld' : w.heldFlight q' = some (id', flight'))
    (hgroup : flight.group = flight'.group) : (id, flight) = (id', flight') := by
  obtain ⟨holders, hholders, hcounted⟩ := h (w.tasks q).director
  have hflight := flight_of_heldFlight' hheld
  have hflight' := flight_of_heldFlight' hheld'
  rw [director, ← hd] at hflight'
  have hlisted := hcounted.listed id flight hflight
    ⟨q, hholders.mem_of_heldFlight rfl hheld⟩
  have hlisted' := hcounted.listed id' flight' hflight'
    ⟨q', hholders.mem_of_heldFlight hd.symm hheld'⟩
  rw [hgroup, hlisted'] at hlisted
  obtain rfl := Option.some.inj hlisted
  obtain rfl := Option.some.inj (hflight.symm.trans hflight')
  rfl

end World

/-! ### Flights over time -/

namespace World

variable {w w' : World ext config} {q : TaskId}

/-- The demand of the director after an effect. -/
def demandAfter (w : World ext config) (q : TaskId) : Effect → CapacityDemand
  | .demand demand _ => demand
  | _ => (w.director q).demand

/-- The flight of the request after an effect. -/
def flightAfter (w : World ext config) (q : TaskId) : Effect → Option FlightId
  | .demand _ flight => flight
  | _ => (w.tasks q).flight

lemma demand_release (flight : Option FlightId) (d : Director) :
    (d.release flight).demand
      = flight.elim id (fun flight demand => demand.release flight) d.demand := by
  cases flight <;> rfl

lemma demand_move_eq (w : World ext config) (q : TaskId) (p : Phase ext config) (eff : Effect) :
    ((w.move q p eff).directors (w.tasks q).director).demand
      = if p.ended then ((w.flightAfter q eff).elim id fun flight demand => demand.release flight)
          (w.demandAfter q eff)
        else w.demandAfter q eff := by
  rw [move, enter]
  split
  · cases eff <;>
      simp [perform, updateTask, updateDirector, Director.unlock, flightAfter, demandAfter,
        director, demand_release]
  · cases eff <;>
      simp [perform, updateTask, updateDirector, Director.unlock, demandAfter, director]

lemma flight_move (w : World ext config) (q : TaskId) (p : Phase ext config) (eff : Effect) :
    ((w.move q p eff).tasks q).flight = if p.ended then none else w.flightAfter q eff := by
  rw [move, enter]
  split
  · simp [updateTask]
  · cases eff <;> simp [perform, updateTask, updateDirector, flightAfter]

/-- Entering a phase leaves every flight as far as it is. -/
lemma keeps_enter (w : World ext config) (q : TaskId) (p : Phase ext config) (eff : Effect) :
    CapacityDemand.Keeps Flight.Same (w.demandAfter q eff)
      ((w.move q p eff).directors (w.tasks q).director).demand := by
  rw [demand_move_eq]
  split
  · cases w.flightAfter q eff with
    | none => exact CapacityDemand.keeps_refl _
    | some id => exact CapacityDemand.keeps_release _ id
  · exact CapacityDemand.keeps_refl _

/-- **What a step leaves of the demand of a director**: one change, and a reference
that may be given up. -/
theorem demand_of_step {action : Action} (h : UdpDirector.step w action = some w') (d : ℕ) :
    ∃ mid, CapacityDemand.Changes (w.directors d).demand mid
      ∧ ((w'.directors d).demand = mid ∨ ∃ id, (w'.directors d).demand = mid.release id) := by
  cases action with
  | task q event =>
      obtain ⟨⟨p, eff⟩, hadvance, rfl⟩ := Option.map_eq_some_iff.mp h
      rcases eq_or_ne d (w.tasks q).director with rfl | hd
      · refine ⟨w.demandAfter q eff, ?_, ?_⟩
        · cases demandEffect_of_advance hadvance with
          | keep hkeep => cases eff <;> first | exact absurd rfl (hkeep _ _) | exact .keep
          | signal hnone hsignal | poison hnone hsignal => exact .signal hsignal
          | post hheld haccepted => exact .post haccepted
        · rw [demand_move_eq]
          split
          · cases w.flightAfter q eff with
            | none => exact .inl rfl
            | some id => exact .inr ⟨id, rfl⟩
          · exact .inl rfl
      · exact ⟨_, .keep, .inl (by rw [w.directors_move_of_ne q p eff hd])⟩
  | write name o =>
      obtain ⟨hkey, hfresh, rfl⟩ := step_write h
      exact ⟨_, .keep, .inl rfl⟩
  | delete name =>
      obtain rfl := Option.some.inj h
      exact ⟨_, .keep, .inl rfl⟩
  | tick d' nanos | dataPlane d' sessions =>
      obtain rfl := Option.some.inj h
      refine ⟨_, .keep, .inl ?_⟩
      rcases eq_or_ne d d' with rfl | hd <;> simp [updateDirector, *]

/-- **A flight keeps its deadline, and its POST is not taken back.** -/
theorem keeps_of_step {action : Action} (h : UdpDirector.step w action = some w') (d : ℕ) :
    CapacityDemand.Keeps Flight.Later (w.directors d).demand (w'.directors d).demand := by
  obtain ⟨mid, hchanges, hdemand⟩ := demand_of_step h d
  rcases hdemand with hdemand | ⟨id, hdemand⟩
  · rw [hdemand]
    exact hchanges.keeps
  · rw [hdemand]
    exact hchanges.keeps.trans (CapacityDemand.keeps_release mid id).later

/-- What the changes and a release keep holds of every demand after a step. -/
lemma demands_of_step {P : CapacityDemand → Prop}
    (hchanges : ∀ {demand demand'}, CapacityDemand.Changes demand demand' → P demand → P demand')
    (hrelease : ∀ {demand : CapacityDemand} id, P demand → P (demand.release id))
    {action : Action} (h : UdpDirector.step w action = some w')
    (hP : ∀ d, P (w.directors d).demand) (d : ℕ) : P (w'.directors d).demand := by
  obtain ⟨mid, hmid, hdemand⟩ := demand_of_step h d
  rcases hdemand with hdemand | ⟨id, hdemand⟩
  · rw [hdemand]
    exact hchanges hmid (hP d)
  · rw [hdemand]
    exact hrelease id (hchanges hmid (hP d))

/-- Every flight in the tables is listed for its group. -/
lemma keyed_of_step {action : Action} (h : UdpDirector.step w action = some w')
    (hkeyed : ∀ d, (w.directors d).demand.Keyed) : ∀ d, (w'.directors d).demand.Keyed :=
  demands_of_step CapacityDemand.Changes.keyed (fun id hold => hold.alter id fun _ => rfl) h hkeyed

/-- Every flight listed is the last one started for its group. -/
lemma latest_of_step {action : Action} (h : UdpDirector.step w action = some w')
    (hlatest : ∀ d, (w.directors d).demand.Latest) : ∀ d, (w'.directors d).demand.Latest :=
  demands_of_step CapacityDemand.Changes.latest (fun id hold => hold.alter id fun _ => rfl) h
    hlatest

/-- **A query that ends takes the POST of its flight with it from nobody.** -/
theorem keeps_of_end {event : Event} (h : UdpDirector.step w (.task q event) = some w')
    (hended : (w'.tasks q).phase.ended = true) (d : ℕ) :
    CapacityDemand.Keeps Flight.Same (w.directors d).demand (w'.directors d).demand := by
  obtain ⟨⟨p, eff⟩, hadvance, rfl⟩ := Option.map_eq_some_iff.mp h
  rw [phase_move] at hended
  rcases eq_or_ne d (w.tasks q).director with rfl | hd
  · refine CapacityDemand.Keeps.trans_same ?_ (w.keeps_enter q p eff)
    have hmoves := moves_of_advance hadvance
    generalize hphase : (w.tasks q).phase = phase at hmoves
    cases hmoves with
    | poison hnone hsignal => exact CapacityDemand.keeps_signal hsignal
    | poll => simp [Phase.ended] at hended
    | signal => simp [Phase.ended] at hended
    | _ => exact CapacityDemand.keeps_refl _
  · rw [w.directors_move_of_ne q p eff hd]
    exact CapacityDemand.keeps_refl _

/-- A query keeps the flight it holds until it ends. -/
lemma flight_of_step {action : Action} (h : UdpDirector.step w action = some w') {id : FlightId}
    (hflight : (w.tasks q).flight = some id) :
    (w'.tasks q).phase.ended = true ∨ (w'.tasks q).flight = some id := by
  by_cases hq : ∃ event, action = .task q event
  · obtain ⟨event, rfl⟩ := hq
    obtain ⟨⟨p, eff⟩, hadvance, rfl⟩ := Option.map_eq_some_iff.mp h
    rw [phase_move, flight_move]
    split
    · rename_i hended
      exact .inl hended
    · right
      cases demandEffect_of_advance hadvance with
      | keep hkeep =>
          cases eff <;> first | exact absurd rfl (hkeep _ _) | exact hflight
      | signal hnone | poison hnone => simp [hflight] at hnone
      | post hheld =>
          rw [flight_of_heldFlight hheld] at hflight
          exact hflight
  · rw [tasks_of_step h fun event heq => hq ⟨event, heq⟩]
    exact .inr hflight

/-- **A flight is started only where the group has none listed.** -/
lemma lookup_of_started {action : Action} (h : UdpDirector.step w action = some w') {d : ℕ}
    {id : FlightId} {flight : Flight} (hnone : (w.directors d).demand.flight id = none)
    (hsome : (w'.directors d).demand.flight id = some flight) :
    (w.directors d).demand.swept.flights.lookup flight.group = none := by
  obtain ⟨mid, hchanges, hdemand⟩ := demand_of_step h d
  rcases hdemand with hdemand | ⟨j, hdemand⟩
  · rw [hdemand] at hsome
    exact hchanges.lookup_of_started hnone hsome
  · rw [hdemand] at hsome
    obtain ⟨old, hold⟩ := CapacityDemand.exists_of_alterFlight hsome
    obtain ⟨flight', hflight', hsame⟩ := CapacityDemand.keeps_release mid j id old hold
    obtain rfl := Option.some.inj (hsome.symm.trans hflight')
    rw [hsame.group]
    exact hchanges.lookup_of_started hnone hold

end World

/-! ### One POST for a flight -/

/-- The step sends the POST of a flight. -/
def Posts (d : ℕ) (id : FlightId) (s : Taken ext config) : Prop :=
  ∃ q, s.2.1 = .task q .poll ∧ (s.1.tasks q).director = d ∧ (s.1.tasks q).flight = some id

/-- A POST that is sent had not been sent, and has been from then on. -/
lemma sent_of_poll {w w' : World ext config} {q : TaskId} {id : FlightId}
    (h : step w (.task q .poll) = some w') (hid : (w.tasks q).flight = some id) :
    ∃ flight flight', (w.director q).demand.flight id = some flight
      ∧ flight.accepted = .unpolled
      ∧ (w'.directors (w.tasks q).director).demand.flight id = some flight'
      ∧ flight'.accepted ≠ .unpolled := by
  obtain ⟨p, eff, hmoves, rfl⟩ := exists_moves_of_step h
  obtain ⟨a, version, id', flight, hphase, hkept, hheld, hunpolled, rfl⟩ := hmoves.exists_of_poll
  have hflight := World.flight_of_heldFlight hheld
  rw [hid] at hflight
  obtain rfl := Option.some.inj hflight
  have hold := World.flight_of_heldFlight' hheld
  refine ⟨flight, { flight with accepted := .inFlight }, hold, hunpolled, ?_, by simp⟩
  rw [World.demand_move_eq, if_neg (by simp [hkept, hphase, Phase.ended]), World.polled,
    World.demandAfter, CapacityDemand.flight_alterFlight_self, hold, Option.map_some]

/-- **The POST of a flight is sent at most once.** -/
theorem posts_once {w₀ w : World ext config} {acts : List Action}
    (hrun : Run.run step w₀ acts = some w) :
    (Run.trace step w₀ acts).Pairwise fun s s' => ∀ d id, Posts d id s → ¬Posts d id s' := by
  refine (Run.run_induction (P := fun as w =>
    (∀ s ∈ Run.trace step w₀ as, ∀ d id, Posts d id s →
      ∃ flight, (w.directors d).demand.flight id = some flight ∧ flight.accepted ≠ .unpolled)
    ∧ (Run.trace step w₀ as).Pairwise fun s s' => ∀ d id, Posts d id s → ¬Posts d id s')
    ⟨by simp [Run.trace], by simp [Run.trace]⟩ ?_ hrun).2
  rintro as u action v hu ⟨hsent, hpairwise⟩ hstep
  rw [Run.trace_concat hu hstep]
  constructor
  · intro s hs d id hposts
    rcases List.mem_append.mp hs with hs | hs
    · obtain ⟨flight, hflight, haccepted⟩ := hsent s hs d id hposts
      obtain ⟨flight', hflight', hlater⟩ := World.keeps_of_step hstep d id flight hflight
      exact ⟨flight', hflight', hlater.sent haccepted⟩
    · obtain rfl := List.mem_singleton.mp hs
      obtain ⟨q, rfl, rfl, hid⟩ := hposts
      obtain ⟨-, flight', -, -, hflight', haccepted⟩ := sent_of_poll hstep hid
      exact ⟨flight', hflight', haccepted⟩
  · refine List.pairwise_append.mpr ⟨hpairwise, List.pairwise_singleton _ _, ?_⟩
    intro s hs s' hs' d id hposts hposts'
    obtain rfl := List.mem_singleton.mp hs'
    obtain ⟨flight, hflight, haccepted⟩ := hsent s hs d id hposts
    obtain ⟨q, rfl, rfl, hid⟩ := hposts'
    obtain ⟨flight', -, hflight', hunpolled, -⟩ := sent_of_poll hstep hid
    obtain rfl := Option.some.inj (hflight.symm.trans hflight')
    exact haccepted hunpolled

/-! ### What precedes a signal -/

/-- No Pod of a snapshot that is ready and does not drain hosts the character or has
room for it. -/
def Seatless (ext : Externals) (config : Config) (a : Access) (resources : List DynamicObject)
    (now : OffsetDateTime) : Prop :=
  ∃ character, a.character = some character
    ∧ ∀ o ∈ resources, ∀ pod cs, ext.podOf o = some pod → podReady pod = true →
      podDraining pod = false → charactersOnPod ext pod config [] now = .ok cs →
      visible cs character = false ∧ config.maxCharactersPerServer ≤ cs.length

lemma seatless_of_cold {a : Access} {resources : List DynamicObject} {now : OffsetDateTime}
    (h : decision ext config a resources now = .ok .cold) :
    Seatless ext config a resources now := by
  obtain ⟨ks, hks, h⟩ := Except.exists_of_bind_eq_ok h
  split at h
  · obtain ⟨_, -, h⟩ := Except.exists_of_bind_eq_ok h
    cases h
  · rename_i character hc
    refine ⟨character, hc, ?_⟩
    split at h
    · cases h
    · rename_i hchoose
      intro o ho pod cs hpod hready hdrain hcs
      obtain ⟨k, hk, rfl⟩ := exists_candidate_of_ready hpod hready hks ho
      obtain rfl : k.pod = pod := Option.some.inj (k.decoded.symm.trans hpod)
      obtain rfl : k.characters = cs := Except.ok.inj (k.shown.symm.trans hcs)
      have hnot : ¬admits character k = true := by
        intro hadmits
        have hmem : k ∈ ranked character a.ids ks := mem_ranked.mpr ⟨hk, hadmits, hdrain⟩
        simp [choose_eq_none hchoose] at hmem
      rw [admits_iff, not_or, Bool.not_eq_true, not_lt] at hnot
      exact hnot

/-- The last step of a query was a list that replied with these resources. -/
def Listed (q : TaskId) (a : Access) (resources : List DynamicObject) (version : String)
    (steps : List (Taken ext config)) : Prop :=
  ∃ pre u u' indices post stage,
    steps = pre ++ (u, .task q (.list (some (indices, version))), u') :: post
      ∧ (u.tasks q).phase = .running a stage
      ∧ filterSnapshot config.defaultEndpoint.statusQuery
          config.defaultEndpoint.annotationSelector (u.cluster.pick indices) = .ok resources
      ∧ ∀ s ∈ post, ¬By q s

/-- The last two steps of a query were a list and a decision on it, which found no
seat. -/
def Courted (q : TaskId) (a : Access) (version : String) (steps : List (Taken ext config)) :
    Prop :=
  ∃ pre v v' now post resources,
    steps = pre ++ (v, .task q (.decide now), v') :: post ∧ Listed q a resources version pre
      ∧ Seatless ext config a resources now ∧ ∀ s ∈ post, ¬By q s

/-- What precedes the phase of a query. -/
def Courting (q : TaskId) (steps : List (Taken ext config)) : Phase ext config → Prop
  | .running a (.deciding resources version) => Listed q a resources version steps
  | .running a (.signalling _ version) => Courted q a version steps
  | _ => True

section

variable {q : TaskId} {steps : List (Taken ext config)} {s : Taken ext config}

lemma not_by_concat {post : List (Taken ext config)} (h : ∀ s ∈ post, ¬By q s) (hs : ¬By q s) :
    ∀ s' ∈ post ++ [s], ¬By q s' := by
  intro s' hs'
  rcases List.mem_append.mp hs' with hs' | hs'
  · exact h s' hs'
  · obtain rfl := List.mem_singleton.mp hs'
    exact hs

lemma Courting.concat {p : Phase ext config} (h : Courting q steps p) (hs : ¬By q s) :
    Courting q (steps ++ [s]) p := by
  unfold Courting at h ⊢
  split at h
  · obtain ⟨pre, u, u', indices, post, stage, rfl, hphase, hfilter, hpost⟩ := h
    exact ⟨pre, u, u', indices, post ++ [s], stage, by simp, hphase, hfilter,
      not_by_concat hpost hs⟩
  · obtain ⟨pre, v, v', now, post, resources, rfl, hlisted, hseatless, hpost⟩ := h
    exact ⟨pre, v, v', now, post ++ [s], resources, by simp, hlisted, hseatless,
      not_by_concat hpost hs⟩
  · trivial

lemma Phase.Refused.courting {p : Phase ext config} (hp : p.Refused) : Courting q steps p := by
  cases hp <;> trivial

/-- A decision that waits found no seat in the resources just listed. -/
lemma Moves.courting {w w' : World ext config} {p' : Phase ext config} {event : Event}
    {eff : Effect} (h : Moves w q (w.tasks q).phase event p' eff)
    (hcourting : Courting q steps (w.tasks q).phase) :
    Courting q (steps ++ [(w, .task q event, w')]) p' := by
  generalize hphase : (w.tasks q).phase = phase at h hcourting
  cases h with
  | reject hp => exact hp.courting
  | refuse hstage hp => exact hp.courting
  | list hstage hr => exact ⟨steps, w, w', _, [], _, rfl, hphase, hr, by simp⟩
  | wait hd hdc => exact ⟨steps, w, w', _, [], _, rfl, hcourting, seatless_of_cold hd, by simp⟩
  | _ => trivial

end

/-- **A query signals only after a snapshot without a seat.** -/
theorem courting_of_run {w₀ w : World ext config} {acts : List Action} (h₀ : w₀.Initial)
    (hrun : Run.run step w₀ acts = some w) (q : TaskId) :
    Courting q (Run.trace step w₀ acts) (w.tasks q).phase := by
  refine Run.run_induction
    (P := fun as w => Courting q (Run.trace step w₀ as) (w.tasks q).phase) ?_ ?_ hrun
  · rw [h₀.entry q]
    trivial
  · intro as u action v hu hcourting hstep
    rw [Run.trace_concat hu hstep]
    obtain ⟨event, p', eff, rfl, hmoves, rfl⟩ | ⟨hothers, htask⟩ := moves_or_others hstep q
    · rw [World.phase_move]
      exact hmoves.courting hcourting
    · rw [htask]
      exact hcourting.concat hothers

/-! ### The group of a flight -/

/-- The group that a query of a map asks for. -/
def AskedGroup (config : Config) (map group : String) : Prop :=
  ∃ demandConfig, config.capacityDemand = some demandConfig
    ∧ group = (demandConfig.backendGroups.lookup map).getD map

namespace World

/-- A query holds a flight for the group of its map only. -/
structure Grouped (w : World ext config) : Prop where
  entry : ∀ q, (w.tasks q).phase = .entry → (w.tasks q).flight = none
  settled : ∀ q a demandConfig version,
    (w.tasks q).phase = .running a (.signalling demandConfig version) →
    config.capacityDemand = some demandConfig
  keyed : ∀ d, (w.directors d).demand.Keyed
  asked : ∀ q a stage id, (w.tasks q).phase = .running a stage → (w.tasks q).flight = some id →
    ∃ flight, (w.directors (w.tasks q).director).demand.flight id = some flight
      ∧ AskedGroup config a.map flight.group

variable {w w' : World ext config} {q : TaskId}

lemma Initial.grouped (h : w.Initial) : w.Grouped where
  entry q _ := h.flight q
  settled q a demandConfig version hphase := by simp [h.entry q] at hphase
  keyed d := by
    rw [h.demand d]
    intro group id hlookup
    simp at hlookup
  asked q a stage id hphase := by simp [h.entry q] at hphase

/-- Only a call of `signal` gives a query another flight. -/
lemma signal_of_flightAfter {p' : Phase ext config} {event : Event} {eff : Effect} {id : FlightId}
    (h : Moves w q (w.tasks q).phase event p' eff) (hafter : w.flightAfter q eff = some id)
    (hne : (w.tasks q).flight ≠ some id) :
    ∃ a demandConfig version demand, event = .signal
        ∧ (w.tasks q).phase = .running a (.signalling demandConfig version)
        ∧ p' = .running a (.awaitingDemand version) ∧ eff = .demand demand (some id)
        ∧ (w.director q).demand.signal demandConfig
          ((demandConfig.backendGroups.lookup a.map).getD a.map) (w.director q).now
            = (demand, some id) := by
  generalize hphase : (w.tasks q).phase = phase at h
  cases h with
  | @signal a demandConfig version demand j hf hs =>
      obtain rfl : j = id := Option.some.inj hafter
      exact ⟨a, demandConfig, version, demand, rfl, rfl, rfl, rfl, hs⟩
  | poll hf => exact absurd (hf.trans hafter) hne
  | poison => simp [flightAfter] at hafter
  | _ => exact absurd hafter hne

/-- Whether a query is about to signal is decided with the configuration. -/
lemma settled_of_moves {p p' : Phase ext config} {event : Event} {eff : Effect}
    (h : Moves w q p event p' eff) {a : Access} {demandConfig : CapacityDemandConfig}
    {version : String} (hp' : p' = .running a (.signalling demandConfig version)) :
    config.capacityDemand = some demandConfig := by
  cases h with
  | reject => cases hp'
  | refuse _ hp => subst hp'; cases hp
  | wait hd hdc =>
      obtain ⟨-, hstage⟩ := Phase.running.inj hp'
      obtain ⟨rfl, -⟩ := Stage.signalling.inj hstage
      exact hdc
  | _ => simp at hp'

lemma Grouped.step (h : w.Grouped) {action : Action} (hstep : UdpDirector.step w action = some w') :
    w'.Grouped where
  entry r hentry := by
    obtain ⟨event, p', eff, rfl, hmoves, rfl⟩ | ⟨-, htask⟩ := moves_or_others hstep r
    · rw [phase_move] at hentry
      exact absurd hentry hmoves.ne_entry
    · rw [htask] at hentry ⊢
      exact h.entry r hentry
  settled r a demandConfig version hphase := by
    obtain ⟨event, p', eff, rfl, hmoves, rfl⟩ | ⟨-, htask⟩ := moves_or_others hstep r
    · rw [phase_move] at hphase
      exact settled_of_moves hmoves hphase
    · rw [htask] at hphase
      exact h.settled r a demandConfig version hphase
  keyed := keyed_of_step hstep h.keyed
  asked r a stage id hphase hflight := by
    -- a flight held before the step is still for the same group
    have hkept : ∀ stage', (w.tasks r).phase = .running a stage' → (w.tasks r).flight = some id →
        ∃ flight, (w'.directors (w'.tasks r).director).demand.flight id = some flight
          ∧ AskedGroup config a.map flight.group := by
      intro stage' hphase hflight
      obtain ⟨flight, hold, hasked⟩ := h.asked r a stage' id hphase hflight
      obtain ⟨flight', hflight', hlater⟩ := keeps_of_step hstep _ id flight hold
      rw [(task_of_step hstep r).1]
      exact ⟨flight', hflight', hlater.group ▸ hasked⟩
    obtain ⟨event, p', eff, rfl, hmoves, rfl⟩ | ⟨-, htask⟩ := moves_or_others hstep r
    · rw [phase_move] at hphase
      subst hphase
      rw [flight_move, if_neg (by simp [Phase.ended])] at hflight
      by_cases hold : (w.tasks r).flight = some id
      · have hne : (w.tasks r).phase ≠ .entry := fun hentry => by simp [h.entry r hentry] at hold
        obtain ⟨stage', hphase'⟩ := hmoves.running_of_ne_entry hne rfl
        exact hkept stage' hphase' hold
      · obtain ⟨b, demandConfig, version, demand, -, hphase', hp', rfl, hsignal⟩ :=
          signal_of_flightAfter hmoves hflight hold
        obtain ⟨rfl, rfl⟩ := Phase.running.inj hp'
        obtain ⟨flight, hflight', hgroup⟩ := (h.keyed _).group_of_signal hsignal
        refine ⟨flight, ?_, demandConfig, h.settled r a demandConfig version hphase', hgroup⟩
        rw [(w.task_move r _ _ r).1, demand_move_eq, if_neg (by simp [Phase.ended])]
        exact hflight'
    · rw [htask] at hphase hflight
      exact hkept stage hphase hflight

/-- **A query holds a flight for the group of its map only**, in every run. -/
theorem grouped_of_run {w₀ w : World ext config} {acts : List Action} (h₀ : w₀.Initial)
    (hrun : Run.run UdpDirector.step w₀ acts = some w) : w.Grouped :=
  Run.run_invariant (fun _ _ _ hu hstep => hu.step hstep) h₀.grouped hrun

end World

/-! ### One flight -/

namespace World

variable {w w' : World ext config} {q : TaskId} {id : FlightId} {flight : Flight}

/-- What a query keeps of the flight it holds. -/
lemma heldFlight_of_keeps {R : Flight → Flight → Prop}
    (hheld : w.heldFlight q = some (id, flight))
    (htask : (w'.tasks q).director = (w.tasks q).director)
    (hflight : (w'.tasks q).flight = some id)
    (hkeeps : CapacityDemand.Keeps R (w.directors (w.tasks q).director).demand
      (w'.directors (w.tasks q).director).demand) :
    ∃ flight', w'.heldFlight q = some (id, flight') ∧ R flight flight' := by
  obtain ⟨flight', hflight', hR⟩ := hkeeps id flight (flight_of_heldFlight' hheld)
  exact ⟨flight', by simp [heldFlight, director, htask, hflight, hflight'], hR⟩

/-- A query keeps its flight over a step that does not end it. -/
lemma heldFlight_of_step {action : Action} (hstep : UdpDirector.step w action = some w')
    (hheld : w.heldFlight q = some (id, flight)) :
    (w'.tasks q).phase.ended = true
      ∨ ∃ flight', w'.heldFlight q = some (id, flight') ∧ flight.Later flight' := by
  rcases flight_of_step hstep (flight_of_heldFlight hheld) with hended | hflight
  · exact .inl hended
  · exact .inr (heldFlight_of_keeps hheld (task_of_step hstep q).1 hflight (keeps_of_step hstep _))

/-- **A query keeps its flight until it ends**, over any run. -/
theorem heldFlight_of_run {acts : List Action} (hrun : Run.run UdpDirector.step w acts = some w')
    (hheld : w.heldFlight q = some (id, flight)) :
    (w'.tasks q).phase.ended = true
      ∨ ∃ flight', w'.heldFlight q = some (id, flight') ∧ flight.Later flight' := by
  refine Run.run_invariant (I := fun u : World ext config => (u.tasks q).phase.ended = true
    ∨ ∃ flight', u.heldFlight q = some (id, flight') ∧ flight.Later flight') ?_
    (.inr ⟨flight, hheld, rfl, rfl, fun h => h⟩) hrun
  rintro u action v (hended | ⟨flight', hheld', hlater⟩) hstep
  · left
    rw [phase_of_ended hended
      (by rw [Run.run_singleton, hstep] : Run.run UdpDirector.step u [action] = some v)]
    exact hended
  · rcases heldFlight_of_step hstep hheld' with hended | ⟨flight'', hheld'', hlater'⟩
    · exact .inl hended
    · exact .inr ⟨flight'', hheld'', hlater.trans hlater'⟩

/-- **A query that ends takes no flight from the others.** -/
lemma heldFlight_of_end {q' : TaskId} (hne : q' ≠ q) {event : Event}
    (hstep : UdpDirector.step w (.task q event) = some w')
    (hended : (w'.tasks q).phase.ended = true) (hheld : w.heldFlight q' = some (id, flight)) :
    ∃ flight', w'.heldFlight q' = some (id, flight') ∧ flight.Same flight' := by
  have htasks : w'.tasks q' = w.tasks q' :=
    tasks_of_step hstep fun event' heq => hne (Action.task.inj heq).1.symm
  refine heldFlight_of_keeps hheld (by rw [htasks]) ?_ (keeps_of_end hstep hended _)
  rw [htasks]
  exact flight_of_heldFlight hheld

end World

/-- A flight is started for a group only if no query holds one for it. -/
lemma World.Shared.unheld_of_started {w w' : World ext config} (h : w.Shared) {action : Action}
    (hstep : UdpDirector.step w action = some w') {d : ℕ} {id : FlightId} {flight : Flight}
    (hnone : (w.directors d).demand.flight id = none)
    (hsome : (w'.directors d).demand.flight id = some flight) {q : TaskId} {id' : FlightId}
    {flight' : Flight} (hq : (w.tasks q).director = d)
    (hheld : w.heldFlight q = some (id', flight')) : flight'.group ≠ flight.group := by
  subst hq
  intro hgroup
  obtain ⟨holders, hholders, hcounted⟩ := h (w.tasks q).director
  have hlisted := hcounted.swept.listed id' flight' (World.flight_of_heldFlight' hheld)
    ⟨q, hholders.mem_of_heldFlight rfl hheld⟩
  rw [hgroup, World.lookup_of_started hstep hnone hsome] at hlisted
  simp at hlisted

/-- **One demand flight per group**, whatever the order of calls, completions,
timeouts and cancellations. -/
theorem one_flight {w₀ w : World ext config} {acts : List Action} (h₀ : w₀.Initial)
    (hrun : Run.run step w₀ acts = some w) :
    -- the flight a query holds is one for the group of its map
    (∀ q a stage id flight, (w.tasks q).phase = .running a stage →
      w.heldFlight q = some (id, flight) → AskedGroup config a.map flight.group)
    -- two queries that hold a flight for a group hold the same one
    ∧ (∀ q q' id id' flight flight', (w.tasks q).director = (w.tasks q').director →
      w.heldFlight q = some (id, flight) → w.heldFlight q' = some (id', flight') →
      flight.group = flight'.group → (id, flight) = (id', flight'))
    -- a flight is started for a group only if no query holds one for it
    ∧ (∀ action w', step w action = some w' → ∀ d id flight,
      (w.directors d).demand.flight id = none → (w'.directors d).demand.flight id = some flight →
      ∀ q id' flight', (w.tasks q).director = d → w.heldFlight q = some (id', flight') →
        flight'.group ≠ flight.group)
    -- its POST is sent at most once
    ∧ (Run.trace step w₀ acts).Pairwise (fun s s' => ∀ d id, Posts d id s → ¬Posts d id s')
    -- a query that ends leaves the others their flight, with the POST as far as it is
    ∧ (∀ q event w', step w (.task q event) = some w' → (w'.tasks q).phase.ended = true →
      ∀ q' ≠ q, ∀ id flight, w.heldFlight q' = some (id, flight) →
        ∃ flight', w'.heldFlight q' = some (id, flight') ∧ flight.Same flight')
    -- a query keeps its first flight and deadline until it ends
    ∧ (∀ acts' w', Run.run step w acts' = some w' → ∀ q id flight,
      w.heldFlight q = some (id, flight) → (w'.tasks q).phase.ended = true
        ∨ ∃ flight', w'.heldFlight q = some (id, flight') ∧ flight.Later flight')
    -- and signals only after a fresh snapshot without a free seat
    ∧ (∀ q w', step w (.task q .signal) = some w' → ∃ a demandConfig version,
      (w.tasks q).phase = .running a (.signalling demandConfig version)
        ∧ Courted q a version (Run.trace step w₀ acts)) := by
  have hshared := World.shared_of_run h₀ hrun
  refine ⟨?_, fun q q' id id' flight flight' hd hheld hheld' hgroup =>
    hshared.eq_of_group hd hheld hheld' hgroup, ?_, posts_once hrun, ?_, ?_, ?_⟩
  · intro q a stage id flight hphase hheld
    obtain ⟨flight', hflight', hasked⟩ := (World.grouped_of_run h₀ hrun).asked q a stage id hphase
      (World.flight_of_heldFlight hheld)
    obtain rfl := Option.some.inj ((World.flight_of_heldFlight' hheld).symm.trans hflight')
    exact hasked
  · intro action w' hstep d id flight hnone hsome q id' flight' hq hheld
    exact hshared.unheld_of_started hstep hnone hsome hq hheld
  · intro q event w' hstep hended q' hne id flight hheld
    exact World.heldFlight_of_end hne hstep hended hheld
  · intro acts' w' hrun' q id flight hheld
    exact World.heldFlight_of_run hrun' hheld
  · intro q w' hstep
    obtain ⟨p, eff, hmoves, -⟩ := exists_moves_of_step hstep
    obtain ⟨a, demandConfig, version, hphase⟩ := hmoves.exists_of_signal
    have hcourting := courting_of_run h₀ hrun q
    rw [hphase] at hcourting
    exact ⟨a, demandConfig, version, hphase, hcourting⟩

/-! ### Two cold queries -/

namespace Sample

/-- Two queries that wait for a server. -/
def bothCold : World decoders demandSettings :=
  Run.reached step emptyWorld (untilFlight 0 ++ untilFlight 1) (by decide +kernel)

lemma run_bothCold :
    Run.run step emptyWorld (untilFlight 0 ++ untilFlight 1) = some bothCold :=
  Run.run_reached _ _ _

end Sample

/-- Two cold queries of one map hold one flight. -/
theorem one_flight_sample : ∃ held : FlightId × Flight,
    Sample.bothCold.heldFlight 0 = some held ∧ Sample.bothCold.heldFlight 1 = some held := by
  obtain ⟨⟨id, flight⟩, hheld⟩ :=
    Option.isSome_iff_exists.mp (by decide +kernel : (Sample.bothCold.heldFlight 0).isSome = true)
  obtain ⟨⟨id', flight'⟩, hheld'⟩ :=
    Option.isSome_iff_exists.mp (by decide +kernel : (Sample.bothCold.heldFlight 1).isSome = true)
  have hgroup : (Sample.bothCold.heldFlight 0).map (·.2.group)
      = (Sample.bothCold.heldFlight 1).map (·.2.group) := by decide +kernel
  rw [hheld, hheld'] at hgroup
  have heq := (one_flight Sample.initial_emptyWorld Sample.run_bothCold).2.1 0 1 id id' flight
    flight' (by decide +kernel) hheld hheld' (Option.some.inj hgroup)
  exact ⟨(id, flight), hheld, by rw [hheld', heq]⟩

end UdpDirector
