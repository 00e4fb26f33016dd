import UdpDirector.Demand.References
import UdpDirector.Foundation.Run
import UdpDirector.Validation

/-!
Sequences of calls of `CapacityDemand::signal` under a validated configuration.

* `DemandEvent`, `CapacityDemand.step`: the calls, and what happens to flights between them;
* `Answered`: a call returns a flight of its group, and the mutex is not poisoned;
* `InRange`: a call that starts a flight has a deadline that an `Instant` holds;
* `neverBreaks_iff`: every step of a sequence is answered exactly if every step is in range. The
  deadline is added while the mutex is held, so the first call out of range ends all others;
* `forall_neverBreaks_iff`: all sequences up to a time are answered exactly if the boot timeout
  after that time is in range, which validation does not look at.
-/

namespace UdpDirector

/-- What happens to the demand of a director: a call of `signal`, a query that gives up its flight,
a result of the shared POST. -/
inductive DemandEvent where
  | call (group : String) (now : Instant)
  | release (id : FlightId)
  | post (id : FlightId) (accepted : Accepted)

namespace CapacityDemand

/-- The demand after an event, which is possible at any time. -/
def step (config : CapacityDemandConfig) (demand : CapacityDemand) :
    DemandEvent → Option CapacityDemand
  | .call group now => some (demand.signal config group now).1
  | .release id => some (demand.release id)
  | .post id accepted => some (demand.alterFlight id fun flight => { flight with accepted })

/-- A call returns a flight of its group, which it does not if it panics, and the mutex is not
poisoned before or after. -/
structure Answered (config : CapacityDemandConfig) (demand : CapacityDemand)
    (event : DemandEvent) : Prop where
  returns : ∀ group now, event = .call group now → ∃ demand' id flight,
    demand.signal config group now = (demand', some id)
      ∧ demand'.flight id = some flight ∧ flight.group = group
  healthy : demand.poisoned = false
  healthy_after : ∀ demand', demand.step config event = some demand' → demand'.poisoned = false

/-- A call for a group without a live flight comes early enough for the boot timeout. -/
def InRange (config : CapacityDemandConfig) (demand : CapacityDemand) (event : DemandEvent) :
    Prop :=
  ∀ group now, event = .call group now → demand.swept.flights.lookup group = none →
    now / 10 ^ 9 + config.bootTimeoutSeconds < 2 ^ 63

/-- Every step of a sequence of events is answered. -/
def NeverBreaks (config : CapacityDemandConfig) (events : List DemandEvent) : Prop :=
  Run.Along (step config) (Answered config) {} events

/-- Every step of a sequence of events is in range. -/
def StaysInRange (config : CapacityDemandConfig) (events : List DemandEvent) : Prop :=
  Run.Along (step config) (InRange config) {} events

section

variable {config : CapacityDemandConfig} {demand demand' : CapacityDemand} {event : DemandEvent}
  {group : String} {now : Instant}

lemma checkedAdd_eq_none_iff {t : Instant} {seconds : ℕ} :
    Instant.checkedAdd t seconds = none ↔ ¬t / 10 ^ 9 + seconds < 2 ^ 63 := by
  rw [Instant.checkedAdd]
  split
  · rename_i hlt
    exact iff_of_false (by simp) (not_not_intro hlt)
  · rename_i hlt
    exact iff_of_true rfl hlt

/-- A call on a healthy demand either has a flight to join or to start, or the deadline is out of
range and the mutex is poisoned. -/
lemma signal_of_healthy (config : CapacityDemandConfig) (group : String) (now : Instant)
    (hhealthy : demand.poisoned = false) :
    (∃ demand' id, demand.signal config group now = (demand', some id)
        ∧ demand'.poisoned = false
        ∧ (demand.swept.flights.lookup group = none →
          now / 10 ^ 9 + config.bootTimeoutSeconds < 2 ^ 63))
      ∨ demand.signal config group now = ({ demand.swept with poisoned := true }, none)
        ∧ demand.swept.flights.lookup group = none
        ∧ ¬now / 10 ^ 9 + config.bootTimeoutSeconds < 2 ^ 63 := by
  rw [signal, if_neg (by simp [hhealthy])]
  dsimp only
  cases hlookup : (Table.retain (fun _ id => demand.live id) demand.flights).lookup group with
  | some id =>
      left
      refine ⟨_, id, rfl, hhealthy, fun hnone => ?_⟩
      rw [swept, hlookup] at hnone
      cases hnone
  | none =>
      cases hdeadline : Instant.checkedAdd now config.bootTimeoutSeconds with
      | some deadline =>
          left
          refine ⟨_, demand.cells.length, rfl, hhealthy, fun _ => ?_⟩
          by_contra hrange
          rw [checkedAdd_eq_none_iff.mpr hrange] at hdeadline
          cases hdeadline
      | none => exact .inr ⟨rfl, hlookup, checkedAdd_eq_none_iff.mp hdeadline⟩

lemma step_keyed (hkeyed : demand.Keyed) (h : demand.step config event = some demand') :
    demand'.Keyed := by
  cases event with
  | call group now =>
      obtain rfl := Option.some.inj h
      exact hkeyed.signal rfl
  | _ =>
      obtain rfl := Option.some.inj h
      exact hkeyed.alter _ fun _ => rfl

/-- An event on a healthy demand is answered exactly if it is in range. -/
lemma answered_iff (hkeyed : demand.Keyed) (hhealthy : demand.poisoned = false) :
    Answered config demand event ↔ InRange config demand event := by
  cases event with
  | call group now =>
      rcases signal_of_healthy config group now hhealthy with
        ⟨demand', id, hsignal, hafter, hrange⟩ | ⟨hsignal, hlookup, hrange⟩
      · refine iff_of_true ⟨?_, hhealthy, ?_⟩ ?_
        · rintro _ _ ⟨rfl, rfl⟩
          obtain ⟨flight, hflight, hgroup⟩ := hkeyed.group_of_signal hsignal
          exact ⟨demand', id, flight, hsignal, hflight, hgroup⟩
        · intro demand'' hstep
          obtain rfl := Option.some.inj hstep
          rwa [hsignal]
        · rintro _ _ ⟨rfl, rfl⟩ hlookup
          exact hrange hlookup
      · refine iff_of_false (fun answered => ?_) fun inRange => ?_
        · obtain ⟨demand', id, flight, hreturned, -⟩ := answered.returns group now rfl
          rw [hsignal] at hreturned
          cases hreturned
        · exact hrange (inRange group now rfl hlookup)
  | _ =>
      -- other events start no flight and leave the mutex alone
      refine iff_of_true ⟨?_, hhealthy, ?_⟩ ?_
      · intro group now h
        cases h
      · intro demand' h
        obtain rfl := Option.some.inj h
        exact hhealthy
      · intro group now h
        cases h

/-- From a healthy demand every step of a sequence is answered exactly if every step is in range. -/
lemma along_answered_iff {events : List DemandEvent} (hkeyed : demand.Keyed)
    (hhealthy : demand.poisoned = false) :
    Run.Along (step config) (Answered config) demand events
      ↔ Run.Along (step config) (InRange config) demand events := by
  induction events generalizing demand with
  | nil => exact Iff.rfl
  | cons event events ih =>
      rw [Run.Along, Run.Along, answered_iff hkeyed hhealthy]
      refine and_congr_right fun inRange => ?_
      have hanswered := (answered_iff hkeyed hhealthy).mpr inRange
      exact forall_congr' fun demand' => forall_congr' fun hstep =>
        ih (step_keyed hkeyed hstep) (hanswered.healthy_after demand' hstep)

lemma keyed_empty : ({} : CapacityDemand).Keyed := by
  intro group id h
  simp at h

/-- **A sequence of events is answered exactly if** each of its steps is in range. -/
lemma neverBreaks_iff {events : List DemandEvent} :
    NeverBreaks config events ↔ StaysInRange config events :=
  along_answered_iff keyed_empty rfl

/-- **Every sequence of events up to a time is answered exactly if** the boot timeout after that
time is in range. -/
lemma forall_neverBreaks_iff (config : CapacityDemandConfig) (latest : Instant) :
    (∀ events, (∀ group now, .call group now ∈ events → now ≤ latest) →
        NeverBreaks config events)
      ↔ latest / 10 ^ 9 + config.bootTimeoutSeconds < 2 ^ 63 := by
  constructor
  · intro hall
    have hanswered := hall [.call "" latest] fun group now hcall => by
      obtain ⟨-, rfl⟩ := DemandEvent.call.inj (List.mem_singleton.mp hcall)
      exact Nat.le_refl now
    rw [neverBreaks_iff] at hanswered
    exact hanswered.1 "" latest rfl rfl
  · intro hrange events hevents
    rw [neverBreaks_iff]
    refine Run.along_of_forall ?_ _
    rintro event hevent demand group now rfl -
    have hle : now / 10 ^ 9 ≤ latest / 10 ^ 9 := Nat.div_le_div_right (hevents group now hevent)
    exact Nat.lt_of_le_of_lt (Nat.add_le_add_right hle _) hrange

end

end CapacityDemand

/-! ### Validated configurations -/

/-- A configuration that passes validation, with its capacity demand. -/
structure ValidDemand (parseUri : String → Option Uri) where
  config : LoadedConfig
  valid : config.validate parseUri = .ok ()
  demand : CapacityDemandConfig
  configured : config.capacityDemand = some demand

/-- **A validated configuration never breaks signaling exactly if** the boot timeout is in range: on
one sequence of events, after the time of every call that starts a flight, and on all sequences up
to a time, after that time. -/
theorem ValidDemand.never_breaks {parseUri : String → Option Uri} (valid : ValidDemand parseUri) :
    (∀ events, CapacityDemand.NeverBreaks valid.demand events
        ↔ CapacityDemand.StaysInRange valid.demand events)
      ∧ ∀ latest : Instant,
        (∀ events, (∀ group now, .call group now ∈ events → now ≤ latest) →
            CapacityDemand.NeverBreaks valid.demand events)
          ↔ latest / 10 ^ 9 + valid.demand.bootTimeoutSeconds < 2 ^ 63 :=
  ⟨fun _ => CapacityDemand.neverBreaks_iff, CapacityDemand.forall_neverBreaks_iff valid.demand⟩

namespace Sample

/-- A parser that knows one endpoint. -/
def parseEndpoint (endpoint : String) : Option Uri :=
  if endpoint = "http://controller/demand" then
    some { scheme := some "http", hasAuthority := true }
  else
    none

/-- A capacity demand with a boot timeout. -/
def demandWithin (seconds : ℕ) : CapacityDemandConfig where
  endpoint := "http://controller/demand"
  backendGroups := ∅
  bootTimeoutSeconds := seconds

/-- A configuration with the default boot timeout. -/
def demandingConfig : LoadedConfig where
  capacityDemand := some (demandWithin 300)
  defaultEndpoint := { resourceType := "pod", namespaceName := "games" }
  sessionTimeoutSeconds := 300
  resourceQueryMapping :=
    (∅ : Table String ResourceMapping).insert "pod"
      { group := "", resource := "pods" }
  queryPort := 9000

/-- The configuration with the default boot timeout, which passes validation. -/
def demanding : ValidDemand parseEndpoint where
  config := demandingConfig
  valid := by decide
  demand := demandWithin 300
  configured := rfl

/-- Two groups are signaled; the first flight is accepted, given up and flown again. -/
def twoGroups : List DemandEvent :=
  [.call "forest" 0, .call "cave" (10 ^ 9), .post 0 (.done (.ok ())),
    .call "forest" (2 * 10 ^ 9), .release 0, .release 0, .call "forest" (400 * 10 ^ 9)]

end Sample

/-- With the default boot timeout none of these calls breaks. -/
theorem ValidDemand.never_breaks_sample :
    CapacityDemand.NeverBreaks Sample.demanding.demand Sample.twoGroups := by
  refine (Sample.demanding.never_breaks.2 (10 ^ 18)).mpr (by decide) Sample.twoGroups ?_
  intro group now hmem
  simp only [Sample.twoGroups, List.mem_cons, DemandEvent.call.injEq, reduceCtorEq, false_or,
    List.not_mem_nil, or_false] at hmem
  rcases hmem with ⟨-, rfl⟩ | ⟨-, rfl⟩ | ⟨-, rfl⟩ | ⟨-, rfl⟩ <;> decide

namespace Sample

/-- The same configuration with the largest boot timeout. -/
def largestTimeout : ValidDemand parseEndpoint where
  config := demandingConfig.withBootTimeout (2 ^ 64 - 1)
  valid := LoadedConfig.validate_withBootTimeout (by decide) (by decide)
  demand := demandWithin (2 ^ 64 - 1)
  configured := rfl

end Sample

/-- With the largest boot timeout the first call panics, and a call for another group after it does
so too. -/
theorem Sample.not_answered_largestTimeout :
    ¬CapacityDemand.NeverBreaks Sample.largestTimeout.demand [.call "forest" 0]
      ∧ ((({} : CapacityDemand).signal Sample.largestTimeout.demand "forest" 0).1.signal
          Sample.largestTimeout.demand "cave" 1).2 = none := by
  constructor
  · intro hall
    obtain ⟨demand', id, flight, hsignal, -⟩ := hall.1.returns "forest" 0 rfl
    have hpanic :
        (({} : CapacityDemand).signal Sample.largestTimeout.demand "forest" 0).2 = none := by
      decide
    have hreturned := congrArg Prod.snd hsignal
    exact absurd (hpanic.symm.trans hreturned) (by simp)
  · decide

end UdpDirector
