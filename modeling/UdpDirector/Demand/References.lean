import UdpDirector.Demand
import Mathlib.Data.Finset.Card

/-!
The flights of one capacity demand and the references to them.

* `CapacityDemand.Counted`: the strong references of a flight are its holders, and
  a flight that is held is the one listed for its group; joining, starting and
  releasing a flight keep it;
* `CapacityDemand.Keyed`: every flight in the table is listed for its group;
  `CapacityDemand.Latest`: and is the last one started for it;
* `Flight.Same`, `Flight.Later`: what becomes of a flight;
* `CapacityDemand.Changes`: the changes that the steps of a system make, with what
  each keeps.
-/

namespace UdpDirector

namespace CapacityDemand

variable {ι : Type} {demand : CapacityDemand} {holders : FlightId → Finset ι} {q : ι}

/-- The strong references of a flight are its holders, and a flight that is held is
listed for its group. -/
structure Counted (demand : CapacityDemand) (holders : FlightId → Finset ι) : Prop where
  strong : ∀ id flight, demand.flight id = some flight → flight.strong = (holders id).card
  known : ∀ id, (holders id).Nonempty → ∃ flight, demand.flight id = some flight
  listed : ∀ id flight, demand.flight id = some flight → (holders id).Nonempty →
    demand.flights.lookup flight.group = some id

lemma flight_alterFlight (demand : CapacityDemand) (id j : FlightId) (f : Flight → Flight) :
    (demand.alterFlight id f).flight j
      = if id = j then (demand.flight j).map f else demand.flight j := by
  rw [flight, alterFlight, List.getElem?_modify]
  split
  · rfl
  · exact Option.map_id'

/-- An alteration adds no flight. -/
lemma exists_of_alterFlight {id j : FlightId} {f : Flight → Flight} {flight : Flight}
    (h : (demand.alterFlight id f).flight j = some flight) :
    ∃ old, demand.flight j = some old := by
  rw [flight_alterFlight] at h
  split at h
  · obtain ⟨old, hold, -⟩ := Option.map_eq_some_iff.mp h
    exact ⟨old, hold⟩
  · exact ⟨flight, h⟩

lemma flight_alterFlight_self (demand : CapacityDemand) (id : FlightId) (f : Flight → Flight) :
    (demand.alterFlight id f).flight id = (demand.flight id).map f := by
  rw [flight_alterFlight, if_pos rfl]

lemma flight_alterFlight_ne (demand : CapacityDemand) {id j : FlightId} (f : Flight → Flight)
    (h : id ≠ j) : (demand.alterFlight id f).flight j = demand.flight j := by
  rw [flight_alterFlight, if_neg h]

/-- A flight is live exactly when it is held. -/
lemma Counted.live_iff (h : demand.Counted holders) {id : FlightId} :
    demand.live id = true ↔ (holders id).Nonempty := by
  rw [live, Option.any_eq_true_iff_get]
  constructor
  · rintro ⟨hsome, hpos⟩
    have hflight := Option.some_get hsome
    rw [decide_eq_true_iff, h.strong id _ hflight.symm] at hpos
    exact Finset.card_pos.mp hpos
  · intro hheld
    obtain ⟨flight, hflight⟩ := h.known id hheld
    refine ⟨by rw [hflight]; rfl, ?_⟩
    simp only [hflight, Option.get_some, decide_eq_true_eq, h.strong id flight hflight]
    exact Finset.card_pos.mpr hheld

/-- A flight altered in place, group and references aside. -/
lemma Counted.alter (h : demand.Counted holders) (id : FlightId) {f : Flight → Flight}
    (hf : ∀ flight, (f flight).group = flight.group ∧ (f flight).strong = flight.strong) :
    (demand.alterFlight id f).Counted holders where
  strong j flight hflight := by
    rw [flight_alterFlight] at hflight
    split at hflight
    · obtain ⟨old, hold, rfl⟩ := Option.map_eq_some_iff.mp hflight
      rw [(hf old).2, h.strong j old hold]
    · exact h.strong j flight hflight
  known j hheld := by
    obtain ⟨flight, hflight⟩ := h.known j hheld
    rw [flight_alterFlight, hflight]
    split <;> exact ⟨_, rfl⟩
  listed j flight hflight hheld := by
    rw [flight_alterFlight] at hflight
    split at hflight
    · obtain ⟨old, hold, rfl⟩ := Option.map_eq_some_iff.mp hflight
      rw [(hf old).1]
      exact h.listed j old hold hheld
    · exact h.listed j flight hflight hheld

/-- A reference given up by one of the holders. -/
lemma Counted.release [DecidableEq ι] (h : demand.Counted holders) {id : FlightId}
    (hq : q ∈ holders id) :
    (demand.release id).Counted (Function.update holders id ((holders id).erase q)) where
  strong j flight hflight := by
    by_cases hj : id = j
    · subst hj
      rw [CapacityDemand.release, flight_alterFlight_self, Option.map_eq_some_iff] at hflight
      obtain ⟨old, hold, rfl⟩ := hflight
      rw [Function.update_self, Finset.card_erase_of_mem hq, h.strong id old hold]
    · rw [CapacityDemand.release, flight_alterFlight_ne _ _ hj] at hflight
      rw [Function.update_of_ne (Ne.symm hj), h.strong j flight hflight]
  known j hheld := by
    have hold : (holders j).Nonempty := by
      by_cases hj : id = j
      · subst hj
        exact ⟨q, hq⟩
      · rwa [Function.update_of_ne (Ne.symm hj)] at hheld
    obtain ⟨flight, hflight⟩ := h.known j hold
    rw [CapacityDemand.release, flight_alterFlight, hflight]
    split <;> exact ⟨_, rfl⟩
  listed j flight hflight hheld := by
    by_cases hj : id = j
    · subst hj
      rw [CapacityDemand.release, flight_alterFlight_self, Option.map_eq_some_iff] at hflight
      obtain ⟨old, hold, rfl⟩ := hflight
      exact h.listed id old hold ⟨q, hq⟩
    · rw [CapacityDemand.release, flight_alterFlight_ne _ _ hj] at hflight
      rw [Function.update_of_ne (Ne.symm hj)] at hheld
      exact h.listed j flight hflight hheld

/-- The table of weak references without those to flights that nobody holds. -/
def swept (demand : CapacityDemand) : CapacityDemand :=
  { demand with flights := Table.retain (fun _ id => demand.live id) demand.flights }

/-- The demand once a flight has been started for a group. -/
def started (demand : CapacityDemand) (group : String) (deadline : Instant) : CapacityDemand where
  flights := demand.swept.flights.insert group demand.cells.length
  cells := demand.cells ++ [{ group, deadline }]
  poisoned := demand.poisoned

/-- The sweep keeps every flight that is held. -/
lemma Counted.swept (h : demand.Counted holders) : demand.swept.Counted holders where
  strong := h.strong
  known := h.known
  listed id flight hflight hheld := by
    rw [CapacityDemand.swept, Table.lookup_retain, h.listed id flight hflight hheld]
    exact Option.filter_some_pos (h.live_iff.mpr hheld)

/-- What the sweep leaves listed is held. -/
lemma Counted.nonempty_of_lookup (h : demand.Counted holders) {group : String} {id : FlightId}
    (hlookup : demand.swept.flights.lookup group = some id) : (holders id).Nonempty := by
  rw [CapacityDemand.swept, Table.lookup_retain, Option.filter_eq_some_iff] at hlookup
  exact h.live_iff.mp hlookup.2

/-- The flight a call of `signal` returns is listed, or new. -/
lemma signal_eq_some {config : CapacityDemandConfig} {group : String} {now : Instant}
    {demand' : CapacityDemand} {id : FlightId}
    (h : demand.signal config group now = (demand', some id)) :
    demand.swept.flights.lookup group = some id
        ∧ demand' = demand.swept.alterFlight id
            (fun flight => { flight with strong := flight.strong + 1 })
      ∨ demand.swept.flights.lookup group = none ∧ id = demand.cells.length
        ∧ ∃ deadline, Instant.checkedAdd now config.bootTimeoutSeconds = some deadline
          ∧ demand' = demand.started group deadline := by
  rw [signal] at h
  split at h
  · simp at h
  · dsimp only at h
    split at h
    · rename_i hlookup
      obtain ⟨rfl, hid⟩ := Prod.mk.inj h
      obtain rfl := Option.some.inj hid
      exact .inl ⟨hlookup, rfl⟩
    · rename_i hlookup
      split at h
      · simp at h
      · rename_i deadline hdeadline
        obtain ⟨rfl, hid⟩ := Prod.mk.inj h
        obtain rfl := Option.some.inj hid
        exact .inr ⟨hlookup, rfl, deadline, hdeadline, rfl⟩

/-- A call of `signal` that panics leaves the flights, and sweeps the table at most. -/
lemma signal_eq_none {config : CapacityDemandConfig} {group : String} {now : Instant}
    {demand' : CapacityDemand} (h : demand.signal config group now = (demand', none)) :
    demand' = demand ∨ demand' = { demand.swept with poisoned := true } := by
  rw [signal] at h
  split at h
  · exact .inl (Prod.mk.inj h).1.symm
  · dsimp only at h
    split at h
    · simp at h
    · split at h
      · exact .inr (Prod.mk.inj h).1.symm
      · simp at h

/-- A flight that is listed is joined. -/
lemma Counted.join [DecidableEq ι] (h : demand.Counted holders) {group : String} {id : FlightId}
    (hlookup : demand.swept.flights.lookup group = some id) (hq : q ∉ holders id) :
    (demand.swept.alterFlight id fun flight => { flight with strong := flight.strong + 1 }).Counted
      (Function.update holders id (insert q (holders id))) where
  strong j flight hflight := by
    by_cases hj : id = j
    · subst hj
      rw [flight_alterFlight_self, Option.map_eq_some_iff] at hflight
      obtain ⟨old, hold, rfl⟩ := hflight
      rw [Function.update_self, Finset.card_insert_of_notMem hq, ← h.strong id old hold]
    · rw [flight_alterFlight_ne _ _ hj] at hflight
      rw [Function.update_of_ne (Ne.symm hj), ← h.strong j flight hflight]
  known j hheld := by
    have hold : (holders j).Nonempty := by
      by_cases hj : id = j
      · subst hj
        exact h.nonempty_of_lookup hlookup
      · rwa [Function.update_of_ne (Ne.symm hj)] at hheld
    obtain ⟨flight, hflight⟩ := h.swept.known j hold
    rw [flight_alterFlight, hflight]
    split <;> exact ⟨_, rfl⟩
  listed j flight hflight hheld := by
    by_cases hj : id = j
    · subst hj
      rw [flight_alterFlight_self, Option.map_eq_some_iff] at hflight
      obtain ⟨old, hold, rfl⟩ := hflight
      exact h.swept.listed id old hold (h.nonempty_of_lookup hlookup)
    · rw [flight_alterFlight_ne _ _ hj] at hflight
      rw [Function.update_of_ne (Ne.symm hj)] at hheld
      exact h.swept.listed j flight hflight hheld

lemma flight_started (demand : CapacityDemand) (group : String) (deadline : Instant)
    (j : FlightId) :
    (demand.started group deadline).flight j
      = if j = demand.cells.length then some { group, deadline } else demand.flight j := by
  rw [flight, flight, started]
  rcases lt_trichotomy j demand.cells.length with hlt | rfl | hgt
  · rw [List.getElem?_append_left hlt, if_neg hlt.ne]
  · rw [List.getElem?_concat_length, if_pos rfl]
  · rw [if_neg hgt.ne', List.getElem?_eq_none_iff.mpr hgt.le, List.getElem?_eq_none_iff.mpr]
    rw [List.length_append, List.length_singleton]
    exact hgt

/-- A flight is started where none is listed. -/
lemma Counted.start [DecidableEq ι] (h : demand.Counted holders) {group : String} (q : ι)
    (deadline : Instant) (hlookup : demand.swept.flights.lookup group = none) :
    (demand.started group deadline).Counted
      (Function.update holders demand.cells.length {q}) where
  strong j flight hflight := by
    rw [flight_started] at hflight
    split at hflight
    · rename_i hj
      subst hj
      obtain rfl := Option.some.inj hflight
      rw [Function.update_self, Finset.card_singleton]
    · rename_i hj
      rw [Function.update_of_ne hj]
      exact h.strong j flight hflight
  known j hheld := by
    rw [flight_started]
    split
    · exact ⟨_, rfl⟩
    · rename_i hj
      rw [Function.update_of_ne hj] at hheld
      exact h.known j hheld
  listed j flight hflight hheld := by
    rw [flight_started] at hflight
    split at hflight
    · rename_i hj
      subst hj
      obtain rfl := Option.some.inj hflight
      exact AList.lookup_insert _
    · rename_i hj
      rw [Function.update_of_ne hj] at hheld
      have hold := h.swept.listed j flight hflight hheld
      have hgroup : flight.group ≠ group := by
        rintro rfl
        rw [hlookup] at hold
        simp at hold
      rw [started, AList.lookup_insert_ne hgroup]
      exact hold

/-- Every flight in the table is listed for its group. -/
def Keyed (demand : CapacityDemand) : Prop :=
  ∀ group id, demand.flights.lookup group = some id →
    ∃ flight, demand.flight id = some flight ∧ flight.group = group

lemma Keyed.alter (h : demand.Keyed) (id : FlightId) {f : Flight → Flight}
    (hf : ∀ flight, (f flight).group = flight.group) : (demand.alterFlight id f).Keyed := by
  intro group j hlookup
  obtain ⟨flight, hflight, hgroup⟩ := h group j hlookup
  rw [flight_alterFlight, hflight]
  split
  · exact ⟨f flight, rfl, (hf flight).trans hgroup⟩
  · exact ⟨flight, rfl, hgroup⟩

lemma Keyed.swept (h : demand.Keyed) : demand.swept.Keyed := by
  intro group id hlookup
  rw [CapacityDemand.swept, Table.lookup_retain, Option.filter_eq_some_iff] at hlookup
  exact h group id hlookup.1

lemma Keyed.started (h : demand.Keyed) (group : String) (deadline : Instant) :
    (demand.started group deadline).Keyed := by
  intro g j hlookup
  rw [flight_started]
  by_cases hg : g = group
  · subst hg
    rw [CapacityDemand.started, AList.lookup_insert] at hlookup
    obtain rfl := Option.some.inj hlookup
    exact ⟨_, if_pos rfl, rfl⟩
  · rw [CapacityDemand.started, AList.lookup_insert_ne hg] at hlookup
    obtain ⟨flight, hflight, hgroup⟩ := h.swept g j hlookup
    have hne : j ≠ demand.cells.length := (List.getElem?_eq_some_iff.mp hflight).1.ne
    exact ⟨flight, (if_neg hne).trans hflight, hgroup⟩

lemma Keyed.signal (h : demand.Keyed) {config : CapacityDemandConfig} {group : String}
    {now : Instant} {demand' : CapacityDemand} {id : Option FlightId}
    (hsignal : demand.signal config group now = (demand', id)) : demand'.Keyed := by
  cases id with
  | none => obtain rfl | rfl := signal_eq_none hsignal <;> first | exact h | exact h.swept
  | some id =>
      obtain ⟨-, rfl⟩ | ⟨-, -, deadline, -, rfl⟩ := signal_eq_some hsignal
      · exact h.swept.alter id fun _ => rfl
      · exact h.started group deadline

/-- The flight a call of `signal` returns is one of the group asked for. -/
lemma Keyed.group_of_signal (h : demand.Keyed) {config : CapacityDemandConfig} {group : String}
    {now : Instant} {demand' : CapacityDemand} {id : FlightId}
    (hsignal : demand.signal config group now = (demand', some id)) :
    ∃ flight, demand'.flight id = some flight ∧ flight.group = group := by
  refine h.signal hsignal group id ?_
  obtain ⟨hlookup, rfl⟩ | ⟨-, rfl, deadline, -, rfl⟩ := signal_eq_some hsignal
  · exact hlookup
  · exact AList.lookup_insert _

/-- The flight listed for a group is the last one started for it. -/
def Latest (demand : CapacityDemand) : Prop :=
  ∀ group id, demand.flights.lookup group = some id →
    ∀ id' flight, demand.flight id' = some flight → flight.group = group → id' ≤ id

lemma Latest.alter (h : demand.Latest) (id : FlightId) {f : Flight → Flight}
    (hf : ∀ flight, (f flight).group = flight.group) : (demand.alterFlight id f).Latest := by
  intro group j hlookup id' flight hflight hgroup
  rw [flight_alterFlight] at hflight
  split at hflight
  · obtain ⟨old, hold, rfl⟩ := Option.map_eq_some_iff.mp hflight
    exact h group j hlookup id' old hold ((hf old).symm.trans hgroup)
  · exact h group j hlookup id' flight hflight hgroup

lemma Latest.swept (h : demand.Latest) : demand.swept.Latest := by
  intro group id hlookup
  rw [CapacityDemand.swept, Table.lookup_retain, Option.filter_eq_some_iff] at hlookup
  exact h group id hlookup.1

lemma Latest.started (h : demand.Latest) (group : String) (deadline : Instant) :
    (demand.started group deadline).Latest := by
  intro g j hlookup id' flight hflight hgroup
  rw [flight_started] at hflight
  by_cases hg : g = group
  · subst hg
    rw [CapacityDemand.started, AList.lookup_insert] at hlookup
    obtain rfl := Option.some.inj hlookup
    split at hflight
    · rename_i hid
      exact hid.le
    · exact (List.getElem?_eq_some_iff.mp hflight).1.le
  · rw [CapacityDemand.started, AList.lookup_insert_ne hg] at hlookup
    split at hflight
    · obtain rfl := Option.some.inj hflight
      exact absurd hgroup.symm hg
    · exact h.swept g j hlookup id' flight hflight hgroup

end CapacityDemand

/-! ### Flights over time -/

/-- The same POST, as far as it is, with the same deadline. -/
structure Flight.Same (f f' : Flight) : Prop where
  group : f'.group = f.group
  deadline : f'.deadline = f.deadline
  accepted : f'.accepted = f.accepted

/-- The same flight later: a POST that has been sent has been sent. -/
structure Flight.Later (f f' : Flight) : Prop where
  group : f'.group = f.group
  deadline : f'.deadline = f.deadline
  sent : f.accepted ≠ .unpolled → f'.accepted ≠ .unpolled

lemma Flight.Later.trans {f f' f'' : Flight} (h : f.Later f') (h' : f'.Later f'') : f.Later f'' :=
  ⟨h'.group.trans h.group, h'.deadline.trans h.deadline, fun hsent => h'.sent (h.sent hsent)⟩

lemma Flight.Same.later {f f' : Flight} (h : f.Same f') : f.Later f' :=
  ⟨h.group, h.deadline, fun hsent => by rwa [h.accepted]⟩

namespace CapacityDemand

/-- Every flight is related to what it has become. -/
def Keeps (R : Flight → Flight → Prop) (demand demand' : CapacityDemand) : Prop :=
  ∀ id flight, demand.flight id = some flight →
    ∃ flight', demand'.flight id = some flight' ∧ R flight flight'

variable {demand demand' : CapacityDemand}

lemma keeps_refl (demand : CapacityDemand) : Keeps Flight.Same demand demand :=
  fun _ flight hflight => ⟨flight, hflight, rfl, rfl, rfl⟩

lemma Keeps.later (h : Keeps Flight.Same demand demand') : Keeps Flight.Later demand demand' := by
  intro id flight hflight
  obtain ⟨flight', hflight', hsame⟩ := h id flight hflight
  exact ⟨flight', hflight', hsame.later⟩

lemma Keeps.trans {demand'' : CapacityDemand} (h : Keeps Flight.Later demand demand')
    (h' : Keeps Flight.Later demand' demand'') : Keeps Flight.Later demand demand'' := by
  intro id flight hflight
  obtain ⟨flight', hflight', hlater⟩ := h id flight hflight
  obtain ⟨flight'', hflight'', hlater'⟩ := h' id flight' hflight'
  exact ⟨flight'', hflight'', hlater'.group.trans hlater.group,
    hlater'.deadline.trans hlater.deadline, fun hsent => hlater'.sent (hlater.sent hsent)⟩

lemma Keeps.trans_same {demand'' : CapacityDemand} (h : Keeps Flight.Same demand demand')
    (h' : Keeps Flight.Same demand' demand'') : Keeps Flight.Same demand demand'' := by
  intro id flight hflight
  obtain ⟨flight', hflight', hsame⟩ := h id flight hflight
  obtain ⟨flight'', hflight'', hsame'⟩ := h' id flight' hflight'
  exact ⟨flight'', hflight'', hsame'.group.trans hsame.group,
    hsame'.deadline.trans hsame.deadline, hsame'.accepted.trans hsame.accepted⟩

lemma keeps_alter {R : Flight → Flight → Prop} (hrefl : ∀ flight, R flight flight)
    (id : FlightId) {f : Flight → Flight} (hf : ∀ flight, R flight (f flight)) :
    Keeps R demand (demand.alterFlight id f) := by
  intro j flight hflight
  rw [flight_alterFlight]
  split
  · exact ⟨f flight, by rw [hflight, Option.map_some], hf flight⟩
  · exact ⟨flight, hflight, hrefl flight⟩

lemma keeps_release (demand : CapacityDemand) (id : FlightId) :
    Keeps Flight.Same demand (demand.release id) :=
  keeps_alter (fun _ => ⟨rfl, rfl, rfl⟩) id fun _ => ⟨rfl, rfl, rfl⟩

/-- A call of `signal` leaves every flight as far as it is. -/
lemma keeps_signal {config : CapacityDemandConfig} {group : String} {now : Instant}
    {id : Option FlightId} (h : demand.signal config group now = (demand', id)) :
    Keeps Flight.Same demand demand' := by
  cases id with
  | none => obtain rfl | rfl := signal_eq_none h <;> exact keeps_refl _
  | some id =>
      obtain ⟨-, rfl⟩ | ⟨-, -, deadline, -, rfl⟩ := signal_eq_some h
      · exact keeps_alter (fun _ => ⟨rfl, rfl, rfl⟩) id fun _ => ⟨rfl, rfl, rfl⟩
      · intro j flight hflight
        refine ⟨flight, ?_, rfl, rfl, rfl⟩
        rw [flight_started, if_neg, hflight]
        exact (List.getElem?_eq_some_iff.mp hflight).1.ne

/-- The one change a step makes to the demand of a director. -/
inductive Changes (demand : CapacityDemand) : CapacityDemand → Prop where
  | keep : Changes demand demand
  | signal {config group now demand' id}
      (hsignal : demand.signal config group now = (demand', id)) : Changes demand demand'
  | post {id accepted} (haccepted : accepted ≠ .unpolled) :
      Changes demand (demand.alterFlight id fun flight => { flight with accepted })

lemma Changes.keeps (h : demand.Changes demand') : Keeps Flight.Later demand demand' := by
  cases h with
  | keep => exact (keeps_refl demand).later
  | signal hsignal => exact (keeps_signal hsignal).later
  | post haccepted =>
      exact keeps_alter (fun _ => ⟨rfl, rfl, id⟩) _ fun _ => ⟨rfl, rfl, fun _ => haccepted⟩

lemma Changes.keyed (h : demand.Changes demand') (hkeyed : demand.Keyed) : demand'.Keyed := by
  cases h with
  | keep => exact hkeyed
  | signal hsignal => exact hkeyed.signal hsignal
  | post => exact hkeyed.alter _ fun _ => rfl

lemma Changes.latest (h : demand.Changes demand') (hlatest : demand.Latest) : demand'.Latest := by
  cases h with
  | keep => exact hlatest
  | @signal _ _ _ _ id hsignal =>
      cases id with
      | none =>
          obtain rfl | rfl := signal_eq_none hsignal
          · exact hlatest
          · exact hlatest.swept
      | some id =>
          obtain ⟨-, rfl⟩ | ⟨-, -, deadline, -, rfl⟩ := signal_eq_some hsignal
          · exact hlatest.swept.alter id fun _ => rfl
          · exact hlatest.started _ deadline
  | post => exact hlatest.alter _ fun _ => rfl

/-- A flight is started only where its group has none listed. -/
lemma Changes.lookup_of_started (h : demand.Changes demand') {id : FlightId} {flight : Flight}
    (hnone : demand.flight id = none) (hsome : demand'.flight id = some flight) :
    demand.swept.flights.lookup flight.group = none := by
  have hne : ∀ flight, demand.flight id ≠ some flight := by simp [hnone]
  cases h with
  | keep => exact absurd hsome (hne flight)
  | @signal _ _ _ _ started hsignal =>
      cases started with
      | none => obtain rfl | rfl := signal_eq_none hsignal <;> exact absurd hsome (hne flight)
      | some started =>
          obtain ⟨-, rfl⟩ | ⟨hlookup, rfl, deadline, -, rfl⟩ := signal_eq_some hsignal
          · obtain ⟨old, hold⟩ := exists_of_alterFlight hsome
            exact absurd hold (hne old)
          · rw [flight_started] at hsome
            split at hsome
            · obtain rfl := Option.some.inj hsome
              exact hlookup
            · exact absurd hsome (hne flight)
  | post =>
      obtain ⟨old, hold⟩ := exists_of_alterFlight hsome
      exact absurd hold (hne old)

end CapacityDemand

end UdpDirector
