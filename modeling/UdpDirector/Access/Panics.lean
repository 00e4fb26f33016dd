import UdpDirector.Access.Canonical
import UdpDirector.Access.Progress
import UdpDirector.Demand.Signals
import UdpDirector.Kube.Calm

/-!
Where a request can panic, and that it does not.

* `calm_decision`, `calm_resolve`: with readable paths nothing that is read from the cluster makes
  a request panic, as long as the wall clock is a day and a reconnect window before the last
  date;
* `Faults`: the steps at which a request panics; `Moves.faults`: there are no others;
* `World.Quiet`: no request has panicked and no mutex is poisoned; `quiet_of_run`: worlds stay
  so while the clocks are in range.
-/

namespace UdpDirector

/-! ### Dates -/

/-- The time is a day and a reconnect window before the last date. -/
def OffsetDateTime.Early (t : OffsetDateTime) : Prop :=
  t.unixNanos + (24 * 3600 + reconnectSeconds) * 10 ^ 9 ≤ maxLocalNanos

/-- Offsets are read from a text in hours below 24. -/
def Externals.ReadsOffsets (ext : Externals) : Prop :=
  ∀ raw at_, ext.parseRfc3339 raw = some at_ → at_.offset < 24 * 3600

variable {ext : Externals} {config : Config}

/-- The window of a time recorded before an early one ends before the last date. -/
lemma not_overflows_of_early (hoffsets : ext.ReadsOffsets) {now : OffsetDateTime}
    (hnow : now.Early) (pod : Pod) : ¬pod.Overflows ext config now := by
  rintro ⟨id, raw, at_, -, -, -, hat, hle, hnone⟩
  have hoffset := hoffsets raw at_ hat
  rw [OffsetDateTime.le_def] at hle
  rw [OffsetDateTime.Early] at hnow
  have hfits : at_.unixNanos + (at_.offset + reconnectSeconds) * 10 ^ 9
      ≤ OffsetDateTime.maxLocalNanos := by
    omega
  rw [OffsetDateTime.checkedAddSeconds, if_pos hfits] at hnone
  cases hnone

/-! ### Decisions and targets -/

section

variable {a : Access} {resources : List DynamicObject} {now : OffsetDateTime}

lemma calm_candidate (h : ∀ pod : Pod, ¬pod.Overflows ext config now) (o : DynamicObject) :
    Calm (candidate ext config now o) := by
  rw [candidate]
  split
  · exact .error _
  · split
    · split
      · rename_i hfault
        exact absurd (charactersOnPod_eq_error.mp hfault).2 (h _)
      · exact .ok _
    · exact .ok _

lemma calm_candidates (h : ∀ pod : Pod, ¬pod.Overflows ext config now) :
    Calm (candidates ext config now resources) := by
  induction resources with
  | nil => exact .ok []
  | cons o resources ih =>
      exact (calm_candidate h o).bind fun k _ => ih.bind fun rest _ => .ok _

lemma calm_listServers (ids : List String) (ks : List (Candidate ext config now)) :
    Calm (listServers ids ks) := by
  refine Calm.map ?_ _
  induction ks with
  | nil => exact .ok []
  | cons k ks ih =>
      refine Calm.bind ?_ fun server _ => ih.bind fun rest _ => .ok _
      rw [listServer]
      split
      · exact .ok _
      · split
        · exact .ok _
        · exact .error _

/-- **A decision does not panic** where reading no Pod does. -/
lemma calm_decision (h : ∀ pod : Pod, ¬pod.Overflows ext config now) :
    Calm (decision ext config a resources now) := by
  refine (calm_candidates h).bind fun ks _ => ?_
  split
  · exact (calm_listServers a.ids ks).bind fun response _ => .ok _
  · split
    · exact .ok _
    · exact .ok _

end

section

variable {mapping : ResourceMapping} {services : Option (List Service)} {resource : DynamicObject}

lemma Calm.relabel {α : Type} {r : Except Fault α} (hr : Calm r) (message : String) :
    Calm (Fault.relabel message r) := by
  match r with
  | .ok x => exact .ok x
  | .error (.error _) => exact .error _
  | .error .panic => exact absurd rfl hr

lemma calm_extractTargetInfo (h : mapping.Readable) (name : String) :
    Calm (extractTargetInfo services resource mapping name) := by
  rw [extractTargetInfo]
  split
  · rename_i path hpath
    exact (calm_extractAddress (h.addressPath _ hpath) _).bind fun address _ =>
      (calm_extractPort h.portPath _).bind fun port _ => .ok _
  · rw [extractServiceTarget.eq_def]
    split
    · split
      · split
        · split
          · exact .ok _
          · exact .error _
        · exact .error _
      · exact .error _
    · exact .error _

lemma calm_extractMultiPortTargetInfo (h : mapping.Readable) :
    Calm (extractMultiPortTargetInfo resource mapping) := by
  rw [extractMultiPortTargetInfo.eq_def]
  split
  · rename_i path hpath
    split
    · rename_i portMappings hports
      exact (calm_extractAddress (h.addressPath _ hpath) _).bind fun address _ =>
        (calm_extractPorts (h.ports _ hports) _).bind fun ports _ => .ok _
    · exact .error _
  · exact .error _

lemma calm_extractPortsByName (h : mapping.Readable) (name : String) :
    Calm (extractPortsByName config services resource mapping name) := by
  rw [extractPortsByName]
  split
  · exact (calm_extractMultiPortTargetInfo h).relabel _
  · exact ((calm_extractTargetInfo h name).relabel _).bind fun target _ => .ok _

lemma calm_collectRoutes (ports : Table String UInt16) (dataPorts : List DataPortConfig)
    (routes : Table (UInt16 × Protocol) UInt16) (publicPorts : Table String UInt16) :
    Calm (collectRoutes ports dataPorts routes publicPorts) := by
  induction dataPorts generalizing routes publicPorts with
  | nil => exact .ok _
  | cons p ps ih =>
      rw [collectRoutes]
      split
      · exact .error _
      · exact ih _ _

/-- **Resolving a choice does not panic** if the paths of the mapping are readable. -/
lemma calm_resolve {a : Access} (h : a.mapping.Readable) (choice : Choice ext config) :
    Calm (resolve a choice services) := by
  rw [resolve]
  split
  · exact .error _
  · refine (calm_extractPortsByName h _).bind fun extracted _ => ?_
    dsimp only
    split
    · rename_i fault hroutes
      intro hpanic
      rw [Except.error.inj hpanic] at hroutes
      exact calm_collectRoutes _ _ _ _ hroutes
    · split
      · exact .error _
      · split
        · exact .error _
        · exact .ok _

end

/-! ### The steps of a request -/

lemma calm_allocateRequest (pod : Pod) : Calm (allocateRequest pod) := by
  rw [allocateRequest]
  split
  · exact .error _
  · split
    · exact .error _
    · split
      · exact .error _
      · exact .ok _

/-- A step at which a request panics. -/
inductive Faults (w : World ext config) (q : TaskId) : Phase ext config → Event → Prop where
  | list {a stage indices version} (h : filterSnapshot config.defaultEndpoint.statusQuery
      config.defaultEndpoint.annotationSelector (w.cluster.pick indices) = .error .panic) :
      Faults w q (.running a stage) (.list (some (indices, version)))
  | decide {a resources version now} (h : decision ext config a resources now = .error .panic) :
      Faults w q (.running a (.deciding resources version)) (.decide now)
  | signal {a demandConfig version demand} (h : (w.director q).demand.signal demandConfig
      ((demandConfig.backendGroups.lookup a.map).getD a.map) (w.director q).now = (demand, none)) :
      Faults w q (.running a (.signalling demandConfig version)) .signal
  | extract {a choice services} (h : resolve a choice services = .error .panic) :
      Faults w q (.running a (.extracting choice)) (.extract services)

section

variable {w w' : World ext config} {q : TaskId}

lemma phase_eq_panicked {fault : Fault}
    (h : (fault.phase : Phase ext config) = .panicked) : fault = .panic := by
  cases fault with
  | panic => rfl
  | error message => cases h

/-- **A request panics at these steps only.** -/
theorem Moves.faults {p p' : Phase ext config} {event : Event} {eff : Effect}
    (h : Moves w q p event p' eff) (hp' : p' = .panicked) : Faults w q p event := by
  cases h with
  | poison _ hs => exact .signal hs
  | refuse _ _ hexits =>
      cases hexits with
      | unfiltered _ hr =>
          rw [phase_eq_panicked hp'] at hr
          exact .list hr
      | undecided hd =>
          rw [phase_eq_panicked hp'] at hd
          exact .decide hd
      | unresolved hr =>
          rw [phase_eq_panicked hp'] at hr
          exact .extract hr
      | unpatchable hr =>
          rw [phase_eq_panicked hp'] at hr
          exact absurd hr (calm_allocateRequest _)
      | _ => cases hp'
  | _ => cases hp'

end

/-! ### Quiet worlds -/

/-- No request has panicked, and the mutex of no director is poisoned. -/
structure World.Quiet (w : World ext config) : Prop where
  unpanicked : ∀ q, (w.tasks q).phase ≠ .panicked
  healthy : ∀ d, (w.directors d).demand.poisoned = false

/-- The deadline of a flight started now is in range. -/
def World.Lasts (w : World ext config) : Prop :=
  ∀ d, ∀ demandConfig ∈ config.capacityDemand,
    (w.directors d).now / 10 ^ 9 + demandConfig.bootTimeoutSeconds < 2 ^ 63

/-- The decisions of a run are made early. -/
def DecidesEarly (acts : List Action) : Prop :=
  ∀ q now, .task q (.decide now) ∈ acts → now.Early

section

variable {w₀ w w' : World ext config} {q : TaskId} {acts : List Action}

lemma World.Initial.quiet (h : w₀.Initial) : w₀.Quiet where
  unpanicked q := by simp [h.entry q]
  healthy d := by rw [h.demand d]

/-- A request works with the mapping of the default endpoint. -/
lemma lookup_of_prepare {request : QueryRequest} {a : Access}
    (h : prepare config request = .ok a) :
    config.resourceQueryMapping.lookup config.defaultEndpoint.resourceType = some a.mapping := by
  rw [prepare] at h
  split at h
  · split at h
    · cases h
    · rename_i mapping hmapping
      split at h
      · obtain rfl := Except.ok.inj h
        exact hmapping
      · cases h
  · cases h

/-- No step of a quiet world is one at which a request panics. -/
lemma World.Quiet.not_faults (hquiet : w.Quiet) (hpaths : config.Readable)
    (hoffsets : ext.ReadsOffsets) (h₀ : w₀.Initial) (hrun : Run.run step w₀ acts = some w)
    (hlasts : w.Lasts) {event : Event} (hearly : ∀ now, event = .decide now → now.Early) :
    ¬Faults w q (w.tasks q).phase event := by
  intro h
  generalize hphase : (w.tasks q).phase = phase at h
  cases h with
  | list h => exact calm_filterSnapshot hpaths.statusQuery _ h
  | decide h => exact calm_decision (not_overflows_of_early hoffsets (hearly _ rfl)) h
  | @signal a demandConfig version demand h =>
      have hdemand := (World.grouped_of_run h₀ hrun).settled q _ _ _ hphase
      have hhealthy : (w.director q).demand.poisoned = false := hquiet.healthy _
      obtain ⟨demand', id, hsignal, -⟩ | ⟨-, -, hrange⟩ :=
        CapacityDemand.signal_of_healthy demandConfig
          ((demandConfig.backendGroups.lookup a.map).getD a.map) (w.director q).now hhealthy
      · rw [hsignal] at h
        cases h
      · exact hrange (hlasts _ _ hdemand)
  | extract h =>
      have hmapping := lookup_of_prepare (prepared_of_run h₀ hrun hphase)
      exact calm_resolve (hpaths.mapping _ hmapping) _ h

/-- A mutex is poisoned only where a request panics. -/
lemma healthy_of_step {action : Action} (hstep : step w action = some w')
    (hhealthy : ∀ d, (w.directors d).demand.poisoned = false)
    (hunpanicked : ∀ q, (w'.tasks q).phase ≠ .panicked) (d : ℕ) :
    (w'.directors d).demand.poisoned = false := by
  cases action with
  | task q event =>
      obtain ⟨p, eff, hmoves, rfl⟩ := exists_moves_of_step hstep
      rcases eq_or_ne d (w.tasks q).director with rfl | hd
      swap
      · rw [w.directors_move_of_ne q p eff hd]
        exact hhealthy d
      have hbefore : (w.director q).demand.poisoned = false := hhealthy _
      have hafter : (w.demandAfter q eff).poisoned = false := by
        generalize (w.tasks q).phase = phase at hmoves
        cases hmoves with
        | @signal a demandConfig version demand id hf hs =>
            obtain ⟨demand', id, hsignal, hdemand, -⟩ | ⟨hnone, -⟩ :=
              CapacityDemand.signal_of_healthy demandConfig
                ((demandConfig.backendGroups.lookup a.map).getD a.map) (w.director q).now hbefore
            · rw [hs] at hsignal
              obtain ⟨rfl, -⟩ := Prod.mk.inj hsignal
              exact hdemand
            · rw [hs] at hnone
              cases hnone
        | poison hf hs => exact absurd (w.phase_move q _ _) (hunpanicked q)
        | _ => exact hbefore
      rw [World.demand_move_eq]
      split
      · cases w.flightAfter q eff <;> exact hafter
      · exact hafter
  | write name o =>
      obtain ⟨-, -, rfl⟩ := step_write hstep
      exact hhealthy d
  | delete name =>
      obtain rfl := Option.some.inj hstep
      exact hhealthy d
  | tick d' nanos | dataPlane d' sessions =>
      obtain rfl := Option.some.inj hstep
      rcases eq_or_ne d d' with rfl | hne
      · simpa [World.updateDirector] using hhealthy d
      · simpa [World.updateDirector, hne] using hhealthy d

/-- **Worlds stay quiet** as long as the clocks are in range. -/
theorem quiet_of_run (hpaths : config.Readable) (hoffsets : ext.ReadsOffsets) (h₀ : w₀.Initial)
    (hrun : Run.run step w₀ acts = some w) (hearly : DecidesEarly acts) (hlasts : w.Lasts) :
    w.Quiet := by
  revert hearly hlasts
  refine Run.run_induction (P := fun acts w => DecidesEarly acts → World.Lasts w → World.Quiet w)
    (fun _ _ => h₀.quiet) ?_ hrun
  intro as t action u ht ih hstep hearly hlasts
  have hlasts' : t.Lasts := fun d demandConfig hdemand =>
    lt_of_le_of_lt (Nat.add_le_add_right
      (Nat.div_le_div_right (World.now_le_of_step hstep d)) _) (hlasts d demandConfig hdemand)
  have hquiet := ih (fun q now hmem => hearly q now (List.mem_append_left _ hmem)) hlasts'
  have hunpanicked : ∀ q, (u.tasks q).phase ≠ .panicked := by
    intro q
    obtain ⟨event, p, eff, rfl, hmoves, rfl⟩ | ⟨-, htask⟩ := moves_or_others hstep q
    · rw [World.phase_move]
      intro hp
      refine hquiet.not_faults hpaths hoffsets h₀ ht hlasts' ?_ (hmoves.faults hp)
      rintro now rfl
      exact hearly q now (by simp)
    · rw [htask]
      exact hquiet.unpanicked q
  exact ⟨hunpanicked, healthy_of_step hstep hquiet.healthy hunpanicked⟩

end

end UdpDirector
