import UdpDirector.Access.Refusals
import UdpDirector.Demand.Signals

/-!
What leaves for the demand endpoint.

* `posts_valid_group`: under a configuration that passes validation every POST is made for a valid
  query that joins a character, and names the group of its map, which is a valid name: the map
  itself, which the request is checked for, or its alias, which validation is.
-/

namespace UdpDirector

variable {ext : Externals} {parseUri : String → Option Uri}

section

variable {config : Config} {request : QueryRequest} {a : Access}

/-- A request that goes on has a valid map. -/
lemma validCharacterId_map (h : prepare config request = .ok a) :
    validCharacterId a.map = true := by
  rw [(prepare_eq_ok h).1]
  rw [prepare] at h
  split at h
  · rename_i hvalid
    rw [QueryRequest.valid, Bool.and_eq_true, Bool.and_eq_true] at hvalid
    exact hvalid.1.1
  · cases h

end

/-- The group of a valid map is a valid name, whether it is an alias or the map. -/
lemma ValidDemand.validCharacterId_group (valid : ValidDemand parseUri) {map : String}
    (h : validCharacterId map = true) :
    validCharacterId ((valid.demand.backendGroups.lookup map).getD map) = true := by
  have haccepts := (LoadedConfig.validate_eq_ok_iff.mp valid.valid).demand _ valid.configured
  cases hgroup : valid.demand.backendGroups.lookup map with
  | none => exact h
  | some group => exact (haccepts.backendGroups map group hgroup).2

/-- **Every POST names a valid group**: it is sent for the flight of a query that joins a
character, in a request whose IDs are all valid, and names the group of the map of the request, in
every run of any number of directors. -/
theorem posts_valid_group (valid : ValidDemand parseUri)
    {w₀ : World ext valid.config.toConfig} {acts : List Action} (h₀ : w₀.Initial)
    {s : Taken ext valid.config.toConfig} (hs : s ∈ Run.trace step w₀ acts) {q : TaskId}
    (hpoll : s.2.1 = .task q .poll) :
    ∃ id flight, s.1.heldFlight q = some (id, flight) ∧ flight.accepted = .unpolled
      ∧ (s.1.tasks q).request.valid = true ∧ (s.1.tasks q).request.character.isSome = true
      ∧ flight.group = (valid.demand.backendGroups.lookup (s.1.tasks q).request.map).getD
          (s.1.tasks q).request.map
      ∧ validCharacterId flight.group = true := by
  obtain ⟨pre, hpre, hstep⟩ := Run.exists_of_mem_trace hs
  rw [hpoll] at hstep
  obtain ⟨p, eff, hmoves, -⟩ := exists_moves_of_step hstep
  obtain ⟨a, version, id, flight, hphase, -, hheld, hunpolled, -⟩ := hmoves.exists_of_poll
  have hprepare := prepared_of_run h₀ hpre hphase
  -- only a query that joins a character gets past its lookup
  have hfits := (disciplined_of_run h₀ hpre).fits q
  rw [hphase] at hfits
  have hcharacter := hfits.isSome rfl
  rw [hfits.1.1] at hcharacter
  -- the flight it holds is one for the group of its map
  obtain ⟨flight', hflight', demandConfig, hconfigured, hgroup⟩ :=
    (World.grouped_of_run h₀ hpre).asked q a _ id hphase (World.flight_of_heldFlight hheld)
  obtain rfl := Option.some.inj ((World.flight_of_heldFlight' hheld).symm.trans hflight')
  obtain rfl := Option.some.inj (hconfigured.symm.trans valid.configured)
  have hmap := validCharacterId_map hprepare
  rw [(prepare_eq_ok hprepare).1] at hgroup hmap
  exact ⟨id, flight, hheld, hunpolled, valid_of_prepare hprepare, hcharacter, hgroup,
    hgroup ▸ valid.validCharacterId_group hmap⟩

namespace Sample

/-- No Pod at all, and queries for the character `ayla`. -/
def demandingWorld : World decoders demanding.config.toConfig where
  cluster := VersionedStore.empty
  directors := fun _ => {}
  tasks := fun _ =>
    { director := 0
      request := .query "arena" "ayla" []
      client := { ip := .v4 203 0 113 7, port := 50000 } }

lemma initial_demandingWorld : demandingWorld.Initial where
  entry := fun _ => rfl
  flight := fun _ => rfl
  unlocked := fun _ => rfl
  demand := fun _ => rfl

/-- A query waits with a flight whose POST has not been sent. -/
def beforePost : World decoders demanding.config.toConfig :=
  Run.reached step demandingWorld (untilFlight 0) (by decide +kernel)

/-- The POST has been sent. -/
def afterPost : World decoders demanding.config.toConfig :=
  (step beforePost (.task 0 .poll)).get (by decide +kernel)

end Sample

/-- The POST of a cold query names its map, which is no alias. -/
theorem posts_valid_group_sample : ∃ id flight, Sample.beforePost.heldFlight 0 = some (id, flight)
    ∧ flight.group = "arena" ∧ validCharacterId flight.group = true := by
  have hstep : step Sample.beforePost (.task 0 .poll) = some Sample.afterPost :=
    (Option.some_get _).symm
  have hs : (Sample.beforePost, .task 0 .poll, Sample.afterPost)
      ∈ Run.trace step Sample.demandingWorld (Sample.untilFlight 0 ++ [.task 0 .poll]) := by
    rw [Run.trace_concat (Run.run_reached _ _ _) hstep]
    exact List.mem_append_right _ List.mem_cons_self
  obtain ⟨id, flight, hheld, -, -, -, hgroup, hvalid⟩ :=
    posts_valid_group Sample.demanding Sample.initial_demandingWorld hs rfl
  have hmap : (Sample.beforePost.tasks 0).request.map = "arena" := by decide +kernel
  exact ⟨id, flight, hheld, by rw [hgroup, hmap]; rfl, hvalid⟩

end UdpDirector
