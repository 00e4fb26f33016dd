import UdpDirector.Kube.Calm
import UdpDirector.Proxy.Monitor

/-!
Where a task of the data plane or the monitor can panic, and that it does not.

* `calm_queryDefaultEndpoint`, `calm_checkDefaultEndpoint`: with readable paths nothing that is
  listed makes the query for the default endpoint or a check of the monitor panic;
* `unpanicked_of_run`: no task panics; `monitor_never_panics`: nor does the monitor, which would
  end the whole process.
-/

namespace UdpDirector

variable {config : Config}

/-! ### Default endpoints -/

section

variable {mapping : ResourceMapping} {resources : List DynamicObject} {counts : SessionCounts}
  {addressPath : String}

lemma calm_addressed (h : ReadablePath addressPath) (addressType : Option String) :
    Calm (addressed addressPath addressType resources) := by
  induction resources with
  | nil => exact .ok []
  | cons resource rest ih =>
      rw [addressed]
      split
      · rename_i hpanic
        exact absurd hpanic (calm_extractAddress h addressType)
      · exact ih
      · exact ih.map _

lemma calm_selectBackend (h : ReadablePath addressPath) (strategy : LoadBalancingStrategy)
    (addressType : Option String) :
    Calm (selectBackend strategy counts resources addressPath addressType) := by
  rw [selectBackend.eq_def]
  split
  · exact .error _
  · split
    · refine (calm_addressed h addressType).bind fun backends _ => ?_
      split
      · exact .error _
      · exact .ok _
    · refine (calm_addressed h addressType).bind fun backends _ => ?_
      dsimp only
      split
      · exact .error _
      · exact .ok _

lemma calm_extractEndpointTargetMultiPort (h : mapping.Readable) (resource : DynamicObject) :
    Calm (extractEndpointTargetMultiPort config resource mapping) := by
  rw [extractEndpointTargetMultiPort.eq_def]
  split
  · rename_i path hpath
    refine (calm_extractAddress (h.addressPath _ hpath) _).bind fun address _ => ?_
    split
    · rename_i portMappings hports
      exact (calm_extractPorts (h.ports _ hports) _).bind fun ports _ => .ok _
    · exact (calm_extractPort h.portPath _).bind fun port _ => .ok _
  · exact .error _

lemma calm_currentTarget (h : mapping.Readable) : Calm (currentTarget mapping resources) := by
  rw [currentTarget.eq_def]
  split
  · exact .ok none
  · dsimp only
    split
    · exact .ok _
    · rename_i path hpath
      split
      · rename_i hpanic
        exact absurd hpanic (calm_extractAddress (h.addressPath _ hpath) _)
      · exact .ok _
      · split
        · rename_i hpanic
          exact absurd hpanic (calm_extractPort h.portPath _)
        · exact .ok _
        · exact .ok _

/-- **A check of the monitor does not panic**, whatever is listed. -/
lemma calm_checkDefaultEndpoint (hpaths : config.Readable) (last : Option String)
    (reply : Option (List DynamicObject)) : Calm (checkDefaultEndpoint config last reply) := by
  rw [checkDefaultEndpoint.eq_def]
  split
  · exact .ok none
  · rename_i mapping hmapping
    split
    · exact (calm_filterSnapshot hpaths.statusQuery _).bind fun resources _ =>
        (calm_currentTarget (hpaths.mapping _ hmapping)).bind fun current _ => .ok _
    · exact .error _

/-- **The query for the default endpoint does not panic**, whatever is listed. -/
lemma calm_queryDefaultEndpoint (hpaths : config.Readable) (reply : Option (List DynamicObject)) :
    Calm (queryDefaultEndpoint config counts reply) := by
  rw [queryDefaultEndpoint.eq_def]
  split
  · rename_i mapping hmapping
    have hreadable := hpaths.mapping _ hmapping
    split
    · refine (calm_filterSnapshot hpaths.statusQuery _).bind fun resources _ => ?_
      split
      · exact .error _
      · split
        · rename_i path hpath
          exact (calm_selectBackend (hreadable.addressPath _ hpath) _ _).bind fun selected _ =>
            calm_extractEndpointTargetMultiPort hreadable selected
        · exact .error _
    · exact .error _
  · exact .error _

end

namespace Proxy

variable {p p' : Plane} {acts : List Action}

/-- A task panics only where the query for the default endpoint does. -/
lemma unpanicked_of_step (hpaths : config.Readable) {action : Action}
    (h : ∀ i, (p.connections i).phase ≠ .panicked) (hstep : step config p action = some p')
    (i : ℕ) : (p'.connections i).phase ≠ .panicked := by
  obtain ⟨event, phase, effect, rfl, hmoves, rfl⟩ | ⟨-, htask⟩ := moves_or_others hstep i
  swap
  · rw [htask]
    exact h i
  rw [connections_move, Function.update_self]
  generalize (p.connections i).phase = old at hmoves
  cases hmoves with
  | @fault store reply fault hquery =>
      cases fault with
      | panic => exact absurd hquery (calm_queryDefaultEndpoint hpaths reply)
      | error message => simp [faulted]
  | found hget | count =>
      simp only [Connection.routed]
      split <;> simp
  | query hquery | store hreaders =>
      simp only [Connection.supported]
      split <;> simp
  | @sent first socket target => cases first <;> simp
  | _ => simp

lemma unpanicked_of_run {p₀ : Plane} (hpaths : config.Readable) (h₀ : p₀.Initial)
    (hrun : Run.run (step config) p₀ acts = some p) (i : ℕ) :
    (p.connections i).phase ≠ .panicked := by
  refine Run.run_invariant (I := fun p : Plane => ∀ i, (p.connections i).phase ≠ .panicked)
    (fun _ _ _ h hstep => unpanicked_of_step hpaths h hstep) ?_ hrun i
  intro i
  simp [h₀.connections i]

namespace Monitored

/-- **The monitor does not panic** if the configured paths are readable, however the cluster
changes, and neither does any task beside it. -/
theorem monitor_never_panics {s₀ s : Monitored} {acts : List MonitoredAction}
    (hpaths : config.Readable) (h₀ : s₀.Initial) (hrun : Run.run (step config) s₀ acts = some s) :
    s.monitor ≠ .panicked ∧ ∀ i, (s.plane.connections i).phase ≠ .panicked := by
  refine ⟨?_, ?_⟩
  · refine Run.run_invariant (I := fun s : Monitored => s.monitor ≠ .panicked) ?_
      (by simp [h₀.monitor]) hrun
    intro s act s' h hstep
    cases steps_of_step hstep with
    | panic hmonitor hcheck => exact absurd hcheck (calm_checkDefaultEndpoint hpaths _ _)
    | act hlocal hstep => exact h
    | list hstep | change | agree => exact h
    | differ | invalidate => simp
  · exact unpanicked_of_run hpaths h₀.plane (plane_of_run hrun)

end Monitored

end Proxy

namespace Sample

lemma readable_settings : settings.Readable where
  statusQuery query hquery := by cases hquery
  mapping mapping hmapping := by
    obtain rfl := Option.some.inj hmapping
    refine ⟨fun path hpath => ?_, fun path hpath => ?_, fun portMappings hports => ?_⟩
    · obtain rfl := Option.some.inj hpath
      exact readablePath_of_forall (by decide)
    · obtain rfl := Option.some.inj hpath
      exact readablePath_of_forall (by decide)
    · cases hports

end Sample

namespace Proxy

namespace Sample

/-- Pods appear, and the monitor invalidates the cache because of them. -/
def appearing : List MonitoredAction :=
  [.change pods, .check true, .invalidate]

lemma isSome_appearing :
    (Run.run (Monitored.step UdpDirector.Sample.settings) clients appearing).isSome = true := by
  decide +kernel

end Sample

/-- A check that finds new Pods does not panic. -/
theorem monitor_never_panics_sample :
    (Run.reached (Monitored.step UdpDirector.Sample.settings) Sample.clients Sample.appearing
      Sample.isSome_appearing).monitor ≠ .panicked :=
  (Monitored.monitor_never_panics UdpDirector.Sample.readable_settings Sample.initial_clients
    (Run.run_reached _ _ Sample.isSome_appearing)).1

end Proxy

end UdpDirector
