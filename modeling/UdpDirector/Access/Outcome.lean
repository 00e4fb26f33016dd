import UdpDirector.Access.Discipline

/-!
What a request has done to the routes and the labels by the time it is answered.

* `By`, `Quiet`: the steps of a request, and those that change no session table
  and no Pod;
* `Chose`, `Resolved`: the decision that a request took on its snapshot, and the
  extraction that made its target; `resolved_of_run`: every target has both behind it;
* `Upserted`: one route upsert for the client, for the target of the request, whose label
  was written before or whose character its snapshot showed connected;
* `Story`: what the steps so far were, by the phase of the request; one move
  carries it on, and `outcome` reads it off where the request is answered.
-/

namespace UdpDirector

variable {ext : Externals} {config : Config}

/-- A step with the states around it. -/
abbrev Taken (ext : Externals) (config : Config) :=
  World ext config × Action × World ext config

/-- A step of a request. -/
def By (q : TaskId) (s : Taken ext config) : Prop := ∃ event, s.2.1 = .task q event

/-- The step changes no entry of any session table. -/
def KeepsRoutes (s : Taken ext config) : Prop :=
  ∀ d, (s.2.2.directors d).sessions = (s.1.directors d).sessions

/-- The step changes no Pod. -/
def KeepsCluster (s : Taken ext config) : Prop := s.2.2.cluster = s.1.cluster

/-- The step changes no route and no Pod, and is no accepted patch of the
request. -/
structure Quiet (q : TaskId) (s : Taken ext config) : Prop where
  routes : KeepsRoutes s
  cluster : KeepsCluster s
  refused : ∀ target, ¬Accepts s.1 q target s.2.2

/-- The request took the choice, in a decision on its snapshot. -/
def Chose (q : TaskId) (choice : Choice ext config) (steps : List (Taken ext config)) : Prop :=
  ∃ s ∈ steps, ∃ a resources version now,
    (s.1.tasks q).phase = .running a (.deciding resources version)
      ∧ s.2.1 = .task q (.decide now)
      ∧ decision ext config a resources now = .ok (.assign choice)

/-- The request took the choice of the target and extracted the target from it. -/
structure Resolved (q : TaskId) (target : Target ext config) (steps : List (Taken ext config)) :
    Prop where
  chose : Chose q target.choice steps
  extracted : ∃ s ∈ steps, ∃ a services,
    (s.1.tasks q).phase = .running a (.extracting target.choice)
      ∧ s.2.1 = .task q (.extract services) ∧ resolve a target.choice services = .ok target

/-- The target is one of the request, and its label was written, or the snapshot showed its
character connected. -/
structure Justified (q : TaskId) (target : Target ext config) (steps : List (Taken ext config)) :
    Prop where
  resolved : Resolved q target steps
  labelled : target.connected = true ∨ ∃ s ∈ steps, Accepts s.1 q target s.2.2

/-- The first half of an upsert for the client of a request, with its target: the sockets of
the old session are shut down. -/
structure Clears (q : TaskId) (target : Target ext config) (w w' : World ext config) : Prop where
  phase : ∃ a, (w.tasks q).phase = .running a (.clearing target)
  sessions : (w'.directors (w.tasks q).director).sessions
    = (w.director q).sessions.clear (.legacyIp (w.tasks q).client.ip)

/-- The second half: the new session is inserted under the IP of the client. -/
structure Installs (q : TaskId) (target : Target ext config) (w w' : World ext config) :
    Prop where
  phase : ∃ a, (w.tasks q).phase = .running a (.installing target)
  sessions : (w'.directors (w.tasks q).director).sessions
    = (w.director q).sessions.insert (.legacyIp (w.tasks q).client.ip)
        (Session.newMultiPort target.ip target.routes (w.director q).now)

/-- The steps of a request hold the first half of one upsert. -/
def Cleared (q : TaskId) (target : Target ext config) (steps : List (Taken ext config)) : Prop :=
  ∃ pre u u' mid, steps = pre ++ (u, .task q .clear, u') :: mid ∧ Clears q target u u'
    ∧ Justified q target pre ∧ ∀ s ∈ pre ++ mid, By q s → KeepsRoutes s

/-- The steps of a request hold exactly one upsert of a route, justified before
it began. -/
def Upserted (q : TaskId) (target : Target ext config) (steps : List (Taken ext config)) : Prop :=
  ∃ pre v v' post, steps = pre ++ (v, .task q .install, v') :: post ∧ Installs q target v v'
    ∧ Cleared q target pre ∧ ∀ s ∈ post, By q s → KeepsRoutes s

/-! ### Steps of others -/

section

variable {q : TaskId} {target : Target ext config} {steps steps' : List (Taken ext config)}
  {s : Taken ext config}

/-- A property of the steps of a request extends over a step that has it or is
not its own. -/
lemma forall_by_concat {P : Taken ext config → Prop} (h : ∀ s ∈ steps, By q s → P s)
    (hs : By q s → P s) : ∀ s' ∈ steps ++ [s], By q s' → P s' := by
  intro s' hs' hby
  rcases List.mem_append.mp hs' with hs' | hs'
  · exact h s' hs' hby
  · obtain rfl := List.mem_singleton.mp hs'
    exact hs hby

lemma Chose.mono {choice : Choice ext config} (h : Chose q choice steps) (hle : steps ⊆ steps') :
    Chose q choice steps' := by
  obtain ⟨s, hs, h⟩ := h
  exact ⟨s, hle hs, h⟩

lemma Resolved.mono (h : Resolved q target steps) (hle : steps ⊆ steps') :
    Resolved q target steps' := by
  obtain ⟨hchose, s, hs, h⟩ := h
  exact ⟨hchose.mono hle, s, hle hs, h⟩

lemma Justified.mono (h : Justified q target steps) (hle : steps ⊆ steps') :
    Justified q target steps' := by
  refine ⟨h.resolved.mono hle, h.labelled.imp id ?_⟩
  rintro ⟨s, hs, haccepts⟩
  exact ⟨s, hle hs, haccepts⟩

lemma Cleared.justified (h : Cleared q target steps) : Justified q target steps := by
  obtain ⟨pre, u, u', mid, rfl, -, hjust, -⟩ := h
  exact hjust.mono (List.subset_append_left _ _)

lemma Cleared.concat (h : Cleared q target steps) (hs : By q s → KeepsRoutes s) :
    Cleared q target (steps ++ [s]) := by
  obtain ⟨pre, u, u', mid, rfl, hclears, hjust, hkeeps⟩ := h
  refine ⟨pre, u, u', mid ++ [s], by simp, hclears, hjust, ?_⟩
  rw [← List.append_assoc]
  exact forall_by_concat hkeeps hs

lemma Upserted.concat (h : Upserted q target steps) (hs : By q s → KeepsRoutes s) :
    Upserted q target (steps ++ [s]) := by
  obtain ⟨pre, v, v', post, rfl, hinstalls, hcleared, hkeeps⟩ := h
  exact ⟨pre, v, v', post ++ [s], by simp, hinstalls, hcleared, forall_by_concat hkeeps hs⟩

end

/-! ### Where a target comes from -/

/-- A choice was taken before it is worked with, and a target was extracted. -/
def Phase.From (q : TaskId) (steps : List (Taken ext config)) : Phase ext config → Prop
  | .running _ (.extracting choice) => Chose q choice steps
  | .running _ (.allocating target) | .running _ (.clearing target)
  | .running _ (.installing target) => Resolved q target steps
  | _ => True

lemma Phase.From.mono {q : TaskId} {steps steps' : List (Taken ext config)}
    {p : Phase ext config} (h : p.From q steps) (hle : steps ⊆ steps') : p.From q steps' := by
  unfold Phase.From at h ⊢
  split at h
  · exact Chose.mono h hle
  · exact Resolved.mono h hle
  · exact Resolved.mono h hle
  · exact Resolved.mono h hle
  · trivial

/-- An extraction makes a target of the choice that was taken. -/
lemma resolved_of_resolve {w w' : World ext config} {q : TaskId} {a : Access}
    {choice : Choice ext config} {services : Option (List Service)} {target : Target ext config}
    {steps : List (Taken ext config)} (hphase : (w.tasks q).phase = .running a (.extracting choice))
    (hr : resolve a choice services = .ok target) (h : Chose q choice steps) :
    Resolved q target (steps ++ [(w, .task q (.extract services), w')]) := by
  obtain ⟨rfl, -⟩ := resolve_eq_ok hr
  exact ⟨h.mono (List.subset_append_left _ _), _, List.mem_append_right _ List.mem_cons_self, a,
    services, hphase, rfl, hr⟩

lemma Moves.from {w w' : World ext config} {q : TaskId} {p' : Phase ext config} {event : Event}
    {eff : Effect} {steps : List (Taken ext config)} (h : Moves w q (w.tasks q).phase event p' eff)
    (hfrom : (w.tasks q).phase.From q steps) :
    p'.From q (steps ++ [(w, .task q event, w')]) := by
  generalize hphase : (w.tasks q).phase = phase at h hfrom
  cases h with
  | reject hp => cases hp <;> trivial
  | refuse _ hp => cases hp <;> trivial
  | assign hd =>
      exact ⟨_, List.mem_append_right _ List.mem_cons_self, _, _, _, _, hphase, rfl, hd⟩
  | connected hr | allocate hr => exact resolved_of_resolve hphase hr hfrom
  | patch | clear => exact Resolved.mono hfrom (List.subset_append_left _ _)
  | _ => trivial

/-- **Targets come from decisions and extractions of the request**, in every state of every
run. -/
theorem resolved_of_run {w₀ w : World ext config} {acts : List Action} (h₀ : w₀.Initial)
    (hrun : Run.run step w₀ acts = some w) (q : TaskId) :
    (w.tasks q).phase.From q (Run.trace step w₀ acts) := by
  refine Run.run_induction
    (P := fun as w => (World.tasks w q).phase.From q (Run.trace step w₀ as)) ?_ ?_ hrun
  · rw [h₀.entry q]
    trivial
  · intro as u action v hu hfrom hstep
    rw [Run.trace_concat hu hstep]
    obtain ⟨event, p', eff, rfl, hmoves, rfl⟩ | ⟨-, htask⟩ := moves_or_others hstep q
    · rw [World.phase_move]
      exact hmoves.from hfrom
    · rw [htask]
      exact hfrom.mono (List.subset_append_left _ _)

/-- The extraction worked with what the request prepared. -/
lemma Resolved.exists_resolve {w₀ w : World ext config} {acts : List Action} {q : TaskId}
    {target : Target ext config} {a : Access} {stage : Stage ext config}
    (h : Resolved q target (Run.trace step w₀ acts)) (h₀ : w₀.Initial)
    (hrun : Run.run step w₀ acts = some w) (hphase : (w.tasks q).phase = .running a stage) :
    ∃ services, resolve a target.choice services = .ok target := by
  obtain ⟨-, s, hs, b, services, hextracting, -, hresolve⟩ := h
  obtain ⟨pre, hpre, -⟩ := Run.exists_of_mem_trace hs
  have hprepare := prepared_of_run h₀ hrun hphase
  have hprepare' := prepared_of_run h₀ hpre hextracting
  rw [(task_of_run hrun q).2.1] at hprepare
  rw [(task_of_run hpre q).2.1, hprepare] at hprepare'
  obtain rfl := Except.ok.inj hprepare'
  exact ⟨services, hresolve⟩

/-! ### The story of a request -/

/-- What the steps of a request have been, by its phase. -/
def Story (q : TaskId) (steps : List (Taken ext config)) : Phase ext config → Prop
  | .running _ (.clearing target) =>
      Justified q target steps ∧ ∀ s ∈ steps, By q s → KeepsRoutes s
  | .running _ (.installing target) => Cleared q target steps
  | .done (.ok (.success status server ports)) =>
      ∃ target : Target ext config, QueryResponse.success status server ports = target.response
        ∧ Upserted q target steps
  | _ => ∀ s ∈ steps, By q s → Quiet q s

lemma Story.concat {q : TaskId} {steps : List (Taken ext config)} {s : Taken ext config}
    {p : Phase ext config} (h : Story q steps p) (hs : ¬By q s) : Story q (steps ++ [s]) p := by
  unfold Story at h ⊢
  split at h
  · exact ⟨h.1.mono (List.subset_append_left _ _),
      forall_by_concat h.2 fun hby => absurd hby hs⟩
  · exact h.concat fun hby => absurd hby hs
  · obtain ⟨target, hr, h⟩ := h
    exact ⟨target, hr, h.concat fun hby => absurd hby hs⟩
  · exact forall_by_concat h fun hby => absurd hby hs

/-- Before the first effect nothing has been changed. -/
lemma Story.quiet {q : TaskId} {steps : List (Taken ext config)} {a : Access}
    {stage : Stage ext config} (h : Story q steps (.running a stage))
    (hstage : stage.uncommitted = true) : ∀ s ∈ steps, By q s → Quiet q s := by
  cases stage <;> first | exact h | simp [Stage.uncommitted] at hstage

lemma Phase.Refused.story {q : TaskId} {steps : List (Taken ext config)} {p : Phase ext config}
    (hp : p.Refused) (h : ∀ s ∈ steps, By q s → Quiet q s) : Story q steps p := by
  cases hp <;> exact h

lemma Phase.Refused.ne_clearing {p : Phase ext config} (hp : p.Refused) (a : Access)
    (target : Target ext config) : p ≠ .running a (.clearing target) := by
  cases hp <;> simp

section

variable {w : World ext config} {q : TaskId} {p p' : Phase ext config} {event : Event}
  {eff : Effect}

/-- A move without an effect on the session table keeps the routes. -/
lemma keepsRoutes_move {action : Action} (heff : ∀ s, eff.sessionsAfter s = s) :
    KeepsRoutes (w, action, w.move q p eff) := by
  intro d
  rcases eq_or_ne d (w.tasks q).director with rfl | hd
  · exact (w.sessions_move q p eff).trans (heff _)
  · exact congrArg Director.sessions (w.directors_move_of_ne q p eff hd)

lemma keepsCluster_move {action : Action} (heff : ∀ c, eff.clusterAfter c = c) :
    KeepsCluster (w, action, w.move q p eff) :=
  (w.cluster_move q p eff).trans (heff _)

/-- A move without an effect on routes or Pods leaves a quiet request quiet, unless
it enters the upsert. -/
lemma quiet_concat_move {steps : List (Taken ext config)} {action : Action}
    (hsessions : ∀ s, eff.sessionsAfter s = s) (hcluster : ∀ c, eff.clusterAfter c = c)
    (hp : ∀ a target, p ≠ .running a (.clearing target)) (h : ∀ s ∈ steps, By q s → Quiet q s) :
    ∀ s ∈ steps ++ [(w, action, w.move q p eff)], By q s → Quiet q s := by
  refine forall_by_concat h fun _ => ⟨keepsRoutes_move hsessions, keepsCluster_move hcluster, ?_⟩
  rintro target ⟨-, -, a, hphase⟩
  rw [World.phase_move] at hphase
  exact hp a target hphase

/-- **One move carries the story on.** -/
lemma Moves.story {steps : List (Taken ext config)}
    (h : Moves w q (w.tasks q).phase event p' eff)
    (hstep : step w (.task q event) = some (w.move q p' eff))
    (hfrom : (w.tasks q).phase.From q steps) (hstory : Story q steps (w.tasks q).phase) :
    Story q (steps ++ [(w, .task q event, w.move q p' eff)]) p' := by
  generalize hphase : (w.tasks q).phase = phase at h hfrom hstory
  cases h with
  | reject hp =>
      exact hp.story (quiet_concat_move (fun _ => rfl) (fun _ => rfl) hp.ne_clearing hstory)
  | refuse hstage hp =>
      exact hp.story
        (quiet_concat_move (fun _ => rfl) (fun _ => rfl) hp.ne_clearing (hstory.quiet hstage))
  | list hstage hr =>
      rcases hstage with rfl | rfl
      · exact quiet_concat_move (fun _ => rfl) (fun _ => rfl) (by simp) hstory
      · exact quiet_concat_move (fun _ => rfl) (fun _ => rfl) (by simp) hstory
  | connected hr hc =>
      refine ⟨⟨resolved_of_resolve hphase hr hfrom, .inl hc⟩, ?_⟩
      exact forall_by_concat (fun s hs hby => (hstory s hs hby).routes)
        fun _ => keepsRoutes_move fun _ => rfl
  | patch hr hp =>
      refine ⟨⟨Resolved.mono hfrom (List.subset_append_left _ _),
        .inr ⟨_, List.mem_append_right _ (List.mem_singleton.mpr rfl), ?_⟩⟩, ?_⟩
      · exact accepts_of_step hphase hstep (by rw [World.phase_move]; rfl)
      · exact forall_by_concat (fun s hs hby => (hstory s hs hby).routes)
          fun _ => keepsRoutes_move fun _ => rfl
  | clear =>
      refine ⟨steps, w, _, [], rfl, ⟨⟨_, hphase⟩, w.sessions_move q _ _⟩, hstory.1, ?_⟩
      rw [List.append_nil]
      exact hstory.2
  | install =>
      refine ⟨_, rfl, steps, w, _, [], rfl, ⟨⟨_, hphase⟩, w.sessions_move q _ _⟩, hstory, ?_⟩
      simp
  | _ => exact quiet_concat_move (fun _ => rfl) (fun _ => rfl) (by simp) hstory

end

/-- **The story holds along every run.** -/
theorem story_of_run {w₀ w : World ext config} {acts : List Action} (h₀ : w₀.Initial)
    (hrun : Run.run step w₀ acts = some w) (q : TaskId) :
    Story q (Run.trace step w₀ acts) (w.tasks q).phase := by
  refine Run.run_induction
    (P := fun as w => Story q (Run.trace step w₀ as) (w.tasks q).phase) ?_ ?_ hrun
  · rw [h₀.entry q]
    exact fun s hs => absurd hs (by simp [Run.trace])
  · intro as u action v hu hstory hstep
    rw [Run.trace_concat hu hstep]
    obtain ⟨event, p', eff, rfl, hmoves, rfl⟩ | ⟨hothers, htask⟩ := moves_or_others hstep q
    · rw [World.phase_move]
      exact hmoves.story hstep (resolved_of_run h₀ hu q) hstory
    · rw [htask]
      exact hstory.concat hothers

/-! ### Lookups -/

/-- The step changes no capacity demand. -/
def KeepsDemand (s : Taken ext config) : Prop :=
  ∀ d, (s.2.2.directors d).demand = (s.1.directors d).demand

/-- A move of a lookup changes nothing that is shared. -/
lemma Moves.keeps_of_lookup {w : World ext config} {q : TaskId} {p' : Phase ext config}
    {event : Event} {eff : Effect} (h : Moves w q (w.tasks q).phase event p' eff)
    (hw : w.Disciplined) (hlookup : (w.tasks q).request.character = none) :
    (∀ s, eff.sessionsAfter s = s) ∧ ∀ c, eff.clusterAfter c = c := by
  have hfits := hw.fits q
  generalize (w.tasks q).phase = phase at h hfits
  cases h with
  | patch hr hp =>
      have hsome := hfits.isSome rfl
      simp [hfits.1.1, hlookup] at hsome
  | clear =>
      have hsome := hfits.isSome rfl
      simp [hfits.1.1, hlookup] at hsome
  | install =>
      have hsome := hfits.isSome rfl
      simp [hfits.1.1, hlookup] at hsome
  | _ => exact ⟨fun _ => rfl, fun _ => rfl⟩

/-- **A lookup changes nothing.** -/
theorem keeps_of_lookup {w₀ w : World ext config} {acts : List Action} (h₀ : w₀.Initial)
    (hrun : Run.run step w₀ acts = some w) {q : TaskId}
    (hlookup : (w₀.tasks q).request.character = none) :
    ∀ s ∈ Run.trace step w₀ acts, By q s → Quiet q s ∧ KeepsDemand s := by
  refine (Run.run_induction (P := fun as w => (w.tasks q).request.character = none
    ∧ ∀ s ∈ Run.trace step w₀ as, By q s → Quiet q s ∧ KeepsDemand s)
    ⟨hlookup, by simp [Run.trace]⟩ ?_ hrun).2
  rintro as u action v hu ⟨hlookup, hkeeps⟩ hstep
  refine ⟨by rw [(task_of_step hstep q).2.1]; exact hlookup, ?_⟩
  rw [Run.trace_concat hu hstep]
  refine forall_by_concat hkeeps ?_
  rintro ⟨event, rfl⟩
  obtain ⟨p', eff, hmoves, rfl⟩ := exists_moves_of_step hstep
  have hu := disciplined_of_run h₀ hu
  obtain ⟨hsessions, hcluster⟩ := hmoves.keeps_of_lookup hu hlookup
  refine ⟨⟨keepsRoutes_move hsessions, keepsCluster_move hcluster, ?_⟩,
    (World.demand_move (hu.flight q hlookup) (hmoves.ne_demand (hu.fits q) hlookup)).2⟩
  rintro target ⟨⟨a, hphase⟩, -, -⟩
  have hfits := hu.fits q
  rw [hphase] at hfits
  have hsome := hfits.isSome rfl
  simp [hfits.1.1, hlookup] at hsome

/-! ### The outcome -/

/-- **A failed request leaves no trace and a successful one is complete**: an
error or no response means that no step of the request changed a session table
or a Pod or had a patch accepted; a success means one upsert of the route for its
client, to the target that the request extracted from the Pod it chose on its snapshot,
after the patch of this target was accepted or the snapshot showed its character connected;
a lookup changes nothing and signals no demand. -/
theorem outcome {w₀ w : World ext config} {acts : List Action} (h₀ : w₀.Initial)
    (hrun : Run.run step w₀ acts = some w) (q : TaskId) :
    (∀ r, (w.tasks q).phase = .done r →
        (processQuery r = none ∨ ∃ e, processQuery r = some (.error e)) →
        ∀ s ∈ Run.trace step w₀ acts, By q s → Quiet q s)
      ∧ (∀ r status server ports, (w.tasks q).phase = .done r →
        processQuery r = some (.success status server ports) →
        ∃ target : Target ext config, QueryResponse.success status server ports = target.response
          ∧ Upserted q target (Run.trace step w₀ acts))
      ∧ (∀ map ids, (w₀.tasks q).request = .characterList map ids →
        ∀ s ∈ Run.trace step w₀ acts, By q s → Quiet q s ∧ KeepsDemand s) := by
  have hstory := story_of_run h₀ hrun q
  refine ⟨?_, ?_, ?_⟩
  · intro r hphase hr
    rw [hphase] at hstory
    rcases r with error | response
    · exact hstory
    · cases response with
      | characterList servers => exact hstory
      | error e => exact hstory
      | success status server ports =>
          rcases hr with hr | ⟨e, hr⟩
          · simp [processQuery] at hr
          · simp [processQuery] at hr
  · intro r status server ports hphase hr
    rw [hphase] at hstory
    rcases r with error | response
    · cases error with
      | demand error => cases error <;> simp [processQuery] at hr
      | failed message => simp [processQuery] at hr
    · obtain rfl : response = .success status server ports := by simpa [processQuery] using hr
      exact hstory
  · intro map ids hrequest
    exact keeps_of_lookup h₀ hrun (by rw [hrequest]; rfl)

/-- A query that succeeds, with its one upsert. -/
theorem outcome_sample :
    ∃ target : Target Sample.decoders Sample.settings,
      Upserted 0 target (Run.trace step (Sample.world "10.0.0.1") Sample.toAnswer) := by
  obtain ⟨status, server, ports, hphase⟩ :=
    World.succeeded_iff.mp (by decide : Sample.answered.succeeded 0 = true)
  obtain ⟨target, -, hupserted⟩ := (outcome (Sample.initial_world "10.0.0.1") Sample.run_answered
    0).2.1 _ status server ports hphase rfl
  exact ⟨target, hupserted⟩

end UdpDirector
