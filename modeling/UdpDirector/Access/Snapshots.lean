import UdpDirector.Access.Steps

/-!
What a request knows about the cluster while the cluster moves on.

* `Phase.Seen`: whatever a request holds of the cluster are copies the store has
  had; `seen_of_run` carries this through every run;
* `Accepts`: a step in which the API accepts the patch of a request;
* `Accepts.patched`: the Pod stored at that moment **is** the copy the request
  decided on, because the patch carries its version. Everything decided on the
  snapshot therefore holds of the stored Pod, and nothing else is touched.
-/

namespace UdpDirector

variable {ext : Externals} {config : Config}

/-! ### Copies only accumulate -/

/-- A cluster effect is an accepted patch. -/
lemma Cluster.le_of_patchLabel {c c' : Cluster} {name version key value fresh : String}
    (h : c.patchLabel name version key value fresh = some (some c')) : c.le c' := by
  obtain ⟨o, -, -, ⟨rfl, -⟩ | ⟨-, hkey, hfresh, rfl⟩⟩ := Cluster.patchLabel_eq_accepted h
  · exact c'.le_refl
  · exact c.le_put name _ hkey hfresh

lemma Moves.le_clusterAfter {w : World ext config} {q : TaskId} {p p' : Phase ext config}
    {event : Event} {eff : Effect} (h : Moves w q p event p' eff) :
    w.cluster.le (eff.clusterAfter w.cluster) := by
  cases h with
  | patch hr hp => exact Cluster.le_of_patchLabel hp
  | _ => exact w.cluster.le_refl

/-- **Histories grow**: no step forgets a copy. -/
theorem le_of_step {w w' : World ext config} {action : Action} (h : step w action = some w') :
    w.cluster.le w'.cluster := by
  cases action with
  | task q event =>
      obtain ⟨p, eff, hmoves, rfl⟩ := exists_moves_of_step h
      rw [World.cluster_move]
      exact hmoves.le_clusterAfter
  | write name o =>
      obtain ⟨hkey, hfresh, rfl⟩ := step_write h
      exact w.cluster.le_put name o hkey hfresh
  | delete name =>
      obtain rfl := Option.some.inj h
      exact w.cluster.le_remove name
  | tick d nanos =>
      obtain rfl := Option.some.inj h
      exact w.cluster.le_refl
  | dataPlane d sessions =>
      obtain rfl := Option.some.inj h
      exact w.cluster.le_refl

/-- The requests are left alone by everyone else. -/
lemma tasks_of_step {w w' : World ext config} {action : Action} (h : step w action = some w')
    {q : TaskId} (hq : ∀ event, action ≠ .task q event) : w'.tasks q = w.tasks q := by
  cases action with
  | task q' event =>
      obtain ⟨p, eff, -, rfl⟩ := exists_moves_of_step h
      exact w.tasks_move_of_ne q' p eff fun heq => hq event (heq ▸ rfl)
  | write name o =>
      obtain ⟨hkey, hfresh, rfl⟩ := step_write h
      rfl
  | delete name =>
      obtain rfl := Option.some.inj h
      rfl
  | tick d nanos =>
      obtain rfl := Option.some.inj h
      rfl
  | dataPlane d sessions =>
      obtain rfl := Option.some.inj h
      rfl

/-- **A step as one request sees it**: a move of its own, or a step of others that leaves it
alone. -/
lemma moves_or_others {w w' : World ext config} {action : Action} (h : step w action = some w')
    (q : TaskId) :
    (∃ event p eff, action = .task q event ∧ Moves w q (w.tasks q).phase event p eff
        ∧ w' = w.move q p eff)
      ∨ (¬∃ event, action = .task q event) ∧ w'.tasks q = w.tasks q := by
  by_cases hq : ∃ event, action = .task q event
  · obtain ⟨event, rfl⟩ := hq
    obtain ⟨p, eff, hmoves, rfl⟩ := exists_moves_of_step h
    exact .inl ⟨event, p, eff, rfl, hmoves, rfl⟩
  · exact .inr ⟨hq, tasks_of_step h fun event heq => hq ⟨event, heq⟩⟩

/-- A request never changes its director, its text or its client. -/
lemma task_of_step {w w' : World ext config} {action : Action} (h : step w action = some w')
    (q : TaskId) : (w'.tasks q).director = (w.tasks q).director
      ∧ (w'.tasks q).request = (w.tasks q).request ∧ (w'.tasks q).client = (w.tasks q).client := by
  obtain ⟨event, p', eff, rfl, -, rfl⟩ | ⟨-, htask⟩ := moves_or_others h q
  · exact w.task_move q p' eff q
  · rw [htask]
    exact ⟨rfl, rfl, rfl⟩

/-- The steps of one request leave the others alone. -/
lemma tasks_of_run_task {u v : World ext config} {q r : TaskId} {events : List Event}
    (hrun : Run.run step u (events.map (.task q)) = some v) (hne : r ≠ q) :
    v.tasks r = u.tasks r := by
  induction events generalizing u with
  | nil => rw [Option.some.inj hrun]
  | cons event events ih =>
      rw [List.map_cons, Run.run_cons, Option.bind_eq_some_iff] at hrun
      obtain ⟨u', hstep, hrun⟩ := hrun
      rw [ih hrun, tasks_of_step hstep fun event' heq => hne (Action.task.inj heq).1.symm]

lemma task_of_run {w w' : World ext config} {acts : List Action}
    (hrun : Run.run step w acts = some w') (q : TaskId) :
    (w'.tasks q).director = (w.tasks q).director
      ∧ (w'.tasks q).request = (w.tasks q).request ∧ (w'.tasks q).client = (w.tasks q).client := by
  refine Run.run_invariant (I := fun u : World ext config =>
    (u.tasks q).director = (w.tasks q).director ∧ (u.tasks q).request = (w.tasks q).request
      ∧ (u.tasks q).client = (w.tasks q).client) ?_ ⟨rfl, rfl, rfl⟩ hrun
  intro u action v hu hstep
  obtain ⟨hdirector, hrequest, hclient⟩ := task_of_step hstep q
  exact ⟨hdirector.trans hu.1, hrequest.trans hu.2.1, hclient.trans hu.2.2⟩

/-- A request that has ended stays as it is. -/
lemma phase_of_ended {w w' : World ext config} {q : TaskId} {acts : List Action}
    (hended : (w.tasks q).phase.ended = true) (hrun : Run.run step w acts = some w') :
    (w'.tasks q).phase = (w.tasks q).phase := by
  refine Run.run_invariant
    (I := fun u : World ext config => (u.tasks q).phase = (w.tasks q).phase) ?_ rfl hrun
  intro u action v hu hstep
  obtain ⟨event, p', eff, rfl, hmoves, -⟩ | ⟨-, htask⟩ := moves_or_others hstep q
  · rw [← hu] at hended
    generalize (u.tasks q).phase = p at hmoves hended
    cases hmoves <;> simp [Phase.ended] at hended
  · rw [htask, hu]

/-! ### What a request has seen -/

/-- What a phase holds of the cluster are copies the cluster has had, and a
choice is made for the character that joins. -/
def Phase.Seen (c : Cluster) : Phase ext config → Prop
  | .running _ (.deciding resources _) => ∀ o ∈ resources, o ∈ c.copies
  | .running a (.extracting choice) =>
      choice.candidate.object ∈ c.copies ∧ a.character = some choice.character
  | .running a (.allocating target) =>
      target.choice.candidate.object ∈ c.copies
        ∧ a.character = some target.choice.character ∧ target.connected = false
  | _ => True

lemma Phase.Seen.mono {c c' : Cluster} (hle : c.le c') {p : Phase ext config} (h : p.Seen c) :
    p.Seen c' := by
  unfold Phase.Seen at h ⊢
  split at h
  · exact fun o ho => hle (h o ho)
  · exact ⟨hle h.1, h.2⟩
  · exact ⟨hle h.1, h.2⟩
  · trivial

lemma Phase.Refused.seen {p : Phase ext config} (h : p.Refused) (c : Cluster) : p.Seen c := by
  cases h <;> trivial

lemma Moves.seen {w : World ext config} {q : TaskId} {p p' : Phase ext config} {event : Event}
    {eff : Effect} (h : Moves w q p event p' eff) (hseen : p.Seen w.cluster) :
    p'.Seen w.cluster := by
  cases h with
  | reject hp => exact hp.seen _
  | refuse hstage hp => exact hp.seen _
  | list hstage hr =>
      intro o ho
      exact Cluster.mem_copies_of_mem_pick ((mem_filterSnapshot hr).mp ho).1
  | assign hd =>
      obtain ⟨hc, -, hmem, -⟩ := decision_eq_assign hd
      exact ⟨hseen _ hmem, hc⟩
  | allocate hr hc =>
      obtain ⟨rfl, -⟩ := resolve_eq_ok hr
      exact ⟨hseen.1, hseen.2, hc⟩
  | _ => trivial

/-- **Requests hold copies**, in every state of every run. -/
theorem seen_of_run {w₀ w : World ext config} {acts : List Action} (h₀ : w₀.Initial)
    (hrun : Run.run step w₀ acts = some w) (q : TaskId) :
    (w.tasks q).phase.Seen w.cluster := by
  refine Run.run_invariant (I := fun w : World ext config => ∀ q, (w.tasks q).phase.Seen w.cluster)
    ?_ ?_ hrun q
  · intro w action w' hw hstep q
    obtain ⟨event, p, eff, rfl, hmoves, rfl⟩ | ⟨-, htask⟩ := moves_or_others hstep q
    · rw [World.phase_move, World.cluster_move]
      exact (hmoves.seen (hw q)).mono hmoves.le_clusterAfter
    · rw [htask]
      exact (hw q).mono (le_of_step hstep)
  · intro q
    rw [h₀.entry q]
    trivial

/-- A linearizable list returns exactly the stored Pods its selector matches. -/
def Linearizable (w : World ext config) : Action → Prop
  | .task q (.list (some (indices, _))) =>
      ∀ a stage, (w.tasks q).phase = .running a stage →
        ∀ o, o ∈ w.cluster.pick indices
          ↔ (∃ name, w.cluster.live name = some o) ∧ matchesLabels a.labels o = true
  | _ => True

/-- A list returns the stored Pods its selector matches, by the versions of the copies. -/
def ListsStored (w : World ext config) : Action → Prop
  | .task q (.list (some (indices, _))) =>
      match (w.tasks q).phase with
      | .running a _ => w.cluster.Lists a.labels indices
      | _ => True
  | _ => True

instance (w : World ext config) (action : Action) : Decidable (ListsStored w action) := by
  unfold ListsStored
  split
  · split <;> infer_instance
  · infer_instance

lemma ListsStored.linearizable {w : World ext config} {action : Action}
    (h : ListsStored w action) : Linearizable w action := by
  unfold Linearizable
  split
  · intro a stage hphase
    rw [ListsStored, hphase] at h
    exact h.mem_pick_iff
  · trivial

/-- A run whose lists have been checked takes linearizable lists. -/
lemma linearizable_of_listsStored {w : World ext config} {acts : List Action}
    (h : Run.Along step ListsStored w acts) : Run.Along step Linearizable w acts :=
  h.imp fun _ _ _ hlists => hlists.linearizable

/-- Only lists have to be linearizable. -/
lemma linearizable_of_ne_list {w : World ext config} {q : TaskId} {event : Event}
    (h : ∀ reply, event ≠ .list reply) : Linearizable w (.task q event) := by
  unfold Linearizable
  split
  · rename_i heq
    exact absurd (Action.task.inj heq).2 (h _)
  · trivial

/-! ### Accepted patches -/

/-- A step in which the API accepts the `Allocated` patch of a request. -/
def Accepts (w : World ext config) (q : TaskId) (target : Target ext config)
    (w' : World ext config) : Prop :=
  (∃ a, (w.tasks q).phase = .running a (.allocating target))
    ∧ (∃ served, step w (.task q (.patch served)) = some w')
    ∧ ∃ a, (w'.tasks q).phase = .running a (.clearing target)

/-- A query whose patch does not end it has had it accepted. -/
lemma accepts_of_step {w w' : World ext config} {q : TaskId} {a : Access}
    {target : Target ext config} {served : Option String}
    (hphase : (w.tasks q).phase = .running a (.allocating target))
    (hstep : step w (.task q (.patch served)) = some w')
    (hgoes : (w'.tasks q).phase.ended = false) : Accepts w q target w' := by
  refine ⟨⟨a, hphase⟩, ⟨served, hstep⟩, ?_⟩
  obtain ⟨p, eff, hmoves, rfl⟩ := exists_moves_of_step hstep
  rw [World.phase_move] at hgoes ⊢
  rw [hphase] at hmoves
  cases hmoves with
  | patch hr hp => exact ⟨a, rfl⟩
  | refuse hstage hp => cases hp <;> simp [Phase.ended] at hgoes

lemma Sample.exists_accepts : ∃ target, Accepts beforePatch 0 target afterPatch := by
  obtain ⟨a, target, hphase⟩ := World.exists_of_allocating (w := beforePatch) (q := 0) (by decide)
  exact ⟨target, accepts_of_step hphase step_afterPatch (by decide)⟩

/-- **The patch hits the copy it was decided on.** -/
theorem Accepts.patched {w₀ w w' : World ext config} {acts : List Action} (h₀ : w₀.Initial)
    (hrun : Run.run step w₀ acts = some w) {q : TaskId} {target : Target ext config}
    (h : Accepts w q target w') :
    ∃ name o', w.cluster.live name = some target.choice.candidate.object
      ∧ Patched target.key "Allocated" target.choice.candidate.object o'
      ∧ w'.cluster.live = Function.update w.cluster.live name (some o')
      ∧ target.connected = false := by
  obtain ⟨⟨a, hphase⟩, ⟨served, hstep⟩, ⟨a', hphase'⟩⟩ := h
  have hseen := seen_of_run h₀ hrun q
  rw [hphase] at hseen
  obtain ⟨p, eff, hmoves, rfl⟩ := exists_moves_of_step hstep
  rw [World.phase_move] at hphase'
  rw [hphase, hphase'] at hmoves
  cases hmoves with
  | refuse hstage hp => cases hp
  | patch hr hp =>
      rename_i name version fresh cluster
      obtain ⟨hname, hversion⟩ := allocateRequest_eq_ok hr
      obtain ⟨o, hlive, hv, hor⟩ := Cluster.patchLabel_eq_accepted hp
      -- the version that the API compared is the one of the decided copy
      rw [Externals.metadata_podOf target.choice.candidate.decoded] at hname hversion
      obtain rfl : target.choice.candidate.object = o :=
        w.cluster.live_of_version hseen.1 hname hversion hlive hv
      rw [World.cluster_move, Effect.clusterAfter]
      rcases hor with ⟨rfl, hlabel⟩ | ⟨-, hkey, hfresh, rfl⟩
      · refine ⟨name, _, hlive, .inl ⟨rfl, hlabel⟩, ?_, hseen.2.2⟩
        rw [← hlive, Function.update_eq_self]
      · exact ⟨name, _, hlive, .inr ⟨fresh, rfl⟩, rfl, hseen.2.2⟩

/-- A step of a request that changes the cluster is an accepted patch. -/
lemma accepts_of_cluster_ne {w w' : World ext config} {q : TaskId} {event : Event}
    (h : step w (.task q event) = some w') (hne : w'.cluster ≠ w.cluster) :
    ∃ target, Accepts w q target w' := by
  obtain ⟨p, eff, hmoves, rfl⟩ := exists_moves_of_step h
  rw [World.cluster_move] at hne
  generalize hphase : (w.tasks q).phase = phase at hmoves
  cases hmoves with
  | patch hr hp => exact ⟨_, ⟨_, hphase⟩, ⟨_, h⟩, ⟨_, World.phase_move _ _ _ _⟩⟩
  | _ => exact absurd rfl hne

end UdpDirector
