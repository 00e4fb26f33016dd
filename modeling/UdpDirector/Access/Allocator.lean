import UdpDirector.Access.Discipline
import UdpDirector.Access.Safety
import UdpDirector.Foundation.Refinement

/-!
What the directors do to the cluster, said without their steps.

* `Allocator`: the stored Pods by name; `Allocator.step`: a character is assigned to a Pod that has
  a seat for it, which looks at the Pod and labels it in one step; others store and delete;
* `allocator`: directors that list, decide and patch in steps of their own refine it;
* `cluster_refines_allocator`: so every interleaving of them is a run of the allocator, with one
  assignment for each accepted patch and the writes of others in between;
* `footprint`: of a Pod that nobody else writes, all that ever changes are the labels of
  characters that are assigned to it.
-/

namespace UdpDirector

variable (ext : Externals) (config : Config)

/-! ### The allocator -/

/-- The stored Pods by name. -/
abbrev Allocator := String → Option DynamicObject

/-- The Pod is ready and does not drain, it hosts the character or has room for it at the time,
and the character is not connected. -/
def hasSeat (character : String) (now : OffsetDateTime) (o : DynamicObject) : Bool :=
  match ext.podOf o with
  | none => false
  | some pod =>
      podReady pod && !podDraining pod && o.metadata.label (config.characterKey character) != "Used"
        && match charactersOnPod ext pod config [] now with
          | .error _ => false
          | .ok cs => visible cs character || cs.length < config.maxCharactersPerServer

/-- The object with a label set to `Allocated`, under a new version if it was not so before. -/
def DynamicObject.assigned (o : DynamicObject) (key fresh : String) : DynamicObject :=
  if o.metadata.label key = some "Allocated" then o else o.patched key "Allocated" fresh

namespace Allocator

/-- What happens to the Pods. -/
inductive Action where
  | assign (name character : String) (now : OffsetDateTime) (fresh : String)
  | store (name : String) (o : DynamicObject)
  | delete (name : String)

/-- One step: an assignment looks for a seat and takes it at once. -/
def step (l : Allocator) : Action → Option Allocator
  | .assign name character now fresh =>
      (l name).bind fun o =>
        if hasSeat ext config character now o then
          some (Function.update l name (some (o.assigned (config.characterKey character) fresh)))
        else
          none
  | .store name o => some (Function.update l name (some o))
  | .delete name => some (Function.update l name none)

/-- A step of others. -/
def Action.isForeign : Action → Bool
  | .assign .. => false
  | _ => true

/-- The step neither stores nor deletes the Pod. -/
def Action.Spares (name : String) : Action → Prop
  | .assign .. => True
  | .store name' _ | .delete name' => name' ≠ name

end Allocator

variable {ext config}

lemma hasSeat_iff {character : String} {now : OffsetDateTime} {o : DynamicObject} :
    hasSeat ext config character now o = true
      ↔ ∃ pod cs, ext.podOf o = some pod ∧ podReady pod = true ∧ podDraining pod = false
        ∧ o.metadata.label (config.characterKey character) ≠ some "Used"
        ∧ charactersOnPod ext pod config [] now = .ok cs
        ∧ (visible cs character = true ∨ cs.length < config.maxCharactersPerServer) := by
  rw [hasSeat]
  cases hpod : ext.podOf o with
  | none => simp
  | some pod =>
      cases hcs : charactersOnPod ext pod config [] now with
      | error fault => simp [hcs]
      | ok cs => simp [hcs, and_assoc]

/-! ### One object -/

/-- The objects differ in their labels and versions only. -/
structure SameButLabels (o o' : DynamicObject) : Prop where
  metadata : o.metadata = { o'.metadata with
    labels := o.metadata.labels, resourceVersion := o.metadata.resourceVersion }
  data : o.data = o'.data

section

variable {o o' o'' : DynamicObject} {key fresh : String}

lemma SameButLabels.refl (o : DynamicObject) : SameButLabels o o := ⟨rfl, rfl⟩

lemma SameButLabels.trans (h : SameButLabels o o') (h' : SameButLabels o' o'') :
    SameButLabels o o'' := by
  refine ⟨?_, h.data.trans h'.data⟩
  rw [h.metadata, h'.metadata]

lemma sameButLabels_assigned (o : DynamicObject) (key fresh : String) :
    SameButLabels (o.assigned key fresh) o := by
  rw [DynamicObject.assigned]
  split
  · exact .refl o
  · exact ⟨rfl, rfl⟩

lemma label_assigned_self : (o.assigned key fresh).metadata.label key = some "Allocated" := by
  rw [DynamicObject.assigned]
  split
  · assumption
  · simp [DynamicObject.patched, ObjectMeta.label, ObjectMeta.setLabel, -AList.insert_empty]

lemma label_assigned_of_ne {j : String} (hj : j ≠ key) :
    (o.assigned key fresh).metadata.label j = o.metadata.label j := by
  rw [DynamicObject.assigned]
  split
  · rfl
  · exact ObjectMeta.label_setLabel_ne o.metadata "Allocated" hj

end

/-! ### Runs of the allocator -/

namespace Allocator

variable {l l' : Allocator} {name : String}

variable (config) in
/-- Some step assigns the character of a label to the Pod. -/
def Assigns (name key : String) (acts : List Action) : Prop :=
  ∃ character now fresh, .assign name character now fresh ∈ acts
    ∧ config.characterKey character = key

/-- What has become of an object by some steps that neither store nor delete it. -/
structure Became (config : Config) (name : String) (acts : List Action) (o o' : DynamicObject) :
    Prop where
  same : SameButLabels o' o
  assigned : ∀ key, Assigns config name key acts → o'.metadata.label key = some "Allocated"
  kept : ∀ key, ¬Assigns config name key acts → o'.metadata.label key = o.metadata.label key

lemma assigns_concat {key : String} {acts : List Action} {a : Action} :
    Assigns config name key (acts ++ [a]) ↔ Assigns config name key acts
      ∨ ∃ character now fresh, a = .assign name character now fresh
        ∧ config.characterKey character = key := by
  constructor
  · rintro ⟨character, now, fresh, hmem, hkey⟩
    rcases List.mem_append.mp hmem with hmem | hmem
    · exact .inl ⟨character, now, fresh, hmem, hkey⟩
    · exact .inr ⟨character, now, fresh, (List.mem_singleton.mp hmem).symm, hkey⟩
  · rintro (⟨character, now, fresh, hmem, hkey⟩ | ⟨character, now, fresh, rfl, hkey⟩)
    · exact ⟨character, now, fresh, List.mem_append_left _ hmem, hkey⟩
    · exact ⟨character, now, fresh, by simp, hkey⟩

/-- A step that does not concern the Pod leaves it as it is. -/
lemma Became.other {acts : List Action} {o o' : DynamicObject} {a : Action}
    (h : Became config name acts o o')
    (ha : ∀ character now fresh, a ≠ .assign name character now fresh) :
    Became config name (acts ++ [a]) o o' := by
  have hiff : ∀ key, Assigns config name key (acts ++ [a]) ↔ Assigns config name key acts := by
    intro key
    rw [assigns_concat, or_iff_left]
    rintro ⟨character, now, fresh, heq, -⟩
    exact ha character now fresh heq
  exact ⟨h.same, fun key hkey => h.assigned key ((hiff key).mp hkey),
    fun key hkey => h.kept key fun hold => hkey ((hiff key).mpr hold)⟩

/-- An assignment sets the label of its character. -/
lemma Became.assign {acts : List Action} {o o' : DynamicObject} (h : Became config name acts o o')
    (character : String) (now : OffsetDateTime) (fresh : String) :
    Became config name (acts ++ [.assign name character now fresh]) o
      (o'.assigned (config.characterKey character) fresh) := by
  refine ⟨(sameButLabels_assigned o' _ fresh).trans h.same, fun key hkey => ?_,
    fun key hkey => ?_⟩
  · rcases eq_or_ne key (config.characterKey character) with rfl | hne
    · exact label_assigned_self
    · rw [label_assigned_of_ne hne]
      refine h.assigned key ((assigns_concat.mp hkey).resolve_right ?_)
      rintro ⟨character', now', fresh', heq, rfl⟩
      obtain ⟨-, rfl, -, -⟩ := Action.assign.inj heq
      exact hne rfl
  · rw [assigns_concat, not_or] at hkey
    have hne : key ≠ config.characterKey character := by
      rintro rfl
      exact hkey.2 ⟨character, now, fresh, rfl, rfl⟩
    rw [label_assigned_of_ne hne]
    exact h.kept key hkey.1

/-- **A Pod that nobody stores or deletes keeps all but the labels assigned.** -/
theorem became_of_run {acts : List Action} {o : DynamicObject}
    (hrun : Run.run (step ext config) l acts = some l') (hlive : l name = some o)
    (hspares : ∀ a ∈ acts, a.Spares name) :
    ∃ o', l' name = some o' ∧ Became config name acts o o' := by
  revert hspares
  refine Run.run_induction (P := fun acts l' => (∀ a ∈ acts, Action.Spares name a) →
    ∃ o', l' name = some o' ∧ Became config name acts o o') ?_ ?_ hrun
  · intro _
    refine ⟨o, hlive, .refl o, ?_, fun _ _ => rfl⟩
    rintro key ⟨character, now, fresh, hmem, -⟩
    cases hmem
  · intro as u a v hu ih hstep hspares
    obtain ⟨o', hu', hbecame⟩ := ih fun a' ha' => hspares a' (List.mem_append_left _ ha')
    have ha := hspares a (by simp)
    cases a with
    | assign name' character now fresh =>
        obtain ⟨o'', hlive', hstep⟩ := Option.bind_eq_some_iff.mp hstep
        obtain ⟨-, hstep⟩ := Option.ite_none_right_eq_some.mp hstep
        obtain rfl := Option.some.inj hstep
        rcases eq_or_ne name name' with rfl | hne
        · obtain rfl : o' = o'' := Option.some.inj (hu'.symm.trans hlive')
          exact ⟨_, Function.update_self _ _ _, hbecame.assign character now fresh⟩
        · refine ⟨o', by rw [Function.update_of_ne hne, hu'], hbecame.other ?_⟩
          rintro character' now' fresh' heq
          exact hne (Action.assign.inj heq).1.symm
    | store name' o'' | delete name' =>
        obtain rfl := Option.some.inj hstep
        have hne : name ≠ name' := fun heq => ha heq.symm
        exact ⟨o', by rw [Function.update_of_ne hne, hu'], hbecame.other fun _ _ _ h => by cases h⟩

end Allocator

/-! ### The directors refine the allocator -/

/-- An accepted patch as an assignment, and the writes of others. -/
def allocations (w : World ext config) : Action → List Allocator.Action
  | .task q (.patch (some fresh)) =>
      match advance w q (.patch (some fresh)) with
      | some (.running _ (.clearing target), _) =>
          (target.choice.candidate.pod.metadata.name.map fun name =>
            Allocator.Action.assign name target.choice.character target.choice.now fresh).toList
      | _ => []
  | .write name o => [.store name o]
  | .delete name => [.delete name]
  | _ => []

section

variable {w₀ w w' : World ext config} {q : TaskId} {acts : List Action}

/-- The Pod of a choice has a seat for its character, unless the character is connected. -/
lemma hasSeat_of_target (target : Target ext config) (h : target.connected = false) :
    hasSeat ext config target.choice.character target.choice.now target.choice.candidate.object
      = true := by
  refine hasSeat_iff.mpr ⟨_, _, target.choice.candidate.decoded, target.choice.candidate.ready,
    target.choice.undrained, fun hused => ?_, target.choice.candidate.shown, target.choice.seated⟩
  exact absurd (target.connected_of_used hused) (by simp [h])

/-- **A patch that is accepted finds the Pod as it was listed**, and assigns its character. -/
lemma allocator_step_of_patch {target : Target ext config} {name version fresh : String}
    {cluster : Cluster} (hcopy : target.choice.candidate.object ∈ w.cluster.copies)
    (hconnected : target.connected = false)
    (hr : allocateRequest target.choice.candidate.pod = .ok (name, version))
    (hp : w.cluster.patchLabel name version target.key "Allocated" fresh = some (some cluster)) :
    Allocator.step ext config w.cluster.live
        (.assign name target.choice.character target.choice.now fresh)
      = some cluster.live := by
  obtain ⟨hname, hversion⟩ := allocateRequest_eq_ok hr
  obtain ⟨o, hlive, hv, hor⟩ := Cluster.patchLabel_eq_accepted hp
  -- the version that the API compared is the one of the decided copy
  rw [Externals.metadata_podOf target.choice.candidate.decoded] at hname hversion
  obtain rfl : target.choice.candidate.object = o :=
    w.cluster.live_of_version hcopy hname hversion hlive hv
  have hafter : cluster.live = Function.update w.cluster.live name
      (some (target.choice.candidate.object.assigned target.key fresh)) := by
    rw [DynamicObject.assigned]
    rcases hor with ⟨rfl, hlabel⟩ | ⟨hlabel, hkey, hfresh, rfl⟩
    · rw [if_pos hlabel, ← hlive, Function.update_eq_self]
    · rw [if_neg hlabel]
      rfl
  rw [Allocator.step, hlive, Option.bind_some, if_pos (hasSeat_of_target target hconnected), hafter]
  rfl

/-- A step that is no patch leaves the cluster alone and is no assignment. -/
lemma allocations_of_ne {event : Event} {p : Phase ext config} {eff : Effect}
    (hmoves : Moves w q (w.tasks q).phase event p eff)
    (hevent : ∀ fresh, event ≠ .patch (some fresh)) :
    allocations w (.task q event) = [] ∧ eff.clusterAfter w.cluster = w.cluster := by
  constructor
  · rw [allocations.eq_def]
    split
    · rename_i heq
      exact absurd (Action.task.inj heq).2 (hevent _)
    · rename_i heq
      cases heq
    · rename_i heq
      cases heq
    · rfl
  · generalize (w.tasks q).phase = phase at hmoves
    cases hmoves with
    | patch hr hp => exact absurd rfl (hevent _)
    | _ => rfl

/-- **A step of a request is one of the allocator**, or none. -/
lemma run_allocations_task (hseen : (w.tasks q).phase.Seen w.cluster) {event : Event}
    {p : Phase ext config} {eff : Effect} (h : advance w q event = some (p, eff)) :
    Run.run (Allocator.step ext config) w.cluster.live (allocations w (.task q event))
      = some (w.move q p eff).cluster.live := by
  have hmoves := moves_of_advance h
  rw [World.cluster_move]
  by_cases hevent : ∃ fresh, event = .patch (some fresh)
  swap
  · obtain ⟨hnone, hcluster⟩ :=
      allocations_of_ne hmoves fun fresh heq => hevent ⟨fresh, heq⟩
    rw [hnone, hcluster]
    rfl
  obtain ⟨fresh, rfl⟩ := hevent
  rw [allocations, h]
  generalize (w.tasks q).phase = phase at hmoves hseen
  cases hmoves with
  | patch hr hp =>
      have hstep := allocator_step_of_patch hseen.1 hseen.2.2 hr hp
      dsimp only
      rw [(allocateRequest_eq_ok hr).1]
      exact (Run.run_singleton _ _).trans hstep
  | refuse hstage hp => cases hp <;> rfl
  | poll => rfl

/-- A request assigns the character it asks for, by its patch. -/
lemma request_of_mem_allocations (h₀ : w₀.Initial) (hrun : Run.run step w₀ acts = some w)
    {action : Action} {name character fresh : String} {now : OffsetDateTime}
    (hmem : .assign name character now fresh ∈ allocations w action) :
    ∃ q, action = .task q (.patch (some fresh))
      ∧ (w.tasks q).request.character = some character ∧ validCharacterId character = true := by
  rw [allocations.eq_def] at hmem
  split at hmem
  · rename_i q fresh'
    split at hmem
    · rename_i a target eff hadvance
      rw [Option.mem_toList] at hmem
      obtain ⟨name', -, heq⟩ := Option.map_eq_some_iff.mp hmem
      obtain ⟨-, rfl, -, rfl⟩ := Allocator.Action.assign.inj heq
      refine ⟨q, rfl, ?_, target.choice.valid⟩
      have hmoves := moves_of_advance hadvance
      have hseen := seen_of_run h₀ hrun q
      generalize hphase : (w.tasks q).phase = phase at hmoves hseen
      cases hmoves with
      | refuse hstage hp => cases hp
      | patch hr hp =>
          rw [← (prepare_eq_ok (prepared_of_run h₀ hrun hphase)).2.2.1]
          exact hseen.2.1
    · cases hmem
  · cases List.mem_singleton.mp hmem
  · cases List.mem_singleton.mp hmem
  · cases hmem

end

variable (ext config) in
/-- The directors, seen by what they do to the cluster: the states are those that runs reach. -/
def allocator : Run.Refinement (step : World ext config → Action → Option (World ext config))
    (Allocator.step ext config) where
  inv w := ∃ w₀ acts, World.Initial w₀ ∧ Run.run step w₀ acts = some w
  abs w := w.cluster.live
  label := allocations
  inv_step := by
    rintro w action w' ⟨w₀, acts, h₀, hrun⟩ hstep
    exact ⟨w₀, acts ++ [action], h₀, Run.run_concat hrun hstep⟩
  abs_step := by
    rintro w action w' ⟨w₀, acts, h₀, hrun⟩ hstep
    cases action with
    | task q event =>
        obtain ⟨⟨p, eff⟩, hadvance, rfl⟩ := Option.map_eq_some_iff.mp hstep
        exact run_allocations_task (seen_of_run h₀ hrun q) hadvance
    | write name o =>
        obtain ⟨hkey, hfresh, rfl⟩ := step_write hstep
        rfl
    | delete name =>
        obtain rfl := Option.some.inj hstep
        rfl
    | tick d nanos | dataPlane d sessions =>
        obtain rfl := Option.some.inj hstep
        rfl

/-- A write of another client as a step of the allocator. -/
def Action.foreign : Action → Option Allocator.Action
  | .write name o => some (.store name o)
  | .delete name => some (.delete name)
  | _ => none

section

variable {w₀ w : World ext config} {acts : List Action}

lemma filter_allocations (w : World ext config) (action : Action) :
    (allocations w action).filter Allocator.Action.isForeign = action.foreign.toList := by
  rw [allocations.eq_def]
  split
  · split
    · rename_i target eff hadvance
      cases target.choice.candidate.pod.metadata.name <;> rfl
    · rfl
  · rfl
  · rfl
  · rename_i htask hwrite hdelete
    cases action with
    | write name o => exact absurd rfl (hwrite name o)
    | delete name => exact absurd rfl (hdelete name)
    | _ => rfl

/-- **The directors are an atomic allocator.** However many of them list, decide and patch, each in
steps of its own and on copies that may be old, every interleaving is a run of the allocator,
which looks for a seat and takes it in one step, with the writes of others in the same order;
and each assignment is that of the character a query asks for, by its patch. -/
theorem cluster_refines_allocator (h₀ : w₀.Initial) (hrun : Run.run step w₀ acts = some w) :
    Run.run (Allocator.step ext config) w₀.cluster.live ((allocator ext config).labels w₀ acts)
        = some w.cluster.live
      ∧ ((allocator ext config).labels w₀ acts).filter Allocator.Action.isForeign
        = acts.filterMap Action.foreign
      ∧ ∀ name character now fresh,
        .assign name character now fresh ∈ (allocator ext config).labels w₀ acts →
          ∃ q, .task q (.patch (some fresh)) ∈ acts
            ∧ (w.tasks q).request.character = some character
            ∧ validCharacterId character = true := by
  refine ⟨(allocator ext config).run_labels ⟨w₀, [], h₀, rfl⟩ hrun,
    (allocator ext config).filter_labels (fun _ => filter_allocations _ _) hrun, ?_⟩
  intro name character now fresh hmem
  obtain ⟨pre, action, post, u, v, rfl, hpre, hstep, hlabel, hpost⟩ :=
    (allocator ext config).exists_of_mem_labels hrun hmem
  obtain ⟨q, rfl, hcharacter, hvalid⟩ := request_of_mem_allocations h₀ hpre hlabel
  refine ⟨q, by simp, ?_, hvalid⟩
  rw [(task_of_run hpost q).2.1, (task_of_step hstep q).2.1]
  exact hcharacter

/-- **What directors leave behind.** Of a Pod that nobody else stores or deletes, whatever the
directors do, all that ever changes is its version and the labels of characters that are assigned
to it, which say so; every other label, the annotations, the rest of the metadata and the whole
of the specification and the status are kept, and the Pod is still there. -/
theorem footprint (h₀ : w₀.Initial) (hrun : Run.run step w₀ acts = some w) {name : String}
    {o : DynamicObject} (hlive : w₀.cluster.live name = some o)
    (hwrite : ∀ o', .write name o' ∉ acts) (hdelete : .delete name ∉ acts) :
    ∃ o', w.cluster.live name = some o'
      ∧ Allocator.Became config name ((allocator ext config).labels w₀ acts) o o' := by
  refine Allocator.became_of_run
    ((allocator ext config).run_labels ⟨w₀, [], h₀, rfl⟩ hrun) hlive fun a ha => ?_
  have hforeign : a.isForeign = true → ∃ action ∈ acts, action.foreign = some a := by
    intro hforeign
    rw [← List.mem_filterMap, ← (allocator ext config).filter_labels
      (fun _ => filter_allocations _ _) hrun]
    exact List.mem_filter.mpr ⟨ha, hforeign⟩
  cases a with
  | assign => trivial
  | store name' o' =>
      rintro rfl
      obtain ⟨action, hmem, heq⟩ := hforeign rfl
      cases action with
      | write name o =>
          obtain ⟨rfl, rfl⟩ := Allocator.Action.store.inj (Option.some.inj heq)
          exact hwrite _ hmem
      | _ => simp [Action.foreign] at heq
  | delete name' =>
      rintro rfl
      obtain ⟨action, hmem, heq⟩ := hforeign rfl
      cases action with
      | delete name =>
          obtain rfl := Allocator.Action.delete.inj (Option.some.inj heq)
          exact hdelete hmem
      | _ => simp [Action.foreign] at heq

end

namespace Sample

/-- The Pod and the character of an assignment, with its time and its version. -/
def assignment : Allocator.Action → Option (String × String × OffsetDateTime × String)
  | .assign name character now fresh => some (name, character, now, fresh)
  | _ => none

lemma assignment_eq_some {a : Allocator.Action} {name character fresh : String}
    {now : OffsetDateTime} (h : assignment a = some (name, character, now, fresh)) :
    a = .assign name character now fresh := by
  cases a with
  | assign => cases h; rfl
  | _ => cases h

end Sample

/-- Two queries that contend for the lock, the first of which waits until a Pod comes up, are two
assignments in the order of their patches, after the one write of others. -/
theorem cluster_refines_allocator_sample : ∃ labels : List Allocator.Action,
    labels.filterMap Sample.assignment
        = [("game-0", "bram", ⟨0, 0⟩, "2"), ("game-0", "ayla", ⟨0, 0⟩, "3")]
      ∧ Run.run (Allocator.step Sample.decoders Sample.demandSettings)
          Sample.pairWorld.cluster.live labels = some Sample.contended.cluster.live
      ∧ labels.filter Allocator.Action.isForeign
        = [.store "game-0" (Sample.pod "game-0" "uid-0" "10.0.0.1")]
      ∧ ∃ q, .task q (.patch (some "3")) ∈ Sample.contention
        ∧ (Sample.contended.tasks q).request.character = some "ayla" := by
  obtain ⟨hrun, hforeign, hassigns⟩ :=
    cluster_refines_allocator Sample.initial_pairWorld Sample.run_contended
  have hassignments : ((allocator Sample.decoders Sample.demandSettings).labels Sample.pairWorld
        Sample.contention).filterMap Sample.assignment
      = [("game-0", "bram", ⟨0, 0⟩, "2"), ("game-0", "ayla", ⟨0, 0⟩, "3")] := by decide +kernel
  have hmem : ("game-0", "ayla", (⟨0, 0⟩ : OffsetDateTime), "3") ∈ ((allocator Sample.decoders
      Sample.demandSettings).labels Sample.pairWorld Sample.contention).filterMap
        Sample.assignment := by
    rw [hassignments]
    simp
  obtain ⟨a, ha, heq⟩ := List.mem_filterMap.mp hmem
  obtain rfl := Sample.assignment_eq_some heq
  obtain ⟨q, hpatch, hcharacter, -⟩ := hassigns _ _ _ _ ha
  exact ⟨_, hassignments, hrun, hforeign, q, hpatch, hcharacter⟩

/-- The Pod of an answered query has the label of the character, and is otherwise as before. -/
theorem footprint_sample : ∃ o', Sample.answered.cluster.live "game-0" = some o'
    ∧ SameButLabels o' (Sample.pod "game-0" "uid-0" "10.0.0.1") := by
  have hbefore : (Sample.world "10.0.0.1").cluster.live "game-0"
      = some (Sample.pod "game-0" "uid-0" "10.0.0.1") := rfl
  obtain ⟨o', hlive, hbecame⟩ := footprint (Sample.initial_world "10.0.0.1") Sample.run_answered
    hbefore (fun o' hmem => by simpa using Sample.task_of_mem_toAnswer _ hmem)
    (fun hmem => by simpa using Sample.task_of_mem_toAnswer _ hmem)
  exact ⟨o', hlive, hbecame.same⟩

end UdpDirector
