import UdpDirector.Access.Snapshots

/-!
What the guarded patch keeps safe, for any number of directors and any writes of
others.

* `capacity_safe`: an accepted assignment leaves the Pod within its capacity, or
  with the number of characters it had;
* `used_kept`: no step of a director changes the label of a connected character;
* `drain_excludes_assignment`: an assignment is accepted only on a ready Pod
  without the drain marker, so while the marker is set no director adds a
  character.
-/

namespace UdpDirector

variable {ext : Externals} {config : Config}

/-! ### The Pod an accepted patch changes -/

/-- A decoded Pod keeps its status through a patch of its labels. -/
lemma Patched.podOf {key value : String} {o o' : DynamicObject} {pod : Pod}
    (h : Patched key value o o') (hpod : ext.podOf o = some pod) :
    ext.podOf o' = some { metadata := o'.metadata, status := pod.status } := by
  rw [Externals.podOf, Option.map_eq_some_iff] at hpod
  obtain ⟨status, hstatus, rfl⟩ := hpod
  rw [Externals.podOf, h.data, hstatus, Option.map_some]

/-- **The count after an accepted patch**: the patched Pod still reads, shows one
character more unless the character was shown before, and shows nobody else anew. -/
theorem Patched.charactersOnPod {o o' : DynamicObject} {pod pod' : Pod} {id : String}
    {now : OffsetDateTime} {cs : List Character}
    (h : Patched (config.characterKey id) "Allocated" o o') (hvalid : validCharacterId id = true)
    (hpod : ext.podOf o = some pod) (hpod' : ext.podOf o' = some pod')
    (hcs : charactersOnPod ext pod config [] now = .ok cs) :
    ∃ cs', charactersOnPod ext pod' config [] now = .ok cs'
      ∧ cs'.length = cs.length + (if visible cs id then 0 else 1)
      ∧ ∀ j, visible cs' j = (decide (j = id) || visible cs j) := by
  have hmeta := Externals.metadata_podOf hpod
  have hmeta' := Externals.metadata_podOf hpod'
  rcases h with ⟨rfl, hlabel⟩ | ⟨fresh, rfl⟩
  · obtain rfl : pod = pod' := Option.some.inj (hpod.symm.trans hpod')
    have hvis : visible cs id = true := by
      rw [visible_charactersOnPod hcs, hmeta, hlabel, Option.bind_some,
        shownCharacter_eq_some.mpr (labelCharacter_allocated hvalid)]
      rfl
    refine ⟨cs, hcs, by rw [hvis]; rfl, fun j => ?_⟩
    rcases eq_or_ne j id with rfl | hne
    · simp [hvis]
    · simp [hne]
  · have hallocates : Allocates config id pod pod' :=
      { labels := by
          rw [Pod.labels, Pod.labels, hmeta, hmeta']
          rfl
        annotations := by
          rw [hmeta, hmeta']
          rfl }
    exact hallocates.charactersOnPod hvalid hcs

/-! ### Capacity -/

/-- With its character the chosen Pod is within its capacity, or shows as many as before. -/
lemma Choice.within (choice : Choice ext config) {n : ℕ}
    (hn : n = choice.candidate.characters.length
      + (if visible choice.candidate.characters choice.character then 0 else 1)) :
    n ≤ config.maxCharactersPerServer
      ∨ visible choice.candidate.characters choice.character = true
        ∧ n = choice.candidate.characters.length := by
  cases hvis : visible choice.candidate.characters choice.character with
  | true => exact .inr ⟨rfl, by simpa [hvis] using hn⟩
  | false =>
      -- the seat was free in the copy the patch was accepted on
      have hfree := choice.seated.resolve_left (by simp [hvis])
      refine .inl ?_
      rw [hn, hvis]
      exact hfree

/-- **Capacity is safe under any interleaving**: an accepted patch changes the Pod that the
query has chosen and no other. The stored copy of this Pod is the one it was chosen by, and right
after the patch it shows at most the configured number of characters, or the character was shown
before and the number is the same. With no disconnect time after the decision this stays so as
long as the Pod is not written. -/
theorem capacity_safe {w₀ w w' : World ext config} {acts : List Action} (h₀ : w₀.Initial)
    (hrun : Run.run step w₀ acts = some w) {q : TaskId} {target : Target ext config}
    (h : Accepts w q target w') :
    ∃ name o' pod' cs', target.choice.candidate.pod.metadata.name = some name
      ∧ w.cluster.live name = some target.choice.candidate.object
      ∧ w'.cluster.live = Function.update w.cluster.live name (some o')
      ∧ Patched target.key "Allocated" target.choice.candidate.object o'
      ∧ ext.podOf target.choice.candidate.object = some target.choice.candidate.pod
      ∧ ext.podOf o' = some pod'
      ∧ charactersOnPod ext target.choice.candidate.pod config [] target.choice.now
        = .ok target.choice.candidate.characters
      ∧ charactersOnPod ext pod' config [] target.choice.now = .ok cs'
      ∧ (cs'.length ≤ config.maxCharactersPerServer
        ∨ visible target.choice.candidate.characters target.choice.character = true
          ∧ cs'.length = target.choice.candidate.characters.length)
      ∧ (NoFutureDisconnect ext config pod' target.choice.now →
        ∀ post w'', Run.run step w' post = some w'' → w''.cluster.live name = some o' →
          ∀ later, target.choice.now ≤ later →
            ∃ cs'', charactersOnPod ext pod' config [] later = .ok cs''
              ∧ (cs''.length ≤ config.maxCharactersPerServer
                ∨ visible target.choice.candidate.characters target.choice.character = true
                  ∧ cs''.length ≤ target.choice.candidate.characters.length)) := by
  obtain ⟨name, o', hlive, hpatched, hlive', -⟩ := h.patched h₀ hrun
  have hname : target.choice.candidate.pod.metadata.name = some name := by
    rw [Externals.metadata_podOf target.choice.candidate.decoded]
    exact w.cluster.key_live name _ hlive
  have hpod := target.choice.candidate.decoded
  have hpod' := hpatched.podOf hpod
  obtain ⟨cs', hcs', hlength, -⟩ := hpatched.charactersOnPod target.choice.valid hpod hpod'
    target.choice.candidate.shown
  have hbound := target.choice.within hlength
  refine ⟨name, o', _, cs', hname, hlive, hlive', hpatched, hpod, hpod',
    target.choice.candidate.shown, hcs', hbound, ?_⟩
  intro hfuture post w'' _ _ later hle
  obtain ⟨cs'', hcs'', hlength'', -⟩ := charactersOnPod_later hfuture hle hcs'
  refine ⟨cs'', hcs'', ?_⟩
  rcases hbound with hbound | ⟨hvis, heq⟩
  · exact .inl (hlength''.trans hbound)
  · exact .inr ⟨hvis, heq ▸ hlength''⟩

/-- The bound at work, on a query for the only Pod, which has room. -/
theorem capacity_safe_sample :
    ∃ (target : Target Sample.decoders Sample.settings) (name : String) (pod' : Pod)
      (cs' : List Character), Accepts Sample.beforePatch 0 target Sample.afterPatch
      ∧ target.choice.candidate.pod.metadata.name = some name
      ∧ (Sample.afterPatch.cluster.live name).bind Sample.decoders.podOf = some pod'
      ∧ charactersOnPod Sample.decoders pod' Sample.settings [] target.choice.now = .ok cs'
      ∧ (cs'.length ≤ 2
        ∨ visible target.choice.candidate.characters target.choice.character = true
          ∧ cs'.length = target.choice.candidate.characters.length) := by
  obtain ⟨target, haccepts⟩ := Sample.exists_accepts
  obtain ⟨name, o', pod', cs', hname, -, hlive', -, -, hpod', -, hcs', hbound, -⟩ :=
    capacity_safe (Sample.initial_world "10.0.0.1") Sample.run_beforePatch haccepts
  refine ⟨target, name, pod', cs', haccepts, hname, ?_, hcs', hbound⟩
  rw [hlive', Function.update_self, Option.bind_some, hpod']

/-! ### Connected characters -/

/-- A `Used` label on the Pod a choice was made on is the connected character the
query looks for. -/
lemma Target.connected_of_used (target : Target ext config)
    (h : target.choice.candidate.object.metadata.label target.key = some "Used") :
    target.connected = true := by
  have hused : target.choice.candidate.pod.metadata.label
      (config.characterKey target.choice.character) = some "Used" := by
    rw [Externals.metadata_podOf target.choice.candidate.decoded]
    exact h
  have hmem := mem_charactersOnPod_of_used target.choice.candidate.shown target.choice.valid hused
  rw [connected, List.any_eq_true]
  exact ⟨_, hmem, by simp⟩

/-- **A connected player is never demoted**: a step of a director leaves every
`Used` label as it is. -/
theorem used_kept {w₀ w w' : World ext config} {acts : List Action} (h₀ : w₀.Initial)
    (hrun : Run.run step w₀ acts = some w) {q : TaskId} {event : Event}
    (hstep : step w (.task q event) = some w') {name id : String} {o : DynamicObject}
    (hlive : w.cluster.live name = some o)
    (hused : o.metadata.label (config.characterKey id) = some "Used") :
    ∃ o', w'.cluster.live name = some o'
      ∧ o'.metadata.label (config.characterKey id) = some "Used" := by
  rcases eq_or_ne w'.cluster w.cluster with heq | hne
  · exact ⟨o, by rw [heq, hlive], hused⟩
  · obtain ⟨target, h⟩ := accepts_of_cluster_ne hstep hne
    obtain ⟨name', o', hlive', hpatched, hupdate, hconnected⟩ := h.patched h₀ hrun
    rcases eq_or_ne name name' with rfl | hname
    · obtain rfl : o = target.choice.candidate.object := Option.some.inj (hlive.symm.trans hlive')
      refine ⟨o', by rw [hupdate, Function.update_self], ?_⟩
      rcases eq_or_ne (config.characterKey id) target.key with hkey | hkey
      · rw [hkey] at hused
        exact absurd (target.connected_of_used hused) (by simp [hconnected])
      · rw [hpatched.label_of_ne hkey, hused]
    · exact ⟨o, by rw [hupdate, Function.update_of_ne hname, hlive], hused⟩

/-- The late case: the controller marks the character connected between the
snapshot of a query and its patch, which is refused and leaves the label. -/
theorem used_kept_sample :
    ∃ w w' : World Sample.decoders Sample.settings,
      Run.run step Sample.beforePatch
          [.write "game-0" (Sample.connectedPod "10.0.0.1"), .task 0 (.patch (some "3"))] = some w'
      ∧ step w (.task 0 (.patch (some "3"))) = some w'
      ∧ ∃ o', w'.cluster.live "game-0" = some o'
        ∧ o'.metadata.label (Sample.settings.characterKey "ayla") = some "Used" := by
  have hwrite := Sample.run_reach Sample.beforePatch
    [.write "game-0" (Sample.connectedPod "10.0.0.1")] (by decide)
  have hpatch := Sample.run_reach
    (Sample.reach Sample.beforePatch [.write "game-0" (Sample.connectedPod "10.0.0.1")] (by decide))
    [.task 0 (.patch (some "3"))] (by decide)
  have hstep := (Run.run_singleton _ _).symm.trans hpatch
  refine ⟨_, _, Run.run_trans hwrite hpatch, hstep, ?_⟩
  exact used_kept (Sample.initial_world "10.0.0.1") (Run.run_trans Sample.run_beforePatch hwrite)
    hstep (o := Sample.connectedPod "10.0.0.1") rfl (by decide)

/-! ### Draining -/

/-- The stored Pod carries the drain marker. -/
def DrainMarked (w : World ext config) (name : String) : Prop :=
  ∃ o, w.cluster.live name = some o ∧ o.metadata.label drainLabel = some "true"

/-- While this holds of the steps of a run, the Pod stays marked and no write of
others gives it the label. -/
def DrainHeld (name key : String) (w : World ext config) (action : Action) : Prop :=
  DrainMarked w name ∧ ∀ o, action = .write name o → o.metadata.label key = none

/-- A copy a choice was made on does not carry the drain marker. -/
lemma Choice.label_drainLabel (choice : Choice ext config) :
    choice.candidate.object.metadata.label drainLabel ≠ some "true" := by
  have h := choice.undrained
  rw [podDraining, Externals.metadata_podOf choice.candidate.decoded] at h
  simpa using h

/-- A director leaves a marked Pod alone. -/
lemma live_of_drainMarked {w₀ w w' : World ext config} {acts : List Action} (h₀ : w₀.Initial)
    (hrun : Run.run step w₀ acts = some w) {q : TaskId} {event : Event}
    (hstep : step w (.task q event) = some w') {name : String} (hdrain : DrainMarked w name) :
    w'.cluster.live name = w.cluster.live name := by
  rcases eq_or_ne w'.cluster w.cluster with heq | hne
  · rw [heq]
  · obtain ⟨target, h⟩ := accepts_of_cluster_ne hstep hne
    obtain ⟨name', o', hlive', -, hupdate, -⟩ := h.patched h₀ hrun
    obtain ⟨o, hlive, hmarked⟩ := hdrain
    rcases eq_or_ne name name' with rfl | hname
    · obtain rfl : o = target.choice.candidate.object := Option.some.inj (hlive.symm.trans hlive')
      exact absurd hmarked target.choice.label_drainLabel
    · rw [hupdate, Function.update_of_ne hname]

/-- A marked Pod without a label does not get it while the marker is held. -/
lemma label_of_drainHeld {w₀ w w' : World ext config} {acts post : List Action} (h₀ : w₀.Initial)
    (hrun : Run.run step w₀ acts = some w) {name key : String}
    (hlabel : ∀ o, w.cluster.live name = some o → o.metadata.label key = none)
    (hheld : Run.Along step (DrainHeld name key) w post)
    (hpost : Run.run step w post = some w') :
    ∀ o, w'.cluster.live name = some o → o.metadata.label key = none := by
  refine Run.run_induction_along
    (P := fun _ w => ∀ o, w.cluster.live name = some o → o.metadata.label key = none)
    hlabel ?_ hheld hpost
  rintro as u action v hu - hlabel ⟨hmarked, hwrite⟩ hstep o hlive
  cases action with
  | task q event =>
      rw [live_of_drainMarked h₀ (Run.run_trans hrun hu) hstep hmarked] at hlive
      exact hlabel o hlive
  | write name' o' =>
      obtain ⟨hkey, hfresh, rfl⟩ := step_write hstep
      rcases eq_or_ne name name' with rfl | hname
      · obtain rfl : o' = o := by simpa using hlive
        exact hwrite o' rfl
      · exact hlabel o (by simpa [hname] using hlive)
  | delete name' =>
      obtain rfl := Option.some.inj hstep
      rcases eq_or_ne name name' with rfl | hname
      · simp at hlive
      · exact hlabel o (by simpa [hname] using hlive)
  | tick d nanos =>
      obtain rfl := Option.some.inj hstep
      exact hlabel o hlive
  | dataPlane d sessions =>
      obtain rfl := Option.some.inj hstep
      exact hlabel o hlive

/-- **Drain and assignment exclude each other**: a patch changes the Pod that the query has
chosen and no other, and is accepted only while the stored Pod is undrained and ready; hence a
Pod that is marked and shows no label for a character gets none from a director while the marker
is set. -/
theorem drain_excludes_assignment {w₀ w : World ext config} {acts : List Action}
    (h₀ : w₀.Initial) (hrun : Run.run step w₀ acts = some w) :
    (∀ q target w', Accepts w q target w' →
      ∃ name o' status, target.choice.candidate.pod.metadata.name = some name
        ∧ w.cluster.live name = some target.choice.candidate.object
        ∧ w'.cluster.live = Function.update w.cluster.live name (some o')
        ∧ Patched target.key "Allocated" target.choice.candidate.object o'
        ∧ target.choice.candidate.object.metadata.label drainLabel ≠ some "true"
        ∧ target.choice.candidate.object.metadata.deletionTimestamp = none
        ∧ ext.decodeStatus target.choice.candidate.object.data = some (some status)
        ∧ status.phase = some "Running" ∧ status.podIp.isSome = true
        ∧ ∃ c ∈ status.conditions.getD [], c.type_ = "Ready" ∧ c.status = "True")
      ∧ ∀ name id post w', (∀ o, w.cluster.live name = some o →
            o.metadata.label (config.characterKey id) = none) →
          Run.Along step (DrainHeld name (config.characterKey id)) w post →
          Run.run step w post = some w' →
          ∀ o, w'.cluster.live name = some o →
            o.metadata.label (config.characterKey id) = none := by
  refine ⟨?_, fun name id post w' hlabel hheld hpost =>
    label_of_drainHeld h₀ hrun hlabel hheld hpost⟩
  intro q target w' h
  obtain ⟨name, o', hlive, hpatched, hupdate, -⟩ := h.patched h₀ hrun
  have hready := target.choice.candidate.ready
  have hmeta := Externals.metadata_podOf target.choice.candidate.decoded
  have hname : target.choice.candidate.pod.metadata.name = some name := by
    rw [hmeta]
    exact w.cluster.key_live name _ hlive
  have hpod := target.choice.candidate.decoded
  rw [Externals.podOf, Option.map_eq_some_iff] at hpod
  obtain ⟨status, hdecode, hstatus⟩ := hpod
  rw [podReady, Bool.and_eq_true, hmeta, ← hstatus, Option.isNone_iff_eq_none] at hready
  obtain ⟨hdeletion, hready⟩ := hready
  cases status with
  | none => simp at hready
  | some status =>
      simp only [Option.any_some, Bool.and_eq_true, List.any_eq_true, beq_iff_eq] at hready
      obtain ⟨⟨hphase, hip⟩, c, hc, htype, htrue⟩ := hready
      exact ⟨name, o', status, hname, hlive, hupdate, hpatched, target.choice.label_drainLabel,
        hdeletion, hdecode, hphase, hip, c, hc, htype, htrue⟩

/-- The late case: the controller marks the Pod between the snapshot of a query
and its patch, which is refused, so the Pod stays without the label. -/
theorem drain_excludes_assignment_sample :
    ∃ w w' : World Sample.decoders Sample.settings,
      Run.run step Sample.beforePatch [.write "game-0" (Sample.drainingPod "10.0.0.1")] = some w
      ∧ Run.run step w [.task 0 (.patch (some "3"))] = some w'
      ∧ ∀ o, w'.cluster.live "game-0" = some o →
        o.metadata.label (Sample.settings.characterKey "ayla") = none := by
  have hwrite := Sample.run_reach Sample.beforePatch
    [.write "game-0" (Sample.drainingPod "10.0.0.1")] (by decide)
  have hpatch := Sample.run_reach
    (Sample.reach Sample.beforePatch [.write "game-0" (Sample.drainingPod "10.0.0.1")] (by decide))
    [.task 0 (.patch (some "3"))] (by decide)
  have hrun := Run.run_trans Sample.run_beforePatch hwrite
  refine ⟨_, _, hwrite, hpatch,
    (drain_excludes_assignment (Sample.initial_world "10.0.0.1") hrun).2 "game-0" "ayla" _ _
      ?_ ?_ hpatch⟩
  · intro o hlive
    obtain rfl : Sample.drainingPod "10.0.0.1" = o := Option.some.inj hlive
    decide
  · exact ⟨⟨⟨Sample.drainingPod "10.0.0.1", rfl, by decide⟩, by simp⟩, fun _ _ => trivial⟩

end UdpDirector
