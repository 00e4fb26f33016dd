import UdpDirector.Access.Discipline
import UdpDirector.Access.Safety

/-!
One seat for each character of a map, when one director assigns alone.

* `Eligible`, `Shows`, `Seated`: a Pod a query may choose, a character it
  shows, and the stored Pods that show a character and could be chosen;
* `OneSeat`: no character is seated on two Pods;
* `Current`: what the holder of the lock decided is still so, because nobody
  else may write; `Kept` adds that there is one seat at the time of the last
  decision, and is what a step preserves;
* `one_seat`: one seat in every state, and a character that had one keeps it.
-/

namespace UdpDirector

variable {ext : Externals} {config : Config}

/-! ### Seats -/

variable (ext config) in
/-- A Pod that a query for the map may choose. -/
structure Eligible (map : String) (o : DynamicObject) (pod : Pod) : Prop where
  labels : matchesLabels (config.selector map) o = true
  selected : Selected config.defaultEndpoint.statusQuery
    config.defaultEndpoint.annotationSelector o
  decoded : ext.podOf o = some pod
  ready : podReady pod = true
  undrained : podDraining pod = false

variable (ext config) in
/-- The Pod shows a character at a time. -/
def Shows (pod : Pod) (now : OffsetDateTime) (id : String) : Prop :=
  ∃ cs, charactersOnPod ext pod config [] now = .ok cs ∧ visible cs id = true

lemma Shows.earlier {pod : Pod} {now later : OffsetDateTime} {id : String}
    (hfuture : NoFutureDisconnect ext config pod now) (hle : now ≤ later)
    (h : Shows ext config pod later id) : Shows ext config pod now id := by
  obtain ⟨cs, hcs, hvis⟩ := h
  obtain ⟨cs', hcs'⟩ := exists_charactersOnPod_of_later hfuture hle hcs
  obtain ⟨cs'', hcs'', -, hsub⟩ := charactersOnPod_later hfuture hle hcs'
  obtain rfl : cs'' = cs := Except.ok.inj (hcs''.symm.trans hcs)
  exact ⟨cs', hcs', hsub id hvis⟩

section

variable (ext config) (c : Cluster) (map : String)

/-- The stored Pod may be chosen and shows a character. -/
def Seated (now : OffsetDateTime) (id name : String) : Prop :=
  ∃ o pod, c.live name = some o ∧ Eligible ext config map o pod ∧ Shows ext config pod now id

/-- No character is seated on two Pods. -/
def OneSeat (now : OffsetDateTime) : Prop :=
  ∀ id name name', Seated ext config c map now id name → Seated ext config c map now id name' →
    name = name'

/-- No disconnect time of a stored Pod lies after a time. -/
def NoFuture (now : OffsetDateTime) : Prop :=
  ∀ name o pod, c.live name = some o → ext.podOf o = some pod →
    NoFutureDisconnect ext config pod now

end

section

variable {c : Cluster} {map : String} {now later : OffsetDateTime}

lemma NoFuture.mono (h : NoFuture ext config c now) (hle : now ≤ later) :
    NoFuture ext config c later :=
  fun name o pod hlive hpod id raw at_ hraw hat =>
    le_trans (h name o pod hlive hpod id raw at_ hraw hat) hle

lemma Seated.earlier {id name : String} (h : Seated ext config c map later id name)
    (hfuture : NoFuture ext config c now) (hle : now ≤ later) :
    Seated ext config c map now id name := by
  obtain ⟨o, pod, hlive, heligible, hshows⟩ := h
  exact ⟨o, pod, hlive, heligible,
    hshows.earlier (hfuture name o pod hlive heligible.decoded) hle⟩

/-- One seat now is one seat later. -/
lemma OneSeat.mono (h : OneSeat ext config c map now) (hfuture : NoFuture ext config c now)
    (hle : now ≤ later) : OneSeat ext config c map later :=
  fun id name name' hseat hseat' =>
    h id name name' (hseat.earlier hfuture hle) (hseat'.earlier hfuture hle)

end

/-! ### A choice that is still up to date -/

/-- The choice was made on a stored Pod that may still be chosen, and one that
shows the character if any such Pod does. -/
structure Choice.UpToDate (c : Cluster) (map : String) (choice : Choice ext config) : Prop where
  live : ∃ name, c.live name = some choice.candidate.object
  eligible : Eligible ext config map choice.candidate.object choice.candidate.pod
  hosts : ∀ name, Seated ext config c map choice.now choice.character name →
    visible choice.candidate.characters choice.character = true

/-- What the holder of the lock has seen is still what is stored. -/
def Current (c : Cluster) (map : String) (τ : OffsetDateTime) : Phase ext config → Prop
  | .running a (.deciding resources _) => a.character.isSome = true →
      ∀ o, o ∈ resources ↔ (∃ name, c.live name = some o)
        ∧ matchesLabels (config.selector map) o = true
        ∧ Selected config.defaultEndpoint.statusQuery config.defaultEndpoint.annotationSelector o
  | .running _ (.extracting choice) => choice.UpToDate c map ∧ choice.now = τ
  | .running _ (.allocating target) => target.choice.UpToDate c map ∧ target.choice.now = τ
  | _ => True

/-- Without the lock there is nothing to keep up to date. -/
lemma current_of_not_holds {c : Cluster} {map : String} {τ : OffsetDateTime}
    {request : QueryRequest} {p : Phase ext config} (hfits : p.Fits request)
    (h : p.holds = false) : Current c map τ p := by
  unfold Current
  split
  · intro hsome
    simp [Phase.holds, hsome, Stage.locked] at h
  · have hsome := hfits.isSome rfl
    simp [Phase.holds, hsome, Stage.locked] at h
  · have hsome := hfits.isSome rfl
    simp [Phase.holds, hsome, Stage.locked] at h
  · trivial

lemma Phase.Refused.current {c : Cluster} {map : String} {τ : OffsetDateTime}
    {p : Phase ext config} (h : p.Refused) : Current c map τ p := by
  cases h <;> trivial

/-- A decision on what is stored is up to date. -/
lemma Choice.upToDate_of_decision {c : Cluster} {map : String} {a : Access}
    {resources : List DynamicObject} {now : OffsetDateTime} {choice : Choice ext config}
    (hstored : ∀ o, o ∈ resources ↔ (∃ name, c.live name = some o)
      ∧ matchesLabels (config.selector map) o = true
      ∧ Selected config.defaultEndpoint.statusQuery config.defaultEndpoint.annotationSelector o)
    (hd : decision ext config a resources now = .ok (.assign choice)) :
    choice.UpToDate c map := by
  obtain ⟨hchar, rfl, hmem, hhosts⟩ := decision_eq_assign hd
  obtain ⟨hlive, hlabels, hselected⟩ := (hstored _).mp hmem
  exact
    { live := hlive
      eligible :=
        { labels := hlabels
          selected := hselected
          decoded := choice.candidate.decoded
          ready := choice.candidate.ready
          undrained := choice.undrained }
      hosts := by
        rintro name ⟨o, pod, hlive', heligible, cs, hcs, hvis⟩
        have ho := (hstored o).mpr ⟨⟨name, hlive'⟩, heligible.labels, heligible.selected⟩
        exact hhosts o ho pod cs heligible.decoded heligible.ready heligible.undrained hcs hvis }

/-! ### The patch keeps one seat -/

section

variable {c c' : Cluster} {map name : String} {target : Target ext config}
  {o' : DynamicObject}

/-- **Who is seated after a patch**: whoever was, and the character on the Pod of
its choice. -/
lemma seated_of_patched (huptodate : target.choice.UpToDate c map)
    (hlive : c.live name = some target.choice.candidate.object)
    (hpatched : Patched target.key "Allocated" target.choice.candidate.object o')
    (hupdate : c'.live = Function.update c.live name (some o'))
    {id name' : String} (h : Seated ext config c' map target.choice.now id name') :
    (name' = name ∧ id = target.choice.character)
      ∨ Seated ext config c map target.choice.now id name' := by
  obtain ⟨o, pod, hlive', heligible, cs', hcs', hvis⟩ := h
  rw [hupdate] at hlive'
  rcases eq_or_ne name' name with rfl | hname
  · rw [Function.update_self] at hlive'
    obtain rfl := Option.some.inj hlive'
    obtain ⟨cs'', hcs'', -, hvisible⟩ := hpatched.charactersOnPod target.choice.valid
      target.choice.candidate.decoded heligible.decoded target.choice.candidate.shown
    obtain rfl : cs'' = cs' := Except.ok.inj (hcs''.symm.trans hcs')
    rw [hvisible, Bool.or_eq_true, decide_eq_true_iff] at hvis
    rcases hvis with rfl | hvis
    · exact .inl ⟨rfl, rfl⟩
    · exact .inr ⟨_, _, hlive, huptodate.eligible, _, target.choice.candidate.shown, hvis⟩
  · rw [Function.update_of_ne hname] at hlive'
    exact .inr ⟨o, pod, hlive', heligible, cs', hcs', hvis⟩

/-- **The patch keeps one seat**: where the character had a seat, it is the one
the patch renews. -/
lemma oneSeat_of_patched (huptodate : target.choice.UpToDate c map)
    (hseats : OneSeat ext config c map target.choice.now)
    (hlive : c.live name = some target.choice.candidate.object)
    (hpatched : Patched target.key "Allocated" target.choice.candidate.object o')
    (hupdate : c'.live = Function.update c.live name (some o')) :
    OneSeat ext config c' map target.choice.now := by
  have hnew : ∀ name', Seated ext config c map target.choice.now target.choice.character name' →
      name' = name := by
    intro name' hseat
    have hseat' : Seated ext config c map target.choice.now target.choice.character name :=
      ⟨_, _, hlive, huptodate.eligible, _, target.choice.candidate.shown,
        huptodate.hosts name' hseat⟩
    exact hseats _ _ _ hseat hseat'
  intro id name₁ name₂ h₁ h₂
  rcases seated_of_patched huptodate hlive hpatched hupdate h₁ with ⟨rfl, rfl⟩ | h₁
  · rcases seated_of_patched huptodate hlive hpatched hupdate h₂ with ⟨rfl, -⟩ | h₂
    · rfl
    · exact (hnew name₂ h₂).symm
  · rcases seated_of_patched huptodate hlive hpatched hupdate h₂ with ⟨rfl, rfl⟩ | h₂
    · exact hnew name₁ h₁
    · exact hseats id name₁ name₂ h₁ h₂

/-- A patch of labels moves no disconnect time. -/
lemma noFuture_of_patched {key value : String} {o : DynamicObject} {pod : Pod} {τ : OffsetDateTime}
    (hfuture : NoFuture ext config c τ) (hlive : c.live name = some o)
    (hpod : ext.podOf o = some pod) (hpatched : Patched key value o o')
    (hupdate : c'.live = Function.update c.live name (some o')) :
    NoFuture ext config c' τ := by
  intro name' o'' pod' hlive' hpod'
  rw [hupdate] at hlive'
  rcases eq_or_ne name' name with rfl | hname
  · rw [Function.update_self] at hlive'
    obtain rfl := Option.some.inj hlive'
    have htimes : disconnectTimes ext pod' config = disconnectTimes ext pod config := by
      rw [disconnectTimes, disconnectTimes, Externals.metadata_podOf hpod',
        Externals.metadata_podOf hpod, hpatched.annotations]
    intro id raw at_ hraw hat
    rw [htimes] at hraw
    exact hfuture name' o pod hlive hpod id raw at_ hraw hat
  · rw [Function.update_of_ne hname] at hlive'
    exact hfuture name' o'' pod' hlive' hpod'

end

/-! ### One director alone -/

/-- The steps of one director without other writers: its lists are linearizable,
and nobody else touches a Pod. -/
structure Undisturbed (w : World ext config) (action : Action) : Prop where
  linearizable : Linearizable w action
  write : ∀ name o, action ≠ .write name o
  delete : ∀ name, action ≠ .delete name

/-- One director assigns all the characters of one map. -/
structure World.Sole (w : World ext config) (d : ℕ) (map : String) : Prop where
  director : ∀ q, (w.tasks q).director = d
  map : ∀ q m id friends, (w.tasks q).request = .query m id friends → m = map

/-- What a step preserves: one seat at the time of the last decision, and a
holder of the lock that is up to date. -/
structure Kept (w : World ext config) (map : String) (τ : OffsetDateTime) : Prop where
  seats : OneSeat ext config w.cluster map τ
  past : NoFuture ext config w.cluster τ
  current : ∀ q, Current w.cluster map τ (w.tasks q).phase

/-- The selector of a query that joins a character. -/
lemma World.Sole.labels {w : World ext config} {d : ℕ} {map : String} (h : w.Sole d map)
    {q : TaskId} {a : Access} {stage : Stage ext config}
    (hfits : (Phase.running a stage).Fits (w.tasks q).request)
    (hsome : a.character.isSome = true) : a.labels = config.selector map := by
  rw [hfits.1.2]
  rw [hfits.1.1] at hsome
  generalize hrequest : (w.tasks q).request = request at hsome ⊢
  cases request with
  | characterList m ids => simp [QueryRequest.character] at hsome
  | query m id friends =>
      obtain rfl := h.map q m id friends hrequest
      rfl

lemma World.Sole.step {w w' : World ext config} {d : ℕ} {map : String} (h : w.Sole d map)
    {action : Action} (hstep : step w action = some w') : w'.Sole d map where
  director q := (task_of_step hstep q).1.trans (h.director q)
  map q m id friends hrequest :=
    h.map q m id friends ((task_of_step hstep q).2.1.symm.trans hrequest)

/-! ### Steps keep one seat -/

namespace Kept

variable {w : World ext config} {d : ℕ} {map : String} {τ : OffsetDateTime} {q : TaskId}
  {p : Phase ext config} {eff : Effect}

/-- A move that changes no Pod and decides nothing. -/
lemma keep (h : Kept w map τ) (hcluster : eff.clusterAfter w.cluster = w.cluster)
    (hp : Current w.cluster map τ p) : Kept (w.move q p eff) map τ where
  seats := by
    rw [World.cluster_move, hcluster]
    exact h.seats
  past := by
    rw [World.cluster_move, hcluster]
    exact h.past
  current q' := by
    rw [World.cluster_move, hcluster]
    rcases eq_or_ne q' q with rfl | hne
    · rw [World.phase_move]
      exact hp
    · rw [w.tasks_move_of_ne q p eff hne]
      exact h.current q'

/-- While a request holds the lock, nobody else has anything to keep up to date. -/
lemma current_of_others (hw : w.Disciplined) (hS : w.Sole d map)
    (hq : (w.tasks q).phase.holds = true) {q' : TaskId} (hne : q' ≠ q) (c : Cluster)
    (τ : OffsetDateTime) : Current c map τ (w.tasks q').phase := by
  refine current_of_not_holds (hw.fits q') ?_
  rw [Bool.eq_false_iff]
  exact fun hq' => hne (hw.eq_of_holds ((hS.director q').trans (hS.director q).symm) hq hq')

/-- **A step of a request keeps one seat**, at the time of its decision if it
makes one. -/
lemma step_task {w₀ w' : World ext config} {acts : List Action} (h₀ : w₀.Initial)
    (hrun : Run.run step w₀ acts = some w) (h : Kept w map τ) (hS : w.Sole d map)
    {event : Event} (hstep : step w (.task q event) = some w')
    (hlin : Linearizable w (.task q event)) (htime : ∀ now, event = .decide now → τ ≤ now) :
    ∃ τ', (τ' = τ ∨ event = .decide τ') ∧ Kept w' map τ' := by
  have hw := disciplined_of_run h₀ hrun
  obtain ⟨p', eff, hmoves, rfl⟩ := exists_moves_of_step hstep
  have hfits := hw.fits q
  have hcurrent := h.current q
  generalize hphase : (w.tasks q).phase = phase at hmoves hfits hcurrent
  cases hmoves with
  | reject hp => exact ⟨τ, .inl rfl, h.keep rfl hp.current⟩
  | refuse hstage hp => exact ⟨τ, .inl rfl, h.keep rfl hp.current⟩
  | list hstage hr =>
      refine ⟨τ, .inl rfl, h.keep rfl fun hsome o => ?_⟩
      rw [mem_filterSnapshot hr, hlin _ _ hphase o, hS.labels hfits hsome, and_assoc]
  | assign hd =>
      rename_i a resources version now choice
      have hsome : a.character.isSome = true := by rw [(decision_eq_assign hd).1]; rfl
      have hholds : (w.tasks q).phase.holds = true := by
        rw [hphase]
        simp [Phase.holds, hsome, Stage.locked]
      have hle := htime now rfl
      refine ⟨now, .inr rfl, ?_⟩
      exact
        { seats := by
            rw [World.cluster_move]
            exact h.seats.mono h.past hle
          past := by
            rw [World.cluster_move]
            exact h.past.mono hle
          current := by
            intro q'
            rcases eq_or_ne q' q with rfl | hne
            · rw [World.phase_move, World.cluster_move]
              exact ⟨Choice.upToDate_of_decision (hcurrent hsome) hd,
                (decision_eq_assign hd).2.1⟩
            · rw [w.tasks_move_of_ne q _ _ hne]
              exact current_of_others hw hS hholds hne _ _ }
  | allocate hr hc =>
      obtain ⟨rfl, -⟩ := resolve_eq_ok hr
      exact ⟨τ, .inl rfl, h.keep rfl hcurrent⟩
  | patch hr hp =>
      obtain ⟨huptodate, rfl⟩ := hcurrent
      have hsome := hfits.isSome rfl
      have hholds : (w.tasks q).phase.holds = true := by
        rw [hphase]
        simp [Phase.holds, hsome, Stage.locked]
      obtain ⟨name, o', hlive, hpatched, hupdate, -⟩ := Accepts.patched h₀ hrun
        (accepts_of_step hphase hstep (by rw [World.phase_move]; rfl))
      refine ⟨_, .inl rfl, ?_⟩
      exact
        { seats := oneSeat_of_patched huptodate h.seats hlive hpatched hupdate
          past := noFuture_of_patched h.past hlive huptodate.eligible.decoded hpatched hupdate
          current := by
            intro q'
            rcases eq_or_ne q' q with rfl | hne
            · rw [World.phase_move]
              trivial
            · rw [w.tasks_move_of_ne q _ _ hne]
              exact current_of_others hw hS hholds hne _ _ }
  | _ => exact ⟨τ, .inl rfl, h.keep rfl trivial⟩

end Kept

/-- The time a step decides at. -/
def Action.decideTime : Action → Option OffsetDateTime
  | .task _ (.decide now) => some now
  | _ => none

/-- **One seat along every run** of a director alone: at the time of its last
decision, or at the beginning. -/
theorem kept_of_run {w₀ w : World ext config} {acts : List Action} {d : ℕ} {map : String}
    {t₀ : OffsetDateTime} (h₀ : w₀.Initial) (hS : w₀.Sole d map)
    (hfuture : NoFuture ext config w₀.cluster t₀) (hseats : OneSeat ext config w₀.cluster map t₀)
    (halone : Run.Along step Undisturbed w₀ acts)
    (hclock : (t₀ :: acts.filterMap Action.decideTime).Pairwise (· ≤ ·))
    (hrun : Run.run step w₀ acts = some w) :
    w.Sole d map ∧ ∃ τ ∈ t₀ :: acts.filterMap Action.decideTime, Kept w map τ := by
  revert hclock
  refine Run.run_induction_along
    (P := fun as w => (t₀ :: as.filterMap Action.decideTime).Pairwise (· ≤ ·) →
      w.Sole d map ∧ ∃ τ ∈ t₀ :: as.filterMap Action.decideTime, Kept w map τ)
    ?_ ?_ halone hrun
  · refine fun _ => ⟨hS, t₀, List.mem_cons_self, hseats, hfuture, fun q => ?_⟩
    rw [h₀.entry q]
    trivial
  · intro as u action v hu _ ih halone hstep hclock
    rw [List.filterMap_append, ← List.cons_append, List.pairwise_append] at hclock
    obtain ⟨hS, τ, hτ, hkept⟩ := ih hclock.1
    refine ⟨hS.step hstep, ?_⟩
    rw [List.filterMap_append, ← List.cons_append]
    cases action with
    | task q event =>
        have htime : ∀ now, event = .decide now → τ ≤ now := by
          rintro now rfl
          exact hclock.2.2 τ hτ now (by simp [Action.decideTime])
        obtain ⟨τ', hor, hkept'⟩ := hkept.step_task h₀ hu hS hstep halone.linearizable htime
        refine ⟨τ', ?_, hkept'⟩
        rcases hor with rfl | rfl
        · exact List.mem_append_left _ hτ
        · exact List.mem_append_right _ (by simp [Action.decideTime])
    | write name o => exact absurd rfl (halone.write name o)
    | delete name => exact absurd rfl (halone.delete name)
    | tick d' nanos =>
        obtain rfl := Option.some.inj hstep
        exact ⟨τ, List.mem_append_left _ hτ, hkept.seats, hkept.past, hkept.current⟩
    | dataPlane d' sessions =>
        obtain rfl := Option.some.inj hstep
        exact ⟨τ, List.mem_append_left _ hτ, hkept.seats, hkept.past, hkept.current⟩

/-! ### A success names the chosen Pod -/

/-- Past a decision the request keeps its choice. -/
def Phase.Follows (choice : Choice ext config) : Phase ext config → Prop
  | .running _ (.extracting choice') => choice' = choice
  | .running _ (.allocating target) | .running _ (.clearing target)
  | .running _ (.installing target) => target.choice = choice
  | .done (.ok (.success _ server _)) => choice.candidate.pod.metadata.uid = some server
  | .running _ _ | .entry => False
  | _ => True

lemma Phase.Refused.follows {choice : Choice ext config} {p : Phase ext config}
    (h : p.Refused) : p.Follows choice := by
  cases h <;> trivial

lemma Moves.follows {w : World ext config} {q : TaskId} {p p' : Phase ext config} {event : Event}
    {eff : Effect} {choice : Choice ext config} (h : Moves w q p event p' eff)
    (hfollows : p.Follows choice) : p'.Follows choice := by
  cases h with
  | reject hp => exact hp.follows
  | refuse hstage hp => exact hp.follows
  | list hstage hr => rcases hstage with rfl | rfl <;> exact hfollows.elim
  | connected hr hc =>
      obtain ⟨hchoice, -⟩ := resolve_eq_ok hr
      exact hchoice.trans hfollows
  | allocate hr hc =>
      obtain ⟨hchoice, -⟩ := resolve_eq_ok hr
      exact hchoice.trans hfollows
  | patch hr hp => exact hfollows
  | clear => exact hfollows
  | install =>
      rename_i target
      obtain rfl : target.choice = choice := hfollows
      exact target.uid_eq
  | _ => exact hfollows.elim

/-- A request that succeeds names the Pod it chose. -/
lemma uid_of_success {w w' : World ext config} {q : TaskId} {acts : List Action}
    {choice : Choice ext config} (hfollows : (w.tasks q).phase.Follows choice)
    (hrun : Run.run step w acts = some w') {status server : String} {ports : Table String UInt16}
    (hdone : (w'.tasks q).phase = .done (.ok (.success status server ports))) :
    choice.candidate.pod.metadata.uid = some server := by
  have h : (w'.tasks q).phase.Follows choice := by
    refine Run.run_invariant (I := fun w : World ext config => (w.tasks q).phase.Follows choice)
      ?_ hfollows hrun
    intro u action v hu hstep
    obtain ⟨event, p', eff, rfl, hmoves, rfl⟩ | ⟨-, htask⟩ := moves_or_others hstep q
    · rw [World.phase_move]
      exact hmoves.follows hu
    · rw [htask]
      exact hu
  rw [hdone] at h
  exact h

/-! ### A repeated query -/

namespace Sample

/-- The Pod `game-0` once `ayla` has a seat on it. -/
def seatedPod : DynamicObject :=
  (pod "game-0" "uid-0" "10.0.0.1").patched (settings.characterKey "ayla") "Allocated" "2"

/-- The queries of the one Pod where it has the seat already. -/
def seatedWorld : World decoders settings :=
  { world "10.0.0.1" with
    cluster := VersionedStore.empty.put "game-0" seatedPod rfl (VersionedStore.fresh_empty _ _) }

lemma initial_seatedWorld : seatedWorld.Initial where
  entry := fun _ => rfl
  flight := fun _ => rfl
  unlocked := fun _ => rfl
  demand := fun _ => rfl

/-- A query up to its decision. -/
def untilDecision (q : TaskId) : List Action :=
  [.start, .acquire, .list (some ([0], "1"))].map (.task q)

/-- The query of the seated character about to decide. -/
def beforeDecision : World decoders settings :=
  reach seatedWorld (untilDecision 0) (by decide)

/-- The query once it is answered. -/
def answeredAgain : World decoders settings :=
  reach seatedWorld toAnswer (by decide)

lemma linearizable_toAnswer : Run.Along step Linearizable seatedWorld toAnswer :=
  linearizable_of_listsStored (by decide +kernel)

lemma sole_seatedWorld : seatedWorld.Sole 0 "arena" where
  director := fun _ => rfl
  map := fun _ _ _ _ hrequest => (QueryRequest.query.inj hrequest).1.symm

lemma noFuture_seatedWorld : NoFuture decoders settings seatedWorld.cluster ⟨0, 0⟩ :=
  fun _ _ _ _ _ _ _ _ _ hat => absurd hat (by simp [decoders])

lemma oneSeat_seatedWorld : OneSeat decoders settings seatedWorld.cluster "arena" ⟨0, 0⟩ := by
  rintro id name name' ⟨o, -, hlive, -⟩ ⟨o', -, hlive', -⟩
  exact (eq_of_live hlive).1.trans (eq_of_live hlive').1.symm

lemma eligible_seatedPod :
    Eligible decoders settings "arena" seatedPod ((decoders.podOf seatedPod).get (by decide)) where
  labels := by decide
  selected := by trivial
  decoded := (Option.some_get _).symm
  ready := by decide
  undrained := by decide

lemma shows_seatedPod :
    Shows decoders settings ((decoders.podOf seatedPod).get (by decide)) ⟨0, 0⟩ "ayla" :=
  ⟨_, rfl, by decide⟩

end Sample

/-! ### One seat, and it is kept -/

/-- A decision on what is stored, for a character that is seated, seats it there
again. -/
lemma eq_of_decision {c : Cluster} {map : String} {a : Access} {resources : List DynamicObject}
    {now : OffsetDateTime} {choice : Choice ext config}
    (hstored : ∀ o, o ∈ resources ↔ (∃ name, c.live name = some o)
      ∧ matchesLabels (config.selector map) o = true
      ∧ Selected config.defaultEndpoint.statusQuery config.defaultEndpoint.annotationSelector o)
    (hd : decision ext config a resources now = .ok (.assign choice))
    (hseats : OneSeat ext config c map now) {o : DynamicObject} {pod : Pod}
    (ho : o ∈ resources) (heligible : Eligible ext config map o pod)
    (hshows : Shows ext config pod now choice.character) : choice.candidate.object = o := by
  have huptodate := Choice.upToDate_of_decision hstored hd
  obtain ⟨-, rfl, -, -⟩ := decision_eq_assign hd
  obtain ⟨⟨name, hlive⟩, -⟩ := (hstored o).mp ho
  obtain ⟨name', hlive'⟩ := huptodate.live
  have hseat : Seated ext config c map choice.now choice.character name :=
    ⟨o, pod, hlive, heligible, hshows⟩
  have hseat' : Seated ext config c map choice.now choice.character name' :=
    ⟨_, _, hlive', huptodate.eligible, _, choice.candidate.shown, huptodate.hosts name hseat⟩
  obtain rfl := hseats _ _ _ hseat hseat'
  exact Option.some.inj (hlive'.symm.trans hlive)

/-- **One assignment for each character, and repeats are sticky**: with one
director, linearizable lists, a clock that never goes back, no other writer and
no disconnect time in the future, no state has a character on two eligible Pods
if the first one has none; and a query that decides on a snapshot with its
character on an eligible Pod succeeds with that Pod or not at all. -/
theorem one_seat {w₀ w : World ext config} {acts : List Action} {d : ℕ} {map : String}
    {t₀ : OffsetDateTime} (h₀ : w₀.Initial) (hS : w₀.Sole d map)
    (hfuture : NoFuture ext config w₀.cluster t₀) (hseats : OneSeat ext config w₀.cluster map t₀)
    (halone : Run.Along step Undisturbed w₀ acts)
    (hclock : (t₀ :: acts.filterMap Action.decideTime).Pairwise (· ≤ ·))
    (hrun : Run.run step w₀ acts = some w) :
    (∀ now, (∀ t ∈ t₀ :: acts.filterMap Action.decideTime, t ≤ now) →
        OneSeat ext config w.cluster map now)
      ∧ ∀ pre q now post u a resources version id o pod, acts = pre ++ .task q (.decide now) :: post →
          Run.run step w₀ pre = some u →
          (u.tasks q).phase = .running a (.deciding resources version) → a.character = some id →
          o ∈ resources → Eligible ext config map o pod → Shows ext config pod now id →
          ∀ status server ports, (w.tasks q).phase = .done (.ok (.success status server ports)) →
            pod.metadata.uid = some server := by
  constructor
  · intro now hnow
    obtain ⟨-, τ, hτ, hkept⟩ := kept_of_run h₀ hS hfuture hseats halone hclock hrun
    exact hkept.seats.mono hkept.past (hnow τ hτ)
  · rintro pre q now post u a resources version id o pod rfl hu hphase hid ho heligible hshows
      status server ports hdone
    -- one seat, and an up-to-date snapshot, where the query decides
    rw [List.filterMap_append, ← List.cons_append, List.pairwise_append] at hclock
    obtain ⟨-, τ, hτ, hkept⟩ := kept_of_run h₀ hS hfuture hseats halone.init hclock.1 hu
    have hseats : OneSeat ext config u.cluster map now :=
      hkept.seats.mono hkept.past (hclock.2.2 τ hτ now (by simp [Action.decideTime]))
    have hstored := hkept.current q
    rw [hphase] at hstored
    replace hstored := hstored (by rw [hid]; rfl)
    rw [Run.run_append, hu, Option.bind_some, Run.run_cons, Option.bind_eq_some_iff] at hrun
    obtain ⟨u', hstep, hpost⟩ := hrun
    obtain ⟨p', eff, hmoves, rfl⟩ := exists_moves_of_step hstep
    rw [hphase] at hmoves
    obtain ⟨cs, hcs, hvis⟩ := hshows
    cases hmoves with
    | reply hd => simp [(decision_eq_reply hd).1] at hid
    | wait hd hdc =>
        obtain ⟨character, hchar, hnone⟩ := decision_eq_cold hd
        obtain rfl : id = character := Option.some.inj (hid.symm.trans hchar)
        have hvis' := hnone o ho pod cs heligible.decoded heligible.ready heligible.undrained hcs
        simp [hvis] at hvis'
    | refuse hstage hp =>
        have hphase' := phase_of_ended (q := q) (by rw [World.phase_move]; exact hp.ended) hpost
        rw [World.phase_move, hdone] at hphase'
        subst hphase'
        cases hp
    | assign hd =>
        rename_i choice
        obtain rfl : id = choice.character :=
          Option.some.inj (hid.symm.trans (decision_eq_assign hd).1)
        have hobject := eq_of_decision hstored hd hseats ho heligible ⟨cs, hcs, hvis⟩
        have hpod : choice.candidate.pod = pod :=
          Option.some.inj (choice.candidate.decoded.symm.trans (hobject ▸ heligible.decoded))
        rw [← hpod]
        have hfollows : Phase.Follows choice (.running a (.extracting choice)) := rfl
        rw [← u.phase_move q (.running a (.extracting choice)) .none] at hfollows
        exact uid_of_success hfollows hpost hdone

/-- A repeated query is answered with the Pod its character is on. -/
theorem one_seat_sample :
    ∃ status ports,
      (Sample.answeredAgain.tasks 0).phase = .done (.ok (.success status "uid-0" ports)) := by
  obtain ⟨status, server, ports, hdone⟩ :=
    World.succeeded_iff.mp (by decide : Sample.answeredAgain.succeeded 0 = true)
  obtain ⟨a, hphase, hchar⟩ : ∃ a, (Sample.beforeDecision.tasks 0).phase
      = .running a (.deciding [Sample.seatedPod] "1") ∧ a.character = some "ayla" := ⟨_, rfl, rfl⟩
  have hserver := (one_seat Sample.initial_seatedWorld Sample.sole_seatedWorld
    Sample.noFuture_seatedWorld Sample.oneSeat_seatedWorld
    (Sample.linearizable_toAnswer.imp fun action haction w hlinearizable => ?_) (by decide)
    (Sample.run_reach _ Sample.toAnswer (by decide))).2 (Sample.untilDecision 0) 0 ⟨0, 0⟩ _ _ a _ _
      "ayla" _ _ rfl (Sample.run_reach _ _ (by decide)) hphase hchar List.mem_cons_self
      Sample.eligible_seatedPod Sample.shows_seatedPod _ _ _ hdone
  · obtain rfl : "uid-0" = server := Option.some.inj hserver
    exact ⟨status, ports, hdone⟩
  · obtain ⟨event, rfl⟩ := Sample.task_of_mem_toAnswer action haction
    exact ⟨hlinearizable, by simp, by simp⟩

end UdpDirector
