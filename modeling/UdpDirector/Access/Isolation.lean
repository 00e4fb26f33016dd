import UdpDirector.Access.Snapshots
import UdpDirector.Access.Discipline
import UdpDirector.Foundation.Refinement

/-!
What a part of the world can tell of the rest.

* `World.restrict`: some requests and some directors, with all others as if nothing had begun;
* `Separates`: the requests of a part are at its directors, and at its directors all others are
  lookups;
* `seenAs`: a step as a part sees it, its own steps and the writes that patches of other directors
  make;
* `restriction`: a run of the world is a run of its part;
* `directors_isolated`: so some directors cannot tell the others from other writers of the API;
* `lookups_invisible`: and nothing depends on the lookups.
-/

namespace UdpDirector

variable {ext : Externals} {config : Config}

namespace World

/-- Some requests and some directors of a world, with all others as if nothing had begun. -/
def restrict (own : TaskId → Bool) (home : ℕ → Bool) (w : World ext config) :
    World ext config where
  cluster := w.cluster
  directors d := if home d then w.directors d else {}
  tasks q := if own q then w.tasks q else { w.tasks q with phase := .entry, flight := none }

variable {own : TaskId → Bool} {home : ℕ → Bool} {w : World ext config} {q : TaskId}

lemma tasks_restrict_own (hown : own q = true) : (w.restrict own home).tasks q = w.tasks q :=
  if_pos hown

lemma director_restrict_own (hown : own q = true) (hhome : home (w.tasks q).director = true) :
    (w.restrict own home).director q = w.director q := by
  rw [director, tasks_restrict_own hown]
  exact if_pos hhome

/-- A change of a director of the part. -/
lemma restrict_updateDirector {d : ℕ} (hhome : home d = true) (f : Director → Director) :
    (w.updateDirector d f).restrict own home = (w.restrict own home).updateDirector d f := by
  simp only [restrict, updateDirector, mk.injEq, true_and, and_true]
  funext d'
  rcases eq_or_ne d' d with rfl | hne
  · simp [hhome]
  · simp [hne]

/-- A change of another director. -/
lemma restrict_updateDirector_of_not {d : ℕ} (hhome : home d = false)
    (f : Director → Director) :
    (w.updateDirector d f).restrict own home = w.restrict own home := by
  simp only [restrict, updateDirector, mk.injEq, true_and, and_true]
  funext d'
  rcases eq_or_ne d' d with rfl | hne
  · simp [hhome]
  · simp [hne]

/-- A change of a request of the part. -/
lemma restrict_updateTask (hown : own q = true) (f : Task ext config → Task ext config) :
    (w.updateTask q f).restrict own home = (w.restrict own home).updateTask q f := by
  simp only [restrict, updateTask, mk.injEq, true_and]
  funext r
  rcases eq_or_ne r q with rfl | hne
  · simp [hown]
  · simp [hne]

end World

section

variable {own : TaskId → Bool} {home : ℕ → Bool} {w : World ext config}

/-- Requests that have not begun are as if they had not. -/
lemma World.Initial.tasks_restrict (h : w.Initial) (q : TaskId) :
    (w.restrict own home).tasks q = w.tasks q := by
  rw [World.restrict]
  dsimp only
  split
  · rfl
  · rw [← h.entry q, ← h.flight q]

/-- Nothing has begun in a part of a world where nothing has. -/
lemma World.Initial.restrict (h : w.Initial) : (w.restrict own home).Initial where
  entry q := by
    rw [h.tasks_restrict]
    exact h.entry q
  flight q := by
    rw [h.tasks_restrict]
    exact h.flight q
  unlocked d := by
    cases hhome : home d with
    | true => simpa [World.restrict, hhome] using h.unlocked d
    | false => simp [World.restrict, hhome]
  demand d := by
    cases hhome : home d with
    | true => simpa [World.restrict, hhome] using h.demand d
    | false => simp [World.restrict, hhome]

end

/-! ### Steps of the part -/

section

variable {own : TaskId → Bool} {home : ℕ → Bool} {w w' v : World ext config} {q : TaskId}
  {event : Event} {p : Phase ext config} {eff : Effect}

/-- What a request does next is a matter of the request, its director and the cluster. -/
lemma advance_congr (htask : v.tasks q = w.tasks q) (hdirector : v.director q = w.director q)
    (hcluster : v.cluster = w.cluster) : advance v q event = advance w q event := by
  have hheld : v.heldFlight q = w.heldFlight q := by
    rw [World.heldFlight, World.heldFlight, htask, hdirector]
  have hdeadline : v.deadline q = w.deadline q := by
    rw [World.deadline, World.deadline, htask, hdirector]
  have hpolled : v.polled q = w.polled q := by
    funext id accepted
    rw [World.polled, World.polled, hdirector]
  simp only [advance, htask, hdirector, hcluster, hheld, hdeadline, hpolled]

/-- The effect of a request of the part is one on the part. -/
lemma restrict_perform (hown : own q = true) (hhome : home (w.tasks q).director = true) :
    (w.perform q eff).restrict own home = (w.restrict own home).perform q eff := by
  have htask : (w.restrict own home).tasks q = w.tasks q := World.tasks_restrict_own hown
  cases eff with
  | none | write => rfl
  | lock | unlock | sessions =>
      simp only [World.perform, htask]
      exact World.restrict_updateDirector hhome _
  | demand =>
      simp only [World.perform, htask]
      rw [World.restrict_updateTask hown, World.restrict_updateDirector hhome]

lemma restrict_enter (hown : own q = true) (hhome : home (w.tasks q).director = true) :
    (w.enter q p).restrict own home = (w.restrict own home).enter q p := by
  have htask : (w.restrict own home).tasks q = w.tasks q := World.tasks_restrict_own hown
  rw [World.enter, World.enter, htask]
  split
  · rw [World.restrict_updateTask hown, World.restrict_updateDirector hhome]
  · rw [World.restrict_updateTask hown]

/-- A request of the part changes the part alone. -/
lemma restrict_move (hown : own q = true) (hhome : home (w.tasks q).director = true) :
    (w.move q p eff).restrict own home = (w.restrict own home).move q p eff := by
  have hdirector : ((w.perform q eff).tasks q).director = (w.tasks q).director := by
    cases eff <;> simp [World.perform, World.updateTask, World.updateDirector]
  rw [World.move, restrict_enter hown (hdirector ▸ hhome), restrict_perform hown hhome,
    World.move]

/-- **A step of a request of the part** is one of the part. -/
lemma step_restrict (hown : own q = true) (hhome : home (w.tasks q).director = true)
    (h : step w (.task q event) = some w') :
    step (w.restrict own home) (.task q event) = some (w'.restrict own home) := by
  obtain ⟨⟨p, eff⟩, hadvance, rfl⟩ := Option.map_eq_some_iff.mp h
  rw [restrict_move hown hhome]
  refine step_of_advance ?_
  rwa [advance_congr (World.tasks_restrict_own hown) (World.director_restrict_own hown hhome) rfl]

/-! ### Steps of others -/

/-- A request that is not of the part and leaves its directors alone changes the cluster only. -/
lemma restrict_move_of_not (hown : own q = false)
    (hdirectors : ∀ d, home d = true → (w.move q p eff).directors d = w.directors d) :
    (w.move q p eff).restrict own home
      = { w.restrict own home with cluster := eff.clusterAfter w.cluster } := by
  simp only [World.restrict, World.mk.injEq]
  refine ⟨w.cluster_move q p eff, funext fun d => ?_, funext fun r => ?_⟩
  · cases hhome : home d with
    | false => rfl
    | true => exact hdirectors d hhome
  · rcases eq_or_ne r q with rfl | hne
    · obtain ⟨hdirector, hrequest, hclient⟩ := w.task_move r p eff r
      simp [hown, hdirector, hrequest, hclient]
    · rw [w.tasks_move_of_ne q p eff hne]

/-- A lookup has no effect. -/
lemma Moves.eff_of_lookup (h : Moves w q (w.tasks q).phase event p eff) (hw : w.Disciplined)
    (hlookup : (w.tasks q).request.character = none) : eff = .none := by
  have hfits := hw.fits q
  generalize (w.tasks q).phase = phase at h hfits
  cases h with
  | wait hd =>
      obtain ⟨character, hcharacter, -⟩ := decision_eq_cold hd
      rw [hfits.1.1, hlookup] at hcharacter
      cases hcharacter
  | reject | enqueue | lookup | list | reply | assign | rejoin | accept | watched | connected
  | allocate | refuse => rfl
  | _ =>
      have hsome := hfits.isSome rfl
      simp [hfits.1.1, hlookup] at hsome

/-- A lookup never holds the lock. -/
lemma World.Disciplined.holds_of_lookup (hw : w.Disciplined)
    (hlookup : (w.tasks q).request.character = none) : (w.tasks q).phase.holds = false := by
  have hfits := hw.fits q
  generalize (w.tasks q).phase = phase at hfits ⊢
  cases phase with
  | running a stage => simp [Phase.holds, hfits.1.1, hlookup]
  | _ => rfl

/-- **A lookup changes nothing but itself.** -/
lemma directors_move_of_lookup (hw : w.Disciplined)
    (hmoves : Moves w q (w.tasks q).phase event p eff)
    (hlookup : (w.tasks q).request.character = none) (d : ℕ) :
    (w.move q p eff).directors d = w.directors d := by
  obtain rfl := hmoves.eff_of_lookup hw hlookup
  rcases eq_or_ne d (w.tasks q).director with rfl | hne
  swap
  · exact w.directors_move_of_ne q p _ hne
  have hholder : (w.directors (w.tasks q).director).assignments ≠ some q := by
    intro hheld
    have hholds := ((hw.held _ q).mp hheld).2
    simp [hw.holds_of_lookup hlookup] at hholds
  simp only [World.move, World.perform, World.enter]
  split
  · simp [World.updateTask, World.updateDirector, Director.unlock, Director.release,
      hw.flight q hlookup, dropGuard_of_ne hholder]
  · rfl

/-! ### What a part sees -/

/-- The write that a patch makes, none if it changes nothing. -/
def World.overwrites (w : World ext config) (q : TaskId) (event : Event) : List Action :=
  match advance w q event with
  | some (.running _ (.clearing target), .write cluster) =>
      match target.choice.candidate.pod.metadata.name with
      | some name =>
          if (w.cluster.live name).bind (·.metadata.label target.key) = some "Allocated" then
            []
          else
            ((cluster.live name).map (Action.write name)).toList
      | none => []
  | _ => []

/-- A request is seen by others as the writer of its patch. -/
lemma run_overwrites (hadvance : advance w q event = some (p, eff))
    (hcluster : v.cluster = w.cluster) :
    Run.run step v (w.overwrites q event)
      = some { v with cluster := eff.clusterAfter w.cluster } := by
  obtain ⟨cluster₀, directors, tasks⟩ := v
  obtain rfl : cluster₀ = w.cluster := hcluster
  have hmoves := moves_of_advance hadvance
  rw [World.overwrites, hadvance]
  generalize hphase : (w.tasks q).phase = phase at hmoves
  cases hmoves with
  | @patch a target name version fresh cluster hr hp =>
      obtain ⟨o, hlive, -, hor⟩ := Cluster.patchLabel_eq_accepted hp
      dsimp only
      rw [(allocateRequest_eq_ok hr).1]
      dsimp only
      rw [hlive, Option.bind_some]
      rcases hor with ⟨rfl, hlabel⟩ | ⟨hlabel, hkey, hfresh, rfl⟩
      · rw [if_pos hlabel]
        rfl
      · rw [if_neg hlabel, VersionedStore.put_live, Function.update_self]
        exact (Run.run_singleton _ _).trans (dif_pos ⟨hkey, hfresh⟩)
  | refuse hstage hp => cases hp <;> rfl
  | reject hp => cases hp <;> rfl
  | _ => rfl

/-- A step as a part of the world sees it. -/
def seenAs (own : TaskId → Bool) (home : ℕ → Bool) (w : World ext config) : Action → List Action
  | .task q event =>
      if own q then [.task q event]
      else if home (w.tasks q).director then []
      else w.overwrites q event
  | .tick d nanos => if home d then [.tick d nanos] else []
  | .dataPlane d sessions => if home d then [.dataPlane d sessions] else []
  | action => [action]

/-- The requests of a part are at its directors, and at its directors all others are lookups. -/
structure Separates (own : TaskId → Bool) (home : ℕ → Bool) (w : World ext config) : Prop where
  inside : ∀ q, own q = true → home (w.tasks q).director = true
  lookups : ∀ q, own q = false → home (w.tasks q).director = true →
    (w.tasks q).request.character = none

/-- **A step of the world is one of its part**, a write of others, or nothing to it. -/
lemma run_seenAs (hw : w.Disciplined) (hseparates : Separates own home w) {action : Action}
    (h : step w action = some w') :
    Run.run step (w.restrict own home) (seenAs own home w action)
      = some (w'.restrict own home) := by
  cases action with
  | task q event =>
      cases hown : own q with
      | true =>
          rw [seenAs, if_pos hown]
          exact (Run.run_singleton _ _).trans (step_restrict hown (hseparates.inside q hown) h)
      | false =>
          rw [seenAs, if_neg (by simp [hown])]
          obtain ⟨⟨p, eff⟩, hadvance, rfl⟩ := Option.map_eq_some_iff.mp h
          cases hhome : home (w.tasks q).director with
          | true =>
              have hmoves := moves_of_advance hadvance
              have hlookup := hseparates.lookups q hown hhome
              rw [if_pos rfl, restrict_move_of_not hown fun d _ =>
                directors_move_of_lookup hw hmoves hlookup d, hmoves.eff_of_lookup hw hlookup]
              rfl
          | false =>
              rw [if_neg (by simp), run_overwrites (v := w.restrict own home) hadvance rfl,
                restrict_move_of_not hown]
              intro d hd
              refine w.directors_move_of_ne q p eff ?_
              rintro rfl
              simp [hhome] at hd
  | write name o =>
      obtain ⟨hkey, hfresh, rfl⟩ := step_write h
      exact (Run.run_singleton _ _).trans (dif_pos ⟨hkey, hfresh⟩)
  | delete name =>
      obtain rfl := Option.some.inj h
      rfl
  | tick d nanos | dataPlane d sessions =>
      obtain rfl := Option.some.inj h
      rw [seenAs]
      cases hhome : home d with
      | true =>
          rw [if_pos rfl, World.restrict_updateDirector hhome]
          rfl
      | false =>
          rw [if_neg (by simp), World.restrict_updateDirector_of_not hhome]
          rfl

lemma Separates.step (h : Separates own home w) {action : Action}
    (hstep : UdpDirector.step w action = some w') : Separates own home w' where
  inside q hown := by
    rw [(task_of_step hstep q).1]
    exact h.inside q hown
  lookups q hown hhome := by
    rw [(task_of_step hstep q).1] at hhome
    rw [(task_of_step hstep q).2.1]
    exact h.lookups q hown hhome

end

variable (ext config) in
/-- A world, seen by a part of it. -/
def restriction (own : TaskId → Bool) (home : ℕ → Bool) :
    Run.Refinement (step : World ext config → Action → Option (World ext config))
      (step : World ext config → Action → Option (World ext config)) where
  inv w := w.Disciplined ∧ Separates own home w
  abs := World.restrict own home
  label := seenAs own home
  inv_step h hstep := ⟨h.1.step hstep, h.2.step hstep⟩
  abs_step h hstep := run_seenAs h.1 h.2 hstep

/-- A step of a request or of a director of the part. -/
def Action.isOwn (own : TaskId → Bool) (home : ℕ → Bool) : Action → Bool
  | .task q _ => own q
  | .tick d _ | .dataPlane d _ => home d
  | .write .. | .delete _ => false

/-- A step of a request of the part, or of no request. -/
def Action.isKept (own : TaskId → Bool) : Action → Bool
  | .task q _ => own q
  | _ => true

section

variable {own : TaskId → Bool} {home : ℕ → Bool} {w₀ w w' : World ext config} {q : TaskId}
  {acts : List Action}

lemma write_of_mem_overwrites {event : Event} {b : Action} (h : b ∈ w.overwrites q event) :
    ∃ name o, b = .write name o := by
  rw [World.overwrites] at h
  split at h
  · split at h
    · split at h
      · cases h
      · obtain ⟨o, -, rfl⟩ := Option.map_eq_some_iff.mp (Option.mem_toList.mp h)
        exact ⟨_, o, rfl⟩
    · cases h
  · cases h

/-- The part sees its own steps as they are. -/
lemma filter_seenAs (w : World ext config) (action : Action) :
    (seenAs own home w action).filter (Action.isOwn own home)
      = (Option.guard (Action.isOwn own home) action).toList := by
  cases action with
  | task q event =>
      cases hown : own q with
      | true => simp [seenAs, Action.isOwn, Option.guard, hown]
      | false =>
          have hwrites : (w.overwrites q event).filter (Action.isOwn own home) = [] := by
            refine List.filter_eq_nil_iff.mpr fun b hb => ?_
            obtain ⟨name, o, rfl⟩ := write_of_mem_overwrites hb
            simp [Action.isOwn]
          cases hhome : home (w.tasks q).director <;>
            simp [seenAs, Action.isOwn, Option.guard, hown, hhome, hwrites]
  | tick d | dataPlane d =>
      cases hhome : home d <;> simp [seenAs, Action.isOwn, Option.guard, hhome]
  | write | delete => simp [seenAs, Action.isOwn, Option.guard]

/-- All else that a part sees are writes. -/
lemma write_of_mem_seenAs {action b : Action} (h : b ∈ seenAs own home w action)
    (hb : b.isOwn own home = false) :
    (∃ name o, b = .write name o) ∨ ∃ name, b = .delete name := by
  cases action with
  | task q event =>
      rw [seenAs] at h
      split at h
      · rename_i hown
        obtain rfl := List.mem_singleton.mp h
        simp [Action.isOwn, hown] at hb
      · split at h
        · cases h
        · exact .inl (write_of_mem_overwrites h)
  | tick d | dataPlane d =>
      rw [seenAs] at h
      split at h
      · rename_i hhome
        obtain rfl := List.mem_singleton.mp h
        simp [Action.isOwn, hhome] at hb
      · cases h
  | write name o =>
      obtain rfl := List.mem_singleton.mp h
      exact .inl ⟨name, o, rfl⟩
  | delete name =>
      obtain rfl := List.mem_singleton.mp h
      exact .inr ⟨name, rfl⟩

/-- A part with all directors sees every step but those of the other requests. -/
lemma filter_seenAs_of_home (own : TaskId → Bool) (w : World ext config) (action : Action) :
    (seenAs own (fun _ => true) w action).filter (fun _ => true)
      = (Option.guard (Action.isKept own) action).toList := by
  cases action with
  | task q event =>
      cases hown : own q <;> simp [seenAs, Action.isKept, Option.guard, hown]
  | tick | dataPlane | write | delete => simp [seenAs, Action.isKept, Option.guard]

/-- A part with all directors is the whole before anything has begun. -/
lemma World.Initial.restrict_eq (h : w.Initial) (own : TaskId → Bool) :
    w.restrict own (fun _ => true) = w := by
  have htasks : (w.restrict own fun _ => true).tasks = w.tasks := funext h.tasks_restrict
  exact World.mk.injEq .. ▸ ⟨rfl, rfl, htasks⟩

/-- **Directors cannot tell other directors from other writers.** A run of any number of directors,
seen by some of them with their requests, with or without their lookups, is a run of theirs alone,
from a state where nothing else has begun: with the same steps of theirs in the same order, to the
same cluster, session tables, locks, flights and answers, and among writes of Pods that clients of
the API could make. -/
theorem directors_isolated (h₀ : w₀.Initial) (hrun : Run.run step w₀ acts = some w)
    (hseparates : Separates own home w₀) :
    (w₀.restrict own home).Initial
      ∧ Run.run step (w₀.restrict own home) ((restriction ext config own home).labels w₀ acts)
        = some (w.restrict own home)
      ∧ ((restriction ext config own home).labels w₀ acts).filter (Action.isOwn own home)
        = acts.filter (Action.isOwn own home)
      ∧ ∀ b ∈ (restriction ext config own home).labels w₀ acts, b.isOwn own home = false →
        (∃ name o, b = .write name o) ∨ ∃ name, b = .delete name := by
  refine ⟨h₀.restrict, (restriction ext config own home).run_labels ⟨h₀.disciplined, hseparates⟩
    hrun, ?_, ?_⟩
  · rw [(restriction ext config own home).filter_labels (fun _ => filter_seenAs _ _) hrun,
      List.filterMap_eq_filter]
  · intro b hmem hb
    obtain ⟨pre, action, post, u, v, -, -, -, hlabel, -⟩ :=
      (restriction ext config own home).exists_of_mem_labels hrun hmem
    exact write_of_mem_seenAs hlabel hb

/-- **Lookups are invisible.** Without the steps of the lookups any run is still one, of the same
requests that join a character, to the same cluster and directors. -/
theorem lookups_invisible (h₀ : w₀.Initial) (hrun : Run.run step w₀ acts = some w) :
    ∃ v, Run.run step w₀ (acts.filter
        (Action.isKept fun q => (w₀.tasks q).request.character.isSome)) = some v
      ∧ v.cluster = w.cluster ∧ v.directors = w.directors
      ∧ ∀ q, (w.tasks q).request.character.isSome = true → v.tasks q = w.tasks q := by
  let own : TaskId → Bool := fun q => (w₀.tasks q).request.character.isSome
  let home : ℕ → Bool := fun _ => true
  have hseparates : Separates own home w₀ := ⟨fun _ _ => rfl, fun q hq _ => by simpa [own] using hq⟩
  have hlabels : (restriction ext config own home).labels w₀ acts
      = acts.filter (Action.isKept own) := by
    have hfilter := (restriction ext config own home).filter_labels
      (fun _ => filter_seenAs_of_home own _ _) hrun
    rwa [List.filter_true, List.filterMap_eq_filter] at hfilter
  have hv : Run.run step (w₀.restrict own home) ((restriction ext config own home).labels w₀ acts)
      = some (w.restrict own home) :=
    (restriction ext config own home).run_labels ⟨h₀.disciplined, hseparates⟩ hrun
  rw [hlabels, h₀.restrict_eq own] at hv
  refine ⟨w.restrict own home, hv, rfl, rfl, fun q hq => ?_⟩
  rw [(task_of_run hrun q).2.1] at hq
  exact World.tasks_restrict_own hq

end

namespace Sample

/-- A lookup at a director of its choice beside the query of the one Pod. -/
def attended (d : ℕ) : World decoders settings where
  cluster := (world "10.0.0.1").cluster
  directors := fun _ => {}
  tasks := fun q =>
    { director := if q = 1 then d else 0
      request := if q = 0 then .query "arena" "ayla" [] else .characterList "arena" []
      client := { ip := .v4 203 0 113 7, port := 50000 } }

lemma initial_attended (d : ℕ) : (attended d).Initial where
  entry := fun _ => rfl
  flight := fun _ => rfl
  unlocked := fun _ => rfl
  demand := fun _ => rfl

/-- The lookup is the part of the second director. -/
lemma separates_attended :
    Separates (fun q => q == 1) (fun d => d == 1) (attended 1) where
  inside q hown := by
    obtain rfl : q = 1 := by simpa using hown
    rfl
  lookups q hown hhome := by
    rw [beq_eq_false_iff_ne] at hown
    simp [attended, hown] at hhome

/-- The lookup lists before the query and decides after it. -/
def aroundAnswer : List Action :=
  [.task 1 .start, .task 1 (.list (some ([0], "1")))] ++ toAnswer ++ [.task 1 (.decide ⟨0, 0⟩)]

/-- Both requests are answered, by one director. -/
def bothAnswered : World decoders settings :=
  Run.reached step (attended 0) aroundAnswer (by decide +kernel)

/-- Both requests are answered, each by its own director. -/
def eachAnswered : World decoders settings :=
  Run.reached step (attended 1) aroundAnswer (by decide +kernel)

end Sample

/-- To a director with a lookup, the query at another director is a write. -/
theorem directors_isolated_sample :
    Run.run step ((Sample.attended 1).restrict (fun q => q == 1) fun d => d == 1)
        ((restriction Sample.decoders Sample.settings (fun q => q == 1) fun d => d == 1).labels
          (Sample.attended 1) Sample.aroundAnswer)
      = some (Sample.eachAnswered.restrict (fun q => q == 1) fun d => d == 1) :=
  (directors_isolated (Sample.initial_attended 1) (Run.run_reached _ _ _)
    Sample.separates_attended).2.1

/-- The query is answered as well without the lookup. -/
theorem lookups_invisible_sample :
    ∃ v, Run.run step (Sample.attended 0) Sample.toAnswer = some v
      ∧ v.tasks 0 = Sample.bothAnswered.tasks 0 := by
  obtain ⟨v, hv, -, -, htasks⟩ :=
    lookups_invisible (Sample.initial_attended 0) (Run.run_reached _ _ _ : Run.run step
      (Sample.attended 0) Sample.aroundAnswer = some Sample.bothAnswered)
  exact ⟨v, hv, htasks 0 (by decide +kernel)⟩

end UdpDirector
