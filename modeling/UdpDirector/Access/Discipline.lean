import UdpDirector.Access.Snapshots

/-!
The discipline of the assignments lock.

* `Phase.holds`: where a request that joins a character holds the lock of its
  director;
* `World.Disciplined`: the lock is held by exactly the request that is at such a
  place, a lookup never gets past its one decision, and it never holds a flight;
* `disciplined_of_run`: this is so in every state of every run;
* `World.Disciplined.eq_of_holds`: the lock has one holder.
-/

namespace UdpDirector

variable {ext : Externals} {config : Config}

/-! ### Places -/

/-- The stages a lookup goes through. -/
def Stage.lookup : Stage ext config → Bool
  | .listing | .deciding _ _ => true
  | _ => false

/-- The request holds the assignments lock of its director. -/
def Phase.holds : Phase ext config → Bool
  | .running a stage => a.character.isSome && stage.locked
  | _ => false

/-- The phase fits the request: it works for its character, and for none only as
far as a lookup goes. -/
def Phase.Fits (request : QueryRequest) : Phase ext config → Prop
  | .running a stage => (a.character = request.character ∧ a.labels = config.selector request.map)
      ∧ (a.character = none → stage.lookup = true)
  | _ => True

namespace Phase

lemma Refused.fits {request : QueryRequest} {p : Phase ext config} (h : p.Refused) :
    p.Fits request := by
  cases h <;> trivial

lemma Refused.ended {p : Phase ext config} (h : p.Refused) : p.ended = true := by
  cases h <;> rfl

lemma holds_of_ended {p : Phase ext config} (h : p.ended = true) : p.holds = false := by
  cases p <;> simp_all [ended, holds]

/-- Past the lookup stages there is a character. -/
lemma Fits.isSome {request : QueryRequest} {a : Access} {stage : Stage ext config}
    (h : (Phase.running a stage).Fits request) (hstage : stage.lookup = false) :
    a.character.isSome = true := by
  rw [Option.isSome_iff_ne_none]
  intro hnone
  have hlookup := h.2 hnone
  simp [hstage] at hlookup

end Phase

/-! ### One move -/

namespace Moves

variable {w : World ext config} {q : TaskId} {p p' : Phase ext config} {event : Event}
  {eff : Effect}

lemma fits (h : Moves w q p event p' eff) (hfits : p.Fits (w.tasks q).request) :
    p'.Fits (w.tasks q).request := by
  cases h with
  | reject hp => exact hp.fits
  | refuse hstage hp => exact hp.fits
  | enqueue ha hc =>
      obtain ⟨-, -, hchar, hlabels⟩ := prepare_eq_ok ha
      exact ⟨⟨hchar, hlabels⟩, fun hnone => by simp [hnone] at hc⟩
  | lookup ha hc =>
      obtain ⟨-, -, hchar, hlabels⟩ := prepare_eq_ok ha
      exact ⟨⟨hchar, hlabels⟩, fun _ => rfl⟩
  | acquire hfree => exact ⟨hfits.1, fun _ => rfl⟩
  | list hstage hr => exact ⟨hfits.1, fun _ => rfl⟩
  | assign hd =>
      have hchar := (decision_eq_assign hd).1
      exact ⟨hfits.1, fun hnone => by simp [hchar] at hnone⟩
  | wait hd hdc =>
      obtain ⟨character, hchar, -⟩ := decision_eq_cold hd
      exact ⟨hfits.1, fun hnone => by simp [hchar] at hnone⟩
  | reply hd => trivial
  | poison hf hs => trivial
  | install => trivial
  | _ =>
      have hsome := hfits.isSome rfl
      exact ⟨hfits.1, fun hnone => by simp [hnone] at hsome⟩

/-- A running request goes on with what it prepared. -/
lemma running (h : Moves w q p event p' eff) {a : Access} {stage : Stage ext config}
    (hp' : p' = .running a stage) :
    (event = .start ∧ prepare config (w.tasks q).request = .ok a)
      ∨ ∃ stage', p = .running a stage' := by
  cases h with
  | reject => cases hp'
  | refuse hstage hp => subst hp'; cases hp
  | enqueue ha hc =>
      obtain ⟨rfl, -⟩ := Phase.running.inj hp'
      exact .inl ⟨rfl, ha⟩
  | lookup ha hc =>
      obtain ⟨rfl, -⟩ := Phase.running.inj hp'
      exact .inl ⟨rfl, ha⟩
  | reply hd => cases hp'
  | poison hf hs => cases hp'
  | install => cases hp'
  | _ =>
      obtain ⟨rfl, -⟩ := Phase.running.inj hp'
      exact .inr ⟨_, rfl⟩

/-- A request that has started goes on with what it prepared. -/
lemma running_of_ne_entry (h : Moves w q p event p' eff) (hp : p ≠ .entry) {a : Access}
    {stage : Stage ext config} (hp' : p' = .running a stage) : ∃ stage', p = .running a stage' := by
  cases h with
  | reject | enqueue | lookup => exact absurd rfl hp
  | refuse _ hrefused => subst hp'; cases hrefused
  | reply | poison | install => simp at hp'
  | _ =>
      obtain ⟨rfl, -⟩ := Phase.running.inj hp'
      exact ⟨_, rfl⟩

/-- No request returns to where it starts. -/
lemma ne_entry (h : Moves w q p event p' eff) : p' ≠ .entry := by
  cases h with
  | reject hp | refuse _ hp => cases hp <;> simp
  | _ => simp

/-- A running request ends, or goes on with what it prepared. -/
lemma ended_or_running (h : Moves w q p event p' eff) {a : Access} {stage : Stage ext config}
    (hp : p = .running a stage) : p'.ended = true ∨ ∃ stage', p' = .running a stage' := by
  cases hp' : p' with
  | entry => exact absurd hp' h.ne_entry
  | running a' stage' =>
      obtain ⟨stage'', hphase⟩ := h.running_of_ne_entry (by rw [hp]; simp) hp'
      obtain ⟨rfl, -⟩ := Phase.running.inj (hp.symm.trans hphase)
      exact .inr ⟨stage', rfl⟩
  | done | panicked => exact .inl rfl

/-- **The lock after a move** is held by the request if its new place says so,
and by whoever else held it before. -/
lemma holderAfter (h : Moves w q p event p' eff) (hfits : p.Fits (w.tasks q).request)
    {holder : Option TaskId} (hfree : eff = .lock → holder = none)
    (hholder : holder = some q ↔ p.holds = true) (q' : TaskId) :
    p'.holderAfter q (eff.holderAfter q holder) = some q'
      ↔ if q' = q then p'.holds = true else holder = some q' := by
  -- three kinds of moves: the lock is taken, given up, or left as it is
  have htaken : eff = .lock → p'.ended = false → p'.holds = true →
      (p'.holderAfter q (eff.holderAfter q holder) = some q'
        ↔ if q' = q then p'.holds = true else holder = some q') := by
    rintro rfl hended hholds
    simp only [Phase.holderAfter, hended, Effect.holderAfter, hholds, hfree rfl]
    rcases eq_or_ne q' q with rfl | hne
    · simp
    · simp [hne, hne.symm]
  have hdropped : (p'.holderAfter q (eff.holderAfter q holder) = dropGuard q holder) →
      p'.holds = false → (p'.holderAfter q (eff.holderAfter q holder) = some q'
        ↔ if q' = q then p'.holds = true else holder = some q') := by
    intro heq hholds
    rw [heq, hholds]
    rcases eq_or_ne q' q with rfl | hne
    · simp [dropGuard_ne]
    · rw [if_neg hne, dropGuard]
      split
      · rename_i hself
        simp [hself, hne.symm]
      · rfl
  have hkept : eff.holderAfter q holder = holder → p'.ended = false → p'.holds = p.holds →
      (p'.holderAfter q (eff.holderAfter q holder) = some q'
        ↔ if q' = q then p'.holds = true else holder = some q') := by
    intro heff hended hholds
    rw [heff, Phase.holderAfter, hended, hholds]
    rcases eq_or_ne q' q with rfl | hne
    · simpa using hholder
    · simp [hne]
  cases h with
  | reject hp =>
      exact hdropped (by simp [Phase.holderAfter, hp.ended, Effect.holderAfter])
        (Phase.holds_of_ended hp.ended)
  | refuse hstage hp =>
      exact hdropped (by simp [Phase.holderAfter, hp.ended, Effect.holderAfter])
        (Phase.holds_of_ended hp.ended)
  | acquire hf =>
      have hsome := hfits.isSome rfl
      exact htaken rfl rfl (by simp [Phase.holds, hsome, Stage.locked])
  | reacquire hf =>
      have hsome := hfits.isSome rfl
      exact htaken rfl rfl (by simp [Phase.holds, hsome, Stage.locked])
  | wait hd hdc => exact hdropped rfl (by simp [Phase.holds, Stage.locked])
  | reply hd => exact hdropped rfl rfl
  | poison hf hs => exact hdropped rfl rfl
  | install => exact hdropped rfl rfl
  | lookup ha hc => exact hkept rfl rfl (by simp [Phase.holds, hc])
  | list hstage hr =>
      exact hkept rfl rfl (by rcases hstage with rfl | rfl <;> rfl)
  | _ => exact hkept rfl rfl (by simp [Phase.holds, Stage.locked])

/-- The lock is taken only when it is free. -/
lemma free_of_lock (h : Moves w q p event p' .lock) : (w.director q).assignments = none := by
  cases h <;> assumption

/-- A lookup never asks for a flight. -/
lemma ne_demand (h : Moves w q p event p' eff) (hfits : p.Fits (w.tasks q).request)
    (hlookup : (w.tasks q).request.character = none) (demand : CapacityDemand)
    (flight : Option FlightId) : eff ≠ .demand demand flight := by
  rintro rfl
  cases h <;>
  · have hsome := hfits.isSome rfl
    simp [hfits.1.1, hlookup] at hsome

end Moves

namespace World

variable {w : World ext config} {q : TaskId} {p : Phase ext config} {eff : Effect}

/-- A request without a flight that does not ask for one leaves the demand
alone. -/
lemma demand_move (hflight : (w.tasks q).flight = none)
    (heff : ∀ demand flight, eff ≠ .demand demand flight) :
    ((w.move q p eff).tasks q).flight = none
      ∧ ∀ d, ((w.move q p eff).directors d).demand = (w.directors d).demand := by
  constructor
  · cases eff <;> simp only [move, enter, perform] <;> split <;>
      simp_all [updateTask, updateDirector]
  · intro d
    rcases eq_or_ne d (w.tasks q).director with rfl | hd
    · cases eff <;> simp only [move, enter, perform] <;> split <;>
        simp_all [updateTask, updateDirector, Director.unlock, Director.release]
    · rw [w.directors_move_of_ne q p eff hd]

/-- The lock discipline of a state. -/
structure Disciplined (w : World ext config) : Prop where
  fits : ∀ q, (w.tasks q).phase.Fits (w.tasks q).request
  flight : ∀ q, (w.tasks q).request.character = none → (w.tasks q).flight = none
  held : ∀ d q, (w.directors d).assignments = some q
    ↔ (w.tasks q).director = d ∧ (w.tasks q).phase.holds = true

lemma Initial.disciplined (h : w.Initial) : w.Disciplined where
  fits q := by
    rw [h.entry q]
    trivial
  flight q _ := h.flight q
  held d q := by
    rw [h.unlocked d, h.entry q]
    simp [Phase.holds]

/-- The clock and the session table of a director are no part of the discipline. -/
lemma Disciplined.updateDirector {f : Director → Director} {d : ℕ} (hw : w.Disciplined)
    (hf : ∀ x, (f x).assignments = x.assignments) : (w.updateDirector d f).Disciplined where
  fits := hw.fits
  flight := hw.flight
  held d' q := by
    refine Iff.trans ?_ (hw.held d' q)
    rcases eq_or_ne d' d with rfl | hd
    · simp [World.updateDirector, hf]
    · simp [World.updateDirector, hd]

/-- A move keeps the discipline. -/
lemma Disciplined.move {event : Event} {p' : Phase ext config} (hw : w.Disciplined)
    (h : Moves w q (w.tasks q).phase event p' eff) : (w.move q p' eff).Disciplined where
  fits q' := by
    rw [(w.task_move q p' eff q').2.1]
    rcases eq_or_ne q' q with rfl | hne
    · rw [phase_move]
      exact h.fits (hw.fits q')
    · rw [w.tasks_move_of_ne q p' eff hne]
      exact hw.fits q'
  flight q' hlookup := by
    rw [(w.task_move q p' eff q').2.1] at hlookup
    rcases eq_or_ne q' q with rfl | hne
    · exact (demand_move (hw.flight q' hlookup) (h.ne_demand (hw.fits q') hlookup)).1
    · rw [w.tasks_move_of_ne q p' eff hne]
      exact hw.flight q' hlookup
  held d q' := by
    have htask := (w.task_move q p' eff q').1
    rcases eq_or_ne d (w.tasks q).director with rfl | hd
    · have hholder : (w.director q).assignments = some q ↔ (w.tasks q).phase.holds = true := by
        rw [director, hw.held]
        simp
      have hfree : eff = .lock → (w.director q).assignments = none := by
        rintro rfl
        exact h.free_of_lock
      rw [assignments_move, h.holderAfter (hw.fits q) hfree hholder, htask]
      rcases eq_or_ne q' q with rfl | hne
      · simp
      · rw [if_neg hne, w.tasks_move_of_ne q p' eff hne, director, hw.held]
    · rw [w.directors_move_of_ne q p' eff hd, hw.held, htask]
      rcases eq_or_ne q' q with rfl | hne
      · simp [hd.symm]
      · rw [w.tasks_move_of_ne q p' eff hne]

/-- Every step keeps the discipline. -/
lemma Disciplined.step {w' : World ext config} {action : Action} (hw : w.Disciplined)
    (h : step w action = some w') : w'.Disciplined := by
  cases action with
  | task q event =>
      obtain ⟨p', eff, hmoves, rfl⟩ := exists_moves_of_step h
      exact hw.move hmoves
  | write name o =>
      obtain ⟨hkey, hfresh, rfl⟩ := step_write h
      exact ⟨hw.fits, hw.flight, hw.held⟩
  | delete name =>
      obtain rfl := Option.some.inj h
      exact ⟨hw.fits, hw.flight, hw.held⟩
  | tick d nanos =>
      obtain rfl := Option.some.inj h
      exact hw.updateDirector fun _ => rfl
  | dataPlane d sessions =>
      obtain rfl := Option.some.inj h
      exact hw.updateDirector fun _ => rfl

end World

/-- **The lock discipline holds in every state of every run.** -/
theorem disciplined_of_run {w₀ w : World ext config} {acts : List Action} (h₀ : w₀.Initial)
    (hrun : Run.run step w₀ acts = some w) : w.Disciplined :=
  Run.run_invariant (fun _ _ _ hw hstep => hw.step hstep) h₀.disciplined hrun

/-- The lock has one holder. -/
lemma World.Disciplined.eq_of_holds {w : World ext config} (hw : w.Disciplined) {q q' : TaskId}
    (hdirector : (w.tasks q').director = (w.tasks q).director)
    (hq : (w.tasks q).phase.holds = true) (hq' : (w.tasks q').phase.holds = true) : q' = q := by
  have h := (hw.held (w.tasks q).director q).mpr ⟨rfl, hq⟩
  have h' := (hw.held (w.tasks q).director q').mpr ⟨hdirector, hq'⟩
  exact Option.some.inj (h'.symm.trans h)

/-- A running request works with what it prepared. -/
lemma prepared_of_run {w₀ w : World ext config} {acts : List Action} (h₀ : w₀.Initial)
    (hrun : Run.run step w₀ acts = some w) {q : TaskId} {a : Access} {stage : Stage ext config}
    (hphase : (w.tasks q).phase = .running a stage) :
    prepare config (w.tasks q).request = .ok a := by
  have h : ∀ a stage, (w.tasks q).phase = .running a stage →
      prepare config (w.tasks q).request = .ok a := by
    refine Run.run_invariant (I := fun w : World ext config => ∀ a stage,
      (w.tasks q).phase = .running a stage → prepare config (w.tasks q).request = .ok a) ?_ ?_ hrun
    · intro u action v hu hstep a stage hphase
      rw [(task_of_step hstep q).2.1]
      obtain ⟨event, p', eff, rfl, hmoves, rfl⟩ | ⟨-, htask⟩ := moves_or_others hstep q
      · rw [World.phase_move] at hphase
        rcases hmoves.running hphase with ⟨-, ha⟩ | ⟨stage', hphase'⟩
        · exact ha
        · exact hu a stage' hphase'
      · rw [htask] at hphase
        exact hu a stage hphase
    · intro a stage hphase
      simp [h₀.entry q] at hphase
  exact h a stage hphase

/-! ### The only Pod of the cluster -/

namespace Sample

lemma eq_of_live {o o' : DynamicObject} {name : String}
    (h : Function.update (fun _ : String => none) "game-0" (some o) name = some o') :
    name = "game-0" ∧ o = o' := by
  rcases eq_or_ne name "game-0" with rfl | hne
  · rw [Function.update_self] at h
    exact ⟨rfl, Option.some.inj h⟩
  · rw [Function.update_of_ne hne] at h
    simp at h

end Sample

end UdpDirector
