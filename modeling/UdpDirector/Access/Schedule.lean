import UdpDirector.Access.Outcome
import Mathlib.Data.List.Dedup

/-!
Schedules: what a list of labels says about who went when.

* `Action.writes`: the writes of other clients; they read and change the cluster
  alone, so they may be performed from any state with the same cluster
  (`exists_run_writes`);
* `acquisitions`: the requests in the order in which they took a lock;
  `dedup_concat` says what one acquisition does to the order of the last ones;
* `Recorded`: what the labels performed so far say about a request that has got
  somewhere; `recorded_of_run` carries this through every run of one director;
* `Turn`: a write, or all the steps of one query without interruption; `schedule`
  the labels of a list of turns.
-/

/-- The last occurrences after one more element. -/
lemma List.dedup_concat {α : Type*} [DecidableEq α] (l : List α) (a : α) :
    (l ++ [a]).dedup = (l.dedup.filter fun b => b ≠ a) ++ [a] := by
  induction l with
  | nil => simp
  | cons b l ih =>
      rcases em (b ∈ l) with hmem | hmem
      · rw [cons_append, dedup_cons_of_mem (mem_append_left _ hmem), dedup_cons_of_mem hmem, ih]
      · rcases eq_or_ne b a with rfl | hne
        · rw [cons_append, dedup_cons_of_mem (mem_append_right _ mem_cons_self),
            dedup_cons_of_notMem hmem, ih]
          simp
        · rw [cons_append, dedup_cons_of_notMem (by simp [hmem, hne]),
            dedup_cons_of_notMem hmem, ih]
          simp [hne]

namespace UdpDirector

variable {ext : Externals} {config : Config}

/-! ### Writes of others -/

/-- A write of another client of the API. -/
def Action.writes : Action → Bool
  | .write _ _ | .delete _ => true
  | _ => false

/-- A write of others touches no request and no director. -/
lemma frame_of_writes {w w' : World ext config} {action : Action} (hwrites : action.writes = true)
    (h : step w action = some w') : w'.tasks = w.tasks ∧ w'.directors = w.directors := by
  cases action with
  | write name o =>
      obtain ⟨hkey, hfresh, rfl⟩ := step_write h
      exact ⟨rfl, rfl⟩
  | delete name =>
      obtain rfl := Option.some.inj h
      exact ⟨rfl, rfl⟩
  | _ => simp [Action.writes] at hwrites

lemma frame_of_run_writes {w w' : World ext config} {acts : List Action}
    (hwrites : ∀ action ∈ acts, action.writes = true) (h : Run.run step w acts = some w') :
    w'.tasks = w.tasks ∧ w'.directors = w.directors := by
  induction acts generalizing w with
  | nil =>
      obtain rfl := Option.some.inj h
      exact ⟨rfl, rfl⟩
  | cons action acts ih =>
      rw [Run.run_cons, Option.bind_eq_some_iff] at h
      obtain ⟨u, hstep, h⟩ := h
      obtain ⟨htasks, hdirectors⟩ := ih (fun a ha => hwrites a (List.mem_cons_of_mem _ ha)) h
      obtain ⟨htasks', hdirectors'⟩ := frame_of_writes (hwrites action List.mem_cons_self) hstep
      exact ⟨htasks.trans htasks', hdirectors.trans hdirectors'⟩

/-- A write of others reads the cluster alone. -/
lemma exists_step_writes {u v w : World ext config} {action : Action}
    (hwrites : action.writes = true) (hcluster : v.cluster = u.cluster)
    (h : step u action = some w) : ∃ w', step v action = some w' ∧ w'.cluster = w.cluster := by
  cases action with
  | write name o =>
      obtain ⟨hkey, hfresh, rfl⟩ := step_write h
      obtain ⟨cluster, directors, tasks⟩ := v
      obtain rfl : cluster = u.cluster := hcluster
      exact ⟨_, dif_pos ⟨hkey, hfresh⟩, rfl⟩
  | delete name =>
      obtain rfl := Option.some.inj h
      exact ⟨_, rfl, by rw [hcluster]⟩
  | _ => simp [Action.writes] at hwrites

/-- **Writes of others commute with what leaves the cluster alone.** -/
lemma exists_run_writes {u v w : World ext config} {acts : List Action}
    (hwrites : ∀ action ∈ acts, action.writes = true) (hcluster : v.cluster = u.cluster)
    (h : Run.run step u acts = some w) :
    ∃ w', Run.run step v acts = some w' ∧ w'.cluster = w.cluster := by
  induction acts generalizing u v with
  | nil =>
      obtain rfl := Option.some.inj h
      exact ⟨v, rfl, hcluster⟩
  | cons action acts ih =>
      rw [Run.run_cons, Option.bind_eq_some_iff] at h
      obtain ⟨u', hstep, h⟩ := h
      obtain ⟨v', hstep', hcluster'⟩ :=
        exists_step_writes (hwrites action List.mem_cons_self) hcluster hstep
      obtain ⟨w', hw', hcluster''⟩ :=
        ih (fun a ha => hwrites a (List.mem_cons_of_mem _ ha)) hcluster' h
      exact ⟨w', by rw [Run.run_cons, hstep', Option.bind_some, hw'], hcluster''⟩

/-! ### Acquisitions -/

/-- The request that takes its lock in a step. -/
def Action.acquires : Action → Option TaskId
  | .task q .acquire => some q
  | _ => none

/-- The requests in the order in which they took their locks. -/
def acquisitions (acts : List Action) : List TaskId := acts.filterMap Action.acquires

lemma acquisitions_concat (acts : List Action) (action : Action) :
    acquisitions (acts ++ [action]) = acquisitions acts ++ action.acquires.toList := by
  rw [acquisitions, List.filterMap_append]
  cases h : action.acquires <;> simp [acquisitions, h]

lemma acquires_eq_some {action : Action} {q : TaskId} (h : action.acquires = some q) :
    action = .task q .acquire := by
  unfold Action.acquires at h
  split at h
  · rw [Option.some.inj h]
  · simp at h

/-- Acquisitions of requests that a filter drops do not count. -/
lemma filter_dedup_of_drop {l : List TaskId} {r : Option TaskId} {p : TaskId → Bool}
    (hr : ∀ q, r = some q → p q = false) :
    ((l ++ r.toList).dedup).filter p = l.dedup.filter p := by
  cases r with
  | none => simp
  | some q =>
      rw [Option.toList_some, List.dedup_concat, List.filter_append, List.filter_filter]
      simp only [List.filter_cons, hr q rfl, List.filter_nil, List.append_nil, Bool.false_eq_true,
        if_false]
      refine List.filter_congr fun b _ => ?_
      rcases eq_or_ne b q with rfl | hne
      · simp [hr b rfl]
      · simp [hne]

/-- The last acquirer comes last once the filter keeps it. -/
lemma filter_dedup_of_last {l : List TaskId} {q : TaskId} {p p' : TaskId → Bool}
    (hlast : l.getLast? = some q) (hq : p' q = true) (hdrop : p q = false)
    (hne : ∀ r, r ≠ q → p' r = p r) :
    l.dedup.filter p' = l.dedup.filter p ++ [q] := by
  obtain ⟨l, rfl⟩ := List.getLast?_eq_some_iff.mp hlast
  rw [List.dedup_concat, List.filter_append, List.filter_append, List.filter_filter,
    List.filter_filter]
  simp only [List.filter_cons, hq, hdrop, List.filter_nil, if_true, List.append_nil,
    Bool.false_eq_true, if_false]
  congr 1
  refine List.filter_congr fun b _ => ?_
  rcases eq_or_ne b q with rfl | hb
  · simp
  · simp [hb, hne b hb]

/-! ### What the labels say about a request -/

namespace Moves

variable {w : World ext config} {q : TaskId} {p p' : Phase ext config} {event : Event}
  {eff : Effect}

/-- The lock is held after an acquisition only, or if it was before. -/
lemma holds (h : Moves w q p event p' eff) (hp' : p'.holds = true) :
    p.holds = true ∨ event = .acquire := by
  cases h with
  | reject hp => simp [Phase.holds_of_ended hp.ended] at hp'
  | refuse hstage hp => simp [Phase.holds_of_ended hp.ended] at hp'
  | lookup ha hc => simp [Phase.holds, hc] at hp'
  | acquire hfree => exact .inr rfl
  | reacquire hfree => exact .inr rfl
  | list hstage hr => rcases hstage with rfl | rfl <;> exact .inl hp'
  | _ => first | exact .inl hp' | simp [Phase.holds, Stage.locked] at hp'

end Moves

/-- The lock is taken by a running request, and when it is free. -/
lemma free_of_step_acquire {w w' : World ext config} {q : TaskId}
    (h : step w (.task q .acquire) = some w') :
    ∃ a stage, (w.director q).assignments = none ∧ (w.tasks q).phase = .running a stage := by
  obtain ⟨p, eff, hmoves, -⟩ := exists_moves_of_step h
  obtain ⟨hfree, a, stage, hphase⟩ := hmoves.exists_of_acquire
  exact ⟨a, stage, hfree, hphase⟩

/-- What the labels performed so far say, where one director takes all requests:
who runs has started, and who holds the lock was the last to take it. -/
structure Recorded (w : World ext config) (acts : List Action) (d : ℕ) : Prop where
  director : ∀ q, (w.tasks q).director = d
  started : ∀ q a stage, (w.tasks q).phase = .running a stage →
    [.task q .start].Sublist acts
  acquired : ∀ q, (w.tasks q).phase.holds = true →
    [.task q .start, .task q .acquire].Sublist acts ∧ (acquisitions acts).getLast? = some q

namespace Recorded

variable {w w' : World ext config} {acts : List Action} {d : ℕ} {action : Action}

/-- A step that takes no lock and moves no request keeps the record. -/
lemma keep (h : Recorded w acts d) (hstep : step w action = some w')
    (hquiet : ∀ q event, action ≠ .task q event) : Recorded w' (acts ++ [action]) d := by
  have htasks : ∀ q, w'.tasks q = w.tasks q := fun q => tasks_of_step hstep (hquiet q)
  have hacquires : action.acquires = none := by
    rw [Option.eq_none_iff_forall_ne_some]
    exact fun q hq => hquiet q _ (acquires_eq_some hq)
  refine ⟨fun q => ?_, fun q a stage hphase => ?_, fun q hholds => ?_⟩
  · rw [htasks]
    exact h.director q
  · rw [htasks] at hphase
    exact (h.started q a stage hphase).trans (List.sublist_append_left _ _)
  · rw [htasks] at hholds
    rw [acquisitions_concat, hacquires, Option.toList_none, List.append_nil]
    exact ⟨(h.acquired q hholds).1.trans (List.sublist_append_left _ _), (h.acquired q hholds).2⟩

/-- A step of a request extends the record. -/
lemma move {q : TaskId} {event : Event} (h : Recorded w acts d) (hw : w.Disciplined)
    (hstep : step w (.task q event) = some w') : Recorded w' (acts ++ [.task q event]) d := by
  have hdirector : ∀ q, (w'.tasks q).director = d := fun q' =>
    (task_of_step hstep q').1.trans (h.director q')
  obtain ⟨p', eff, hmoves, hw'⟩ := exists_moves_of_step hstep
  subst hw'
  have hothers : ∀ q', q' ≠ q → (w.move q p' eff).tasks q' = w.tasks q' := fun q' hne =>
    w.tasks_move_of_ne q p' eff hne
  refine ⟨hdirector, fun q' a stage hphase => ?_, fun q' hholds => ?_⟩
  · rcases eq_or_ne q' q with rfl | hne
    · rw [World.phase_move] at hphase
      rcases hmoves.running hphase with ⟨rfl, -⟩ | ⟨stage', hphase'⟩
      · exact List.sublist_append_right _ _
      · exact (h.started q' a stage' hphase').trans (List.sublist_append_left _ _)
    · rw [hothers q' hne] at hphase
      exact (h.started q' a stage hphase).trans (List.sublist_append_left _ _)
  · rw [acquisitions_concat]
    rcases em (event = .acquire) with rfl | hevent
    · -- the lock was free, so nobody but the acquirer holds it now
      obtain ⟨a, stage, hnone, hphase⟩ := free_of_step_acquire hstep
      have hfree : ∀ r, (w.tasks r).phase.holds = false := by
        intro r
        rw [Bool.eq_false_iff]
        intro hr
        have hheld := (hw.held d r).mpr ⟨h.director r, hr⟩
        rw [World.director, h.director, hheld] at hnone
        cases hnone
      rcases eq_or_ne q' q with rfl | hne
      · exact ⟨(h.started q' a stage hphase).append (List.Sublist.refl [_]), by
          simp [Action.acquires]⟩
      · rw [hothers q' hne, hfree] at hholds
        cases hholds
    · have hacquires : (Action.task q event).acquires = none := by
        cases event <;> simp_all [Action.acquires]
      have hheld : (w.tasks q').phase.holds = true := by
        rcases eq_or_ne q' q with rfl | hne
        · rw [World.phase_move] at hholds
          exact (hmoves.holds hholds).resolve_right hevent
        · rw [hothers q' hne] at hholds
          exact hholds
      rw [hacquires, Option.toList_none, List.append_nil]
      exact ⟨(h.acquired q' hheld).1.trans (List.sublist_append_left _ _), (h.acquired q' hheld).2⟩

end Recorded

/-- **The record holds along every run.** -/
theorem recorded_of_run {w₀ w : World ext config} {acts : List Action} {d : ℕ} (h₀ : w₀.Initial)
    (hone : ∀ q, (w₀.tasks q).director = d) (hrun : Run.run step w₀ acts = some w) :
    Recorded w acts d := by
  refine Run.run_induction (P := fun as w => Recorded w as d) ?_ ?_ hrun
  · refine ⟨hone, fun q a stage hphase => ?_, fun q hholds => ?_⟩
    · simp [h₀.entry q] at hphase
    · simp [h₀.entry q, Phase.holds] at hholds
  · intro as u action v hu ih hstep
    rcases em (∃ q event, action = .task q event) with ⟨q, event, rfl⟩ | hquiet
    · exact ih.move (disciplined_of_run h₀ hu) hstep
    · exact ih.keep hstep fun q event h => hquiet ⟨q, event, h⟩

/-! ### Turns -/

/-- A turn of a serial schedule: a write of another client, or the steps of one
query without interruption. -/
inductive Turn where
  | write (name : String) (o : DynamicObject)
  | delete (name : String)
  | query (q : TaskId) (events : List Event)

namespace Turn

/-- The labels of a turn. -/
def actions : Turn → List Action
  | .write name o => [.write name o]
  | .delete name => [.delete name]
  | .query q events => events.map (.task q)

/-- The query whose turn it is. -/
def task : Turn → Option TaskId
  | .query q _ => some q
  | _ => none

end Turn

/-- The labels of the turns, one after the other. -/
def schedule (turns : List Turn) : List Action := turns.flatMap Turn.actions

/-- Writes are turns of their own. -/
lemma exists_turns_of_writes {acts : List Action}
    (hwrites : ∀ action ∈ acts, action.writes = true) :
    ∃ turns : List Turn, schedule turns = acts ∧ turns.filterMap Turn.task = []
      ∧ ∀ t ∈ turns, ∃ action ∈ acts, t.actions = [action] := by
  induction acts with
  | nil => exact ⟨[], rfl, rfl, by simp⟩
  | cons action acts ih =>
      obtain ⟨turns, hschedule, htask, hturns⟩ :=
        ih fun a ha => hwrites a (List.mem_cons_of_mem _ ha)
      obtain ⟨t, ht, htask'⟩ : ∃ t : Turn, t.actions = [action] ∧ t.task = none := by
        cases action with
        | write name o => exact ⟨.write name o, rfl, rfl⟩
        | delete name => exact ⟨.delete name, rfl, rfl⟩
        | _ => simp [Action.writes] at hwrites
      refine ⟨t :: turns, by rw [schedule, List.flatMap_cons, ht, ← schedule, hschedule]; rfl,
        by rw [List.filterMap_cons_none htask', htask], ?_⟩
      intro t' ht'
      rcases List.mem_cons.mp ht' with rfl | ht'
      · exact ⟨action, List.mem_cons_self, ht⟩
      · obtain ⟨a, ha, heq⟩ := hturns t' ht'
        exact ⟨a, List.mem_cons_of_mem _ ha, heq⟩

lemma schedule_append (turns turns' : List Turn) :
    schedule (turns ++ turns') = schedule turns ++ schedule turns' :=
  List.flatMap_append

lemma schedule_singleton (t : Turn) : schedule [t] = t.actions :=
  List.flatMap_singleton ..

end UdpDirector
