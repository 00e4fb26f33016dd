import Mathlib.Data.List.Induction

/-!
Runs of a transition system whose labels carry every choice, so that a step is a
partial function of a state and a label.

* `run step s as` performs the labels `as` from `s`, undefined where one of them
  is not enabled; `reached step s as` is the state they lead to where all are;
* `Along step G s as`: every step of the run is taken at a state and a label
  satisfying `G`, which is how an assumption on the environment enters;
* `trace step s as`: the steps the labels take, each with the states around it;
* `run_invariant`, `run_invariant_along`: what every step preserves holds at the
  end of every run; `run_induction` is the same rule for a property of the state
  together with the labels performed so far;
* `exists_step_of_change`: what comes to hold in a run is brought about by one of
  its steps.
-/

namespace Run

variable {σ α : Type*} (step : σ → α → Option σ)

/-- The labels performed in order, undefined where one is not enabled. -/
def run : σ → List α → Option σ
  | s, [] => some s
  | s, a :: as => (step s a).bind fun t => run t as

/-- Every step of the run is taken at a state and a label satisfying `G`. -/
def Along (G : σ → α → Prop) : σ → List α → Prop
  | _, [] => True
  | s, a :: as => G s a ∧ ∀ t, step s a = some t → Along G t as

variable {step}

@[simp] lemma run_nil (s : σ) : run step s [] = some s := rfl

lemma run_cons (s : σ) (a : α) (as : List α) :
    run step s (a :: as) = (step s a).bind fun t => run step t as := rfl

@[simp] lemma run_singleton (s : σ) (a : α) : run step s [a] = step s a := by
  simp [run_cons]

lemma run_append (s : σ) (as bs : List α) :
    run step s (as ++ bs) = (run step s as).bind fun t => run step t bs := by
  induction as generalizing s with
  | nil => rfl
  | cons a as ih => simp only [List.cons_append, run_cons, ih, Option.bind_assoc]

variable (step) in
/-- The state that labels lead to, where all are enabled. -/
def reached (s : σ) (as : List α) (h : (run step s as).isSome = true) : σ := (run step s as).get h

lemma run_reached (s : σ) (as : List α) (h : (run step s as).isSome = true) :
    run step s as = some (reached step s as h) :=
  (Option.some_get h).symm

/-- A run followed by a run. -/
lemma run_trans {s t u : σ} {as bs : List α} (h₁ : run step s as = some t)
    (h₂ : run step t bs = some u) : run step s (as ++ bs) = some u := by
  rw [run_append, h₁, Option.bind_some, h₂]

/-- A run followed by a step. -/
lemma run_concat {s t u : σ} {as : List α} {a : α} (h₁ : run step s as = some t)
    (h₂ : step t a = some u) : run step s (as ++ [a]) = some u :=
  run_trans h₁ (by rw [run_singleton, h₂])

/-- A run ending in a step reaches the state before it. -/
lemma exists_of_run_concat {s u : σ} {as : List α} {a : α}
    (h : run step s (as ++ [a]) = some u) :
    ∃ t, run step s as = some t ∧ step t a = some u := by
  rw [run_append, Option.bind_eq_some_iff] at h
  simpa using h

lemma along_append {G : σ → α → Prop} (s : σ) (as bs : List α) :
    Along step G s (as ++ bs)
      ↔ Along step G s as ∧ ∀ t, run step s as = some t → Along step G t bs := by
  induction as generalizing s with
  | nil => simp [Along]
  | cons a as ih =>
      simp only [List.cons_append, Along, run_cons, ih, Option.bind_eq_some_iff, and_assoc]
      refine and_congr_right fun _ => ?_
      constructor
      · intro h
        refine ⟨fun t ht => (h t ht).1, ?_⟩
        rintro u ⟨t, ht, hu⟩
        exact (h t ht).2 u hu
      · exact fun h t ht => ⟨h.1 t ht, fun u hu => h.2 u ⟨t, ht, hu⟩⟩

/-- The assumption is checked along the run. -/
instance decidableAlong {G : σ → α → Prop} [∀ s a, Decidable (G s a)] (s : σ) :
    (as : List α) → Decidable (Along step G s as)
  | [] => isTrue trivial
  | a :: as =>
      match h : step s a with
      | none => decidable_of_iff (G s a) (by simp [Along, h])
      | some t =>
          have : Decidable (Along step G t as) := decidableAlong t as
          decidable_of_iff (G s a ∧ Along step G t as) (by simp [Along, h])

/-- Labels that satisfy the assumption anywhere. -/
lemma along_of_forall {G : σ → α → Prop} {as : List α} (h : ∀ a ∈ as, ∀ s, G s a) (s : σ) :
    Along step G s as := by
  induction as generalizing s with
  | nil => trivial
  | cons a as ih =>
      exact ⟨h a List.mem_cons_self s,
        fun t _ => ih (fun b hb => h b (List.mem_cons_of_mem a hb)) t⟩

/-- An invariant under which every label satisfies the assumption. -/
lemma along_of_invariant {G : σ → α → Prop} {I : σ → Prop}
    (hstep : ∀ s a t, I s → step s a = some t → I t) (hG : ∀ s a, I s → G s a) {s : σ}
    (hs : I s) (as : List α) : Along step G s as := by
  induction as generalizing s with
  | nil => trivial
  | cons a as ih => exact ⟨hG s a hs, fun t ht => ih (hstep s a t hs ht)⟩

/-- A weaker assumption holds along the run as well. -/
lemma Along.imp {G H : σ → α → Prop} {s : σ} {as : List α} (hG : Along step G s as)
    (h : ∀ a ∈ as, ∀ s, G s a → H s a) : Along step H s as := by
  induction as generalizing s with
  | nil => trivial
  | cons a as ih =>
      exact ⟨h a List.mem_cons_self s hG.1,
        fun t ht => ih (hG.2 t ht) fun b hb => h b (List.mem_cons_of_mem a hb)⟩

/-- Two assumptions on the steps of a run. -/
lemma Along.and {G H : σ → α → Prop} {s : σ} {as : List α} (hG : Along step G s as)
    (hH : Along step H s as) : Along step (fun s a => G s a ∧ H s a) s as := by
  induction as generalizing s with
  | nil => trivial
  | cons a as ih => exact ⟨⟨hG.1, hH.1⟩, fun t ht => ih (hG.2 t ht) (hH.2 t ht)⟩

/-- The last step of a run satisfies the assumption as well. -/
lemma Along.last {G : σ → α → Prop} {s t : σ} {as : List α} {a : α}
    (h : Along step G s (as ++ [a])) (hrun : run step s as = some t) : G t a :=
  (((along_append s as [a]).mp h).2 t hrun).1

lemma Along.init {G : σ → α → Prop} {s : σ} {as bs : List α}
    (h : Along step G s (as ++ bs)) : Along step G s as :=
  ((along_append s as bs).mp h).1

/-- A run that breaks the assumption has a first part, and a step that breaks it. -/
lemma exists_of_not_along {G : σ → α → Prop} {s : σ} {as : List α} (h : ¬Along step G s as) :
    ∃ pre a post t, as = pre ++ a :: post ∧ run step s pre = some t ∧ ¬G t a := by
  induction as generalizing s with
  | nil => exact absurd trivial h
  | cons a as ih =>
      by_cases hG : G s a
      · simp only [Along, hG, true_and, not_forall] at h
        obtain ⟨t, ht, h⟩ := h
        obtain ⟨pre, b, post, u, rfl, hpre, hu⟩ := ih h
        exact ⟨a :: pre, b, post, u, rfl, by rw [run_cons, ht, Option.bind_some, hpre], hu⟩
      · exact ⟨[], a, as, s, rfl, rfl, hG⟩

/-! ### The steps of a run -/

variable (step) in
/-- The steps taken by the labels, each with the states around it. -/
def trace : σ → List α → List (σ × α × σ)
  | _, [] => []
  | s, a :: as =>
      match step s a with
      | some t => (s, a, t) :: trace t as
      | none => []

lemma trace_concat {s t u : σ} {as : List α} {a : α} (h₁ : run step s as = some t)
    (h₂ : step t a = some u) : trace step s (as ++ [a]) = trace step s as ++ [(t, a, u)] := by
  induction as generalizing s with
  | nil =>
      obtain rfl : s = t := by simpa using h₁
      simp [trace, h₂]
  | cons b as ih =>
      rw [run_cons, Option.bind_eq_some_iff] at h₁
      obtain ⟨v, hv, h₁⟩ := h₁
      simp only [List.cons_append, trace, hv, ih h₁]

/-- A step of a run is taken where the labels before it lead to. -/
lemma exists_of_mem_trace {s : σ} {as : List α} {e : σ × α × σ} (h : e ∈ trace step s as) :
    ∃ pre, run step s pre = some e.1 ∧ step e.1 e.2.1 = some e.2.2 := by
  induction as generalizing s with
  | nil => simp [trace] at h
  | cons a as ih =>
      rw [trace] at h
      split at h
      · rename_i t ht
        rcases List.mem_cons.mp h with rfl | h
        · exact ⟨[], rfl, ht⟩
        · obtain ⟨pre, hpre, he⟩ := ih h
          exact ⟨a :: pre, by rw [run_cons, ht, Option.bind_some, hpre], he⟩
      · simp at h

/-! ### Induction along a run -/

/-- **The history rule**: a property of the labels performed so far and of the
state reached holds along a run once it holds of the empty history and every
further step preserves it. -/
theorem run_induction {s : σ} {P : List α → σ → Prop} (h0 : P [] s)
    (hstep : ∀ as t a u, run step s as = some t → P as t → step t a = some u →
      P (as ++ [a]) u) :
    ∀ {as t}, run step s as = some t → P as t := by
  intro as
  induction as using List.reverseRecOn with
  | nil =>
      intro t h
      obtain rfl : s = t := by simpa using h
      exact h0
  | append_singleton as a ih =>
      intro u h
      obtain ⟨t, ht, hu⟩ := exists_of_run_concat h
      exact hstep as t a u ht (ih ht) hu

/-- The history rule under an assumption on the steps. -/
theorem run_induction_along {G : σ → α → Prop} {s : σ} {P : List α → σ → Prop} (h0 : P [] s)
    (hstep : ∀ as t a u, run step s as = some t → Along step G s (as ++ [a]) → P as t →
      G t a → step t a = some u → P (as ++ [a]) u) :
    ∀ {as t}, Along step G s as → run step s as = some t → P as t := by
  intro as t hG hrun
  have key : Along step G s as → P as t := by
    refine run_induction (P := fun as t => Along step G s as → P as t) (fun _ => h0) ?_ hrun
    intro bs u a v hbs ih hstep' hall
    exact hstep bs u a v hbs hall (ih hall.init) (hall.last hbs) hstep'
  exact key hG

/-- **The invariant rule**: what every step preserves holds at the end of every
run. -/
theorem run_invariant {I : σ → Prop} (hstep : ∀ s a t, I s → step s a = some t → I t)
    {s t : σ} {as : List α} (h0 : I s) (hrun : run step s as = some t) : I t :=
  run_induction (P := fun _ => I) h0 (fun _ u a v _ hu hv => hstep u a v hu hv) hrun

/-- The invariant rule under an assumption on the steps. -/
theorem run_invariant_along {G : σ → α → Prop} {I : σ → Prop}
    (hstep : ∀ s a t, I s → G s a → step s a = some t → I t)
    {s t : σ} {as : List α} (h0 : I s) (hG : Along step G s as)
    (hrun : run step s as = some t) : I t :=
  run_induction_along (P := fun _ => I) h0 (fun _ u a v _ _ hu hg hv => hstep u a v hu hg hv)
    hG hrun

/-- **The step rule**: what does not hold at the beginning of a run and holds at
its end is brought about by one of its steps. -/
theorem exists_step_of_change {I : σ → Prop} {s t : σ} {as : List α} (h0 : ¬I s) (h : I t)
    (hrun : run step s as = some t) :
    ∃ pre a post u v, as = pre ++ a :: post ∧ run step s pre = some u ∧ ¬I u
      ∧ step u a = some v ∧ I v ∧ run step v post = some t := by
  induction as generalizing s with
  | nil =>
      obtain rfl : s = t := Option.some.inj hrun
      exact absurd h h0
  | cons a as ih =>
      rw [run_cons, Option.bind_eq_some_iff] at hrun
      obtain ⟨u, hu, hrun⟩ := hrun
      rcases em (I u) with hI | hI
      · exact ⟨[], a, as, s, u, rfl, rfl, h0, hu, hI, hrun⟩
      · obtain ⟨pre, b, post, v, w, rfl, hpre, hv, hvw, hw, hpost⟩ := ih hI hrun
        exact ⟨a :: pre, b, post, v, w, rfl, by rw [run_cons, hu, Option.bind_some, hpre], hv, hvw,
          hw, hpost⟩

end Run
