import UdpDirector.Foundation.Run

/-!
Refinements between transition systems whose labels carry every choice.

* `Refinement step spec`: a state of the specification for every state of the
  implementation, and for every step the labels of the specification it stands for, none
  where it does nothing that the specification speaks of;
* `labels r s as`: the labels of the specification that the labels `as` stand for from `s`;
* `run_labels`: a run of the implementation is a run of the specification;
* `exists_of_mem_labels`: a label of the specification stems from a step of the
  implementation, at the state the steps before it lead to;
* `comp`: refinements compose.
-/

namespace Run

variable {σ α τ β υ γ : Type*}

/-- A refinement mapping, under an invariant of the implementation. -/
structure Refinement (step : σ → α → Option σ) (spec : τ → β → Option τ) where
  inv : σ → Prop
  abs : σ → τ
  label : σ → α → List β
  inv_step : ∀ {s a t}, inv s → step s a = some t → inv t
  abs_step : ∀ {s a t}, inv s → step s a = some t → run spec (abs s) (label s a) = some (abs t)

namespace Refinement

variable {step : σ → α → Option σ} {spec : τ → β → Option τ} (r : Refinement step spec)

/-- The labels of the specification that some labels stand for. -/
def labels : σ → List α → List β
  | _, [] => []
  | s, a :: as =>
      r.label s a ++
        match step s a with
        | some t => labels t as
        | none => []

variable {s t : σ} {as bs : List α}

lemma labels_cons {a : α} (h : step s a = some t) (as : List α) :
    r.labels s (a :: as) = r.label s a ++ r.labels t as := by
  rw [labels, h]

lemma labels_append (h : run step s as = some t) (bs : List α) :
    r.labels s (as ++ bs) = r.labels s as ++ r.labels t bs := by
  induction as generalizing s with
  | nil =>
      obtain rfl := Option.some.inj h
      rfl
  | cons a as ih =>
      obtain ⟨u, hu, h⟩ := Option.bind_eq_some_iff.mp h
      rw [List.cons_append, r.labels_cons hu, r.labels_cons hu, ih h, List.append_assoc]

lemma inv_run (hs : r.inv s) (h : run step s as = some t) : r.inv t :=
  run_invariant (fun _ _ _ => r.inv_step) hs h

/-- **The refinement rule**: a run is a run of the specification. -/
theorem run_labels (hs : r.inv s) (h : run step s as = some t) :
    run spec (r.abs s) (r.labels s as) = some (r.abs t) := by
  induction as generalizing s with
  | nil =>
      obtain rfl := Option.some.inj h
      rfl
  | cons a as ih =>
      obtain ⟨u, hu, h⟩ := Option.bind_eq_some_iff.mp h
      rw [r.labels_cons hu]
      exact run_trans (r.abs_step hs hu) (ih (r.inv_step hs hu) h)

/-- A label of the specification stems from a step. -/
lemma exists_of_mem_labels {b : β} (h : run step s as = some t) (hb : b ∈ r.labels s as) :
    ∃ pre a post u v, as = pre ++ a :: post ∧ run step s pre = some u ∧ step u a = some v
      ∧ b ∈ r.label u a ∧ run step v post = some t := by
  induction as generalizing s with
  | nil => cases hb
  | cons a as ih =>
      obtain ⟨u, hu, h⟩ := Option.bind_eq_some_iff.mp h
      rw [r.labels_cons hu, List.mem_append] at hb
      rcases hb with hb | hb
      · exact ⟨[], a, as, s, u, rfl, rfl, hu, hb, h⟩
      · obtain ⟨pre, a', post, v, w, rfl, hpre, hstep, hb', hpost⟩ := ih h hb
        exact ⟨a :: pre, a', post, v, w, rfl, by rw [run_cons, hu, Option.bind_some, hpre], hstep,
          hb', hpost⟩

/-- The labels of one kind that a run stands for, where a step stands for at most one. -/
lemma filter_labels {p : β → Bool} {f : α → Option β}
    (hf : ∀ {s a t}, step s a = some t → (r.label s a).filter p = (f a).toList)
    (h : run step s as = some t) : (r.labels s as).filter p = as.filterMap f := by
  induction as generalizing s with
  | nil => rfl
  | cons a as ih =>
      obtain ⟨u, hu, h⟩ := Option.bind_eq_some_iff.mp h
      rw [r.labels_cons hu, List.filter_append, hf hu, ih h, List.filterMap_cons]
      cases f a <;> rfl

/-- Refinements compose. -/
def comp {spec' : υ → γ → Option υ} (r' : Refinement spec spec') (r : Refinement step spec) :
    Refinement step spec' where
  inv s := r.inv s ∧ r'.inv (r.abs s)
  abs s := r'.abs (r.abs s)
  label s a := r'.labels (r.abs s) (r.label s a)
  inv_step hs h := ⟨r.inv_step hs.1 h, r'.inv_run hs.2 (r.abs_step hs.1 h)⟩
  abs_step hs h := r'.run_labels hs.2 (r.abs_step hs.1 h)

/-- The labels of a composed refinement are those of the second from those of the first. -/
lemma labels_comp {r' : Refinement spec spec'} {r : Refinement step spec} (hs : r.inv s)
    (h : run step s as = some t) :
    (r'.comp r).labels s as = r'.labels (r.abs s) (r.labels s as) := by
  induction as generalizing s with
  | nil => rfl
  | cons a as ih =>
      obtain ⟨u, hu, h⟩ := Option.bind_eq_some_iff.mp h
      rw [(r'.comp r).labels_cons hu, r.labels_cons hu, r'.labels_append (r.abs_step hs hu),
        ih (r.inv_step hs hu) h]
      rfl

end Refinement

end Run
