import Mathlib.Order.Nat
import UdpDirector.Foundation.Run

/-!
Infinite runs under fairness, and what they lead to.

* `Forever step`: an infinite run; `always` is the invariant rule for it;
* `WeakFair`, `StrongFair`: a party that is ready from some time on, or again and again,
  takes a step;
* `LeadsTo P Q`: a state with `P` is followed by one with `Q`;
* `leadsTo_of_rank`: under weak fairness, steps of the party lower a rank until `Q`, and those
  of others do not raise it;
* `leadsTo_of_strongFair`: under strong fairness, a step of the party brings `Q`, and `P` does
  not last without the party being ready again.
-/

namespace Run

variable {σ α : Type*}

/-- An infinite run. -/
structure Forever (step : σ → α → Option σ) where
  state : ℕ → σ
  label : ℕ → α
  next : ∀ n, step (state n) (label n) = some (state (n + 1))

namespace Forever

variable {step : σ → α → Option σ} (ρ : Forever step) {P Q R : σ → Prop} {own : α → Prop}
  {ready : σ → Prop}

/-- **The invariant rule.** -/
lemma always {I : σ → Prop} (h0 : I (ρ.state 0))
    (hstep : ∀ s a t, I s → step s a = some t → I t) (n : ℕ) : I (ρ.state n) := by
  induction n with
  | zero => exact h0
  | succ n ih => exact hstep _ _ _ ih (ρ.next n)

/-- What a step keeps holds from a state of the run on. -/
lemma stays {I : σ → Prop} (hstep : ∀ n, I (ρ.state n) → I (ρ.state (n + 1))) {n : ℕ}
    (hn : I (ρ.state n)) {m : ℕ} (hm : n ≤ m) : I (ρ.state m) := by
  induction m, hm using Nat.le_induction with
  | base => exact hn
  | succ m _ ih => exact hstep m ih

/-- A party that is ready from some time on takes a step. -/
def WeakFair (own : α → Prop) (ready : σ → Prop) : Prop :=
  ∀ n, (∀ m, n ≤ m → ready (ρ.state m)) → ∃ m, n ≤ m ∧ own (ρ.label m)

/-- A party that is ready again and again takes a step. -/
def StrongFair (own : α → Prop) (ready : σ → Prop) : Prop :=
  ∀ n, (∀ k, n ≤ k → ∃ m, k ≤ m ∧ ready (ρ.state m)) → ∃ m, n ≤ m ∧ own (ρ.label m)

/-- Every state with `P` is followed by one with `Q`. -/
def LeadsTo (P Q : σ → Prop) : Prop := ∀ n, P (ρ.state n) → ∃ m, n ≤ m ∧ Q (ρ.state m)

variable {ρ}

lemma LeadsTo.trans (h : ρ.LeadsTo P Q) (h' : ρ.LeadsTo Q R) : ρ.LeadsTo P R := by
  intro n hn
  obtain ⟨m, hm, hQ⟩ := h n hn
  obtain ⟨k, hk, hR⟩ := h' m hQ
  exact ⟨k, hm.trans hk, hR⟩

/-- **The rank rule**: a party that is ready where `P` holds and `Q` does not, whose steps lower
a rank, gets to `Q`, if no other step leaves `P` or raises the rank. -/
theorem leadsTo_of_rank (rank : σ → ℕ) (hfair : ρ.WeakFair own ready)
    (hready : ∀ n, P (ρ.state n) → ¬Q (ρ.state n) → ready (ρ.state n))
    (hown : ∀ n, P (ρ.state n) → own (ρ.label n) →
      Q (ρ.state (n + 1)) ∨ P (ρ.state (n + 1)) ∧ rank (ρ.state (n + 1)) < rank (ρ.state n))
    (hothers : ∀ n, P (ρ.state n) → ¬own (ρ.label n) →
      Q (ρ.state (n + 1)) ∨ P (ρ.state (n + 1)) ∧ rank (ρ.state (n + 1)) ≤ rank (ρ.state n)) :
    ρ.LeadsTo P Q := by
  intro n hn
  induction hr : rank (ρ.state n) using Nat.strong_induction_on generalizing n with
  | _ r ih =>
    by_contra hnever
    have hnot : ∀ m, n ≤ m → ¬Q (ρ.state m) := fun m hm hQ => hnever ⟨m, hm, hQ⟩
    -- without `Q`, the rank never rises again
    have hbounded : ∀ m, n ≤ m → P (ρ.state m) ∧ rank (ρ.state m) ≤ r := by
      intro m hm
      induction m, hm using Nat.le_induction with
      | base => exact ⟨hn, hr.le⟩
      | succ m hm ihm =>
          obtain ⟨hP, hrank⟩ := ihm
          by_cases hlabel : own (ρ.label m)
          · obtain ⟨hP', hlt⟩ := (hown m hP hlabel).resolve_left (hnot _ (by omega))
            exact ⟨hP', hlt.le.trans hrank⟩
          · obtain ⟨hP', hle⟩ := (hothers m hP hlabel).resolve_left (hnot _ (by omega))
            exact ⟨hP', hle.trans hrank⟩
    obtain ⟨m, hm, hlabel⟩ := hfair n fun m hm => hready m (hbounded m hm).1 (hnot m hm)
    obtain ⟨hP, hrank⟩ := hbounded m hm
    obtain ⟨hP', hlt⟩ := (hown m hP hlabel).resolve_left (hnot _ (by omega))
    obtain ⟨k, hk, hQ⟩ := ih _ (hlt.trans_le hrank) (m + 1) hP' rfl
    exact hnot k (by omega) hQ

/-- A party that makes a step if `P` lasts gets to `Q` by it, if no other step leaves `P`. -/
theorem leadsTo_of_step (own : α → Prop)
    (hfair : ∀ n, (∀ m, n ≤ m → P (ρ.state m)) → ∃ m, n ≤ m ∧ own (ρ.label m))
    (hown : ∀ n, P (ρ.state n) → own (ρ.label n) → Q (ρ.state (n + 1)))
    (hothers : ∀ n, P (ρ.state n) → ¬own (ρ.label n) →
      Q (ρ.state (n + 1)) ∨ P (ρ.state (n + 1))) : ρ.LeadsTo P Q := by
  intro n hn
  by_contra hnever
  have hnot : ∀ m, n ≤ m → ¬Q (ρ.state m) := fun m hm hQ => hnever ⟨m, hm, hQ⟩
  have hlasts : ∀ m, n ≤ m → P (ρ.state m) := by
    intro m hm
    induction m, hm using Nat.le_induction with
    | base => exact hn
    | succ m hm ihm =>
        by_cases hlabel : own (ρ.label m)
        · exact absurd (hown m ihm hlabel) (hnot _ (by omega))
        · exact (hothers m ihm hlabel).resolve_left (hnot _ (by omega))
  obtain ⟨m, hm, hlabel⟩ := hfair n hlasts
  exact hnot (m + 1) (by omega) (hown m (hlasts m hm) hlabel)

/-- **The rule of strong fairness**: `P` does not last without the party being ready again and
again, so one of its steps brings `Q`. -/
theorem leadsTo_of_strongFair (hfair : ρ.StrongFair own ready)
    (hready : ∀ n, (∀ m, n ≤ m → P (ρ.state m)) → ∃ m, n ≤ m ∧ ready (ρ.state m))
    (hown : ∀ n, P (ρ.state n) → own (ρ.label n) → Q (ρ.state (n + 1)))
    (hothers : ∀ n, P (ρ.state n) → ¬own (ρ.label n) →
      Q (ρ.state (n + 1)) ∨ P (ρ.state (n + 1))) : ρ.LeadsTo P Q :=
  leadsTo_of_step own
    (fun n hlasts => hfair n fun k hk => hready k fun m hm => hlasts m (hk.trans hm)) hown hothers

/-- The first state after which something no longer holds. -/
lemma exists_change {n m : ℕ} (hm : n ≤ m) (hn : P (ρ.state n)) (hP : ¬P (ρ.state m)) :
    ∃ k, n ≤ k ∧ P (ρ.state k) ∧ ¬P (ρ.state (k + 1)) := by
  by_contra hnever
  have hkeeps : ∀ k, n ≤ k → P (ρ.state k) := by
    intro k hk
    induction k, hk using Nat.le_induction with
    | base => exact hn
    | succ k hk ih =>
        by_contra hk'
        exact hnever ⟨k, hk, ih, hk'⟩
  exact hP (hkeeps m hm)

variable (step) in
/-- The states that labels lead to, staying put where one is not enabled. -/
def follow (s : σ) (label : ℕ → α) : ℕ → σ
  | 0 => s
  | n + 1 => (step (follow s label n) (label n)).getD (follow s label n)

/-- The infinite run of labels that are all enabled. -/
def ofLabels (s : σ) (label : ℕ → α)
    (h : ∀ n, (step (follow step s label n) (label n)).isSome = true) : Forever step where
  state := follow step s label
  label := label
  next n := by
    obtain ⟨t, ht⟩ := Option.isSome_iff_exists.mp (h n)
    rw [follow, ht, Option.getD_some]

end Forever

end Run
