import Mathlib.Data.Nat.Notation

/-!
Inversion of a successful `Except` computation: what a sequence of fallible calls
must have returned when the whole of it returned a value.
-/

namespace Except

universe u v

variable {ε : Type u} {α β : Type v}

/-- A sequence returns a value only if both parts do. -/
lemma exists_of_bind_eq_ok {x : Except ε α} {f : α → Except ε β} {b : β}
    (h : (x >>= f) = .ok b) : ∃ a, x = .ok a ∧ f a = .ok b := by
  cases x with
  | error e => cases h
  | ok a => exact ⟨a, rfl, h⟩

/-- A sequence of two checks passes if both do. -/
lemma seq_eq_ok_iff {x : Except ε PUnit} {y : Except ε β} {b : β} :
    (x >>= fun _ => y) = .ok b ↔ x = .ok ⟨⟩ ∧ y = .ok b := by
  constructor
  · intro h
    obtain ⟨_, hx, hy⟩ := exists_of_bind_eq_ok h
    exact ⟨hx, hy⟩
  · rintro ⟨rfl, hy⟩
    exact hy

/-- A check of every element of a list passes if it passes at each. -/
lemma forM_eq_ok_iff {check : α → Except ε PUnit} {l : List α} :
    l.forM check = .ok ⟨⟩ ↔ ∀ a ∈ l, check a = .ok ⟨⟩ := by
  induction l with
  | nil => simp [pure, Except.pure]
  | cons a l ih => rw [List.forM, seq_eq_ok_iff, ih, List.forall_mem_cons]

/-- A mapped result comes from a result. -/
lemma exists_of_map_eq_ok {x : Except ε α} {f : α → β} {b : β} (h : x.map f = .ok b) :
    ∃ a, x = .ok a ∧ f a = b := by
  cases x with
  | error e => cases h
  | ok a => exact ⟨a, rfl, ok.inj h⟩

/-- A computation with a value succeeded. -/
lemma eq_ok_of_toOption {ε α : Type*} {x : Except ε α} {a : α} (h : x.toOption = some a) :
    x = .ok a := by
  cases x with
  | error e => cases h
  | ok b => exact congrArg ok (Option.some.inj h)

end Except
