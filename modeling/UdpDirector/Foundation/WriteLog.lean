import Mathlib.Logic.Function.Basic
import Mathlib.Data.List.Basic
import Mathlib.Data.Nat.Basic

/-!
The writes to a keyed store, in order, and the subscribers that keep a place in
them.

* `WriteLog`: the contents of the store before the log, and every write since. A
  revision is a number of writes; `contents` is the store at a revision, `live`
  the store now;
* `touches P k`: the write with place `k` concerns an object satisfying `P`, as it
  was before the write or as it is after it;
* `Unread P r`: a subscriber to `P` at the revision `r` has something to read;
* `live_iff_of_read`: while it has not, the stored objects that satisfy `P` are
  those of the revision `r`.
-/

/-- The contents of a keyed store before a log, and every write since. -/
structure WriteLog (Key Obj : Type*) where
  origin : Key → Option Obj
  writes : List (Key × Option Obj) := []

namespace WriteLog

variable {Key Obj : Type*}

/-- The number of writes so far. -/
def revision (log : WriteLog Key Obj) : ℕ := log.writes.length

/-- The log with more writes. -/
def extend (log : WriteLog Key Obj) (more : List (Key × Option Obj)) : WriteLog Key Obj :=
  { log with writes := log.writes ++ more }

@[simp] lemma extend_nil (log : WriteLog Key Obj) : log.extend [] = log := by
  simp [extend]

lemma revision_extend (log : WriteLog Key Obj) (more : List (Key × Option Obj)) :
    (log.extend more).revision = log.revision + more.length := by
  simp [extend, revision]

lemma revision_le_extend (log : WriteLog Key Obj) (more : List (Key × Option Obj)) :
    log.revision ≤ (log.extend more).revision := by
  rw [revision_extend]
  exact Nat.le_add_right _ _

variable [DecidableEq Key]

/-- The store after a write. -/
def write (store : Key → Option Obj) (w : Key × Option Obj) : Key → Option Obj :=
  Function.update store w.1 w.2

/-- The store at a revision. -/
def contents (log : WriteLog Key Obj) (r : ℕ) : Key → Option Obj :=
  (log.writes.take r).foldl write log.origin

/-- The store now. -/
def live (log : WriteLog Key Obj) : Key → Option Obj := log.contents log.revision

/-- The write with a place concerns an object satisfying `P`, before or after it. -/
def touches (log : WriteLog Key Obj) (P : Obj → Bool) (k : ℕ) : Bool :=
  match log.writes[k]? with
  | none => false
  | some (key, after) => (log.contents k key).any P || after.any P

/-- A subscriber to `P` at a revision has something to read. -/
def Unread (log : WriteLog Key Obj) (P : Obj → Bool) (r : ℕ) : Prop :=
  ∃ k < log.revision, r ≤ k ∧ log.touches P k = true

instance (log : WriteLog Key Obj) (P : Obj → Bool) (r : ℕ) : Decidable (log.Unread P r) :=
  inferInstanceAs (Decidable (∃ k < log.revision, r ≤ k ∧ log.touches P k = true))

variable {log : WriteLog Key Obj} {P : Obj → Bool} {more : List (Key × Option Obj)} {r k : ℕ}

/-! ### Logs grow -/

/-- The past does not change. -/
lemma contents_extend (h : r ≤ log.revision) : (log.extend more).contents r = log.contents r := by
  rw [contents, contents, extend, List.take_append_of_le_length h]

lemma touches_extend (h : k < log.revision) :
    (log.extend more).touches P k = log.touches P k := by
  rw [touches, touches, contents_extend (Nat.le_of_lt h), extend, List.getElem?_append_left h]

lemma lt_revision_of_touches (h : log.touches P k = true) : k < log.revision := by
  rw [touches] at h
  split at h
  · simp at h
  · rename_i hk
    exact (List.getElem?_eq_some_iff.mp hk).1

lemma live_extend : (log.extend more).live = more.foldl write log.live := by
  rw [live, live, contents, contents, revision, revision, List.take_length, List.take_length,
    extend, List.foldl_append]

/-! ### What a subscriber has not been told -/

/-- One write further on. -/
lemma contents_succ {w : Key × Option Obj} (h : log.writes[k]? = some w) :
    log.contents (k + 1) = Function.update (log.contents k) w.1 w.2 := by
  obtain ⟨hk, rfl⟩ := List.getElem?_eq_some_iff.mp h
  rw [contents, contents, List.take_add_one, h, Option.toList_some, List.foldl_append]
  rfl

/-- A write that does not concern `P` leaves the objects that satisfy it. -/
lemma contents_succ_iff {key : Key} {o : Obj} (hP : P o = true) (hk : k < log.revision)
    (h : log.touches P k = false) :
    log.contents (k + 1) key = some o ↔ log.contents k key = some o := by
  obtain ⟨w, hw⟩ : ∃ w, log.writes[k]? = some w := ⟨_, List.getElem?_eq_getElem hk⟩
  rw [contents_succ hw]
  rw [touches, hw] at h
  obtain ⟨hbefore, hafter⟩ := Bool.or_eq_false_iff.mp h
  by_cases hkey : key = w.1
  · subst hkey
    rw [Function.update_self]
    constructor
    · intro ho
      rw [ho] at hafter
      simp [hP] at hafter
    · intro ho
      rw [ho] at hbefore
      simp [hP] at hbefore
  · rw [Function.update_of_ne hkey]

/-- **While a subscriber has nothing to read, what it has read is what is stored.** -/
theorem live_iff_of_read {key : Key} {o : Obj} (hr : r ≤ log.revision)
    (h : ¬log.Unread P r) (hP : P o = true) :
    log.live key = some o ↔ log.contents r key = some o := by
  have hstep : ∀ n, r ≤ n → n ≤ log.revision →
      (log.contents n key = some o ↔ log.contents r key = some o) := by
    intro n hn
    induction n, hn using Nat.le_induction with
    | base => exact fun _ => Iff.rfl
    | succ n hn ih =>
        intro hlt
        have huntouched : log.touches P n = false := by
          rw [← Bool.not_eq_true]
          exact fun htouches => h ⟨n, hlt, hn, htouches⟩
        rw [contents_succ_iff hP hlt huntouched]
        exact ih (Nat.le_of_succ_le hlt)
  exact hstep log.revision hr (Nat.le_refl _)

end WriteLog
