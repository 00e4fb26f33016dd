import Mathlib.Data.List.Basic
import Mathlib.Data.Nat.Find

/-!
A message without a length, read from a stream that arrives in pieces. After every piece a
judge sees all that has been read: it accepts, asks for more, or rejects. The stream decides
what is read, and not its pieces, exactly under a condition.

* `read`: the loop over the pieces, with a limit on what is read; `Cut`: the pieces of a
  stream, none of them empty or too large;
* `Sequential`: a judge that reads from left to right, for which nothing makes up for a
  rejected part, and a message that goes on is the same message or rejected;
* `First`: where the shortest accepted part of a stream ends;
* `read_of_first`: a reader that sees an accepted part judges at the first boundary not before
  its end; `independent_iff`: every cut reads the same exactly if the longest part that can be
  judged there is accepted too.
-/

namespace Framing

variable {α β : Type*}

/-! ### Judges and readers -/

/-- What a judge makes of what has been read. -/
inductive Verdict (β : Type*) where
  | accept (b : β)
  | more
  | reject

/-- The message of a verdict. -/
def Verdict.message : Verdict β → Option β
  | .accept b => some b
  | .more => none
  | .reject => none

/-- A judge that reads from left to right. -/
structure Sequential (judge : List α → Verdict β) : Prop where
  accept_append : ∀ s t b, judge s = .accept b →
    judge (s ++ t) = .accept b ∨ judge (s ++ t) = .reject
  reject_append : ∀ s t b, judge s = .reject → judge (s ++ t) ≠ .accept b

/-- The message that is read from some pieces after what was read before. -/
def read (limit : ℕ) (judge : List α → Verdict β) : List α → List (List α) → Option β
  | _, [] => none
  | s, piece :: pieces =>
      if limit < (s ++ piece).length then
        none
      else
        match judge (s ++ piece) with
        | .accept b => some b
        | .more => read limit judge (s ++ piece) pieces
        | .reject => none

/-- The pieces that a stream arrives in. -/
structure Cut (size : ℕ) (stream : List α) (pieces : List (List α)) : Prop where
  flatten : pieces.flatten = stream
  ne_nil : ∀ piece ∈ pieces, piece ≠ []
  length_le : ∀ piece ∈ pieces, piece.length ≤ size

/-- The shortest accepted part of a stream ends here; up to it the judge asks for more. -/
structure First (judge : List α → Verdict β) (stream : List α) (k : ℕ) : Prop where
  pos : 0 < k
  le : k ≤ stream.length
  accepts : ∃ b, judge (stream.take k) = .accept b
  more : ∀ j, 0 < j → j < k → judge (stream.take j) = .more

section

variable {limit size : ℕ} {judge : List α → Verdict β} {stream s : List α}
  {pieces : List (List α)}

/-! ### Accepted parts -/

lemma Sequential.of_le (hjudge : Sequential judge) {j k : ℕ} (hle : j ≤ k) {b : β}
    (h : judge (stream.take j) = .accept b) :
    judge (stream.take k) = .accept b ∨ judge (stream.take k) = .reject := by
  have happend := hjudge.accept_append _ ((stream.drop j).take (k - j)) b h
  rwa [← List.take_add, Nat.add_sub_cancel' hle] at happend

lemma Sequential.not_accept_of_le (hjudge : Sequential judge) {j k : ℕ} (hle : j ≤ k) {b : β}
    (h : judge (stream.take j) = .reject) : judge (stream.take k) ≠ .accept b := by
  have happend := hjudge.reject_append _ ((stream.drop j).take (k - j)) b h
  rwa [← List.take_add, Nat.add_sub_cancel' hle] at happend

/-- Between two accepted parts everything is accepted, and as the same message. -/
lemma Sequential.between (hjudge : Sequential judge) {j m k : ℕ} (hjm : j ≤ m) (hmk : m ≤ k)
    {b b' : β} (hj : judge (stream.take j) = .accept b) (hk : judge (stream.take k) = .accept b') :
    judge (stream.take m) = .accept b := by
  rcases hjudge.of_le hjm hj with hm | hm
  · exact hm
  · exact absurd hk (hjudge.not_accept_of_le hmk hm)

/-- Where some part of a stream is accepted, a shortest one is, and the judge asks for more up
to it. -/
lemma Sequential.exists_first (hjudge : Sequential judge) {k : ℕ} (hpos : 0 < k)
    (hle : k ≤ stream.length) {b : β} (h : judge (stream.take k) = .accept b) :
    ∃ k, First judge stream k := by
  classical
  have hex : ∃ k, 0 < k ∧ k ≤ stream.length ∧ ∃ b, judge (stream.take k) = .accept b :=
    ⟨k, hpos, hle, b, h⟩
  obtain ⟨hpos', hle', b', hb'⟩ := Nat.find_spec hex
  refine ⟨Nat.find hex, hpos', hle', ⟨b', hb'⟩, fun j hj hlt => ?_⟩
  have hnot : ¬∃ b, judge (stream.take j) = .accept b :=
    fun hb => Nat.find_min hex hlt ⟨hj, Nat.le_trans (Nat.le_of_lt hlt) hle', hb⟩
  cases hv : judge (stream.take j) with
  | accept b => exact absurd ⟨b, hv⟩ hnot
  | more => rfl
  | reject => exact absurd hb' (hjudge.not_accept_of_le (Nat.le_of_lt hlt) hv)

/-! ### What is read -/

lemma take_boundary (s piece rest : List α) :
    (s ++ (piece ++ rest)).take (s ++ piece).length = s ++ piece := by
  rw [← List.append_assoc, List.take_left]

/-- A message is read off some part of the stream. -/
lemma exists_of_read {b : β} (hne : ∀ piece ∈ pieces, piece ≠ [])
    (h : read limit judge s pieces = some b) :
    ∃ k, s.length < k ∧ k ≤ (s ++ pieces.flatten).length
      ∧ judge ((s ++ pieces.flatten).take k) = .accept b := by
  induction pieces generalizing s with
  | nil => simp [read] at h
  | cons piece pieces ih =>
      have hpos : 0 < piece.length := List.length_pos_iff.mpr (hne piece List.mem_cons_self)
      have hboundary := take_boundary s piece pieces.flatten
      rw [List.flatten_cons]
      rw [read] at h
      split at h
      · simp at h
      cases hv : judge (s ++ piece) with
      | accept b' =>
          rw [hv] at h
          obtain rfl := Option.some.inj h
          refine ⟨(s ++ piece).length, ?_, ?_, hboundary.symm ▸ hv⟩
          · rw [List.length_append]
            omega
          · simp only [List.length_append]
            omega
      | more =>
          rw [hv] at h
          obtain ⟨k, hlt, hle, hk⟩ := ih (fun p hp => hne p (List.mem_cons_of_mem piece hp)) h
          rw [List.append_assoc] at hle hk
          rw [List.length_append] at hlt
          exact ⟨k, by omega, hle, hk⟩
      | reject =>
          rw [hv] at h
          simp at h

/-- **The boundary that decides**: a reader that has not reached the end of the shortest
accepted part judges at the first boundary not before it, less than one piece further on. -/
lemma read_of_first (limit : ℕ) (hjudge : Sequential judge)
    (hpieces : ∀ piece ∈ pieces, piece ≠ [] ∧ piece.length ≤ size) {k : ℕ}
    (hfirst : First judge (s ++ pieces.flatten) k) (hs : s.length < k) :
    ∃ m, k ≤ m ∧ m ≤ (s ++ pieces.flatten).length ∧ m < k + size
      ∧ read limit judge s pieces
        = if limit < m then none else (judge ((s ++ pieces.flatten).take m)).message := by
  induction pieces generalizing s with
  | nil =>
      have hle := hfirst.le
      simp only [List.flatten_nil, List.append_nil] at hle
      omega
  | cons piece pieces ih =>
      obtain ⟨hne, hsize⟩ := hpieces piece List.mem_cons_self
      have hrest := fun p hp => hpieces p (List.mem_cons_of_mem piece hp)
      have hboundary := take_boundary s piece pieces.flatten
      have hpos : 0 < piece.length := List.length_pos_iff.mpr hne
      have hlength : (s ++ piece).length = s.length + piece.length := List.length_append
      have htotal : (s ++ (piece ++ pieces.flatten)).length
          = (s ++ piece).length + pieces.flatten.length := by
        rw [← List.append_assoc, List.length_append]
      rw [List.flatten_cons] at hfirst ⊢
      rw [read]
      rcases Nat.lt_or_ge (s ++ piece).length k with hlt | hge
      · by_cases hlimit : limit < (s ++ piece).length
        · refine ⟨k, le_rfl, hfirst.le, by omega, ?_⟩
          rw [if_pos hlimit, if_pos (Nat.lt_trans hlimit hlt)]
        · have hmore : judge (s ++ piece) = .more := by
            rw [← hboundary]
            exact hfirst.more _ (by omega) hlt
          rw [← List.append_assoc] at hfirst ⊢
          rw [if_neg hlimit, hmore]
          exact ih hrest hfirst hlt
      · refine ⟨(s ++ piece).length, hge, by omega, by omega, ?_⟩
        obtain ⟨b, hb⟩ := hfirst.accepts
        have hv := hjudge.of_le hge hb
        rw [hboundary] at hv ⊢
        split
        · rfl
        · rcases hv with hv | hv
          · rw [hv, Verdict.message]
          · rw [hv, Verdict.message]

/-- Without an accepted part nothing is read. -/
lemma read_eq_none (hcut : Cut size stream pieces) (h : ¬∃ k, First judge stream k)
    (hjudge : Sequential judge) : read limit judge [] pieces = none := by
  obtain ⟨rfl, hne, -⟩ := hcut
  rw [Option.eq_none_iff_forall_ne_some]
  intro b hread
  obtain ⟨k, hpos, hle, hk⟩ := exists_of_read hne hread
  rw [List.nil_append] at hle hk
  exact h (hjudge.exists_first hpos hle hk)

/-! ### Cuts of a stream -/

/-- One element at a time. -/
def singly (l : List α) : List (List α) := l.map fun a => [a]

/-- One element at a time, but for one piece between two places. -/
def cutAt (stream : List α) (j m : ℕ) : List (List α) :=
  singly (stream.take j) ++ (stream.drop j).take (m - j) :: singly (stream.drop m)

@[simp] lemma flatten_singly (l : List α) : (singly l).flatten = l := by
  induction l with
  | nil => rfl
  | cons a l ih => simpa [singly] using ih

lemma mem_singly {l piece : List α} (h : piece ∈ singly l) : piece.length = 1 := by
  obtain ⟨a, -, rfl⟩ := List.mem_map.mp h
  rfl

lemma cut_cutAt {j m : ℕ} (hjm : j < m) (hm : m ≤ stream.length) (hsize : m - j ≤ size) :
    Cut size stream (cutAt stream j m) := by
  have hlength : ((stream.drop j).take (m - j)).length = m - j := by
    rw [List.length_take, List.length_drop]
    omega
  have hall : ∀ piece ∈ cutAt stream j m, piece.length = 1 ∨ piece.length = m - j := by
    intro piece hpiece
    rcases List.mem_append.mp hpiece with hpiece | hpiece
    · exact .inl (mem_singly hpiece)
    · rcases List.mem_cons.mp hpiece with rfl | hpiece
      · exact .inr hlength
      · exact .inl (mem_singly hpiece)
  refine ⟨?_, fun piece hpiece => ?_, fun piece hpiece => ?_⟩
  · have hdrop : stream.drop m = (stream.drop j).drop (m - j) := by
      rw [List.drop_drop, Nat.add_sub_cancel' (Nat.le_of_lt hjm)]
    rw [cutAt, List.flatten_append, List.flatten_cons, flatten_singly, flatten_singly, hdrop,
      List.take_append_drop, List.take_append_drop]
  · rw [← List.length_pos_iff]
    rcases hall piece hpiece with h | h <;> omega
  · rcases hall piece hpiece with h | h <;> omega

/-- Single elements are read on while the judge asks for more. -/
lemma read_singly {l : List α} {rest : List (List α)}
    (hlimit : (s ++ l).length ≤ limit)
    (hmore : ∀ j, s.length < j → j ≤ (s ++ l).length → judge ((s ++ l).take j) = .more) :
    read limit judge s (singly l ++ rest) = read limit judge (s ++ l) rest := by
  induction l generalizing s with
  | nil => simp [singly]
  | cons a l ih =>
      have hassoc : s ++ a :: l = s ++ [a] ++ l := by simp
      have hlength : (s ++ [a]).length = s.length + 1 := by simp
      rw [hassoc] at hlimit hmore ⊢
      have htotal : (s ++ [a] ++ l).length = (s ++ [a]).length + l.length := List.length_append
      have hhere : judge (s ++ [a]) = .more := by
        have hj := hmore (s ++ [a]).length (by omega) (by omega)
        rwa [List.take_left] at hj
      change read limit judge s ([a] :: (singly l ++ rest)) = _
      rw [read, if_neg (by omega), hhere]
      exact ih hlimit fun j hj hle => hmore j (by omega) hle

/-- What is read from a cut with a boundary just before the end of the shortest accepted part
and the next one not before it. -/
lemma read_cutAt (hjudge : Sequential judge) {k m : ℕ} (hfirst : First judge stream k)
    (hlimit : k ≤ limit) (hkm : k ≤ m) (hm : m ≤ stream.length) :
    read limit judge [] (cutAt stream (k - 1) m)
      = if limit < m then none else (judge (stream.take m)).message := by
  obtain ⟨b, hb⟩ := hfirst.accepts
  have hpos := hfirst.pos
  have hv := hjudge.of_le hkm hb
  have hlength : (stream.take (k - 1)).length = k - 1 := by
    rw [List.length_take]
    omega
  have hmore : ∀ j, 0 < j → j ≤ k - 1 → judge ((stream.take (k - 1)).take j) = .more := by
    intro j hj hle
    rw [List.take_take, Nat.min_eq_left hle]
    exact hfirst.more j hj (by omega)
  have hpiece : stream.take (k - 1) ++ (stream.drop (k - 1)).take (m - (k - 1))
      = stream.take m := by
    rw [← List.take_add, Nat.add_sub_cancel' (by omega)]
  have htake : (stream.take m).length = m := by
    rw [List.length_take]
    omega
  rw [cutAt, read_singly (by rw [List.nil_append, hlength]; omega)
    (by rw [List.nil_append, hlength]; exact hmore), List.nil_append, read, hpiece, htake]
  split
  · rfl
  · rcases hv with hv | hv
    · rw [hv, Verdict.message]
    · rw [hv, Verdict.message]

/-! ### When the pieces do not matter -/

/-- **The pieces of a stream do not matter exactly if what may follow the shortest accepted
part in the same piece is accepted with it**, within the limit, or that part is beyond the
limit already. -/
theorem independent_iff (limit : ℕ) (stream : List α) (hjudge : Sequential judge)
    (hsize : 0 < size) :
    (∀ pieces pieces', Cut size stream pieces → Cut size stream pieces' →
        read limit judge [] pieces = read limit judge [] pieces')
      ↔ ∀ k, First judge stream k → k ≤ limit →
        min stream.length (k + size - 1) ≤ limit
          ∧ ∃ b, judge (stream.take (min stream.length (k + size - 1))) = .accept b := by
  constructor
  · intro h k hfirst hlimit
    obtain ⟨b, hb⟩ := hfirst.accepts
    have hpos := hfirst.pos
    have hle := hfirst.le
    have hfar : k ≤ min stream.length (k + size - 1) := by omega
    have heq := h _ _ (cut_cutAt (j := k - 1) (m := k) (by omega) hle (by omega))
      (cut_cutAt (j := k - 1) (m := min stream.length (k + size - 1)) (by omega) (by omega)
        (by omega))
    rw [read_cutAt hjudge hfirst hlimit le_rfl hle,
      read_cutAt hjudge hfirst hlimit hfar (Nat.min_le_left _ _), if_neg (by omega), hb,
      Verdict.message] at heq
    split at heq
    · simp at heq
    · rename_i hlimit'
      refine ⟨by omega, b, ?_⟩
      rcases hjudge.of_le hfar hb with hv | hv
      · exact hv
      · rw [hv, Verdict.message] at heq
        simp at heq
  · intro h pieces pieces' hcut hcut'
    by_cases hfirst : ∃ k, First judge stream k
    swap
    · rw [read_eq_none hcut hfirst hjudge, read_eq_none hcut' hfirst hjudge]
    obtain ⟨k, hfirst⟩ := hfirst
    obtain ⟨b, hb⟩ := hfirst.accepts
    have hread : ∀ {ps : List (List α)}, Cut size stream ps →
        read limit judge [] ps = if limit < k then none else some b := by
      rintro ps ⟨rfl, hne, hsize⟩
      obtain ⟨m, hkm, hm, hmsize, hread⟩ := read_of_first (s := []) limit hjudge
        (fun p hp => ⟨hne p hp, hsize p hp⟩) hfirst hfirst.pos
      rw [hread]
      by_cases hlimit : limit < k
      · rw [if_pos hlimit, if_pos (by omega)]
      · obtain ⟨hfar, b', hb'⟩ := h k hfirst (by omega)
        rw [List.nil_append] at hm ⊢
        rw [if_neg hlimit, if_neg (by omega),
          hjudge.between hkm (by omega) hb hb', Verdict.message]
    rw [hread hcut, hread hcut']

end

end Framing
