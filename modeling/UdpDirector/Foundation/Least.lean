import Mathlib.Data.List.Sort

/-!
The first element of a stable sort, and sorting by a key. A program that sorts and takes
the head selects a least element; one that sorts by a key without ties forgets the order it
was given.

* `mem_of_insertionSort_eq_cons`, `le_of_insertionSort_eq_cons`: the head is an
  element of the list and lies below every other one;
* `FirstLeast`: the first of the elements with a least key, among those that have one; a stable
  sort of the keyed elements has it at its head, and there is one only;
* `firstLeast_iff_of_outdone`: it is the same where further elements are given keys and each of
  them is outdone by one of the others;
* `pairwise_lt_insertionSort_key`, `filter_insertionSort_key`: a list without repeated keys
  is sorted strictly, and it can be filtered before or after;
* `eq_of_pairwise_lt_key_of_mem_iff`: a list in strictly ascending order of its keys is
  determined by its members.
-/

namespace List

variable {α : Type*} {r : α → α → Prop} [DecidableRel r]

lemma mem_of_insertionSort_eq_cons {l rest : List α} {m : α}
    (h : insertionSort r l = m :: rest) : m ∈ l :=
  (mem_insertionSort r).mp (h ▸ mem_cons_self)

/-- The head of a sorted list lies below every element. -/
lemma le_of_insertionSort_eq_cons [Std.Total r] [IsTrans α r] {l rest : List α} {m a : α}
    (h : insertionSort r l = m :: rest) (ha : a ∈ l) : r m a := by
  have hsorted := pairwise_insertionSort r l
  have hmem : a ∈ insertionSort r l := (mem_insertionSort r).mpr ha
  rw [h] at hsorted hmem
  rcases mem_cons.mp hmem with rfl | hmem
  · exact (Std.Total.total (r := r) a a).elim id id
  · exact (pairwise_cons.mp hsorted).1 a hmem

/-- Every element before the head of a sorted list does not lie below it. -/
lemma exists_append_of_insertionSort_eq_cons [Std.Total r] [IsTrans α r] {l rest : List α} {m : α}
    (h : insertionSort r l = m :: rest) :
    ∃ pre post, l = pre ++ m :: post ∧ ∀ a ∈ pre, ¬r a m := by
  induction l generalizing m rest with
  | nil => simp at h
  | cons a l ih =>
      have hcons : insertionSort r (a :: l) = orderedInsert r a (insertionSort r l) := rfl
      cases hl : insertionSort r l with
      | nil =>
          rw [hcons, hl, orderedInsert_nil] at h
          obtain ⟨rfl, -⟩ := List.cons.inj h
          exact ⟨[], l, rfl, by simp⟩
      | cons m' rest' =>
          rw [hcons, hl, orderedInsert] at h
          split at h
          · obtain ⟨rfl, -⟩ := List.cons.inj h
            exact ⟨[], l, rfl, by simp⟩
          · rename_i hnot
            obtain ⟨rfl, -⟩ := List.cons.inj h
            obtain ⟨pre, post, rfl, hpre⟩ := ih hl
            refine ⟨a :: pre, post, rfl, fun b hb => ?_⟩
            rcases mem_cons.mp hb with rfl | hb
            · exact hnot
            · exact hpre b hb

/-! ### The first least element by a partial key -/

section First

variable {κ κ' : Type*} {s : κ → κ → Prop} {s' : κ' → κ' → Prop} {key : α → Option κ}
  {l : List α} {a a' : α}

/-- The element is the first of the list with a least key, among those that have a key. -/
def FirstLeast (s : κ → κ → Prop) (key : α → Option κ) (l : List α) (a : α) : Prop :=
  ∃ pre post k, l = pre ++ a :: post ∧ key a = some k
    ∧ (∀ b ∈ pre, ∀ k' ∈ key b, ¬s k' k) ∧ ∀ b ∈ l, ∀ k' ∈ key b, s k k'

/-- The elements that have a key, each with its key. -/
def keyed (key : α → Option κ) (l : List α) : List (α × κ) :=
  l.filterMap fun a => (key a).map fun k => (a, k)

lemma mem_keyed {k : κ} : (a, k) ∈ keyed key l ↔ a ∈ l ∧ key a = some k := by
  simp only [keyed, mem_filterMap, Option.map_eq_some_iff, Prod.mk.injEq]
  constructor
  · rintro ⟨b, hb, k', hk, rfl, rfl⟩
    exact ⟨hb, hk⟩
  · rintro ⟨ha, hk⟩
    exact ⟨a, ha, k, hk, rfl, rfl⟩

/-- There is one first least element only. -/
lemma FirstLeast.unique (h : FirstLeast s key l a) (h' : FirstLeast s key l a') : a = a' := by
  obtain ⟨pre, post, k, rfl, hk, hpre, hleast⟩ := h
  obtain ⟨pre', post', k', heq, hk', hpre', hleast'⟩ := h'
  rcases append_eq_append_iff.mp heq with ⟨mid, rfl, hmid⟩ | ⟨mid, rfl, hmid⟩
  · cases mid with
    | nil => exact (List.cons.inj hmid).1
    | cons b mid =>
        obtain ⟨rfl, -⟩ := List.cons.inj hmid
        refine absurd (hleast a' ?_ k' hk') (hpre' a (by simp) k hk)
        rw [heq]
        simp
  · cases mid with
    | nil => exact (List.cons.inj hmid).1.symm
    | cons b mid =>
        obtain ⟨rfl, -⟩ := List.cons.inj hmid
        exact absurd (hleast' a (by simp) k hk) (hpre a' (by simp) k' hk')

/-- Keys can be replaced along a map that keeps their order. -/
lemma firstLeast_map {f : κ → κ'} (hf : ∀ k k', s k k' ↔ s' (f k) (f k')) :
    FirstLeast s' (fun a => (key a).map f) l a ↔ FirstLeast s key l a := by
  constructor
  · rintro ⟨pre, post, k', hl, hk', hpre, hleast⟩
    obtain ⟨k, hk, rfl⟩ := Option.map_eq_some_iff.mp hk'
    refine ⟨pre, post, k, hl, hk, fun b hb j hj => ?_, fun b hb j hj => ?_⟩
    · rw [hf]
      exact hpre b hb (f j) (Option.mem_map_of_mem f hj)
    · rw [hf]
      exact hleast b hb (f j) (Option.mem_map_of_mem f hj)
  · rintro ⟨pre, post, k, hl, hk, hpre, hleast⟩
    refine ⟨pre, post, f k, hl, Option.mem_map_of_mem f hk, fun b hb j' hj' => ?_,
      fun b hb j' hj' => ?_⟩
    · obtain ⟨j, hj, rfl⟩ := Option.mem_map.mp hj'
      rw [← hf]
      exact hpre b hb j hj
    · obtain ⟨j, hj, rfl⟩ := Option.mem_map.mp hj'
      rw [← hf]
      exact hleast b hb j hj

/-- An element with a key stands before one that has the key `k` and lies between `pre` and
`post`. -/
def Outdone (s : κ → κ → Prop) (key : α → Option κ) (pre post : List α) (k : κ) : Prop :=
  (∃ b ∈ pre, ∃ k' ∈ key b, s k' k) ∨ ∃ b ∈ post, ∃ k' ∈ key b, ¬s k k'

/-- The first least element outdoes every other one. -/
lemma FirstLeast.outdone {key' : α → Option κ} {pre post : List α} {b : α} {k : κ}
    (h : FirstLeast s key' l a) (hkey : key a = key' a) (hl : l = pre ++ b :: post)
    (hk : key' b = some k) (hne : b ≠ a) : Outdone s key pre post k := by
  obtain ⟨before, after, k', heq, hk', hbefore, hleast⟩ := h
  rw [← hkey] at hk'
  rw [hl] at heq hleast
  rcases append_eq_append_iff.mp heq with ⟨mid, rfl, hmid⟩ | ⟨mid, rfl, hmid⟩
  · cases mid with
    | nil => exact absurd (List.cons.inj hmid).1 hne
    | cons c mid =>
        obtain ⟨rfl, rfl⟩ := List.cons.inj hmid
        exact .inr ⟨a, by simp, k', hk', hbefore b (by simp) k hk⟩
  · cases mid with
    | nil => exact absurd (List.cons.inj hmid).1.symm hne
    | cons c mid =>
        obtain ⟨rfl, rfl⟩ := List.cons.inj hmid
        exact .inl ⟨a, by simp, k', hk', hleast b (by simp) k hk⟩

/-- An outdone element is not the first least one, which hence had a key before. -/
lemma FirstLeast.of_outdone {key' : α → Option κ} (h : FirstLeast s key' l a)
    (hext : ∀ b ∈ l, ∀ k ∈ key b, key' b = some k)
    (hout : ∀ pre b post, l = pre ++ b :: post → key b = none → ∀ k ∈ key' b,
      Outdone s key pre post k) : FirstLeast s key l a := by
  obtain ⟨pre, post, k, rfl, hk', hpre, hleast⟩ := h
  cases hk : key a with
  | none =>
      rcases hout pre a post rfl hk k hk' with ⟨b, hb, j, hj, hs⟩ | ⟨b, hb, j, hj, hs⟩
      · exact absurd hs (hpre b hb j (hext b (by simp [hb]) j hj))
      · exact absurd (hleast b (by simp [hb]) j (hext b (by simp [hb]) j hj)) hs
  | some j =>
      obtain rfl := Option.some.inj ((hext a (by simp) j hk).symm.trans hk')
      exact ⟨pre, post, j, rfl, hk,
        fun b hb i hi => hpre b hb i (hext b (by simp [hb]) i hi),
        fun b hb i hi => hleast b hb i (hext b hb i hi)⟩

variable [DecidableRel s]

lemma key_eq_none_of_insertionSort (h : insertionSort (fun p q => s p.2 q.2) (keyed key l) = []) :
    ∀ a ∈ l, key a = none := by
  intro a ha
  have hnil : keyed key l = [] := by
    rw [← length_eq_zero_iff, ← length_insertionSort (fun p q => s p.2 q.2), h, length_nil]
  cases hk : key a with
  | none => rfl
  | some k =>
      have hmem := mem_keyed.mpr ⟨ha, hk⟩
      rw [hnil] at hmem
      simp at hmem

/-- **A stable sort has the first least element at its head.** -/
lemma firstLeast_of_insertionSort [Std.Total s] [IsTrans κ s] {k : κ} {rest : List (α × κ)}
    (h : insertionSort (fun p q => s p.2 q.2) (keyed key l) = (a, k) :: rest) :
    FirstLeast s key l a := by
  have htotal : Std.Total fun p q : α × κ => s p.2 q.2 :=
    ⟨fun p q => Std.Total.total (r := s) p.2 q.2⟩
  have htrans : IsTrans (α × κ) fun p q => s p.2 q.2 := ⟨fun _ _ _ => IsTrans.trans (r := s) _ _ _⟩
  obtain ⟨pre, post, hsplit, hpre⟩ := exists_append_of_insertionSort_eq_cons h
  obtain ⟨before, after, rfl, rfl, hafter⟩ := filterMap_eq_append_iff.mp hsplit
  obtain ⟨skipped, b, tail, rfl, hskipped, hb, -⟩ := filterMap_eq_cons_iff.mp hafter
  obtain ⟨k', hk, heq⟩ := Option.map_eq_some_iff.mp hb
  obtain ⟨rfl, rfl⟩ := Prod.mk.inj heq
  refine ⟨before ++ skipped, tail, k', by simp, hk, fun c hc j hj => ?_, fun c hc j hj => ?_⟩
  · rcases mem_append.mp hc with hc | hc
    · exact hpre (c, j) (mem_keyed.mpr ⟨hc, hj⟩)
    · have hnone := hskipped c hc
      rw [Option.mem_def.mp hj] at hnone
      cases hnone
  · exact le_of_insertionSort_eq_cons h (a := (c, j)) (mem_keyed.mpr ⟨hc, hj⟩)

lemma exists_firstLeast [Std.Total s] [IsTrans κ s] {k : κ} (ha : a ∈ l) (hk : key a = some k) :
    ∃ b, FirstLeast s key l b := by
  cases h : insertionSort (fun p q => s p.2 q.2) (keyed key l) with
  | nil =>
      rw [key_eq_none_of_insertionSort h a ha] at hk
      cases hk
  | cons p rest => exact ⟨p.1, firstLeast_of_insertionSort (k := p.2) h⟩

/-- **Outdone elements do not matter**: the first least element is the same where further
elements are given keys, if each of these is outdone by one that had a key before. -/
theorem firstLeast_iff_of_outdone [Std.Total s] [IsTrans κ s] {key' : α → Option κ}
    (hext : ∀ b ∈ l, ∀ k ∈ key b, key' b = some k)
    (hout : ∀ pre b post, l = pre ++ b :: post → key b = none → ∀ k ∈ key' b,
      Outdone s key pre post k) : FirstLeast s key l a ↔ FirstLeast s key' l a := by
  refine ⟨fun h => ?_, fun h => h.of_outdone hext hout⟩
  obtain ⟨pre, post, k, hl, hk, -⟩ := id h
  have ha : a ∈ l := by rw [hl]; simp
  obtain ⟨b, hb⟩ := exists_firstLeast (s := s) ha (hext a ha k hk)
  obtain rfl := h.unique (hb.of_outdone hext hout)
  exact hb

/-- What a program that sorts keyed elements and takes the first one selects. -/
theorem head?_insertionSort_keyed [Std.Total s] [IsTrans κ s] :
    (insertionSort (fun p q => s p.2 q.2) (keyed key l)).head?.map Prod.fst = some a
      ↔ FirstLeast s key l a := by
  cases h : insertionSort (fun p q => s p.2 q.2) (keyed key l) with
  | nil =>
      simp only [head?_nil, Option.map_none, reduceCtorEq, false_iff]
      rintro ⟨pre, post, k, rfl, hk, -⟩
      rw [key_eq_none_of_insertionSort h a (by simp)] at hk
      cases hk
  | cons p rest =>
      simp only [head?_cons, Option.map_some, Option.some.injEq]
      have hfirst := firstLeast_of_insertionSort (k := p.2) h
      exact ⟨fun heq => heq ▸ hfirst, fun h' => hfirst.unique h'⟩

end First

/-! ### Sorting by a key -/

section Key

variable {β : Type*} [LinearOrder β] {key : α → β} {l l' : List α}

local instance totalKeyLe : Std.Total fun a b : α => key a ≤ key b :=
  ⟨fun a b => le_total (key a) (key b)⟩

local instance isTransKeyLe : IsTrans α fun a b => key a ≤ key b := ⟨fun _ _ _ => le_trans⟩

/-- Without repeated keys the sorted list ascends strictly. -/
lemma pairwise_lt_insertionSort_key (h : (l.map key).Nodup) :
    (insertionSort (fun a b => key a ≤ key b) l).Pairwise fun a b => key a < key b := by
  have hle := pairwise_insertionSort (fun a b => key a ≤ key b) l
  have hne : ((insertionSort (fun a b => key a ≤ key b) l).map key).Nodup :=
    ((perm_insertionSort _ l).map key).nodup_iff.mpr h
  exact hle.imp₂ (fun _ _ hle hne => lt_of_le_of_ne hle hne) (pairwise_map.mp hne)

/-- Two lists in ascending order of their keys, none repeated, with the same elements. -/
lemma eq_of_pairwise_lt_key (h : l.Pairwise fun a b => key a < key b)
    (h' : l'.Pairwise fun a b => key a < key b) (hperm : l.Perm l') : l = l' :=
  hperm.eq_of_pairwise (fun _ _ _ _ hab hba => absurd hab (lt_asymm hba)) h h'

/-- Lists in strictly ascending order of their keys are equal if they have the same
members. -/
lemma eq_of_pairwise_lt_key_of_mem_iff (h : l.Pairwise fun a b => key a < key b)
    (h' : l'.Pairwise fun a b => key a < key b) (hmem : ∀ a, a ∈ l ↔ a ∈ l') : l = l' := by
  have hnodup : ∀ {m : List α}, (m.Pairwise fun a b => key a < key b) → m.Nodup :=
    fun hm => hm.imp fun hlt heq => (heq ▸ hlt).ne rfl
  exact eq_of_pairwise_lt_key h h' ((perm_ext_iff_of_nodup (hnodup h) (hnodup h')).mpr hmem)

/-- Without repeated keys a list can be filtered before or after. -/
lemma filter_insertionSort_key (h : (l.map key).Nodup) (p : α → Bool) :
    (insertionSort (fun a b => key a ≤ key b) l).filter p
      = insertionSort (fun a b => key a ≤ key b) (l.filter p) := by
  have hfilter : ((l.filter p).map key).Nodup := h.sublist (filter_sublist.map key)
  refine eq_of_pairwise_lt_key ((pairwise_lt_insertionSort_key h).filter p)
    (pairwise_lt_insertionSort_key hfilter) ?_
  exact ((perm_insertionSort _ l).filter p).trans (perm_insertionSort _ _).symm

end Key

end List
