import Mathlib.Data.List.AList

/-!
Finite maps as association lists with pairwise distinct keys: the hash maps and
ordered maps of a program, read without their iteration order.

* `Table K V` is Mathlib's `AList` at a constant family, so an entry list with a
  repeated key cannot be built;
* `Table.retain`, `Table.alter`: the two operations `AList` lacks, filtering the
  entries and updating one value in place, with their lookups;
* `Table.gather` collects one optional result per entry. `length_gather_insert`
  and `length_gather` say what one key contributes to the number of results,
  which is how an insertion changes a count.
-/

/-- A finite map: an association list whose keys are pairwise distinct. -/
abbrev Table (K V : Type*) := AList fun _ : K => V

namespace Table

variable {K V W : Type*}

/-! ### Retaining and altering entries -/

/-- The entries satisfying `p`. -/
def retain (p : K → V → Bool) (t : Table K V) : Table K V :=
  ⟨t.entries.filter fun e => p e.1 e.2, t.nodupKeys.sublist List.filter_sublist⟩

lemma entries_retain (p : K → V → Bool) (t : Table K V) :
    (retain p t).entries = t.entries.filter fun e => p e.1 e.2 := rfl

section

variable [DecidableEq K]

/-- A lookup is membership of the pair. -/
lemma lookup_eq_some {t : Table K V} {k : K} {v : V} :
    t.lookup k = some v ↔ (⟨k, v⟩ : Σ _ : K, V) ∈ t.entries :=
  AList.mem_lookup_iff

/-- A lookup in a retained table keeps the value exactly when `p` accepts it. -/
lemma lookup_retain (p : K → V → Bool) (t : Table K V) (k : K) :
    (retain p t).lookup k = (t.lookup k).filter (p k) := by
  ext v
  rw [Option.filter_eq_some_iff, lookup_eq_some, lookup_eq_some, entries_retain, List.mem_filter]

/-- The value at `k` replaced by its image, the table unchanged when there is
none. -/
def alter (k : K) (f : V → V) (t : Table K V) : Table K V :=
  match t.lookup k with
  | some v => t.insert k (f v)
  | none => t

lemma alter_of_none {t : Table K V} {k : K} (f : V → V) (h : t.lookup k = none) :
    alter k f t = t := by
  rw [alter, h]

lemma lookup_alter (k : K) (f : V → V) (t : Table K V) :
    (alter k f t).lookup k = (t.lookup k).map f := by
  rw [alter]
  cases h : t.lookup k with
  | none => simpa using h
  | some v => simp

lemma lookup_alter_ne {j k : K} (f : V → V) (t : Table K V) (h : j ≠ k) :
    (alter k f t).lookup j = t.lookup j := by
  rw [alter]
  cases t.lookup k with
  | none => rfl
  | some v => exact AList.lookup_insert_ne h

/-- A value of an altered table is an old value, or the image of the one at the
key. -/
lemma exists_of_lookup_alter {j k : K} {f : V → V} {t : Table K V} {w : V}
    (h : (alter k f t).lookup j = some w) :
    ∃ v, t.lookup j = some v ∧ (w = v ∨ j = k ∧ w = f v) := by
  by_cases hjk : j = k
  · subst hjk
    rw [lookup_alter, Option.map_eq_some_iff] at h
    obtain ⟨v, hv, hw⟩ := h
    exact ⟨v, hv, .inr ⟨rfl, hw.symm⟩⟩
  · rw [lookup_alter_ne f t hjk] at h
    exact ⟨w, h, .inl rfl⟩

/-! ### Gathering one optional result per entry -/

/-- The results of `f` over the entries, those that have one. -/
def gather (f : K → V → Option W) (t : Table K V) : List W :=
  t.entries.filterMap fun e => f e.1 e.2

lemma mem_gather {f : K → V → Option W} {t : Table K V} {w : W} :
    w ∈ gather f t ↔ ∃ k v, t.lookup k = some v ∧ f k v = some w := by
  simp only [gather, List.mem_filterMap, lookup_eq_some]
  constructor
  · rintro ⟨⟨k, v⟩, hmem, hf⟩
    exact ⟨k, v, hmem, hf⟩
  · rintro ⟨k, v, hmem, hf⟩
    exact ⟨⟨k, v⟩, hmem, hf⟩

/-- A function with fewer results gathers fewer. -/
lemma length_gather_le {f g : K → V → Option W} {t : Table K V}
    (h : ∀ k v, t.lookup k = some v → f k v = none ∨ f k v = g k v) :
    (gather f t).length ≤ (gather g t).length := by
  have hentries : ∀ e ∈ t.entries, f e.1 e.2 = none ∨ f e.1 e.2 = g e.1 e.2 :=
    fun e he => h e.1 e.2 (lookup_eq_some.mpr he)
  rw [gather, gather]
  generalize t.entries = l at hentries
  induction l with
  | nil => rfl
  | cons e l ih =>
      have hl := ih fun e' he' => hentries e' (List.mem_cons_of_mem e he')
      simp only [List.filterMap_cons]
      rcases hentries e List.mem_cons_self with hf | hf
      · rw [hf]
        cases g e.1 e.2 with
        | none => exact hl
        | some w => exact Nat.le_succ_of_le hl
      · rw [hf]
        cases g e.1 e.2 with
        | none => exact hl
        | some w => exact Nat.succ_le_succ hl

lemma entries_erase (t : Table K V) (k : K) : (t.erase k).entries = t.entries.kerase k := rfl

/-- An insertion contributes the result of the new entry and replaces whatever
the key contributed before. -/
lemma length_gather_insert (f : K → V → Option W) (t : Table K V) (k : K) (v : V) :
    (gather f (t.insert k v)).length
      = (f k v).toList.length + (gather f (t.erase k)).length := by
  simp only [gather, AList.entries_insert, List.filterMap_cons, entries_erase]
  cases f k v <;> simp [Nat.add_comm]

/-- One key's share of the results. -/
lemma length_gather (f : K → V → Option W) (t : Table K V) (k : K) :
    (gather f t).length
      = ((t.lookup k).bind (f k)).toList.length + (gather f (t.erase k)).length := by
  cases h : t.lookup k with
  | none =>
      have hk : k ∉ t.entries.keys := AList.lookup_eq_none.mp h
      simp [gather, entries_erase, List.kerase_of_notMem_keys hk]
  | some v =>
      have hk : k ∈ t.entries.keys := AList.lookup_isSome.mp (by simp [h])
      obtain ⟨u, l₁, l₂, -, hl, herase⟩ := List.exists_of_kerase hk
      have hu : t.lookup k = some u := lookup_eq_some.mpr (by simp [hl])
      obtain rfl : u = v := by simpa [h] using hu.symm
      have hgather : gather f (t.erase k) = (l₁ ++ l₂).filterMap fun e => f e.1 e.2 :=
        congrArg (List.filterMap _) herase
      rw [hgather, gather, hl]
      simp only [List.filterMap_append, List.filterMap_cons, List.length_append, Option.bind_some]
      cases f k u with
      | none => simp
      | some w =>
          simp
          omega

/-- An alteration that leaves one key's share of the results leaves their number. -/
lemma length_gather_alter (f : K → V → Option W) (t : Table K V) (k : K) {g : V → V}
    (h : ∀ v, t.lookup k = some v → (f k (g v)).isSome = (f k v).isSome) :
    (gather f (alter k g t)).length = (gather f t).length := by
  cases hk : t.lookup k with
  | none => rw [alter_of_none g hk]
  | some v =>
      have hshare := h v hk
      rw [alter, hk, length_gather_insert, length_gather f t k, hk, Option.bind_some]
      cases hg : f k (g v) <;> cases hf : f k v <;> simp [hg, hf] at hshare ⊢

end

end Table
