import Mathlib.Logic.Function.Basic
import Mathlib.Data.List.Basic

/-!
A store of versioned objects under optimistic concurrency control: every stored
object carries a version, a reader may hold any copy the store has ever had, and
a conditional write names the version of the copy it was computed from.

* `VersionedStore key version`: the object stored under each key, together with
  every copy stored so far; the fields say that a key and a version name one
  copy only, so a store that reuses a version cannot be built;
* `put`, `remove`: a write under a fresh version, and a deletion;
* `live_of_version`: a copy that bears the version stored now **is** the object
  stored now, whatever was written in between. This is what a guarded write
  relies on;
* `le`: histories only grow, so a copy once read stays a copy.
-/

/-- The objects stored under each key, and every copy stored so far. -/
structure VersionedStore {Key Version Obj : Type*} (key : Obj → Option Key)
    (version : Obj → Option Version) where
  /-- The object stored under each key now. -/
  live : Key → Option Obj
  /-- Every copy stored so far, the latest first. -/
  copies : List Obj
  /-- An object is stored under its own key. -/
  key_live : ∀ k o, live k = some o → key o = some k
  /-- A stored object is one of the copies. -/
  mem_live : ∀ k o, live k = some o → o ∈ copies
  /-- A key and a version name one copy. -/
  unique : ∀ o ∈ copies, ∀ o' ∈ copies, ∀ k v, key o = some k → key o' = some k →
    version o = some v → version o' = some v → o = o'

namespace VersionedStore

variable {Key Version Obj : Type*} {key : Obj → Option Key} {version : Obj → Option Version}

/-- No copy stored under `k` bears the version of `o`. -/
def Fresh (s : VersionedStore key version) (k : Key) (o : Obj) : Prop :=
  ∀ c ∈ s.copies, key c = some k → ∀ v ∈ version o, version c ≠ some v

instance [DecidableEq Key] [DecidableEq Version] (s : VersionedStore key version) (k : Key)
    (o : Obj) : Decidable (s.Fresh k o) :=
  inferInstanceAs (Decidable (∀ c ∈ s.copies, key c = some k → ∀ v ∈ version o, version c ≠ some v))

/-! ### A copy with the stored version is the stored object -/

/-- **The rule of optimistic concurrency**: a copy bearing the version stored now
is the object stored now. -/
theorem live_of_version (s : VersionedStore key version) {k : Key} {v : Version} {c o : Obj}
    (hc : c ∈ s.copies) (hkey : key c = some k) (hv : version c = some v)
    (hlive : s.live k = some o) (ho : version o = some v) : c = o :=
  s.unique c hc o (s.mem_live k o hlive) k v hkey (s.key_live k o hlive) hv ho

/-! ### Writes -/

section

variable [DecidableEq Key]

/-- Store `o` under its key `k`, under a version no copy at `k` has borne. -/
def put (s : VersionedStore key version) (k : Key) (o : Obj) (hkey : key o = some k)
    (hfresh : s.Fresh k o) : VersionedStore key version where
  live := Function.update s.live k (some o)
  copies := o :: s.copies
  key_live := by
    intro j c hc
    rcases eq_or_ne j k with rfl | hj
    · rw [Function.update_self, Option.some_inj] at hc
      exact hc ▸ hkey
    · rw [Function.update_of_ne hj] at hc
      exact s.key_live j c hc
  mem_live := by
    intro j c hc
    rcases eq_or_ne j k with rfl | hj
    · rw [Function.update_self, Option.some_inj] at hc
      exact hc ▸ List.mem_cons_self
    · rw [Function.update_of_ne hj] at hc
      exact List.mem_cons_of_mem o (s.mem_live j c hc)
  unique := by
    intro c hc c' hc' j v hj hj' hv hv'
    rcases List.mem_cons.mp hc with rfl | hm <;> rcases List.mem_cons.mp hc' with rfl | hm'
    · rfl
    · obtain rfl : k = j := by simpa [hkey] using hj
      exact absurd hv' (hfresh c' hm' hj' v hv)
    · obtain rfl : k = j := by simpa [hkey] using hj'
      exact absurd hv (hfresh c hm hj v hv')
    · exact s.unique c hm c' hm' j v hj hj' hv hv'

/-- Delete the object stored under `k`. -/
def remove (s : VersionedStore key version) (k : Key) : VersionedStore key version where
  live := Function.update s.live k none
  copies := s.copies
  key_live := by
    intro j c hc
    rcases eq_or_ne j k with rfl | hj
    · simp at hc
    · rw [Function.update_of_ne hj] at hc
      exact s.key_live j c hc
  mem_live := by
    intro j c hc
    rcases eq_or_ne j k with rfl | hj
    · simp at hc
    · rw [Function.update_of_ne hj] at hc
      exact s.mem_live j c hc
  unique := s.unique

variable (s : VersionedStore key version) (k : Key) (o : Obj) (hkey : key o = some k)
  (hfresh : s.Fresh k o)

@[simp] lemma put_live : (s.put k o hkey hfresh).live = Function.update s.live k (some o) := rfl

@[simp] lemma put_copies : (s.put k o hkey hfresh).copies = o :: s.copies := rfl

@[simp] lemma remove_live : (s.remove k).live = Function.update s.live k none := rfl

@[simp] lemma remove_copies : (s.remove k).copies = s.copies := rfl

end

/-! ### Histories grow -/

/-- Every copy of the first store is a copy of the second. -/
def le (s t : VersionedStore key version) : Prop := s.copies ⊆ t.copies

lemma le_refl (s : VersionedStore key version) : s.le s := List.Subset.refl _

lemma le_put [DecidableEq Key] (s : VersionedStore key version) (k : Key) (o : Obj)
    (hkey : key o = some k) (hfresh : s.Fresh k o) : s.le (s.put k o hkey hfresh) :=
  List.subset_cons_self o s.copies

lemma le_remove [DecidableEq Key] (s : VersionedStore key version) (k : Key) :
    s.le (s.remove k) := List.Subset.refl _

/-- A store with nothing in it. -/
def empty : VersionedStore key version where
  live := fun _ => none
  copies := []
  key_live := by simp
  mem_live := by simp
  unique := by simp

lemma fresh_empty (k : Key) (o : Obj) :
    (empty : VersionedStore key version).Fresh k o := by
  intro c hc
  simp [empty] at hc

end VersionedStore
