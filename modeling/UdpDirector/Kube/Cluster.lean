import UdpDirector.Foundation.VersionedStore
import UdpDirector.Kube.Object

/-!
The Pods of the cluster as the Kubernetes API keeps them: a versioned store under
the name of the Pod and its `resourceVersion`.

* `Cluster.pick`: what a list may return, copies the store has had; `Cluster.Lists` checks that
  it returns the stored Pods with some labels;
* `Cluster.patchLabel`: a merge patch that carries a version and sets one label.
  It is accepted exactly when the version is that of the stored Pod, and it
  changes the version exactly when it changes the label;
* `Patched`: the two ways an accepted patch leaves the stored Pod.
-/

namespace UdpDirector

/-- The stored Pods and every copy stored so far. -/
abbrev Cluster :=
  VersionedStore (fun o : DynamicObject => o.metadata.name)
    (fun o : DynamicObject => o.metadata.resourceVersion)

/-- A label selector: all of its labels, with these values. -/
def matchesLabels (labels : Table String String) (o : DynamicObject) : Bool :=
  labels.entries.all fun e => o.metadata.label e.1 == some e.2

/-- The object with one label set and a new version. -/
def DynamicObject.patched (o : DynamicObject) (key value version : String) : DynamicObject :=
  { o with metadata := { o.metadata.setLabel key value with resourceVersion := some version } }

namespace Cluster

/-- The copies with the given places in the history. -/
def pick (c : Cluster) (indices : List ℕ) : List DynamicObject :=
  indices.filterMap fun i => c.copies[i]?

lemma mem_copies_of_mem_pick {c : Cluster} {indices : List ℕ} {o : DynamicObject}
    (h : o ∈ c.pick indices) : o ∈ c.copies := by
  obtain ⟨i, -, hi⟩ := List.mem_filterMap.mp h
  exact List.mem_of_getElem? hi

/-- The stored Pod of the name of a copy bears its version. -/
def Current (c : Cluster) (o : DynamicObject) : Prop :=
  o.metadata.resourceVersion.isSome = true
    ∧ (o.metadata.name.bind c.live).bind (fun o' => o'.metadata.resourceVersion)
      = o.metadata.resourceVersion

instance (c : Cluster) (o : DynamicObject) : Decidable (c.Current o) :=
  inferInstanceAs (Decidable (_ ∧ _))

/-- A current copy is a stored Pod, and the other way around where it has a version. -/
lemma current_iff {c : Cluster} {o : DynamicObject} (ho : o ∈ c.copies)
    (hversion : o.metadata.resourceVersion.isSome = true) :
    c.Current o ↔ ∃ name, c.live name = some o := by
  constructor
  · rintro ⟨-, h⟩
    obtain ⟨version, hversion⟩ := Option.isSome_iff_exists.mp hversion
    rw [hversion] at h
    obtain ⟨o', hlive, hversion'⟩ := Option.bind_eq_some_iff.mp h
    obtain ⟨name, hname, hlive⟩ := Option.bind_eq_some_iff.mp hlive
    obtain rfl := c.live_of_version ho hname hversion hlive hversion'
    exact ⟨name, hlive⟩
  · rintro ⟨name, hlive⟩
    refine ⟨hversion, ?_⟩
    rw [c.key_live name o hlive, Option.bind_some, hlive, Option.bind_some]

/-- The places are those of the current copies with the labels, each of which has a version. -/
def Lists (c : Cluster) (labels : Table String String) (indices : List ℕ) : Prop :=
  (∀ o ∈ c.copies, o.metadata.resourceVersion.isSome = true)
    ∧ (∀ i ∈ indices, ∀ o ∈ c.copies[i]?, c.Current o ∧ matchesLabels labels o = true)
    ∧ ∀ i < c.copies.length, ∀ o ∈ c.copies[i]?,
      c.Current o → matchesLabels labels o = true → i ∈ indices

instance (c : Cluster) (labels : Table String String) (indices : List ℕ) :
    Decidable (c.Lists labels indices) :=
  inferInstanceAs (Decidable (_ ∧ _ ∧ _))

/-- They pick the stored Pods with the labels. -/
lemma Lists.mem_pick_iff {c : Cluster} {labels : Table String String} {indices : List ℕ}
    (h : c.Lists labels indices) (o : DynamicObject) :
    o ∈ c.pick indices ↔ (∃ name, c.live name = some o) ∧ matchesLabels labels o = true := by
  obtain ⟨hversioned, hsound, hcomplete⟩ := h
  constructor
  · intro hpick
    have hcopy := mem_copies_of_mem_pick hpick
    obtain ⟨i, hi, ho⟩ := List.mem_filterMap.mp hpick
    obtain ⟨hcurrent, hmatches⟩ := hsound i hi o ho
    exact ⟨(current_iff hcopy (hversioned o hcopy)).mp hcurrent, hmatches⟩
  · rintro ⟨⟨name, hlive⟩, hmatches⟩
    have hcopy := c.mem_live name o hlive
    obtain ⟨i, hi, ho⟩ := List.mem_iff_getElem.mp hcopy
    have ho' : c.copies[i]? = some o := by rw [List.getElem?_eq_getElem hi, ho]
    have hcurrent := (current_iff hcopy (hversioned o hcopy)).mpr ⟨name, hlive⟩
    exact List.mem_filterMap.mpr ⟨i, hcomplete i hi o ho' hcurrent hmatches, ho'⟩

/-- The reply to a patch that the API serves: nothing where it refuses the patch,
the cluster after it otherwise. Undefined where the version it would assign has
been used before. -/
def patchLabel (c : Cluster) (name version key value fresh : String) : Option (Option Cluster) :=
  match hlive : c.live name with
  | none => some none
  | some o =>
      if o.metadata.resourceVersion ≠ some version then
        some none
      else if o.metadata.label key = some value then
        some (some c)
      else if hfresh : c.Fresh name (o.patched key value fresh) then
        some (some (c.put name (o.patched key value fresh) (c.key_live name o hlive) hfresh))
      else
        none

/-- An accepted patch carried the version of the stored Pod, and left it alone or
stored it with the label set. -/
lemma patchLabel_eq_accepted {c c' : Cluster} {name version key value fresh : String}
    (h : c.patchLabel name version key value fresh = some (some c')) :
    ∃ o, c.live name = some o ∧ o.metadata.resourceVersion = some version
      ∧ ((c' = c ∧ o.metadata.label key = some value)
        ∨ (o.metadata.label key ≠ some value
          ∧ ∃ (hkey : (o.patched key value fresh).metadata.name = some name)
              (hfresh : c.Fresh name (o.patched key value fresh)),
              c' = c.put name (o.patched key value fresh) hkey hfresh)) := by
  rw [patchLabel] at h
  split at h
  · simp at h
  · rename_i o hlive
    split at h
    · simp at h
    · rename_i hversion
      rw [ne_eq, not_not] at hversion
      refine ⟨o, hlive, hversion, ?_⟩
      split at h
      · rename_i hlabel
        exact .inl ⟨(Option.some.inj (Option.some.inj h)).symm, hlabel⟩
      · rename_i hlabel
        split at h
        · rename_i hfresh
          exact .inr ⟨hlabel, c.key_live name o hlive, hfresh,
            (Option.some.inj (Option.some.inj h)).symm⟩
        · simp at h

/-- A patch carrying the version of the stored Pod is not refused. -/
lemma patchLabel_ne_refused {c : Cluster} {name version key value fresh : String}
    {o : DynamicObject} (hlive : c.live name = some o)
    (hversion : o.metadata.resourceVersion = some version) :
    c.patchLabel name version key value fresh ≠ some none := by
  rw [patchLabel]
  split
  · rename_i hnone
    simp [hlive] at hnone
  · rename_i o' hlive'
    obtain rfl : o = o' := Option.some.inj (hlive.symm.trans hlive')
    rw [if_neg (not_not.mpr hversion)]
    split
    · simp
    · split <;> simp

end Cluster

/-! ### The stored Pod around an accepted patch -/

/-- The stored Pod after an accepted patch of one label: the same where the label
already had the value, the patched one otherwise. -/
def Patched (key value : String) (o o' : DynamicObject) : Prop :=
  (o' = o ∧ o.metadata.label key = some value) ∨ ∃ fresh, o' = o.patched key value fresh

namespace Patched

variable {key value : String} {o o' : DynamicObject}

lemma data (h : Patched key value o o') : o'.data = o.data := by
  rcases h with ⟨rfl, -⟩ | ⟨fresh, rfl⟩ <;> rfl

lemma annotations (h : Patched key value o o') :
    o'.metadata.annotations = o.metadata.annotations := by
  rcases h with ⟨rfl, -⟩ | ⟨fresh, rfl⟩ <;> rfl

lemma label_of_ne (h : Patched key value o o') {j : String} (hj : j ≠ key) :
    o'.metadata.label j = o.metadata.label j := by
  rcases h with ⟨rfl, -⟩ | ⟨fresh, rfl⟩
  · rfl
  · exact ObjectMeta.label_setLabel_ne o.metadata value hj

end Patched

end UdpDirector
