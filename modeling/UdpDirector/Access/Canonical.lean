import UdpDirector.Access.World
import UdpDirector.Characters.Roster
import Mathlib.Data.Set.Card

/-!
The Pod that a query should be assigned to, and that it is.

* `Pod.Attends`, `Pod.attendance`: who is visible on a Pod and how many, as sets;
  `Pod.standing`, `Pod.Eligible`: the order of the Pods and the ones in question, in these
  terms;
* `BestPod`: the one least eligible Pod of a list; `Decides`: a decision finds it, and is
  cold only where there is none;
* `standing_lt_congr`: the joining character among its own friends does not count;
* `decides_iff`: the decision does so unless reading a ready Pod panics, and depends
  neither on the order of the list nor on how the friends are listed.
-/

namespace UdpDirector

/-! ### Who is on a Pod -/

section

variable (ext : Externals) (config : Config) (character : String) (ids : List String)
  (now : OffsetDateTime) (pod : Pod)

/-- The character is visible on the Pod, whatever its status. -/
def Pod.Attends (id : String) : Prop :=
  ∃ c, pod.Presents ext config now c ∧ c.characterId = id

/-- How many of some characters are visible on the Pod. -/
noncomputable def Pod.attendance (among : Set String) : ℕ :=
  Set.ncard {id ∈ among | pod.Attends ext config now id}

open Classical in
/-- Where a Pod stands for a character and its friends: hosting the character comes first,
then more friends, then fewer characters, then the smaller uid. -/
noncomputable def Pod.standing : Rank :=
  toLex
    (OrderDual.toDual (decide (pod.Attends ext config now character)),
      toLex
        (OrderDual.toDual (pod.attendance ext config now {id | id ∈ ids}),
          toLex (pod.attendance ext config now Set.univ, (pod.metadata.uid : WithBot String))))

/-- The Pod can take the character: it is ready, does not drain, and hosts the character
already or has a free seat. -/
structure Pod.Eligible : Prop where
  ready : podReady pod = true
  undrained : podDraining pod = false
  seat : pod.Attends ext config now character
    ∨ pod.attendance ext config now Set.univ < config.maxCharactersPerServer

/-- The resource is the one least eligible Pod of a list. -/
structure BestPod (resources : List DynamicObject) (o : DynamicObject) : Prop where
  mem : o ∈ resources
  least : ∃ pod, ext.podOf o = some pod ∧ pod.Eligible ext config character now
    ∧ ∀ o' ∈ resources, o' ≠ o → ∀ pod', ext.podOf o' = some pod' →
        pod'.Eligible ext config character now →
        pod.standing ext config character ids now < pod'.standing ext config character ids now

end

section

variable {ext : Externals} {config : Config} {now : OffsetDateTime} {pod : Pod}
  {cs : List Character}

lemma visible_iff_attends (h : charactersOnPod ext pod config [] now = .ok cs) (id : String) :
    visible cs id = true ↔ pod.Attends ext config now id := by
  simp only [visible_iff, Pod.Attends, (charactersOnPod_iff.mp h).2.2]

/-- A count of characters read off a Pod is one of visible characters. -/
lemma countP_eq_attendance (h : charactersOnPod ext pod config [] now = .ok cs)
    (p : String → Bool) :
    cs.countP (fun c => p c.characterId) = pod.attendance ext config now {id | p id = true} := by
  obtain ⟨-, hsorted, hmem⟩ := charactersOnPod_iff.mp h
  have hnodup : ((cs.filter fun c => p c.characterId).map Character.characterId).Nodup :=
    List.pairwise_map.mpr ((hsorted.imp fun hlt => hlt.ne).sublist List.filter_sublist)
  have hset : {id ∈ {id | p id = true} | pod.Attends ext config now id}
      = ↑((cs.filter fun c => p c.characterId).map Character.characterId).toFinset := by
    ext id
    simp only [Set.mem_ofPred_eq, Pod.Attends, List.coe_toFinset, List.mem_map, List.mem_filter,
      hmem]
    constructor
    · rintro ⟨hp, c, hc, rfl⟩
      exact ⟨c, ⟨hc, hp⟩, rfl⟩
    · rintro ⟨c, ⟨hc, hp⟩, rfl⟩
      exact ⟨hp, c, hc, rfl⟩
  rw [Pod.attendance, hset, Set.ncard_coe_finset, List.toFinset_card_of_nodup hnodup,
    List.length_map, List.countP_eq_length_filter]

lemma length_eq_attendance (h : charactersOnPod ext pod config [] now = .ok cs) :
    cs.length = pod.attendance ext config now Set.univ := by
  have hcount := countP_eq_attendance h fun _ => true
  simpa using hcount

end

/-! ### What a candidate stands for -/

section

variable {ext : Externals} {config : Config} {now : OffsetDateTime} {character : String}
  {ids : List String}

/-- The sort key of a candidate is the standing of its Pod. -/
lemma rank_eq_standing (k : Candidate ext config now) :
    rank character ids k = k.pod.standing ext config character ids now := by
  classical
  have hvisible : visible k.characters character
      = decide (k.pod.Attends ext config now character) := by
    rw [Bool.eq_iff_iff, decide_eq_true_iff]
    exact visible_iff_attends k.shown character
  have hfriends := countP_eq_attendance k.shown fun id => ids.contains id
  simp only [List.contains_iff_mem] at hfriends
  rw [rank, Pod.standing, hvisible, hfriends, length_eq_attendance k.shown]

/-- The candidates left after both filters are the eligible Pods. -/
lemma eligible_iff (k : Candidate ext config now) :
    k.pod.Eligible ext config character now
      ↔ admits character k = true ∧ podDraining k.pod = false := by
  rw [admits_iff, visible_iff_attends k.shown, length_eq_attendance k.shown]
  exact ⟨fun h => ⟨h.seat, h.undrained⟩, fun h => ⟨k.ready, h.2, h.1⟩⟩

/-! ### Reading the snapshot -/

variable {resources : List DynamicObject}

/-- The resources are Pods. -/
def ArePods (ext : Externals) (resources : List DynamicObject) : Prop :=
  ∀ o ∈ resources, ∃ pod, ext.podOf o = some pod

/-- Reading some ready Pod of the list panics. -/
def Panics (ext : Externals) (config : Config) (resources : List DynamicObject)
    (now : OffsetDateTime) : Prop :=
  ∃ o ∈ resources, ∃ pod, ext.podOf o = some pod ∧ podReady pod = true
    ∧ pod.Overflows ext config now

lemma candidate_eq_error {o : DynamicObject} {pod : Pod} {fault : Fault}
    (hpod : ext.podOf o = some pod) (h : candidate ext config now o = .error fault) :
    fault = .panic ∧ podReady pod = true ∧ pod.Overflows ext config now := by
  rw [candidate] at h
  split at h
  · rename_i hnone
    rw [hpod] at hnone
    cases hnone
  · rename_i pod' hpod'
    obtain rfl : pod = pod' := Option.some.inj (hpod.symm.trans hpod')
    split at h
    · rename_i hready
      split at h
      · rename_i hfault
        obtain rfl := Except.error.inj h
        obtain ⟨hpanic, hoverflows⟩ := charactersOnPod_eq_error.mp hfault
        exact ⟨hpanic, hready, hoverflows⟩
      · simp at h
    · simp at h

/-- Pods are read, or reading one of them panics. -/
lemma candidates_eq_error {fault : Fault} (hpods : ArePods ext resources)
    (h : candidates ext config now resources = .error fault) :
    fault = .panic ∧ Panics ext config resources now := by
  induction resources with
  | nil => simp [candidates] at h
  | cons o resources ih =>
      obtain ⟨pod, hpod⟩ := hpods o List.mem_cons_self
      rw [candidates] at h
      cases hk : candidate ext config now o with
      | error fault' =>
          rw [hk] at h
          obtain rfl : fault' = fault := Except.error.inj h
          obtain ⟨hpanic, hready, hoverflows⟩ := candidate_eq_error hpod hk
          exact ⟨hpanic, o, List.mem_cons_self, pod, hpod, hready, hoverflows⟩
      | ok k =>
          rw [hk] at h
          cases hks : candidates ext config now resources with
          | error fault' =>
              rw [hks] at h
              obtain rfl : fault' = fault := Except.error.inj h
              obtain ⟨hpanic, o', ho', hpanics⟩ :=
                ih (fun o' ho' => hpods o' (List.mem_cons_of_mem o ho')) hks
              exact ⟨hpanic, o', List.mem_cons_of_mem o ho', hpanics⟩
          | ok ks =>
              rw [hks] at h
              cases h

/-- **Pods are read exactly where reading none of them panics.** -/
lemma candidates_eq_panic_iff (hpods : ArePods ext resources) :
    candidates ext config now resources = .error .panic ↔ Panics ext config resources now := by
  refine ⟨fun h => (candidates_eq_error hpods h).2, ?_⟩
  rintro ⟨o, ho, pod, hpod, hready, hoverflows⟩
  cases h : candidates ext config now resources with
  | error fault => rw [(candidates_eq_error hpods h).1]
  | ok ks =>
      obtain ⟨k, -, rfl⟩ := exists_candidate_of_ready hpod hready h ho
      obtain rfl : k.pod = pod := Option.some.inj (k.decoded.symm.trans hpod)
      exact absurd k.shown (charactersOnPod_ne_ok hoverflows k.characters)

lemma exists_candidates (hpods : ArePods ext resources)
    (h : ¬Panics ext config resources now) :
    ∃ ks, candidates ext config now resources = .ok ks := by
  cases hks : candidates ext config now resources with
  | error fault => exact absurd (candidates_eq_error hpods hks).2 h
  | ok ks => exact ⟨ks, rfl⟩

/-- Without annotations no time is recorded, and no window ends after the last date. -/
lemma not_panics_of_unannotated (h : ∀ o ∈ resources, o.metadata.annotations = none) :
    ¬Panics ext config resources now := by
  rintro ⟨o, ho, pod, hpod, -, id, raw, at_, -, -, hraw, -⟩
  rw [disconnectTimes, Externals.metadata_podOf hpod, h o ho] at hraw
  simp at hraw

/-! ### Decisions -/

variable {a : Access}

/-- A decision for a joining character finds the one best Pod, and is cold exactly where no
Pod is eligible. -/
structure Decides (ext : Externals) (config : Config) (a : Access) (character : String)
    (resources : List DynamicObject) (now : OffsetDateTime) : Prop where
  best : (∃ o ∈ resources, ∃ pod, ext.podOf o = some pod ∧ pod.Eligible ext config character now) →
    ∃ choice, decision ext config a resources now = .ok (.assign choice)
      ∧ BestPod ext config character a.ids now resources choice.candidate.object
  cold : (¬∃ o ∈ resources, ∃ pod, ext.podOf o = some pod ∧ pod.Eligible ext config character now) →
    decision ext config a resources now = .ok .cold

/-- The resource that a decision selects. -/
def Decision.selected : Decision ext config → Option DynamicObject
  | .assign choice => some choice.candidate.object
  | _ => none

/-- The eligible Pods of a list are the ranked candidates. -/
lemma exists_ranked_iff (ids : List String) {ks : List (Candidate ext config now)}
    (hks : candidates ext config now resources = .ok ks) {o : DynamicObject} {pod : Pod}
    (hpod : ext.podOf o = some pod) :
    o ∈ resources ∧ pod.Eligible ext config character now
      ↔ ∃ k ∈ ranked character ids ks, k.object = o ∧ k.pod = pod := by
  constructor
  · rintro ⟨ho, heligible⟩
    obtain ⟨k, hk, rfl⟩ := exists_candidate_of_ready hpod heligible.ready hks ho
    obtain rfl : k.pod = pod := Option.some.inj (k.decoded.symm.trans hpod)
    exact ⟨k, mem_ranked.mpr ⟨hk, (eligible_iff k).mp heligible⟩, rfl, rfl⟩
  · rintro ⟨k, hk, rfl, rfl⟩
    obtain ⟨hmem, hadmits⟩ := mem_ranked.mp hk
    exact ⟨object_mem_of_mem_candidates hks k hmem, (eligible_iff k).mpr hadmits⟩

/-- The first of the ranked candidates is the one best Pod. -/
lemma bestPod_of_ranked {ks rest : List (Candidate ext config now)}
    {best : Candidate ext config now} (huids : (resources.map fun o => o.metadata.uid).Nodup)
    (hks : candidates ext config now resources = .ok ks)
    (hranked : ranked character ids ks = best :: rest) :
    BestPod ext config character ids now resources best.object := by
  have hbest : best ∈ ranked character ids ks := hranked ▸ List.mem_cons_self
  obtain ⟨hmem, heligible⟩ := (exists_ranked_iff ids hks best.decoded).mpr ⟨best, hbest, rfl, rfl⟩
  refine ⟨hmem, best.pod, best.decoded, heligible, ?_⟩
  intro o ho hne pod hpod hpodEligible
  obtain ⟨k, hk, rfl, rfl⟩ := (exists_ranked_iff ids hks hpod).mp ⟨ho, hpodEligible⟩
  rw [← rank_eq_standing, ← rank_eq_standing]
  refine lt_of_le_of_ne (rank_le_of_ranked hranked hk) fun heq => hne ?_
  -- the uid is the last component of the rank
  have huid : best.pod.metadata.uid = k.pod.metadata.uid := by
    simp only [rank, toLex_inj, Prod.mk.injEq] at heq
    exact (Prod.mk.inj heq.2.2).2
  rw [Externals.metadata_podOf best.decoded, Externals.metadata_podOf k.decoded] at huid
  exact (List.inj_on_of_nodup_map huids hmem ho huid).symm

/-- A decision for a joining character on a snapshot that is read. -/
lemma decision_eq_of_candidates (hc : a.character = some character)
    {ks : List (Candidate ext config now)} (hks : candidates ext config now resources = .ok ks) :
    (∃ choice best rest, decision ext config a resources now = .ok (.assign choice)
        ∧ ranked character a.ids ks = best :: rest ∧ choice.candidate.object = best.object)
      ∨ decision ext config a resources now = .ok .cold ∧ ranked character a.ids ks = [] := by
  rw [decision, hks]
  simp only [bind, Except.bind]
  split
  · rename_i hnone
    rw [hc] at hnone
    cases hnone
  · rename_i character' hc'
    obtain rfl : character = character' := Option.some.inj (hc.symm.trans hc')
    cases hchoose : choose character (a.valid character hc) a.ids ks with
    | none => exact .inr ⟨rfl, choose_eq_none hchoose⟩
    | some choice =>
        obtain ⟨-, best, rest, hranked, hobject, -⟩ := choose_eq_some hchoose
        exact .inl ⟨choice, best, rest, rfl, hranked, hobject⟩

/-- A decision panics where reading the snapshot does. -/
lemma decision_eq_panic (hpods : ArePods ext resources) (h : Panics ext config resources now) :
    decision ext config a resources now = .error .panic := by
  rw [decision, (candidates_eq_panic_iff hpods).mpr h]
  rfl

/-- **A decision finds the one best Pod** where reading the snapshot does not panic. -/
theorem decides_of_not_panics (hc : a.character = some character) (hpods : ArePods ext resources)
    (huids : (resources.map fun o => o.metadata.uid).Nodup)
    (h : ¬Panics ext config resources now) : Decides ext config a character resources now := by
  obtain ⟨ks, hks⟩ := exists_candidates hpods h
  obtain ⟨choice, best, rest, hdecision, hranked, hobject⟩ | ⟨hdecision, hranked⟩ :=
    decision_eq_of_candidates hc hks
  · have hbest := bestPod_of_ranked huids hks hranked
    refine ⟨fun _ => ⟨choice, hdecision, hobject ▸ hbest⟩, fun hnone => absurd ?_ hnone⟩
    obtain ⟨pod, hpod, heligible, -⟩ := hbest.least
    exact ⟨best.object, hbest.mem, pod, hpod, heligible⟩
  · refine ⟨?_, fun _ => hdecision⟩
    rintro ⟨o, ho, pod, hpod, heligible⟩
    obtain ⟨k, hk, -⟩ := (exists_ranked_iff a.ids hks hpod).mp ⟨ho, heligible⟩
    simp [hranked] at hk

/-- A decision that panics finds nothing, and is not cold. -/
lemma not_decides_of_panics (hpods : ArePods ext resources)
    (h : Panics ext config resources now) : ¬Decides ext config a character resources now := by
  intro hdecides
  have hpanic : decision ext config a resources now = .error .panic := decision_eq_panic hpods h
  by_cases hsome : ∃ o ∈ resources, ∃ pod, ext.podOf o = some pod
      ∧ pod.Eligible ext config character now
  · obtain ⟨choice, hchoice, -⟩ := hdecides.best hsome
    rw [hpanic] at hchoice
    cases hchoice
  · have hcold := hdecides.cold hsome
    rw [hpanic] at hcold
    cases hcold

end

/-! ### What the choice does not depend on -/

section

variable {ext : Externals} {config : Config} {now : OffsetDateTime} {character : String}
  {ids ids' : List String} {pod pod' : Pod}

/-- Every visible character has a label. -/
lemma finite_attends : {id | pod.Attends ext config now id}.Finite := by
  have hkeys : {key | key ∈ pod.labels.keys}.Finite := List.finite_toSet pod.labels.keys
  have hinj : Function.Injective config.characterKey := fun _ _ h => Config.characterKey_inj h
  refine (hkeys.preimage hinj.injOn).subset ?_
  rintro id ⟨c, ⟨-, value, hlabel, -⟩, rfl⟩
  rw [← Pod.lookup_labels] at hlabel
  exact AList.mem_keys.mp (AList.lookup_isSome.mp (by rw [hlabel]; rfl))

open Classical in
/-- The joining character counts once among its friends, where it is visible. -/
lemma attendance_eq_add (pod : Pod) (character : String) (ids : List String) :
    pod.attendance ext config now {id | id ∈ ids}
      = pod.attendance ext config now {id | id ∈ ids ∧ id ≠ character}
        + if character ∈ ids ∧ pod.Attends ext config now character then 1 else 0 := by
  split
  · rename_i hcharacter
    have hset : {id ∈ {id | id ∈ ids} | pod.Attends ext config now id}
        = insert character
            {id ∈ {id | id ∈ ids ∧ id ≠ character} | pod.Attends ext config now id} := by
      ext id
      simp only [Set.mem_insert_iff, Set.mem_ofPred_eq]
      by_cases hid : id = character
      · simp [hid, hcharacter]
      · simp [hid]
    have hfinite : {id ∈ {id | id ∈ ids ∧ id ≠ character} | pod.Attends ext config now id}.Finite :=
      finite_attends.subset fun id hid => hid.2
    rw [Pod.attendance, Pod.attendance, hset, Set.ncard_insert_of_notMem (by simp) hfinite]
  · rename_i hcharacter
    rw [Nat.add_zero, Pod.attendance, Pod.attendance]
    congr 1
    ext id
    simp only [Set.mem_ofPred_eq]
    constructor
    · rintro ⟨hid, hattends⟩
      exact ⟨⟨hid, fun heq => hcharacter ⟨heq ▸ hid, heq ▸ hattends⟩⟩, hattends⟩
    · rintro ⟨⟨hid, -⟩, hattends⟩
      exact ⟨hid, hattends⟩

/-- **The order of the Pods depends on the set of the friends other than the joining
character.** -/
theorem standing_lt_congr (h : ∀ id, id ≠ character → (id ∈ ids' ↔ id ∈ ids)) :
    pod.standing ext config character ids' now < pod'.standing ext config character ids' now
      ↔ pod.standing ext config character ids now < pod'.standing ext config character ids now := by
  have hset : {id | id ∈ ids' ∧ id ≠ character} = {id | id ∈ ids ∧ id ≠ character} := by
    ext id
    simp only [Set.mem_ofPred_eq]
    exact and_congr_left fun hne => h id hne
  simp only [Pod.standing, Prod.Lex.toLex_lt_toLex, OrderDual.toDual_lt_toDual,
    OrderDual.toDual_inj]
  refine or_congr_right (and_congr_right fun hhosts => ?_)
  rw [decide_eq_decide] at hhosts
  rw [attendance_eq_add pod character ids, attendance_eq_add pod character ids',
    attendance_eq_add pod' character ids, attendance_eq_add pod' character ids', hset, hhosts]
  split <;> split <;> simp only [Nat.add_lt_add_iff_right, Nat.add_right_cancel_iff, Nat.add_zero]

/-- The one best Pod depends neither on the order of the list nor on how the friends are
listed. -/
lemma BestPod.congr {resources resources' : List DynamicObject} {o : DynamicObject}
    (hperm : resources'.Perm resources) (h : ∀ id, id ≠ character → (id ∈ ids' ↔ id ∈ ids))
    (hbest : BestPod ext config character ids' now resources' o) :
    BestPod ext config character ids now resources o := by
  obtain ⟨pod, hpod, heligible, hleast⟩ := hbest.least
  refine ⟨hperm.mem_iff.mp hbest.mem, pod, hpod, heligible, ?_⟩
  intro o' ho' hne pod' hpod' heligible'
  rw [← standing_lt_congr h]
  exact hleast o' (hperm.mem_iff.mpr ho') hne pod' hpod' heligible'

/-- There is one best Pod only. -/
lemma BestPod.unique {resources : List DynamicObject} {o o' : DynamicObject}
    (hbest : BestPod ext config character ids now resources o)
    (hbest' : BestPod ext config character ids now resources o') : o = o' := by
  by_contra hne
  obtain ⟨pod, hpod, heligible, hleast⟩ := hbest.least
  obtain ⟨pod', hpod', heligible', hleast'⟩ := hbest'.least
  exact lt_asymm (hleast o' hbest'.mem (Ne.symm hne) pod' hpod' heligible')
    (hleast' o hbest.mem hne pod hpod heligible)

/-- **Selection is optimal and canonical.** For a list of Pods with distinct uids, the
decision for a joining character finds the one best eligible Pod, and is cold exactly
without one, if and only if reading no ready Pod of the list panics; and it selects the same
resource on every permutation of the list, and for friends listed in any other order, any
number of times, with or without the joining character. -/
theorem decides_iff {a : Access} {resources : List DynamicObject}
    (hc : a.character = some character) (hpods : ArePods ext resources)
    (huids : (resources.map fun o => o.metadata.uid).Nodup) :
    (Decides ext config a character resources now ↔ ¬Panics ext config resources now)
      ∧ ∀ (a' : Access) (resources' : List DynamicObject), a'.character = some character →
        resources'.Perm resources → (∀ id, id ≠ character → (id ∈ a'.ids ↔ id ∈ a.ids)) →
        (decision ext config a' resources' now).map Decision.selected
          = (decision ext config a resources now).map Decision.selected := by
  constructor
  · exact ⟨fun hdecides hpanics => not_decides_of_panics hpods hpanics hdecides,
      decides_of_not_panics hc hpods huids⟩
  · intro a' resources' hc' hperm hids
    have hpods' : ArePods ext resources' := fun o ho => hpods o (hperm.mem_iff.mp ho)
    have huids' : (resources'.map fun o => o.metadata.uid).Nodup :=
      (hperm.map _).nodup_iff.mpr huids
    have hmem : ∀ p : DynamicObject → Prop, (∃ o ∈ resources', p o) ↔ ∃ o ∈ resources, p o := by
      intro p
      simp only [hperm.mem_iff]
    by_cases hpanics : Panics ext config resources now
    · rw [decision_eq_panic hpods hpanics, decision_eq_panic hpods' ((hmem _).mpr hpanics)]
    have hdecides := decides_of_not_panics hc hpods huids hpanics
    have hdecides' := decides_of_not_panics hc' hpods' huids' fun h => hpanics ((hmem _).mp h)
    by_cases hsome : ∃ o ∈ resources, ∃ pod, ext.podOf o = some pod
        ∧ pod.Eligible ext config character now
    · obtain ⟨choice, hchoice, hbest⟩ := hdecides.best hsome
      obtain ⟨choice', hchoice', hbest'⟩ := hdecides'.best ((hmem _).mpr hsome)
      have heq := (hbest'.congr hperm hids).unique hbest
      rw [hchoice, hchoice', Except.map, Except.map, Decision.selected, Decision.selected, heq]
    · rw [hdecides.cold hsome, hdecides'.cold fun h => hsome ((hmem _).mp h)]

end

/-! ### Two Pods, and a Pod at the end of the calendar -/

namespace Sample

/-- A query for the character `ayla`, with one friend. -/
def joining : Access where
  map := "arena"
  ids := ["bram"]
  character := some "ayla"
  mapping := { group := "", resource := "pods" }
  labels := settings.selector "arena"
  valid := by decide

/-- Two Pods without characters. -/
def emptyPods : List DynamicObject :=
  [pod "game-1" "uid-1" "10.0.0.2", pod "game-0" "uid-0" "10.0.0.1"]

/-- When the character `bram` disconnected, one minute before the last date ends. -/
def lateAt : String := "9999-12-31T23:59:00Z"

/-- The annotation that records it. -/
def lateText : String := "\x7b\"bram\":\"9999-12-31T23:59:00Z\"\x7d"

/-- Decoders that read the one annotation. -/
def lateDecoders : Externals where
  decodeStatus := decodeStatus
  decodeDisconnected := fun text =>
    if text = lateText then some ((∅ : Table String String).insert "bram" lateAt) else none
  parseRfc3339 := fun text => if text = lateAt then some ⟨253402300740 * 10 ^ 9, 0⟩ else none

/-- The Pod `game-0` on which `bram` is disconnected. -/
def latePod : DynamicObject :=
  let o :=
    (pod "game-0" "uid-0" "10.0.0.1").patched (settings.characterKey "bram") "Disconnected" "2"
  let annotations : Table String String := ∅
  { o with
    metadata :=
      { o.metadata with
        annotations := some (annotations.insert settings.disconnectAnnotation lateText) } }

/-- Half a minute later. -/
def lateNow : OffsetDateTime := ⟨253402300770 * 10 ^ 9, 0⟩

lemma overflows_latePod (status : Option PodStatus) :
    Pod.Overflows lateDecoders settings ⟨latePod.metadata, status⟩ lateNow := by
  have hlabel : latePod.metadata.label (settings.characterKey "bram") = some "Disconnected" := by
    decide
  have htimes : (disconnectTimes lateDecoders ⟨latePod.metadata, none⟩ settings).lookup "bram"
      = some lateAt := by decide
  exact ⟨"bram", lateAt, ⟨253402300740 * 10 ^ 9, 0⟩, by decide, hlabel, htimes, by decide,
    by decide, by decide⟩

lemma panics_latePod : Panics lateDecoders settings [latePod] lateNow :=
  ⟨latePod, List.mem_singleton_self _, _, rfl, by decide, overflows_latePod _⟩

lemma not_panics_emptyPods : ¬Panics decoders settings emptyPods ⟨0, 0⟩ := by
  refine not_panics_of_unannotated fun o ho => ?_
  rcases List.mem_pair.mp ho with rfl | rfl <;> rfl

end Sample

/-- A query is decided on two Pods. -/
theorem decides_iff_sample :
    Decides Sample.decoders Sample.settings Sample.joining "ayla" Sample.emptyPods ⟨0, 0⟩ := by
  have hpods : ArePods Sample.decoders Sample.emptyPods := by
    intro o ho
    rcases List.mem_pair.mp ho with rfl | rfl <;> exact ⟨_, rfl⟩
  exact (decides_iff rfl hpods (by decide)).1.mpr Sample.not_panics_emptyPods

/-- **A window at the end of the calendar stops all queries**: one minute before the last
date ends a character has disconnected from a ready Pod with a free seat; half a minute
later the decision for another character panics. -/
theorem late_window_panics :
    ArePods Sample.lateDecoders [Sample.latePod]
      ∧ ([Sample.latePod].map fun o => o.metadata.uid).Nodup
      ∧ decision Sample.lateDecoders Sample.settings Sample.joining [Sample.latePod] Sample.lateNow
          = .error .panic
      ∧ ¬Decides Sample.lateDecoders Sample.settings Sample.joining "ayla" [Sample.latePod]
          Sample.lateNow := by
  have hpods : ArePods Sample.lateDecoders [Sample.latePod] := by
    intro o ho
    obtain rfl := List.mem_singleton.mp ho
    exact ⟨_, rfl⟩
  exact ⟨hpods, by decide, decision_eq_panic hpods Sample.panics_latePod,
    not_decides_of_panics hpods Sample.panics_latePod⟩

end UdpDirector
