import UdpDirector.Characters

/-!
What a label shows, when it shows it, and what an assignment changes.

* `shownCharacter_iff` is the inversion of the label loop: the three statuses,
  and for a disconnected character the half-open window of its annotation;
* `visible_charactersOnPod`: a character is visible through its own label;
* `Allocates.charactersOnPod`: once a character's label is set to `Allocated` the
  Pod still reads and shows one character more, or the same number;
* `charactersOnPod_later`: with no disconnect time in the future, a Pod never
  shows more with the passage of time.
-/

namespace UdpDirector

/-! ### The inversion of the label loop -/

lemma stripPrefix_eq_some {s pre id : String} : stripPrefix s pre = some id ↔ s = pre ++ id := by
  rw [stripPrefix, ← String.toList_inj, String.toList_append]
  constructor
  · intro h
    split at h
    · rename_i hpre
      obtain ⟨t, ht⟩ := hpre
      obtain rfl := Option.some.inj h
      rw [← ht, String.toList_ofList, ← String.length_toList, List.drop_left]
    · exact absurd h (by simp)
  · intro h
    rw [if_pos ⟨id.toList, h.symm⟩, h, ← String.length_toList, List.drop_left, String.ofList_toList]

/-- The reconnect window of a disconnected character is open at a time. -/
def WindowOpen (ext : Externals) (disconnected : Table String String) (id : String)
    (now : OffsetDateTime) (raw : String) : Prop :=
  disconnected.lookup id = some raw
    ∧ ∃ at_ closing, ext.parseRfc3339 raw = some at_ ∧ at_ ≤ now
        ∧ at_.checkedAddSeconds reconnectSeconds = some closing ∧ now < closing

lemma CharacterStatus.ofLabel_eq_some {value : String} {status : CharacterStatus} :
    CharacterStatus.ofLabel value = some status
      ↔ (value = "Allocated" ∧ status = .allocated) ∨ (value = "Used" ∧ status = .used)
        ∨ (value = "Disconnected" ∧ status = .disconnected) := by
  unfold CharacterStatus.ofLabel
  split <;> simp_all [eq_comm]

section

variable {ext : Externals} {config : Config} {disconnected : Table String String}
  {now : OffsetDateTime}

/-- A label outside the prefix shows nothing. -/
lemma labelCharacter_of_ne {key : String} (value : String)
    (h : ∀ id, key ≠ config.characterKey id) :
    labelCharacter ext config disconnected [] now key value = .ok none := by
  have hstrip : stripPrefix key (config.characterLabelPrefix ++ "/") = none := by
    rw [Option.eq_none_iff_forall_ne_some]
    exact fun id hid => h id (stripPrefix_eq_some.mp hid)
  rw [labelCharacter, hstrip]

/-- The label of an invalid ID shows nothing. -/
lemma labelCharacter_of_invalid {id : String} (value : String) (h : validCharacterId id = false) :
    labelCharacter ext config disconnected [] now (config.characterKey id) value = .ok none := by
  have hstrip := stripPrefix_eq_some.mpr (rfl : config.characterKey id = _ ++ id)
  simp [labelCharacter, hstrip, h]

/-- A value that names no status shows nothing. -/
lemma labelCharacter_of_unknown {value : String} (key : String)
    (h : CharacterStatus.ofLabel value = none) :
    labelCharacter ext config disconnected [] now key value = .ok none := by
  rw [labelCharacter, h]
  split
  · rfl
  · split <;> rfl

/-- A status other than `Disconnected` is shown at any time. -/
lemma labelCharacter_of_connected {id value : String} {status : CharacterStatus}
    (h : validCharacterId id = true) (hs : CharacterStatus.ofLabel value = some status)
    (hne : status ≠ .disconnected) :
    labelCharacter ext config disconnected [] now (config.characterKey id) value
      = .ok (some ⟨id, status, none⟩) := by
  have hstrip := stripPrefix_eq_some.mpr (rfl : config.characterKey id = _ ++ id)
  cases status <;> simp_all [labelCharacter]

/-- The window is open exactly between the disconnect time and its closing. -/
lemma openWindow_eq_some {id raw : String} :
    openWindow ext disconnected now id = .ok (some raw)
      ↔ WindowOpen ext disconnected id now raw := by
  unfold openWindow WindowOpen
  constructor
  · intro h
    split at h
    · simp at h
    · rename_i raw' hraw
      split at h
      · simp at h
      · rename_i at_ hat
        split at h
        · simp at h
        · rename_i hle
          split at h
          · simp at h
          · rename_i closing hclosing
            split at h
            · simp at h
            · rename_i hlt
              obtain rfl : raw' = raw := by simpa using h
              exact ⟨hraw, at_, closing, hat, OffsetDateTime.not_lt_iff.mp hle, hclosing,
                OffsetDateTime.not_le_iff.mp hlt⟩
  · rintro ⟨hraw, at_, closing, hat, hle, hclosing, hlt⟩
    simp only [hraw, hat, hclosing, if_neg (not_lt_of_ge hle), if_neg (not_le_of_gt hlt)]

/-- The label of a disconnected character shows it while its window is open. -/
lemma labelCharacter_disconnected {id : String} (h : validCharacterId id = true) :
    labelCharacter ext config disconnected [] now (config.characterKey id) "Disconnected"
      = (openWindow ext disconnected now id).map
          (Option.map fun raw => ⟨id, .disconnected, some raw⟩) := by
  have hstrip := stripPrefix_eq_some.mpr (rfl : config.characterKey id = _ ++ id)
  simp [labelCharacter, hstrip, h, CharacterStatus.ofLabel]

lemma shownCharacter_eq_some {key value : String} {c : Character} :
    shownCharacter ext config disconnected [] now key value = some c
      ↔ labelCharacter ext config disconnected [] now key value = .ok (some c) := by
  rw [shownCharacter]
  cases labelCharacter ext config disconnected [] now key value <;> simp [Except.toOption]

/-- **The label loop inverted**: a label shows a character exactly when its key
is the character's, the ID is valid, and its value is one of the three statuses,
`Disconnected` within the reconnect window. -/
theorem shownCharacter_iff {key value : String} {c : Character} :
    shownCharacter ext config disconnected [] now key value = some c
      ↔ key = config.characterKey c.characterId ∧ validCharacterId c.characterId = true
        ∧ ((value = "Allocated" ∧ c.status = .allocated ∧ c.disconnectedAt = none)
          ∨ (value = "Used" ∧ c.status = .used ∧ c.disconnectedAt = none)
          ∨ (value = "Disconnected" ∧ c.status = .disconnected
              ∧ ∃ raw, c.disconnectedAt = some raw
                ∧ WindowOpen ext disconnected c.characterId now raw)) := by
  rw [shownCharacter_eq_some]
  constructor
  · intro h
    rcases em (∃ id, key = config.characterKey id) with ⟨id, rfl⟩ | hkey
    · cases hvalid : validCharacterId id with
      | false => simp [labelCharacter_of_invalid _ hvalid] at h
      | true =>
          cases hs : CharacterStatus.ofLabel value with
          | none => simp [labelCharacter_of_unknown _ hs] at h
          | some status =>
              rcases CharacterStatus.ofLabel_eq_some.mp hs with ⟨rfl, rfl⟩ | ⟨rfl, rfl⟩ | ⟨rfl, rfl⟩
              · rw [labelCharacter_of_connected hvalid hs (by simp)] at h
                obtain rfl : _ = c := by simpa using h
                exact ⟨rfl, hvalid, .inl ⟨rfl, rfl, rfl⟩⟩
              · rw [labelCharacter_of_connected hvalid hs (by simp)] at h
                obtain rfl : _ = c := by simpa using h
                exact ⟨rfl, hvalid, .inr (.inl ⟨rfl, rfl, rfl⟩)⟩
              · rw [labelCharacter_disconnected hvalid] at h
                obtain ⟨opened, hopened, hc⟩ := Except.exists_of_map_eq_ok h
                obtain ⟨raw, rfl, rfl⟩ := Option.map_eq_some_iff.mp hc
                have hopen := openWindow_eq_some.mp hopened
                exact ⟨rfl, hvalid, .inr (.inr ⟨rfl, rfl, raw, rfl, hopen⟩)⟩
    · rw [labelCharacter_of_ne value fun id hid => hkey ⟨id, hid⟩] at h
      simp at h
  · obtain ⟨id, status, at_⟩ := c
    rintro ⟨rfl, hvalid, ⟨rfl, rfl, rfl⟩ | ⟨rfl, rfl, rfl⟩ | ⟨rfl, rfl, raw, rfl, hopen⟩⟩
    · exact labelCharacter_of_connected hvalid rfl (by simp)
    · exact labelCharacter_of_connected hvalid rfl (by simp)
    · rw [labelCharacter_disconnected hvalid, openWindow_eq_some.mpr hopen]
      rfl

end

/-! ### Who is visible -/

/-- A list of characters shows a character, whatever its status. -/
def visible (characters : List Character) (id : String) : Bool :=
  characters.any fun c => c.characterId == id

lemma visible_iff {characters : List Character} {id : String} :
    visible characters id = true ↔ ∃ c ∈ characters, c.characterId = id := by
  simp [visible]

/-- A character is visible through its own label and no other. -/
lemma visible_charactersOnPod {ext : Externals} {config : Config} {pod : Pod}
    {now : OffsetDateTime} {cs : List Character}
    (h : charactersOnPod ext pod config [] now = .ok cs) (id : String) :
    visible cs id = true
      ↔ ((pod.metadata.label (config.characterKey id)).bind
          (shownCharacter ext config (disconnectTimes ext pod config) [] now
            (config.characterKey id))).isSome := by
  rw [visible_iff]
  constructor
  · rintro ⟨c, hc, rfl⟩
    obtain ⟨key, value, hlabel, hshown⟩ := (mem_charactersOnPod h).mp hc
    obtain rfl := (shownCharacter_iff.mp hshown).1
    rw [hlabel, Option.bind_some, hshown]
    rfl
  · intro hsome
    obtain ⟨c, hc⟩ := Option.isSome_iff_exists.mp hsome
    obtain ⟨value, hlabel, hshown⟩ := Option.bind_eq_some_iff.mp hc
    refine ⟨c, (mem_charactersOnPod h).mpr ⟨_, value, hlabel, hshown⟩, ?_⟩
    exact (Config.characterKey_inj (shownCharacter_iff.mp hshown).1).symm

/-- **A connected character is seen**: its `Used` label is shown at any time. -/
lemma mem_charactersOnPod_of_used {ext : Externals} {config : Config} {pod : Pod}
    {now : OffsetDateTime} {cs : List Character}
    (h : charactersOnPod ext pod config [] now = .ok cs) {id : String}
    (hvalid : validCharacterId id = true)
    (hused : pod.metadata.label (config.characterKey id) = some "Used") :
    ⟨id, .used, none⟩ ∈ cs :=
  (mem_charactersOnPod h).mpr
    ⟨_, _, hused, shownCharacter_iff.mpr ⟨rfl, hvalid, .inr (.inl ⟨rfl, rfl, rfl⟩)⟩⟩

/-! ### What an assignment changes -/

section

variable {ext : Externals} {config : Config} {pod pod' : Pod} {now : OffsetDateTime} {id : String}

/-- The Pod a merge patch of one label leaves, up to its version. -/
structure Allocates (config : Config) (id : String) (pod pod' : Pod) : Prop where
  labels : pod'.labels = pod.labels.insert (config.characterKey id) "Allocated"
  annotations : pod'.metadata.annotations = pod.metadata.annotations

lemma Allocates.disconnectTimes (h : Allocates config id pod pod') :
    disconnectTimes ext pod' config = disconnectTimes ext pod config := by
  rw [UdpDirector.disconnectTimes, h.annotations, UdpDirector.disconnectTimes]

lemma Allocates.label_self (h : Allocates config id pod pod') :
    pod'.metadata.label (config.characterKey id) = some "Allocated" := by
  rw [← Pod.lookup_labels, h.labels, AList.lookup_insert]

lemma Allocates.label_of_ne (h : Allocates config id pod pod') {key : String}
    (hne : key ≠ config.characterKey id) : pod'.metadata.label key = pod.metadata.label key := by
  rw [← Pod.lookup_labels, h.labels, AList.lookup_insert_ne hne, Pod.lookup_labels]

lemma labelCharacter_allocated {disconnected : Table String String}
    (hvalid : validCharacterId id = true) :
    labelCharacter ext config disconnected [] now (config.characterKey id) "Allocated"
      = .ok (some ⟨id, .allocated, none⟩) :=
  labelCharacter_of_connected hvalid rfl (by simp)

/-- **What an assignment changes**: the Pod still reads, one more character is
shown unless it was shown before, and nobody else appears or disappears. -/
theorem Allocates.charactersOnPod (h : Allocates config id pod pod')
    (hvalid : validCharacterId id = true) {cs : List Character}
    (hcs : charactersOnPod ext pod config [] now = .ok cs) :
    ∃ cs', charactersOnPod ext pod' config [] now = .ok cs'
      ∧ cs'.length = cs.length + (if visible cs id then 0 else 1)
      ∧ ∀ j, visible cs' j = (decide (j = id) || visible cs j) := by
  have hread := (charactersOnPod_eq_ok.mp hcs).1
  obtain ⟨cs', hcs'⟩ : ∃ cs', UdpDirector.charactersOnPod ext pod' config [] now = .ok cs' := by
    refine ⟨_, charactersOnPod_eq_ok.mpr ⟨?_, rfl⟩⟩
    intro key value hlabel
    rw [h.disconnectTimes]
    rcases eq_or_ne key (config.characterKey id) with rfl | hne
    · obtain rfl : "Allocated" = value := by simpa [h.label_self] using hlabel
      rw [shownCharacter_eq_some.mpr (labelCharacter_allocated hvalid),
        labelCharacter_allocated hvalid]
    · exact hread key value (h.label_of_ne hne ▸ hlabel)
  refine ⟨cs', hcs', ?_, ?_⟩
  · rw [length_charactersOnPod hcs', length_charactersOnPod hcs, Pod.shown, Pod.shown, h.labels,
      h.disconnectTimes, Table.length_gather_insert,
      Table.length_gather _ pod.labels (config.characterKey id), Pod.lookup_labels,
      shownCharacter_eq_some.mpr (labelCharacter_allocated hvalid)]
    have hvis := visible_charactersOnPod hcs id
    cases hb : (pod.metadata.label (config.characterKey id)).bind
        (shownCharacter ext config (UdpDirector.disconnectTimes ext pod config) [] now
          (config.characterKey id)) with
    | none =>
        rw [hb] at hvis
        simp only [Option.isSome_none, Bool.false_eq_true, iff_false] at hvis
        simp [hvis, Nat.add_comm]
    | some c =>
        rw [hb] at hvis
        simp [hvis.mpr rfl]
  · intro j
    rw [Bool.eq_iff_iff, visible_charactersOnPod hcs', Bool.or_eq_true, decide_eq_true_iff,
      visible_charactersOnPod hcs, h.disconnectTimes]
    rcases eq_or_ne j id with rfl | hne
    · simp [h.label_self, shownCharacter_eq_some.mpr (labelCharacter_allocated hvalid)]
    · rw [h.label_of_ne fun heq => hne (Config.characterKey_inj heq)]
      simp [hne]

end

/-! ### What the passage of time changes -/

/-- No disconnect time of the Pod lies after a time. -/
def NoFutureDisconnect (ext : Externals) (config : Config) (pod : Pod) (now : OffsetDateTime) :
    Prop :=
  ∀ id raw at_, (disconnectTimes ext pod config).lookup id = some raw →
    ext.parseRfc3339 raw = some at_ → at_ ≤ now

/-- What a later reading may be: the same, or nothing where something was. -/
inductive Fades {α : Type*} : Except Fault (Option α) → Except Fault (Option α) → Prop where
  | same (r) : Fades r r
  | gone (a) : Fades (.ok a) (.ok none)

namespace Fades

variable {α β : Type*} {r r' : Except Fault (Option α)}

lemma map (h : Fades r r') (f : α → β) :
    Fades (r.map (Option.map f)) (r'.map (Option.map f)) := by
  cases h with
  | same => exact .same _
  | gone a => exact .gone _

/-- A reading exists later exactly if it exists now. -/
lemma exists_ok_iff (h : Fades r r') : (∃ a, r' = .ok a) ↔ ∃ a, r = .ok a := by
  cases h <;> simp

lemma eq_or_eq {a a' : Option α} (h : Fades (.ok a) (.ok a')) : a' = none ∨ a' = a := by
  cases h with
  | same => exact .inr rfl
  | gone => exact .inl rfl

end Fades

section

variable {ext : Externals} {config : Config} {pod : Pod} {now later : OffsetDateTime}

/-- A window in the past only closes. -/
lemma openWindow_fades (hfuture : NoFutureDisconnect ext config pod now) (hle : now ≤ later)
    (id : String) :
    Fades (openWindow ext (disconnectTimes ext pod config) now id)
      (openWindow ext (disconnectTimes ext pod config) later id) := by
  unfold openWindow
  cases hraw : (disconnectTimes ext pod config).lookup id with
  | none => exact .same _
  | some raw =>
      cases hat : ext.parseRfc3339 raw with
      | none =>
          simp only [hat]
          exact .same _
      | some at_ =>
          have hnow : at_ ≤ now := hfuture id raw at_ hraw hat
          simp only [hat, if_neg (not_lt_of_ge hnow), if_neg (not_lt_of_ge (hnow.trans hle))]
          cases hclosing : at_.checkedAddSeconds reconnectSeconds with
          | none => exact .same _
          | some closing =>
              rcases em (closing ≤ later) with hclosed | hopen
              · simp only [if_pos hclosed]
                exact .gone _
              · simp only [if_neg hopen, if_neg fun hc => hopen (le_trans hc hle)]
                exact .same _

/-- With no disconnect time in the future, a label shows later what it shows now
or nothing. -/
lemma labelCharacter_fades (hfuture : NoFutureDisconnect ext config pod now) (hle : now ≤ later)
    (key value : String) :
    Fades (labelCharacter ext config (disconnectTimes ext pod config) [] now key value)
      (labelCharacter ext config (disconnectTimes ext pod config) [] later key value) := by
  rcases em (∃ id, key = config.characterKey id) with ⟨id, rfl⟩ | hkey
  swap
  · have hne : ∀ id, key ≠ config.characterKey id := fun id hid => hkey ⟨id, hid⟩
    rw [labelCharacter_of_ne value hne, labelCharacter_of_ne value hne]
    exact .same _
  cases hvalid : validCharacterId id with
  | false =>
      rw [labelCharacter_of_invalid _ hvalid, labelCharacter_of_invalid _ hvalid]
      exact .same _
  | true =>
      cases hs : CharacterStatus.ofLabel value with
      | none =>
          rw [labelCharacter_of_unknown _ hs, labelCharacter_of_unknown _ hs]
          exact .same _
      | some status =>
          rcases eq_or_ne status .disconnected with rfl | hne
          · obtain rfl : value = "Disconnected" := by
              simpa using CharacterStatus.ofLabel_eq_some.mp hs
            rw [labelCharacter_disconnected hvalid, labelCharacter_disconnected hvalid]
            exact (openWindow_fades hfuture hle id).map _
          · rw [labelCharacter_of_connected hvalid hs hne,
              labelCharacter_of_connected hvalid hs hne]
            exact .same _

/-- A Pod reads when each of its labels does. -/
lemma exists_charactersOnPod_iff :
    (∃ cs, charactersOnPod ext pod config [] now = .ok cs)
      ↔ ∀ key value, pod.metadata.label key = some value →
        ∃ c, labelCharacter ext config (disconnectTimes ext pod config) [] now key value
          = .ok c := by
  constructor
  · rintro ⟨cs, hcs⟩ key value hlabel
    exact ⟨_, (charactersOnPod_eq_ok.mp hcs).1 key value hlabel⟩
  · intro h
    refine ⟨_, charactersOnPod_eq_ok.mpr ⟨fun key value hlabel => ?_, rfl⟩⟩
    obtain ⟨c, hc⟩ := h key value hlabel
    rw [hc, shownCharacter_of_ok hc]

/-- With no disconnect time in the future, a Pod that reads later reads now. -/
lemma exists_charactersOnPod_of_later (hfuture : NoFutureDisconnect ext config pod now)
    (hle : now ≤ later) {cs : List Character}
    (hcs : charactersOnPod ext pod config [] later = .ok cs) :
    ∃ cs', charactersOnPod ext pod config [] now = .ok cs' := by
  rw [exists_charactersOnPod_iff]
  intro key value hlabel
  rw [← (labelCharacter_fades hfuture hle key value).exists_ok_iff]
  exact exists_charactersOnPod_iff.mp ⟨cs, hcs⟩ key value hlabel

/-- **Time only closes windows**: with no disconnect time in the future, a Pod
that reads now reads later, and shows no character then that it does not show
now. -/
theorem charactersOnPod_later (hfuture : NoFutureDisconnect ext config pod now)
    (hle : now ≤ later) {cs : List Character}
    (hcs : charactersOnPod ext pod config [] now = .ok cs) :
    ∃ cs', charactersOnPod ext pod config [] later = .ok cs' ∧ cs'.length ≤ cs.length
      ∧ ∀ id, visible cs' id = true → visible cs id = true := by
  have hread := (charactersOnPod_eq_ok.mp hcs).1
  obtain ⟨cs', hcs'⟩ : ∃ cs', charactersOnPod ext pod config [] later = .ok cs' := by
    rw [exists_charactersOnPod_iff]
    intro key value hlabel
    rw [(labelCharacter_fades hfuture hle key value).exists_ok_iff]
    exact ⟨_, hread key value hlabel⟩
  have hshown : ∀ key value, pod.metadata.label key = some value →
      shownCharacter ext config (disconnectTimes ext pod config) [] later key value = none
        ∨ shownCharacter ext config (disconnectTimes ext pod config) [] later key value
          = shownCharacter ext config (disconnectTimes ext pod config) [] now key value := by
    intro key value hlabel
    have hfades := labelCharacter_fades hfuture hle key value
    rw [hread key value hlabel, (charactersOnPod_eq_ok.mp hcs').1 key value hlabel] at hfades
    exact hfades.eq_or_eq
  refine ⟨cs', hcs', ?_, ?_⟩
  · rw [length_charactersOnPod hcs', length_charactersOnPod hcs]
    refine Table.length_gather_le fun key value hmem => ?_
    rw [Pod.lookup_labels] at hmem
    exact hshown key value hmem
  · intro id hid
    rw [visible_charactersOnPod hcs'] at hid
    rw [visible_charactersOnPod hcs]
    cases hlabel : pod.metadata.label (config.characterKey id) with
    | none => simp [hlabel] at hid
    | some value =>
        rw [hlabel, Option.bind_some] at hid
        rcases hshown _ value hlabel with hnone | heq
        · simp [hnone] at hid
        · rw [Option.bind_some, ← heq]
          exact hid

end

end UdpDirector
