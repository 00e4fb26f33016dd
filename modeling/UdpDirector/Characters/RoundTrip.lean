import UdpDirector.Characters.Roster
import UdpDirector.Kube.Merge

/-!
An assignment written to the API and read back from it.

* `ReadBack`: two readings of a Pod that differ in one character, which is assigned in the second;
* `AssignmentReadsBack`: so differ the readings before and after the merge patch of an assignment,
  which changes nothing else of the Pod;
* `assignmentReadsBack_iff`: so they do exactly if no window of a disconnected character ends after
  the last date, in which case the first reading panics.
-/

namespace UdpDirector

/-- Two readings of a Pod, the second with one character assigned and all others as in the first. -/
structure ReadBack (id : String) (before after : List Character) : Prop where
  entry : (after.filter fun c => c.characterId = id) = [⟨id, .allocated, none⟩]
  others : (after.filter fun c => c.characterId ≠ id) = before.filter fun c => c.characterId ≠ id
  length_eq : after.length = before.length + if visible before id then 0 else 1

/-- The value of a Pod reads before and after the merge patch of an assignment, and the readings
agree with it. -/
def AssignmentReadsBack (ext : Externals) (config : Config) (json : Json) (id version : String)
    (now : OffsetDateTime) : Prop :=
  ∃ pod pod' before after, ext.readPod json = some pod
    ∧ ext.readPod (json.merge (allocationBody version (config.characterKey id))) = some pod'
    ∧ pod'.status = pod.status
    ∧ ObjectMeta.Assigned (config.characterKey id) version pod.metadata pod'.metadata
    ∧ charactersOnPod ext pod config [] now = .ok before
    ∧ charactersOnPod ext pod' config [] now = .ok after
    ∧ ReadBack id before after

section

variable {ext : Externals} {config : Config} {pod pod' : Pod} {now : OffsetDateTime}
  {id version : String} {before after : List Character}

/-! ### What the Pod presents -/

namespace ObjectMeta.Assigned

lemma disconnectTimes_eq {key : String}
    (h : ObjectMeta.Assigned key version pod.metadata pod'.metadata) :
    disconnectTimes ext pod' config = disconnectTimes ext pod config := by
  have hannotations : pod'.metadata.annotations = pod.metadata.annotations := by
    rw [h.rest]
  rw [disconnectTimes, disconnectTimes, hannotations]

variable (h : ObjectMeta.Assigned (config.characterKey id) version pod.metadata pod'.metadata)

include h

lemma label_self : pod'.metadata.label (config.characterKey id) = some "Allocated" := by
  rw [h.label, ObjectMeta.label_setLabel, if_pos rfl]

/-- The label of another character is its own, also where one ID begins with the other. -/
lemma label_of_ne {j : String} (hne : j ≠ id) :
    pod'.metadata.label (config.characterKey j) = pod.metadata.label (config.characterKey j) := by
  rw [h.label, ObjectMeta.label_setLabel, if_neg fun heq => hne (Config.characterKey_inj heq)]

lemma presents_of_ne {c : Character} (hne : c.characterId ≠ id) :
    pod'.Presents ext config now c ↔ pod.Presents ext config now c := by
  rw [Pod.Presents, Pod.Presents, h.label_of_ne hne, h.disconnectTimes_eq]

/-- The assigned character is presented, whatever its label and its annotation have been. -/
lemma presents_self (hvalid : validCharacterId id = true) {c : Character}
    (hid : c.characterId = id) :
    pod'.Presents ext config now c ↔ c = ⟨id, .allocated, none⟩ := by
  constructor
  · rintro ⟨-, value, hlabel, hstatus⟩
    rw [hid, h.label_self] at hlabel
    obtain rfl := Option.some.inj hlabel
    obtain ⟨_, status, disconnectedAt⟩ := c
    obtain rfl := hid
    rcases hstatus with ⟨-, rfl, rfl⟩ | ⟨hvalue, -⟩ | ⟨hvalue, -⟩
    · rfl
    · simp at hvalue
    · simp at hvalue
  · rintro rfl
    exact ⟨hvalid, "Allocated", h.label_self, .inl ⟨rfl, rfl, rfl⟩⟩

/-- No other window ends after the last date than before. -/
lemma overflows (hoverflows : pod'.Overflows ext config now) : pod.Overflows ext config now := by
  obtain ⟨j, raw, at_, hvalid, hlabel, hraw, hat, hle, hnone⟩ := hoverflows
  have hne : j ≠ id := by
    rintro rfl
    rw [h.label_self] at hlabel
    simp at hlabel
  rw [h.label_of_ne hne] at hlabel
  rw [h.disconnectTimes_eq] at hraw
  exact ⟨j, raw, at_, hvalid, hlabel, hraw, hat, hle, hnone⟩

end ObjectMeta.Assigned

/-! ### The two readings -/

/-- A reading shows a character at most once. -/
lemma length_filter_eq (hsorted : before.Pairwise fun c c' => c.characterId < c'.characterId)
    (id : String) :
    (before.filter fun c => c.characterId = id).length = if visible before id then 1 else 0 := by
  split
  · rename_i hvisible
    obtain ⟨c, hc, hid⟩ := visible_iff.mp hvisible
    have hnodup : (before.map Character.characterId).Nodup :=
      List.pairwise_map.mpr (hsorted.imp fun hlt => hlt.ne)
    have hone : (before.filter fun c => c.characterId = id) = [c] := by
      refine List.eq_of_pairwise_lt_key_of_mem_iff (hsorted.filter _)
        (List.pairwise_singleton _ c) fun d => ?_
      rw [List.mem_filter, List.mem_singleton, decide_eq_true_iff]
      constructor
      · rintro ⟨hd, hdid⟩
        exact List.inj_on_of_nodup_map hnodup hd hc (hdid.trans hid.symm)
      · rintro rfl
        exact ⟨hc, hid⟩
    rw [hone, List.length_singleton]
  · rename_i hvisible
    rw [List.filter_eq_nil_iff.mpr, List.length_nil]
    intro c hc hid
    exact hvisible (visible_iff.mpr ⟨c, hc, of_decide_eq_true hid⟩)

/-- The two readings agree with the assignment. -/
lemma ObjectMeta.Assigned.readBack (hvalid : validCharacterId id = true)
    (h : ObjectMeta.Assigned (config.characterKey id) version pod.metadata pod'.metadata)
    (hbefore : charactersOnPod ext pod config [] now = .ok before)
    (hafter : charactersOnPod ext pod' config [] now = .ok after) : ReadBack id before after := by
  obtain ⟨-, hsorted, hmem⟩ := charactersOnPod_iff.mp hbefore
  obtain ⟨-, hsorted', hmem'⟩ := charactersOnPod_iff.mp hafter
  have hentry : (after.filter fun c => c.characterId = id) = [⟨id, .allocated, none⟩] := by
    refine List.eq_of_pairwise_lt_key_of_mem_iff (hsorted'.filter _)
      (List.pairwise_singleton _ _) fun c => ?_
    rw [List.mem_filter, List.mem_singleton, decide_eq_true_iff, hmem']
    constructor
    · rintro ⟨hpresents, hid⟩
      exact (h.presents_self hvalid hid).mp hpresents
    · rintro rfl
      exact ⟨(h.presents_self hvalid rfl).mpr rfl, rfl⟩
  have hothers : (after.filter fun c => c.characterId ≠ id) =
      before.filter fun c => c.characterId ≠ id := by
    refine List.eq_of_pairwise_lt_key_of_mem_iff (hsorted'.filter _) (hsorted.filter _)
      fun c => ?_
    rw [List.mem_filter, List.mem_filter, decide_eq_true_iff, hmem, hmem']
    exact and_congr_left fun hne => h.presents_of_ne hne
  refine ⟨hentry, hothers, ?_⟩
  have hbefore' := before.length_eq_length_filter_add fun c => decide (c.characterId = id)
  have hafter' := after.length_eq_length_filter_add fun c => decide (c.characterId = id)
  simp only [← decide_not] at hbefore' hafter'
  rw [hafter', hentry, hothers, hbefore', length_filter_eq hsorted]
  split <;> simp [Nat.add_comm]

/-- **Writing an assignment and reading it back agree exactly if** no window of a disconnected
character of the Pod ends after the last date. -/
theorem assignmentReadsBack_iff {json : Json} (hvalid : validCharacterId id = true)
    (hread : ext.readPod json = some pod) (version : String) (now : OffsetDateTime) :
    AssignmentReadsBack ext config json id version now ↔ ¬pod.Overflows ext config now := by
  constructor
  · rintro ⟨pod₀, _, before, _, hread₀, -, -, -, hbefore, -⟩
    obtain rfl := Option.some.inj (hread.symm.trans hread₀)
    exact (charactersOnPod_iff.mp hbefore).1
  · intro hoverflows
    obtain ⟨pod', hread', hstatus, hassigned⟩ :=
      exists_readPod_merge hread (config.characterKey id) version
    obtain ⟨before, hbefore⟩ := exists_charactersOnPod hoverflows
    obtain ⟨after, hafter⟩ := exists_charactersOnPod fun h => hoverflows (hassigned.overflows h)
    exact ⟨pod, pod', before, after, hread, hread', hstatus, hassigned, hbefore, hafter,
      hassigned.readBack hvalid hbefore hafter⟩

end

namespace Sample

/-- A disconnect time in 1970. -/
def earlyTime : String := "1970-01-01T00:00:10Z"

/-- A disconnect time in the last minute of the last date, almost a day ahead of Greenwich. -/
def easternTime : String := "9999-12-31T23:59:30+23:59"

/-- An annotation that records a time for `bram`. -/
def bramAt (time : String) : String := "\x7b\"bram\":\"" ++ time ++ "\"\x7d"

/-- Decoders that read the annotations with these times. -/
def bramDecoders : Externals where
  decodeStatus := fun _ => some none
  decodeDisconnected := fun text =>
    if text = bramAt earlyTime then
      some ((∅ : Table String String).insert "bram" earlyTime)
    else if text = bramAt easternTime then
      some ((∅ : Table String String).insert "bram" easternTime)
    else
      none
  parseRfc3339 := fun text =>
    if text = earlyTime then
      some ⟨10 * 10 ^ 9, 0⟩
    else if text = easternTime then
      some ⟨253402214430 * 10 ^ 9, 86340⟩
    else
      none

/-- The value of a Pod on which `bram` is disconnected. -/
def bramValue (time : String) : Json :=
  .object [("metadata", .object
    [("annotations", .object [("udp-director.io/disconnected-at", .string (bramAt time))]),
      ("labels", .object [("characters.udp-director.io/bram", .string "Disconnected")]),
      ("name", .string "game-0"),
      ("resourceVersion", .string "7")])]

/-- A configuration with the default prefix and annotation. -/
def plainConfig : Config where
  defaultEndpoint := { resourceType := "pod", namespaceName := "games" }
  sessionTimeoutSeconds := 300
  resourceQueryMapping := ∅

end Sample

/-- A character that is disconnected is assigned again within its window. -/
theorem assignmentReadsBack_sample :
    AssignmentReadsBack Sample.bramDecoders Sample.plainConfig (Sample.bramValue Sample.earlyTime)
      "bram" "7" ⟨60 * 10 ^ 9, 0⟩ := by
  refine (assignmentReadsBack_iff (by decide) rfl "7" _).mpr ?_
  rintro ⟨id, raw, at_, -, -, -, hat, hle, hnone⟩
  simp only [Sample.bramDecoders] at hat
  split at hat
  · obtain rfl := Option.some.inj hat
    exact absurd hnone (by decide)
  · split at hat
    · obtain rfl := Option.some.inj hat
      exact absurd hle (by decide)
    · cases hat

/-- **A clock in the east stops the reading**: almost a day before the last date ends, a character
is assigned to a Pod on which another has disconnected in the last minute of that date. -/
theorem not_assignmentReadsBack_eastern :
    validCharacterId "ayla" = true
      ∧ (OffsetDateTime.checkedAddSeconds ⟨253402214460 * 10 ^ 9, 0⟩ reconnectSeconds).isSome
      ∧ ¬AssignmentReadsBack Sample.bramDecoders Sample.plainConfig
          (Sample.bramValue Sample.easternTime) "ayla" "7" ⟨253402214460 * 10 ^ 9, 0⟩ := by
  refine ⟨by decide, by decide, ?_⟩
  rintro ⟨pod, pod', before, after, hread, -, -, -, hbefore, -⟩
  obtain rfl := Option.some.inj hread
  refine charactersOnPod_ne_ok ?_ before hbefore
  exact ⟨"bram", Sample.easternTime, ⟨253402214430 * 10 ^ 9, 86340⟩, by decide, by decide,
    by decide, by decide, by decide, by decide⟩

end UdpDirector
