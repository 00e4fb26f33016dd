import UdpDirector.Characters.Shown

/-!
What a Pod shows, said without the function that reads it.

* `Pod.Presents`: the Pod shows a character with its status and timestamp, by the label of
  the character and, if it is disconnected, by a recorded time whose window of two minutes
  covers the time of the reading; the window is one of integers and has no last date;
* `Pod.Overflows`: the window of a disconnected character ends after the last date, where
  the source panics;
* `charactersOnPod_eq_error`, `charactersOnPod_iff`: the function panics exactly then, and
  otherwise returns the presented characters in ascending order of their IDs;
* `charactersOnPod_requested`: asking for some IDs is filtering the whole list.
-/

namespace UdpDirector

/-! ### Presented characters -/

/-- The reconnect window of a character, over unbounded dates, covers a time. -/
def WindowCovers (ext : Externals) (disconnected : Table String String) (id : String)
    (now : OffsetDateTime) (raw : String) : Prop :=
  disconnected.lookup id = some raw
    ∧ ∃ at_, ext.parseRfc3339 raw = some at_ ∧ at_ ≤ now
        ∧ now.unixNanos < at_.unixNanos + reconnectSeconds * 10 ^ 9

section

variable (ext : Externals) (config : Config) (pod : Pod) (now : OffsetDateTime)

/-- The Pod shows the character at the time. -/
def Pod.Presents (c : Character) : Prop :=
  validCharacterId c.characterId = true
    ∧ ∃ value, pod.metadata.label (config.characterKey c.characterId) = some value
      ∧ ((value = "Allocated" ∧ c.status = .allocated ∧ c.disconnectedAt = none)
        ∨ (value = "Used" ∧ c.status = .used ∧ c.disconnectedAt = none)
        ∨ (value = "Disconnected" ∧ c.status = .disconnected
            ∧ ∃ raw, c.disconnectedAt = some raw
              ∧ WindowCovers ext (disconnectTimes ext pod config) c.characterId now raw))

/-- The Pod has a disconnected character whose window began, and ends after the last
date. -/
def Pod.Overflows : Prop :=
  ∃ id raw at_, validCharacterId id = true
    ∧ pod.metadata.label (config.characterKey id) = some "Disconnected"
    ∧ (disconnectTimes ext pod config).lookup id = some raw
    ∧ ext.parseRfc3339 raw = some at_ ∧ at_ ≤ now
    ∧ at_.checkedAddSeconds reconnectSeconds = none

end

/-! ### Where reading a Pod panics -/

section

variable {ext : Externals} {config : Config} {pod : Pod} {disconnected : Table String String}
  {requested : List String} {now : OffsetDateTime}

lemma OffsetDateTime.unixNanos_of_checkedAddSeconds {t closing : OffsetDateTime} {seconds : ℤ}
    (h : t.checkedAddSeconds seconds = some closing) :
    closing.unixNanos = t.unixNanos + seconds * 10 ^ 9 := by
  obtain ⟨-, h⟩ := Option.ite_none_right_eq_some.mp h
  obtain rfl := Option.some.inj h
  rfl

/-- A window computed by the source is one over unbounded dates, and the other way around
where its end is a date. -/
lemma windowOpen_iff {id raw : String} :
    WindowOpen ext disconnected id now raw
      ↔ WindowCovers ext disconnected id now raw
        ∧ ∀ at_, ext.parseRfc3339 raw = some at_ →
          at_.checkedAddSeconds reconnectSeconds ≠ none := by
  constructor
  · rintro ⟨hraw, at_, closing, hat, hle, hclosing, hlt⟩
    rw [OffsetDateTime.lt_def, OffsetDateTime.unixNanos_of_checkedAddSeconds hclosing] at hlt
    refine ⟨⟨hraw, at_, hat, hle, hlt⟩, fun at' hat' => ?_⟩
    obtain rfl : at_ = at' := Option.some.inj (hat.symm.trans hat')
    simp [hclosing]
  · rintro ⟨⟨hraw, at_, hat, hle, hlt⟩, hdate⟩
    obtain ⟨closing, hclosing⟩ := Option.ne_none_iff_exists'.mp (hdate at_ hat)
    refine ⟨hraw, at_, closing, hat, hle, hclosing, ?_⟩
    rwa [OffsetDateTime.lt_def, OffsetDateTime.unixNanos_of_checkedAddSeconds hclosing]

/-- Reading a window fails by a panic only, and only where its end is not a date. -/
lemma openWindow_eq_error {id : String} {fault : Fault} :
    openWindow ext disconnected now id = .error fault
      ↔ fault = .panic ∧ ∃ raw at_, disconnected.lookup id = some raw
        ∧ ext.parseRfc3339 raw = some at_ ∧ at_ ≤ now
        ∧ at_.checkedAddSeconds reconnectSeconds = none := by
  unfold openWindow
  constructor
  · intro h
    split at h
    · simp at h
    · rename_i raw hraw
      split at h
      · simp at h
      · rename_i at_ hat
        split at h
        · simp at h
        · rename_i hle
          split at h
          · rename_i hnone
            exact ⟨(Except.error.inj h).symm, raw, at_, hraw, hat,
              OffsetDateTime.not_lt_iff.mp hle, hnone⟩
          · simp at h
  · rintro ⟨rfl, raw, at_, hraw, hat, hle, hnone⟩
    simp only [hraw, hat, if_neg (not_lt_of_ge hle), hnone]

/-- A label fails to read where it is that of a disconnected character whose window ends
after the last date. -/
lemma labelCharacter_eq_error {key value : String} {fault : Fault} :
    labelCharacter ext config disconnected [] now key value = .error fault
      ↔ ∃ id, key = config.characterKey id ∧ validCharacterId id = true ∧ value = "Disconnected"
        ∧ openWindow ext disconnected now id = .error fault := by
  constructor
  · intro h
    rcases em (∃ id, key = config.characterKey id) with ⟨id, rfl⟩ | hkey
    swap
    · rw [labelCharacter_of_ne value fun id hid => hkey ⟨id, hid⟩] at h
      simp at h
    cases hvalid : validCharacterId id with
    | false => simp [labelCharacter_of_invalid _ hvalid] at h
    | true =>
        cases hs : CharacterStatus.ofLabel value with
        | none => simp [labelCharacter_of_unknown _ hs] at h
        | some status =>
            rcases eq_or_ne status .disconnected with rfl | hne
            · obtain rfl : value = "Disconnected" := by
                simpa using CharacterStatus.ofLabel_eq_some.mp hs
              rw [labelCharacter_disconnected hvalid] at h
              refine ⟨id, rfl, hvalid, rfl, ?_⟩
              cases hopen : openWindow ext disconnected now id with
              | error fault' =>
                  rw [hopen] at h
                  rw [Except.error.inj h]
              | ok opened =>
                  rw [hopen] at h
                  simp [Except.map] at h
            · rw [labelCharacter_of_connected hvalid hs hne] at h
              simp at h
  · rintro ⟨id, rfl, hvalid, rfl, hopen⟩
    rw [labelCharacter_disconnected hvalid, hopen]
    rfl

/-- The labels are collected, or one of them panics. -/
lemma collectCharacters_eq_error {labels : List (Σ _ : String, String)} {fault : Fault}
    (h : collectCharacters ext config disconnected requested now labels = .error fault) :
    ∃ e ∈ labels, labelCharacter ext config disconnected requested now e.1 e.2
      = .error fault := by
  induction labels with
  | nil => simp [collectCharacters] at h
  | cons e labels ih =>
      rw [collectCharacters] at h
      cases hc : labelCharacter ext config disconnected requested now e.1 e.2 with
      | error fault' =>
          rw [hc] at h
          obtain rfl : fault' = fault := Except.error.inj h
          exact ⟨e, List.mem_cons_self, hc⟩
      | ok character =>
          rw [hc] at h
          cases hrest : collectCharacters ext config disconnected requested now labels with
          | error fault' =>
              rw [hrest] at h
              obtain rfl : fault' = fault := Except.error.inj h
              obtain ⟨e', he', hfault⟩ := ih hrest
              exact ⟨e', List.mem_cons_of_mem e he', hfault⟩
          | ok rest =>
              rw [hrest] at h
              cases h

/-- Reading a Pod fails by a panic only, and only where a window ends after the last
date. -/
lemma overflows_of_error {fault : Fault}
    (h : charactersOnPod ext pod config [] now = .error fault) :
    fault = .panic ∧ pod.Overflows ext config now := by
  have hcollect : collectCharacters ext config (disconnectTimes ext pod config) [] now
      (pod.metadata.labels.getD ∅).entries = .error fault := by
    rw [charactersOnPod] at h
    cases hc : collectCharacters ext config (disconnectTimes ext pod config) [] now
        (pod.metadata.labels.getD ∅).entries with
    | error fault' =>
        rw [hc] at h
        rw [Except.error.inj h]
    | ok cs =>
        rw [hc] at h
        cases h
  obtain ⟨⟨key, value⟩, hmem, hfault⟩ := collectCharacters_eq_error hcollect
  obtain ⟨id, rfl, hvalid, rfl, hopen⟩ := labelCharacter_eq_error.mp hfault
  obtain ⟨rfl, raw, at_, hraw, hat, hle, hnone⟩ := openWindow_eq_error.mp hopen
  refine ⟨rfl, id, raw, at_, hvalid, ?_, hraw, hat, hle, hnone⟩
  rw [← Pod.lookup_labels]
  exact Table.lookup_eq_some.mpr hmem

lemma charactersOnPod_ne_ok (h : pod.Overflows ext config now) (cs : List Character) :
    charactersOnPod ext pod config [] now ≠ .ok cs := by
  obtain ⟨id, raw, at_, hvalid, hlabel, hraw, hat, hle, hnone⟩ := h
  intro hok
  have hfault : labelCharacter ext config (disconnectTimes ext pod config) [] now
      (config.characterKey id) "Disconnected" = .error .panic :=
    labelCharacter_eq_error.mpr ⟨id, rfl, hvalid, rfl,
      openWindow_eq_error.mpr ⟨rfl, raw, at_, hraw, hat, hle, hnone⟩⟩
  rw [(charactersOnPod_eq_ok.mp hok).1 _ _ hlabel] at hfault
  simp at hfault

/-- **Reading a Pod panics exactly where a window ends after the last date**, and does not
fail in any other way. -/
theorem charactersOnPod_eq_error {fault : Fault} :
    charactersOnPod ext pod config [] now = .error fault
      ↔ fault = .panic ∧ pod.Overflows ext config now := by
  refine ⟨overflows_of_error, ?_⟩
  rintro ⟨rfl, hoverflows⟩
  cases h : charactersOnPod ext pod config [] now with
  | ok cs => exact absurd h (charactersOnPod_ne_ok hoverflows cs)
  | error fault => rw [(overflows_of_error h).1]

lemma exists_charactersOnPod (h : ¬pod.Overflows ext config now) :
    ∃ cs, charactersOnPod ext pod config [] now = .ok cs := by
  cases hcs : charactersOnPod ext pod config [] now with
  | ok cs => exact ⟨cs, rfl⟩
  | error fault => exact absurd (charactersOnPod_eq_error.mp hcs).2 h

/-! ### What reading a Pod returns -/

/-- The characters shown are presented, where nothing overflows. -/
lemma shown_iff_presents (h : ¬pod.Overflows ext config now) {c : Character} :
    (∃ key value, pod.metadata.label key = some value
        ∧ shownCharacter ext config (disconnectTimes ext pod config) [] now key value = some c)
      ↔ pod.Presents ext config now c := by
  constructor
  · rintro ⟨key, value, hlabel, hshown⟩
    obtain ⟨rfl, hvalid, hstatus⟩ := shownCharacter_iff.mp hshown
    refine ⟨hvalid, value, hlabel, ?_⟩
    rcases hstatus with hstatus | hstatus | ⟨hvalue, hstatus, raw, hraw, hopen⟩
    · exact .inl hstatus
    · exact .inr (.inl hstatus)
    · exact .inr (.inr ⟨hvalue, hstatus, raw, hraw, (windowOpen_iff.mp hopen).1⟩)
  · rintro ⟨hvalid, value, hlabel, hstatus⟩
    refine ⟨_, value, hlabel, shownCharacter_iff.mpr ⟨rfl, hvalid, ?_⟩⟩
    rcases hstatus with hstatus | hstatus | ⟨rfl, hstatus, raw, hraw, hcovers⟩
    · exact .inl hstatus
    · exact .inr (.inl hstatus)
    · refine .inr (.inr ⟨rfl, hstatus, raw, hraw, windowOpen_iff.mpr ⟨hcovers, ?_⟩⟩)
      obtain ⟨hlookup, at_, hat, hle, -⟩ := hcovers
      intro at' hat' hnone
      obtain rfl : at_ = at' := Option.some.inj (hat.symm.trans hat')
      exact h ⟨_, raw, at_, hvalid, hlabel, hlookup, hat, hle, hnone⟩

/-- Every character is shown by one label. -/
lemma nodup_shown : ((pod.shown ext config now).map Character.characterId).Nodup := by
  rw [Pod.shown, Table.gather, List.Nodup, List.pairwise_map, List.pairwise_filterMap]
  refine (List.pairwise_map.mp pod.labels.nodupKeys).imp ?_
  intro e e' hne c hc c' hc' hid
  refine hne ?_
  rw [(shownCharacter_iff.mp hc).1, (shownCharacter_iff.mp hc').1, hid]

/-- **Reading a Pod returns the characters it presents**, in strictly ascending order of
their IDs, where no window ends after the last date. -/
theorem charactersOnPod_iff {cs : List Character} :
    charactersOnPod ext pod config [] now = .ok cs
      ↔ ¬pod.Overflows ext config now
        ∧ cs.Pairwise (fun c c' => c.characterId < c'.characterId)
        ∧ ∀ c, c ∈ cs ↔ pod.Presents ext config now c := by
  have hread : ∀ {ds : List Character}, charactersOnPod ext pod config [] now = .ok ds →
      ¬pod.Overflows ext config now
        ∧ ds.Pairwise (fun c c' => c.characterId < c'.characterId)
        ∧ ∀ c, c ∈ ds ↔ pod.Presents ext config now c := by
    intro ds h
    have hoverflows : ¬pod.Overflows ext config now :=
      fun hoverflows => charactersOnPod_ne_ok hoverflows ds h
    refine ⟨hoverflows, ?_, fun c => (mem_charactersOnPod h).trans (shown_iff_presents hoverflows)⟩
    rw [← (charactersOnPod_eq_ok.mp h).2]
    exact List.pairwise_lt_insertionSort_key nodup_shown
  refine ⟨hread, ?_⟩
  rintro ⟨hoverflows, hsorted, hmem⟩
  obtain ⟨ds, h⟩ := exists_charactersOnPod hoverflows
  obtain ⟨-, hsorted', hmem'⟩ := hread h
  rw [h, List.eq_of_pairwise_lt_key_of_mem_iff hsorted' hsorted
    fun c => (hmem' c).trans (hmem c).symm]

/-! ### Asking for some characters -/

/-- A character is asked for, by its ID or by no ID at all. -/
def askedFor (ids : List String) (c : Character) : Bool :=
  ids.isEmpty || ids.contains c.characterId

/-- A label shows its own character. -/
lemma characterId_of_labelCharacter {key value id : String} {c : Character}
    (hid : stripPrefix key (config.characterLabelPrefix ++ "/") = some id)
    (h : labelCharacter ext config disconnected [] now key value = .ok (some c)) :
    c.characterId = id := by
  have hkey := (shownCharacter_iff.mp (shownCharacter_eq_some.mpr h)).1
  have hstrip := stripPrefix_eq_some.mpr (show key = config.characterLabelPrefix ++ "/"
    ++ c.characterId from hkey)
  exact Option.some.inj (hstrip.symm.trans hid)

/-- The test of the label loop on the requested IDs. -/
lemma unrequested_eq (requested : List String) (id : String) :
    (requested ≠ [] && !requested.contains id)
      = !(requested.isEmpty || requested.contains id) := by
  cases requested <;> simp

/-- A label read for some IDs shows its character if that is one of them. -/
lemma labelCharacter_requested {key value : String} {character : Option Character}
    (h : labelCharacter ext config disconnected [] now key value = .ok character) :
    labelCharacter ext config disconnected requested now key value
      = .ok (character.filter (askedFor requested)) := by
  cases hid : stripPrefix key (config.characterLabelPrefix ++ "/") with
  | none =>
      rw [labelCharacter, hid] at h ⊢
      obtain rfl := Except.ok.inj h
      rfl
  | some id =>
      have hof : ∀ c, character = some c →
          askedFor requested c = (requested.isEmpty || requested.contains id) := by
        rintro c rfl
        rw [askedFor, characterId_of_labelCharacter hid h]
      cases hwanted : requested.isEmpty || requested.contains id with
      | true =>
          have hkeep : character.filter (askedFor requested) = character := by
            cases character with
            | none => rfl
            | some c => exact Option.filter_some_pos ((hof c rfl).trans hwanted)
          rw [hkeep, ← h, labelCharacter, labelCharacter, hid]
          simp only [unrequested_eq, hwanted, List.isEmpty_nil, Bool.true_or]
      | false =>
          have hdrop : character.filter (askedFor requested) = none := by
            cases character with
            | none => rfl
            | some c =>
                exact Option.filter_some_neg ((hof c rfl).trans hwanted)
          rw [hdrop, labelCharacter, hid]
          simp only [unrequested_eq, hwanted, Bool.not_false, Bool.or_true, if_true]

/-- The labels read for some IDs show what is shown for these IDs. -/
lemma collectCharacters_requested {labels : List (Σ _ : String, String)} {cs : List Character}
    (h : collectCharacters ext config disconnected [] now labels = .ok cs) :
    collectCharacters ext config disconnected requested now labels
      = .ok (cs.filter (askedFor requested)) := by
  induction labels generalizing cs with
  | nil =>
      obtain rfl := Except.ok.inj h
      rfl
  | cons e labels ih =>
      obtain ⟨character, hc, h⟩ := Except.exists_of_bind_eq_ok h
      obtain ⟨rest, hrest, h⟩ := Except.exists_of_bind_eq_ok h
      obtain rfl := Except.ok.inj h
      rw [collectCharacters, labelCharacter_requested hc, ih hrest, List.filter_append]
      cases character with
      | none => rfl
      | some c =>
          cases hwanted : askedFor requested c with
          | true =>
              rw [Option.filter_some_pos hwanted, Option.toList_some,
                List.filter_cons_of_pos hwanted]
              rfl
          | false =>
              rw [Option.filter_some_neg hwanted, Option.toList_some,
                List.filter_cons_of_neg (Bool.eq_false_iff.mp hwanted)]
              rfl

/-- **Asking for some IDs is filtering the whole list** afterwards. -/
theorem charactersOnPod_requested {cs : List Character}
    (h : charactersOnPod ext pod config [] now = .ok cs) :
    charactersOnPod ext pod config requested now
      = .ok (cs.filter (askedFor requested)) := by
  have hsorted := (charactersOnPod_eq_ok.mp h).2
  obtain ⟨collected, hcollected, rfl⟩ := Except.exists_of_map_eq_ok h
  have hshown : collected = pod.shown ext config now :=
    (collectCharacters_eq_ok.mp hcollected).2.symm
  rw [charactersOnPod, collectCharacters_requested hcollected, Except.map, hshown,
    List.filter_insertionSort_key nodup_shown]

end

end UdpDirector
