import UdpDirector.Kube.Object
import UdpDirector.Foundation.Least
import Mathlib.Data.String.Basic

/-!
Characters on a Pod (`characters.rs`): one label per character under a
configured prefix, with a reconnect window for disconnected ones.

* `validCharacterId`: the identifiers a client may send;
* `charactersOnPod`: the visible characters of a Pod at a time, sorted by ID.
  It panics when the end of a reconnect window leaves the range of dates;
* `shownCharacter` is what one label shows when nothing panics, and
  `charactersOnPod_eq_ok` reads the whole function through it, so that a count
  of characters is a count of labels.
-/

namespace UdpDirector

/-- How long a disconnected character stays visible. -/
def reconnectSeconds : ℤ := 120

inductive CharacterStatus where
  | allocated
  | used
  | disconnected
  deriving DecidableEq, Repr

/-- The status a label value names. -/
def CharacterStatus.ofLabel : String → Option CharacterStatus
  | "Allocated" => some .allocated
  | "Used" => some .used
  | "Disconnected" => some .disconnected
  | _ => none

/-- A character shown on a Pod. -/
structure Character where
  characterId : String
  status : CharacterStatus
  disconnectedAt : Option String
  deriving DecidableEq, Repr

/-- The characters of one server in a lookup. -/
structure CharacterServer where
  server : String
  characters : List Character
  deriving DecidableEq, Repr

/-- `valid_character_id`. A character outside ASCII is more than one byte, none
of them alphanumeric, so the test on characters is the test on bytes. -/
def validCharacterId (id : String) : Bool :=
  id.utf8ByteSize ≤ 63
    && id.toList.head?.any Char.isAlphanum
    && id.toList.getLast?.any Char.isAlphanum
    && id.toList.all fun c => c.isAlphanum || ['-', '_', '.'].contains c

/-- `str::strip_prefix`. -/
def stripPrefix (s pre : String) : Option String :=
  if pre.toList <+: s.toList then some (String.ofList (s.toList.drop pre.length)) else none

/-- The disconnect times of a Pod by character; an annotation that does not
decode counts as an empty map. -/
def disconnectTimes (ext : Externals) (pod : Pod) (config : Config) : Table String String :=
  ((pod.metadata.annotations.bind fun a => a.lookup config.disconnectAnnotation).bind
    ext.decodeDisconnected).getD ∅

section

variable (ext : Externals) (config : Config) (disconnected : Table String String)
  (requested : List String) (now : OffsetDateTime)

/-- The recorded disconnect time of a character whose reconnect window is open. -/
def openWindow (id : String) : Except Fault (Option String) :=
  match disconnected.lookup id with
  | none => .ok none
  | some raw =>
      match ext.parseRfc3339 raw with
      | none => .ok none
      | some at_ =>
          if now < at_ then
            .ok none
          else
            -- `at + time::Duration::seconds(..)` is evaluated only once `now < at` fails
            match at_.checkedAddSeconds reconnectSeconds with
            | none => .error .panic
            | some closing => .ok (if closing ≤ now then none else some raw)

/-- The character a label shows at a time, none where the loop of
`characters_on_pod` continues with the next label. -/
def labelCharacter (key value : String) : Except Fault (Option Character) :=
  match stripPrefix key (config.characterLabelPrefix ++ "/") with
  | none => .ok none
  | some id =>
      if !validCharacterId id || (requested ≠ [] && !requested.contains id) then
        .ok none
      else
        match CharacterStatus.ofLabel value with
        | none => .ok none
        | some .disconnected =>
            (openWindow ext disconnected now id).map
              (Option.map fun raw => ⟨id, .disconnected, some raw⟩)
        | some status => .ok (some ⟨id, status, none⟩)

/-- The characters of a list of labels, in the order of the labels. -/
def collectCharacters : List (Σ _ : String, String) → Except Fault (List Character)
  | [] => .ok []
  | ⟨key, value⟩ :: labels => do
      let character ← labelCharacter ext config disconnected requested now key value
      let rest ← collectCharacters labels
      return character.toList ++ rest

end

/-- `characters_on_pod`. -/
def charactersOnPod (ext : Externals) (pod : Pod) (config : Config) (requested : List String)
    (now : OffsetDateTime) : Except Fault (List Character) :=
  (collectCharacters ext config (disconnectTimes ext pod config) requested now
      (pod.metadata.labels.getD ∅).entries).map
    (List.insertionSort fun a b => a.characterId ≤ b.characterId)

/-! ### What one label shows -/

/-- The character a label shows when nothing panics. -/
def shownCharacter (ext : Externals) (config : Config) (disconnected : Table String String)
    (requested : List String) (now : OffsetDateTime) (key value : String) : Option Character :=
  (labelCharacter ext config disconnected requested now key value).toOption.join

section

variable {ext : Externals} {config : Config} {disconnected : Table String String}
  {requested : List String} {now : OffsetDateTime}

lemma shownCharacter_of_ok {key value : String} {character : Option Character}
    (h : labelCharacter ext config disconnected requested now key value = .ok character) :
    shownCharacter ext config disconnected requested now key value = character := by
  rw [shownCharacter, h]
  rfl

/-- The labels are collected exactly when none of them panics. -/
lemma collectCharacters_eq_ok {labels : List (Σ _ : String, String)} {cs : List Character} :
    collectCharacters ext config disconnected requested now labels = .ok cs
      ↔ (∀ e ∈ labels, labelCharacter ext config disconnected requested now e.1 e.2
            = .ok (shownCharacter ext config disconnected requested now e.1 e.2))
        ∧ labels.filterMap (fun e =>
            shownCharacter ext config disconnected requested now e.1 e.2) = cs := by
  induction labels generalizing cs with
  | nil => simp [collectCharacters]
  | cons e labels ih =>
      rw [collectCharacters]
      constructor
      · intro h
        obtain ⟨character, hc, h⟩ := Except.exists_of_bind_eq_ok h
        obtain ⟨rest, hr, h⟩ := Except.exists_of_bind_eq_ok h
        obtain ⟨hall, rfl⟩ := ih.mp hr
        have hshown := shownCharacter_of_ok hc
        obtain rfl := Except.ok.inj h
        refine ⟨?_, ?_⟩
        · intro e' he'
          rcases List.mem_cons.mp he' with rfl | he'
          · rw [hc, hshown]
          · exact hall e' he'
        · rw [List.filterMap_cons, hshown]
          cases character <;> rfl
      · rintro ⟨hall, rfl⟩
        have hhead := hall e List.mem_cons_self
        have htail := ih.mpr ⟨fun e' he' => hall e' (List.mem_cons_of_mem e he'), rfl⟩
        simp only [hhead, htail, bind, Except.bind, pure, Except.pure, List.filterMap_cons]
        cases shownCharacter ext config disconnected requested now e.1 e.2 <;> rfl

end

/-! ### Reading a Pod through its labels -/

/-- The labels of a Pod, an empty map when it has none. -/
def Pod.labels (pod : Pod) : Table String String := pod.metadata.labels.getD ∅

/-- What the Pod shows at a time, in the order of its labels. -/
def Pod.shown (ext : Externals) (config : Config) (pod : Pod) (now : OffsetDateTime) :
    List Character :=
  Table.gather (shownCharacter ext config (disconnectTimes ext pod config) [] now) pod.labels

section

variable {ext : Externals} {config : Config} {pod : Pod} {now : OffsetDateTime}

lemma Pod.lookup_labels (key : String) : pod.labels.lookup key = pod.metadata.label key := by
  cases h : pod.metadata.labels <;> simp [Pod.labels, ObjectMeta.label, h]

/-- **`charactersOnPod` through the labels**: it returns exactly when no label
panics, and then it returns what the labels show, sorted. -/
theorem charactersOnPod_eq_ok {cs : List Character} :
    charactersOnPod ext pod config [] now = .ok cs
      ↔ (∀ key value, pod.metadata.label key = some value →
          labelCharacter ext config (disconnectTimes ext pod config) [] now key value
            = .ok (shownCharacter ext config (disconnectTimes ext pod config) [] now key value))
        ∧ (pod.shown ext config now).insertionSort (fun a b => a.characterId ≤ b.characterId)
            = cs := by
  have hlabels : (∀ e ∈ (pod.metadata.labels.getD ∅).entries,
        labelCharacter ext config (disconnectTimes ext pod config) [] now e.1 e.2
          = .ok (shownCharacter ext config (disconnectTimes ext pod config) [] now e.1 e.2))
      ↔ ∀ key value, pod.metadata.label key = some value →
        labelCharacter ext config (disconnectTimes ext pod config) [] now key value
          = .ok (shownCharacter ext config (disconnectTimes ext pod config) [] now key value) := by
    simp only [← Pod.lookup_labels, Pod.labels, Table.lookup_eq_some]
    exact ⟨fun h key value hmem => h ⟨key, value⟩ hmem, fun h e hmem => h e.1 e.2 hmem⟩
  rw [charactersOnPod, ← hlabels]
  constructor
  · intro h
    obtain ⟨rest, hrest, rfl⟩ := Except.exists_of_map_eq_ok h
    obtain ⟨hall, rfl⟩ := collectCharacters_eq_ok.mp hrest
    exact ⟨hall, rfl⟩
  · rintro ⟨hall, rfl⟩
    rw [collectCharacters_eq_ok.mpr ⟨hall, rfl⟩]
    rfl

lemma length_charactersOnPod {cs : List Character}
    (h : charactersOnPod ext pod config [] now = .ok cs) :
    cs.length = (pod.shown ext config now).length := by
  rw [← (charactersOnPod_eq_ok.mp h).2, List.length_insertionSort]

lemma mem_charactersOnPod {cs : List Character}
    (h : charactersOnPod ext pod config [] now = .ok cs) {c : Character} :
    c ∈ cs ↔ ∃ key value, pod.metadata.label key = some value
      ∧ shownCharacter ext config (disconnectTimes ext pod config) [] now key value = some c := by
  rw [← (charactersOnPod_eq_ok.mp h).2, List.mem_insertionSort, Pod.shown, Table.mem_gather]
  simp only [Pod.lookup_labels]

end

end UdpDirector
