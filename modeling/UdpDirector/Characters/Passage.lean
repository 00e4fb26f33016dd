import UdpDirector.Characters.Roster

/-!
A Pod read at two times with no write in between.

* `Pod.OpensBetween`: the reconnect window of a character opens between the two times, which
  takes a recorded disconnect time that lay ahead at the first of them;
* `charactersOnPod_earlier`: whoever is shown later was shown before, other than the
  characters whose window opened, and these alone can take a seat that was free;
* `seat_taken_by_clock`: a controller clock that runs ahead does take one.
-/

namespace UdpDirector

/-! ### Windows that open -/

/-- The label of the character is `Disconnected`, and its recorded time lies after the one
time and not after the other. -/
def Pod.OpensBetween (ext : Externals) (config : Config) (pod : Pod) (now later : OffsetDateTime)
    (id : String) : Prop :=
  pod.metadata.label (config.characterKey id) = some "Disconnected"
    ∧ ∃ raw at_, (disconnectTimes ext pod config).lookup id = some raw
      ∧ ext.parseRfc3339 raw = some at_ ∧ now < at_ ∧ at_ ≤ later

section

variable {ext : Externals} {config : Config} {pod : Pod} {now later : OffsetDateTime}
  {disconnected : Table String String} {id raw : String}

/-- A window that covers the later time covers the earlier one, unless it opens in between. -/
lemma WindowCovers.earlier_iff (hle : now ≤ later)
    (h : WindowCovers ext disconnected id later raw) :
    WindowCovers ext disconnected id now raw
      ↔ ¬∃ raw at_, disconnected.lookup id = some raw ∧ ext.parseRfc3339 raw = some at_
          ∧ now < at_ ∧ at_ ≤ later := by
  obtain ⟨hraw, at_, hat, hlater, hlt⟩ := h
  constructor
  · rintro ⟨-, at', hat', hnow, -⟩ ⟨raw', at'', hraw', hat'', hahead, -⟩
    obtain rfl : raw = raw' := Option.some.inj (hraw.symm.trans hraw')
    obtain rfl : at' = at'' := Option.some.inj (hat'.symm.trans hat'')
    exact OffsetDateTime.not_lt_iff.mpr hnow hahead
  · intro hnone
    have hnow : at_ ≤ now := by
      rw [← OffsetDateTime.not_lt_iff]
      exact fun hahead => hnone ⟨raw, at_, hraw, hat, hahead, hlater⟩
    exact ⟨hraw, at_, hat, hnow, lt_of_le_of_lt (OffsetDateTime.le_def.mp hle) hlt⟩

/-- A character shown at the later time is shown at the earlier one, unless its window opens
in between. -/
lemma Pod.Presents.earlier_iff (hle : now ≤ later) {c : Character}
    (h : pod.Presents ext config later c) :
    pod.Presents ext config now c ↔ ¬pod.OpensBetween ext config now later c.characterId := by
  obtain ⟨hvalid, value, hlabel, hstatus⟩ := h
  constructor
  · rintro ⟨-, value', hlabel', hstatus'⟩ ⟨hdisconnected, hopens⟩
    obtain rfl : value = value' := Option.some.inj (hlabel.symm.trans hlabel')
    obtain rfl : value = "Disconnected" := Option.some.inj (hlabel.symm.trans hdisconnected)
    rcases hstatus with ⟨hvalue, -⟩ | ⟨hvalue, -⟩ | ⟨-, -, raw, hraw, hcovers⟩
    · exact absurd hvalue (by decide)
    · exact absurd hvalue (by decide)
    rcases hstatus' with ⟨hvalue, -⟩ | ⟨hvalue, -⟩ | ⟨-, -, raw', hraw', hcovers'⟩
    · exact absurd hvalue (by decide)
    · exact absurd hvalue (by decide)
    obtain rfl : raw = raw' := Option.some.inj (hraw.symm.trans hraw')
    exact (hcovers.earlier_iff hle).mp hcovers' hopens
  · intro hopens
    refine ⟨hvalid, value, hlabel, ?_⟩
    rcases hstatus with hstatus | hstatus | ⟨rfl, hstatus, raw, hraw, hcovers⟩
    · exact .inl hstatus
    · exact .inr (.inl hstatus)
    · exact .inr (.inr ⟨rfl, hstatus, raw, hraw,
        (hcovers.earlier_iff hle).mpr fun h => hopens ⟨hlabel, h⟩⟩)

/-- A window that ends after the last date is met at every time after it opens. -/
lemma Pod.Overflows.mono (hle : now ≤ later) (h : pod.Overflows ext config now) :
    pod.Overflows ext config later := by
  obtain ⟨id, raw, at_, hvalid, hlabel, hraw, hat, hnow, hnone⟩ := h
  exact ⟨id, raw, at_, hvalid, hlabel, hraw, hat, hnow.trans hle, hnone⟩

/-! ### Who was there before -/

/-- **Time only frees seats, unless a window opens.** A Pod that reads at the later of two
times reads at the earlier one. Whoever is shown later was shown before, exactly but for the
disconnected characters whose recorded time lies in between; the number shown grows at most
by these, and without them a seat that was free stays free. -/
theorem charactersOnPod_earlier (hle : now ≤ later) {cs' : List Character}
    (h : charactersOnPod ext pod config [] later = .ok cs') :
    ∃ cs, charactersOnPod ext pod config [] now = .ok cs
      ∧ (∀ c ∈ cs', c ∈ cs ↔ ¬pod.OpensBetween ext config now later c.characterId)
      ∧ (∀ ids : List String, (∀ c ∈ cs',
            pod.OpensBetween ext config now later c.characterId → c.characterId ∈ ids) →
          cs'.length ≤ cs.length + ids.length)
      ∧ ((∀ c ∈ cs', ¬pod.OpensBetween ext config now later c.characterId) →
          cs'.length ≤ cs.length
            ∧ (cs.length < config.maxCharactersPerServer →
                cs'.length < config.maxCharactersPerServer)) := by
  obtain ⟨hoverflows, hsorted, hmem⟩ := charactersOnPod_iff.mp h
  obtain ⟨cs, hcs⟩ := exists_charactersOnPod fun hbefore => hoverflows (hbefore.mono hle)
  have hearlier : ∀ c ∈ cs',
      c ∈ cs ↔ ¬pod.OpensBetween ext config now later c.characterId := by
    intro c hc
    rw [(charactersOnPod_iff.mp hcs).2.2]
    exact ((hmem c).mp hc).earlier_iff hle
  have hgrows : ∀ ids : List String, (∀ c ∈ cs',
        pod.OpensBetween ext config now later c.characterId → c.characterId ∈ ids) →
      cs'.length ≤ cs.length + ids.length := by
    intro ids hids
    -- the IDs shown later are among the IDs shown before and those of the open windows
    have hsub : cs'.map Character.characterId ⊆ cs.map Character.characterId ++ ids := by
      intro id hid
      obtain ⟨c, hc, rfl⟩ := List.mem_map.mp hid
      rcases em (pod.OpensBetween ext config now later c.characterId) with hopens | hopens
      · exact List.mem_append_right _ (hids c hc hopens)
      · exact List.mem_append_left _ (List.mem_map_of_mem ((hearlier c hc).mpr hopens))
    have hnodup : (cs'.map Character.characterId).Nodup :=
      List.pairwise_map.mpr (hsorted.imp fun hlt => hlt.ne)
    have hlength := (List.subperm_of_subset hnodup hsub).length_le
    simpa using hlength
  refine ⟨cs, hcs, hearlier, hgrows, fun hnone => ?_⟩
  have hlength := hgrows [] fun c hc hopens => absurd hopens (hnone c hc)
  exact ⟨hlength, lt_of_le_of_lt hlength⟩

end

/-! ### A controller clock that runs ahead -/

namespace Sample

/-- One seat a server. -/
def oneSeat : Config where
  maxCharactersPerServer := 1
  defaultEndpoint := { resourceType := "pod", namespaceName := "games" }
  sessionTimeoutSeconds := 300
  resourceQueryMapping := ∅

/-- When the character disconnected, by the clock of the controller. -/
def aheadAt : String := "2026-09-07T12:00:10Z"

/-- The annotation that records it. -/
def aheadText : String := "\x7b\"ayla\":\"2026-09-07T12:00:10Z\"\x7d"

/-- Decoders that read the one annotation. -/
def aheadDecoders : Externals where
  decodeStatus := fun _ => some none
  decodeDisconnected := fun text =>
    if text = aheadText then some ((∅ : Table String String).insert "ayla" aheadAt) else none
  parseRfc3339 := fun text => if text = aheadAt then some ⟨1788782410 * 10 ^ 9, 0⟩ else none

/-- The Pod that `ayla` disconnected from. -/
def aheadPod : Pod where
  metadata :=
    { name := some "game-0"
      labels := some ((∅ : Table String String).insert (oneSeat.characterKey "ayla") "Disconnected")
      annotations := some
        ((∅ : Table String String).insert oneSeat.disconnectAnnotation aheadText) }
  status := none

/-- Ten seconds before that time, by the clock of the director. -/
def beforeAhead : OffsetDateTime := ⟨1788782400 * 10 ^ 9, 0⟩

/-- At that time. -/
def atAhead : OffsetDateTime := ⟨1788782410 * 10 ^ 9, 0⟩

/-- Ten seconds after that time. -/
def afterAhead : OffsetDateTime := ⟨1788782420 * 10 ^ 9, 0⟩

end Sample

/-- The character is shown ten seconds after it disconnected, and so at that time. -/
theorem charactersOnPod_earlier_sample :
    ∃ cs, charactersOnPod Sample.aheadDecoders Sample.aheadPod Sample.oneSeat [] Sample.atAhead
        = .ok cs
      ∧ 1 ≤ cs.length := by
  have hlater : charactersOnPod Sample.aheadDecoders Sample.aheadPod Sample.oneSeat []
      Sample.afterAhead = .ok [⟨"ayla", .disconnected, some Sample.aheadAt⟩] := by decide +kernel
  have hle : Sample.atAhead ≤ Sample.afterAhead := by decide
  obtain ⟨cs, hcs, -, hgrows, -⟩ := charactersOnPod_earlier hle hlater
  refine ⟨cs, hcs, hgrows [] ?_⟩
  rintro c hc ⟨-, raw, at_, -, hat, hahead, -⟩
  simp only [Sample.aheadDecoders, Option.ite_none_right_eq_some, Option.some.injEq] at hat
  rw [← hat.2] at hahead
  exact absurd hahead (by decide)

/-- **A clock that runs ahead takes a seat**: nothing is written to the Pod, its one seat is
free, and ten seconds later it is taken. -/
theorem seat_taken_by_clock :
    Sample.beforeAhead ≤ Sample.atAhead
      ∧ charactersOnPod Sample.aheadDecoders Sample.aheadPod Sample.oneSeat [] Sample.beforeAhead
          = .ok []
      ∧ charactersOnPod Sample.aheadDecoders Sample.aheadPod Sample.oneSeat [] Sample.atAhead
          = .ok [⟨"ayla", .disconnected, some Sample.aheadAt⟩]
      ∧ Sample.oneSeat.maxCharactersPerServer = 1 := by
  decide +kernel

end UdpDirector
