import UdpDirector.Access.Unmissed

/-!
The seats that get free while a query waits.

* `Seat`: a stored Pod that a decision at some time would select for a query, were
  it the only one;
* `WindowMoved`: a reconnect window of a Pod is open at one of two times only;
* `seat_pending_or_window`: where a seat is free and a query still waits, its watch
  has something to deliver, or a reconnect window of that very Pod has moved since
  the decision;
* `blocked_on_free_seat`: the second case occurs, since no event ends a wait when a
  window closes.
-/

namespace UdpDirector

variable {ext : Externals} {config : Config}

/-- A ready Pod that does not drain, matches the selectors of a query, and hosts its
character or has room for it at a time. -/
def Seat (ext : Externals) (config : Config) (a : Access) (o : DynamicObject)
    (now : OffsetDateTime) : Prop :=
  matchesLabels a.labels o = true
    ∧ Selected config.defaultEndpoint.statusQuery config.defaultEndpoint.annotationSelector o
    ∧ ∃ character pod cs, a.character = some character ∧ ext.podOf o = some pod
      ∧ podReady pod = true ∧ podDraining pod = false
      ∧ charactersOnPod ext pod config [] now = .ok cs
      ∧ (visible cs character = true ∨ cs.length < config.maxCharactersPerServer)

/-- The reconnect window of a disconnected character of a Pod is open at one of two
times only. -/
def WindowMoved (ext : Externals) (config : Config) (pod : Pod) (id : String)
    (t now : OffsetDateTime) : Prop :=
  pod.metadata.label (config.characterKey id) = some "Disconnected"
    ∧ ∃ raw, ¬(WindowOpen ext (disconnectTimes ext pod config) id t raw
      ↔ WindowOpen ext (disconnectTimes ext pod config) id now raw)

/-! ### What the clock changes -/

section

variable {pod : Pod} {t now : OffsetDateTime}

/-- A label whose window has not moved shows the same. -/
lemma shownCharacter_eq_of_windows (h : ∀ id, ¬WindowMoved ext config pod id t now)
    {key value : String} (hlabel : pod.metadata.label key = some value) :
    shownCharacter ext config (disconnectTimes ext pod config) [] t key value
      = shownCharacter ext config (disconnectTimes ext pod config) [] now key value := by
  refine Option.ext fun c => ?_
  rw [shownCharacter_iff, shownCharacter_iff]
  refine and_congr_right fun hkey => and_congr_right fun _ => or_congr_right (or_congr_right ?_)
  refine and_congr_right fun hvalue => and_congr_right fun _ => exists_congr fun raw =>
    and_congr_right fun _ => ?_
  by_contra hmoved
  exact h c.characterId ⟨by rw [← hkey, hlabel, hvalue], raw, hmoved⟩

/-- A Pod whose windows have not moved shows the same characters. -/
lemma charactersOnPod_eq_of_windows (h : ∀ id, ¬WindowMoved ext config pod id t now)
    {cs cs' : List Character} (hcs : charactersOnPod ext pod config [] t = .ok cs)
    (hcs' : charactersOnPod ext pod config [] now = .ok cs') : cs = cs' := by
  have hshown : pod.shown ext config t = pod.shown ext config now := by
    refine List.filterMap_congr fun e he => shownCharacter_eq_of_windows h ?_
    rw [← Pod.lookup_labels]
    exact Table.lookup_eq_some.mpr he
  rw [← (charactersOnPod_eq_ok.mp hcs).2, ← (charactersOnPod_eq_ok.mp hcs').2, hshown]

/-- A decision has read every ready Pod of its snapshot. -/
lemma exists_characters_of_decision {a : Access} {resources : List DynamicObject}
    {d : Decision ext config} (h : decision ext config a resources now = .ok d)
    {o : DynamicObject} (ho : o ∈ resources) (hpod : ext.podOf o = some pod)
    (hready : podReady pod = true) : ∃ cs, charactersOnPod ext pod config [] now = .ok cs := by
  obtain ⟨ks, hks, -⟩ := Except.exists_of_bind_eq_ok h
  obtain ⟨k, -, rfl⟩ := exists_candidate_of_ready hpod hready hks ho
  obtain rfl : k.pod = pod := Option.some.inj (k.decoded.symm.trans hpod)
  exact ⟨k.characters, k.shown⟩

/-- A decision that waits found no seat in its snapshot. -/
lemma not_seat_of_cold {a : Access} {resources : List DynamicObject}
    (h : decision ext config a resources t = .ok .cold) {o : DynamicObject} (ho : o ∈ resources) :
    ¬Seat ext config a o t := by
  rintro ⟨-, -, character, pod, cs, hcharacter, hpod, hready, hdrain, hcs, hseat⟩
  obtain ⟨character', hcharacter', hseatless⟩ := seatless_of_cold h
  obtain rfl := Option.some.inj (hcharacter.symm.trans hcharacter')
  obtain ⟨hhidden, hfull⟩ := hseatless o ho pod cs hpod hready hdrain hcs
  rcases hseat with hvisible | hroom
  · simp [hhidden] at hvisible
  · exact absurd hroom (not_lt_of_ge hfull)

/-- Where a seat is free later that a decision did not find, a window has moved. -/
lemma windowMoved_of_seat {a : Access} {resources : List DynamicObject}
    (h : decision ext config a resources t = .ok .cold) {o : DynamicObject} (ho : o ∈ resources)
    (hseat : Seat ext config a o now) :
    ∃ pod id, ext.podOf o = some pod ∧ WindowMoved ext config pod id t now := by
  have hnot := not_seat_of_cold h ho
  obtain ⟨hlabels, hselected, character, pod, cs', hcharacter, hpod, hready, hdrain, hcs', hfree⟩ :=
    hseat
  by_contra hmoved
  push Not at hmoved
  obtain ⟨cs, hcs⟩ := exists_characters_of_decision h ho hpod hready
  obtain rfl := charactersOnPod_eq_of_windows (fun id => hmoved pod id hpod) hcs hcs'
  exact hnot ⟨hlabels, hselected, character, pod, cs, hcharacter, hpod, hready, hdrain, hcs, hfree⟩

end

/-! ### Waiting next to a free seat -/

namespace Watched

/-- **A query waits next to a free seat only if its watch has something to deliver,
or a reconnect window of that Pod has moved since its decision.** -/
theorem seat_pending_or_window {x₀ x : Watched ext config} {acts : List WatchAction}
    (h₀ : x₀.Initial) (hrun : Run.run step x₀ acts = some x)
    (hserved : Run.Along step Serves x₀ acts) {q : TaskId} {a : Access} {version : String}
    (hphase : (x.world.tasks q).phase = .running a (.watching version)) :
    ∃ r resources t, x.named version = some r ∧ t ≤ x.wall ∧ x.SnapshotAt a r resources
      ∧ decision ext config a resources ⟨t, 0⟩ = .ok .cold
      ∧ ∀ name o, x.world.cluster.live name = some o → Seat ext config a o ⟨x.wall, 0⟩ →
        x.log.Unread (matchesLabels a.labels) ((x.cursors q).getD r)
          ∨ o ∈ resources ∧ ¬Seat ext config a o ⟨t, 0⟩
            ∧ ∃ pod id, ext.podOf o = some pod
              ∧ WindowMoved ext config pod id ⟨t, 0⟩ ⟨x.wall, 0⟩ := by
  have hknows := knows_of_run h₀ hrun hserved q
  rw [hphase] at hknows
  obtain ⟨hversion, r, hwaits⟩ := hknows
  obtain ⟨resources, t, ht, hsnapshot, hcold⟩ := hwaits.decided
  refine ⟨r, resources, t, hwaits.named hversion, ht, hsnapshot, hcold, fun name o ho hseat => ?_⟩
  by_cases hunread : x.log.Unread (matchesLabels a.labels) ((x.cursors q).getD r)
  · exact .inl hunread
  · -- nothing that concerns the query was written since its snapshot
    have hread : ¬x.log.Unread (matchesLabels a.labels) r := by
      rintro ⟨k, hk, hrk, htouches⟩
      refine hunread ⟨k, hk, ?_, htouches⟩
      exact hwaits.getD_le hrk htouches
    obtain ⟨hr, items, hitems, hfilter⟩ := hsnapshot
    have hstored : x.log.contents r name = some o := by
      rw [← WriteLog.live_iff_of_read hr hread hseat.1, live_of_run h₀ hrun]
      exact ho
    have hmem : o ∈ resources :=
      (mem_filterSnapshot hfilter).mpr ⟨(hitems o).mpr ⟨⟨name, hstored⟩, hseat.1⟩, hseat.2.1⟩
    exact .inr ⟨hmem, not_seat_of_cold hcold hmem, windowMoved_of_seat hcold hmem hseat⟩

end Watched

/-! ### A window that closes -/

namespace Sample

/-- When the character `bram` disconnected. -/
def disconnectedAt : String := "1970-01-01T00:00:00Z"

/-- The annotation that records it. -/
def disconnectedText : String := "\x7b\"bram\":\"1970-01-01T00:00:00Z\"\x7d"

/-- Decoders that read the one annotation below. -/
def windowDecoders : Externals where
  decodeStatus := decodeStatus
  decodeDisconnected := fun text =>
    if text = disconnectedText then some ((∅ : Table String String).insert "bram" disconnectedAt)
    else none
  parseRfc3339 := fun text => if text = disconnectedAt then some ⟨0, 0⟩ else none

/-- One character for a server, and five minutes for a start. -/
def fullSettings : Config :=
  { settings with
    maxCharactersPerServer := 1
    capacityDemand := some
      { endpoint := "http://demand", backendGroups := ∅, bootTimeoutSeconds := 300 } }

/-- The Pod `game-0` while its one character is disconnected. -/
def fullPod : DynamicObject :=
  let o :=
    (pod "game-0" "uid-0" "10.0.0.1").patched (settings.characterKey "bram") "Disconnected" "2"
  let annotations : Table String String := ∅
  { o with
    metadata :=
      { o.metadata with
        annotations := some (annotations.insert settings.disconnectAnnotation disconnectedText) } }

/-- The full Pod, and queries for the character `ayla`. -/
def fullWatched : Watched windowDecoders fullSettings where
  world :=
    { cluster := VersionedStore.empty.put "game-0" fullPod rfl (VersionedStore.fresh_empty _ _)
      directors := fun _ => {}
      tasks := fun _ =>
        { director := 0
          request := .query "arena" "ayla" []
          client := { ip := .v4 203 0 113 7, port := 50000 } } }
  log := { origin := Function.update (fun _ => none) "game-0" (some fullPod) }
  wall := 0

lemma initial_fullWatched : fullWatched.Initial where
  world := ⟨fun _ => rfl, fun _ => rfl, fun _ => rfl, fun _ => rfl⟩
  writes := rfl
  origin := rfl
  named := fun _ => rfl
  cursors := fun _ => rfl

/-- The list that finds the full Pod. -/
def fullList : WatchAction := .act (.task 0 (.list (some ([0], "2"))))

/-- The query waits, and two minutes pass. -/
def untilFree : List WatchAction :=
  [.act (.task 0 (.decide ⟨0, 0⟩)), .act (.task 0 .signal), .act (.task 0 .poll),
    .act (.task 0 (.reply (some 202))), .act (.task 0 .accept), .wait 0 .opened,
    .wall (120 * 10 ^ 9), .act (.tick 0 (120 * 10 ^ 9))]

/-- The query that waits next to a free seat. -/
def blocked : Watched windowDecoders fullSettings :=
  Run.reached Watched.step fullWatched (untilLock ++ fullList :: untilFree) (by decide +kernel)

lemma run_blocked :
    Run.run Watched.step fullWatched (untilLock ++ fullList :: untilFree) = some blocked :=
  Run.run_reached _ _ _

/-- The query that is about to list the full Pod. -/
def beforeFullList : Watched windowDecoders fullSettings :=
  Run.reached Watched.step fullWatched untilLock (by decide +kernel)

/-- The labels of the query of a task select an object. -/
def selects (o : DynamicObject) : Phase windowDecoders fullSettings → Bool
  | .running a _ => matchesLabels a.labels o
  | _ => false

/-- The list is that of the one Pod. -/
lemma serves_fullList : beforeFullList.Serves fullList := by
  have hlive : beforeFullList.world.cluster.live
      = Function.update (fun _ => none) "game-0" (some fullPod) :=
    Watched.live_of_revision_eq_zero initial_fullWatched (Run.run_reached _ untilLock _)
      (by decide +kernel)
  have hpick : beforeFullList.world.cluster.pick [0] = [fullPod] := rfl
  have hnamed : beforeFullList.named "2" = none := rfl
  have hmatches : selects fullPod (beforeFullList.world.tasks 0).phase = true := by
    decide +kernel
  refine ⟨fun a stage hphase o => ?_, fun _ r hr => ?_⟩
  · rw [hphase] at hmatches
    rw [hpick, hlive, List.mem_singleton]
    constructor
    · rintro rfl
      exact ⟨⟨"game-0", Function.update_self ..⟩, hmatches⟩
    · rintro ⟨⟨name, hname⟩, -⟩
      exact (eq_of_live hname).2.symm
  · rw [hnamed] at hr
    simp at hr

lemma serves_blocked :
    Run.Along Watched.step Watched.Serves fullWatched (untilLock ++ fullList :: untilFree) := by
  refine (Run.along_append ..).mpr ⟨⟨trivial, fun _ _ => ⟨trivial, fun _ _ => trivial⟩⟩,
    fun t ht => ⟨?_, fun u _ => ?_⟩⟩
  · obtain rfl : beforeFullList = t := Option.some.inj ((Run.run_reached _ _ _).symm.trans ht)
    exact serves_fullList
  · refine Run.along_of_forall (fun act hact y => ?_) u
    simp only [untilFree, List.mem_cons, List.not_mem_nil, or_false] at hact
    rcases hact with rfl | rfl | rfl | rfl | rfl | rfl | rfl | rfl <;> trivial

lemma live_blocked : blocked.world.cluster.live "game-0" = some fullPod := by
  rw [Watched.live_of_revision_eq_zero initial_fullWatched run_blocked (by decide +kernel)]
  rfl

/-- Once the window has closed, the Pod has a seat for the query. -/
lemma seat_fullPod {a : Access} (hlabels : matchesLabels a.labels fullPod = true)
    (hcharacter : a.character = some "ayla") :
    Seat windowDecoders fullSettings a fullPod ⟨120 * 10 ^ 9, 0⟩ := by
  obtain ⟨pod, hpod⟩ : ∃ pod, windowDecoders.podOf fullPod = some pod :=
    Option.isSome_iff_exists.mp rfl
  have hcheck : (windowDecoders.podOf fullPod).all (fun pod => podReady pod && !podDraining pod
      && decide ((charactersOnPod windowDecoders pod fullSettings []
        ⟨120 * 10 ^ 9, 0⟩).toOption = some [])) = true := by decide +kernel
  rw [hpod, Option.all_some, Bool.and_eq_true, Bool.and_eq_true, Bool.not_eq_true',
    decide_eq_true_iff] at hcheck
  obtain ⟨⟨hready, hdrain⟩, hcs⟩ := hcheck
  refine ⟨hlabels, ⟨fun query h => ?_, fun annotations h => ?_⟩, "ayla", pod, [], hcharacter, hpod,
    hready, hdrain, Except.eq_ok_of_toOption hcs, .inr (by decide)⟩
  · exact absurd h (by simp [fullSettings, settings])
  · exact absurd h (by simp [fullSettings, settings])

/-- The query waits before its deadline, has a seat, and is told of nothing. -/
lemma waits_blocked :
    ∃ a version r deadline, (blocked.world.tasks 0).phase = .running a (.watching version)
      ∧ blocked.world.deadline 0 = some deadline ∧ (blocked.world.director 0).now < deadline
      ∧ blocked.world.cluster.live "game-0" = some fullPod
      ∧ Seat windowDecoders fullSettings a fullPod ⟨blocked.wall, 0⟩
      ∧ blocked.cursors 0 = some r ∧ ¬blocked.log.Unread (matchesLabels a.labels) r := by
  obtain ⟨⟨a, version⟩, hwatching⟩ :=
    Option.isSome_iff_exists.mp (by decide +kernel : (blocked.watching 0).isSome = true)
  have hlabels : (blocked.watching 0).all (fun p => matchesLabels p.1.labels fullPod) = true := by
    decide +kernel
  have hcharacter : (blocked.watching 0).all (fun p => p.1.character == some "ayla") = true := by
    decide +kernel
  rw [hwatching, Option.all_some] at hlabels hcharacter
  have hunread : ¬blocked.log.Unread (matchesLabels a.labels) 0 := by
    rintro ⟨k, hk, -⟩
    rw [(by decide +kernel : blocked.log.revision = 0)] at hk
    exact absurd hk (Nat.not_lt_zero k)
  have hwall : blocked.wall = 120 * 10 ^ 9 := by decide +kernel
  refine ⟨a, version, 0, 300 * 10 ^ 9, Watched.watching_eq_some hwatching, by decide +kernel,
    by decide +kernel, live_blocked, ?_, by decide +kernel, hunread⟩
  rw [hwall]
  exact seat_fullPod hlabels (by simpa using hcharacter)

end Sample

/-- A query waits next to a free seat and is told of nothing: the window of the one
occupant has closed since its decision. -/
theorem blocked_on_free_seat :
    Sample.fullWatched.Initial
      ∧ Run.run Watched.step Sample.fullWatched
          (Sample.untilLock ++ Sample.fullList :: Sample.untilFree) = some Sample.blocked
      ∧ Run.Along Watched.step Watched.Serves Sample.fullWatched
          (Sample.untilLock ++ Sample.fullList :: Sample.untilFree)
      ∧ ∃ a version r deadline,
        (Sample.blocked.world.tasks 0).phase = .running a (.watching version)
        ∧ Sample.blocked.world.deadline 0 = some deadline
        ∧ (Sample.blocked.world.director 0).now < deadline
        ∧ Sample.blocked.world.cluster.live "game-0" = some Sample.fullPod
        ∧ Seat Sample.windowDecoders Sample.fullSettings a Sample.fullPod ⟨Sample.blocked.wall, 0⟩
        ∧ Sample.blocked.cursors 0 = some r
        ∧ ¬Sample.blocked.log.Unread (matchesLabels a.labels) r :=
  ⟨Sample.initial_fullWatched, Sample.run_blocked, Sample.serves_blocked, Sample.waits_blocked⟩

/-- The window of the one occupant has closed. -/
theorem seat_pending_or_window_sample : ∃ pod id t,
    Sample.windowDecoders.podOf Sample.fullPod = some pod
      ∧ WindowMoved Sample.windowDecoders Sample.fullSettings pod id ⟨t, 0⟩
          ⟨Sample.blocked.wall, 0⟩ := by
  obtain ⟨a, version, cursor, -, hphase, -, -, hlive, hseat, hcursor, hunread⟩ :=
    Sample.waits_blocked
  obtain ⟨r, resources, t, -, -, -, -, hfree⟩ := Watched.seat_pending_or_window
    Sample.initial_fullWatched Sample.run_blocked Sample.serves_blocked hphase
  rcases hfree "game-0" Sample.fullPod hlive hseat with hpending | ⟨-, -, pod, id, hpod, hmoved⟩
  · rw [hcursor] at hpending
    exact absurd hpending hunread
  · exact ⟨pod, id, t, hpod, hmoved⟩

end UdpDirector
