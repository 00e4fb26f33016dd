import UdpDirector.Access.Canonical

/-!
The reply to a lookup, said without the functions that build it.

* `Pod.Lists`: the characters of an entry; `CharacterServer.EntryOf`: the entry of a ready
  Pod that shows a character asked for;
* `LooksUp`: the reply has one entry for each such Pod, no other one, in strictly ascending
  order of the server uids, and asking a Pod for some IDs is filtering its whole list;
* `LooksUp.congr`, `LooksUp.unique`: this says which reply it is, whatever the order of the
  Pods;
* `looks_up_iff`: a lookup does so unless reading a ready Pod panics, and replies the same
  on every permutation of the Pods.
-/

namespace UdpDirector

/-! ### What a lookup should reply -/

section

variable (ext : Externals) (config : Config) (now : OffsetDateTime) (ids : List String)

/-- The characters are the presented ones that are asked for, in strictly ascending order of
their IDs. -/
structure Pod.Lists (pod : Pod) (cs : List Character) : Prop where
  ascending : cs.Pairwise fun c c' => c.characterId < c'.characterId
  mem_iff : ∀ c, c ∈ cs ↔ pod.Presents ext config now c ∧ askedFor ids c = true

/-- The entry of a resource: that of a ready Pod, whether it drains or not, with at least
one character asked for. -/
structure CharacterServer.EntryOf (o : DynamicObject) (s : CharacterServer) : Prop where
  server : o.metadata.uid = some s.server
  characters : ∃ pod, ext.podOf o = some pod ∧ podReady pod = true
    ∧ pod.Lists ext config now ids s.characters
  nonempty : s.characters ≠ []

/-- The entries are those of a list of resources, in strictly ascending order of the server
uids. -/
structure ListsServers (resources : List DynamicObject) (servers : List CharacterServer) :
    Prop where
  ascending : servers.Pairwise fun s s' => s.server < s'.server
  sound : ∀ s ∈ servers, ∃ o ∈ resources, s.EntryOf ext config now ids o
  complete : ∀ o ∈ resources, ∀ pod c, ext.podOf o = some pod → podReady pod = true →
    pod.Presents ext config now c → askedFor ids c = true →
    ∃ s, (s ∈ servers ∧ s.EntryOf ext config now ids o)
      ∧ ∀ s' ∈ servers, s'.EntryOf ext config now ids o → s' = s

end

/-- A lookup replies with the entries of the resources, and asking a ready Pod for the IDs
gives what filtering all its characters gives. -/
structure LooksUp (ext : Externals) (config : Config) (a : Access)
    (resources : List DynamicObject) (now : OffsetDateTime) : Prop where
  reply : ∃ servers, decision ext config a resources now = .ok (.reply (.characterList servers))
    ∧ ListsServers ext config now a.ids resources servers
  filtered : ∀ o ∈ resources, ∀ pod, ext.podOf o = some pod → podReady pod = true →
    charactersOnPod ext pod config a.ids now
      = (charactersOnPod ext pod config [] now).map (List.filter (askedFor a.ids))

/-! ### There is one such reply -/

section

variable {ext : Externals} {config : Config} {now : OffsetDateTime} {ids : List String}
  {resources resources' : List DynamicObject} {servers servers' : List CharacterServer}

/-- A Pod has one list of characters. -/
lemma Pod.Lists.unique {pod : Pod} {cs cs' : List Character}
    (h : pod.Lists ext config now ids cs) (h' : pod.Lists ext config now ids cs') : cs = cs' := by
  exact List.eq_of_pairwise_lt_key_of_mem_iff h.ascending h'.ascending
    fun c => (h.mem_iff c).trans (h'.mem_iff c).symm

/-- A resource has one entry. -/
lemma CharacterServer.EntryOf.unique {o : DynamicObject} {s s' : CharacterServer}
    (h : s.EntryOf ext config now ids o) (h' : s'.EntryOf ext config now ids o) : s = s' := by
  obtain ⟨server, characters⟩ := s
  obtain ⟨server', characters'⟩ := s'
  obtain rfl : server = server' := Option.some.inj (h.server.symm.trans h'.server)
  obtain ⟨pod, hpod, -, hlists⟩ := h.characters
  obtain ⟨pod', hpod', -, hlists'⟩ := h'.characters
  obtain rfl : pod = pod' := Option.some.inj (hpod.symm.trans hpod')
  obtain rfl := hlists.unique hlists'
  rfl

/-- An entry lists a character that its Pod presents and that is asked for. -/
lemma CharacterServer.EntryOf.exists_character {o : DynamicObject} {s : CharacterServer}
    (h : s.EntryOf ext config now ids o) :
    ∃ pod c, ext.podOf o = some pod ∧ podReady pod = true ∧ pod.Presents ext config now c
      ∧ askedFor ids c = true := by
  obtain ⟨pod, hpod, hready, hlists⟩ := h.characters
  obtain ⟨c, hc⟩ := List.exists_mem_of_ne_nil s.characters h.nonempty
  obtain ⟨hpresents, hasked⟩ := (hlists.mem_iff c).mp hc
  exact ⟨pod, c, hpod, hready, hpresents, hasked⟩

lemma ListsServers.mem_iff (h : ListsServers ext config now ids resources servers)
    {s : CharacterServer} :
    s ∈ servers ↔ ∃ o ∈ resources, s.EntryOf ext config now ids o := by
  refine ⟨h.sound s, ?_⟩
  rintro ⟨o, ho, hentry⟩
  obtain ⟨pod, c, hpod, hready, hpresents, hasked⟩ := hentry.exists_character
  obtain ⟨s', ⟨hmem, hentry'⟩, -⟩ := h.complete o ho pod c hpod hready hpresents hasked
  rwa [hentry.unique hentry']

/-- The order of the resources does not matter. -/
lemma ListsServers.congr (h : ListsServers ext config now ids resources servers)
    (hperm : resources'.Perm resources) : ListsServers ext config now ids resources' servers := by
  refine ⟨h.ascending, ?_, fun o ho => h.complete o (hperm.mem_iff.mp ho)⟩
  intro s hs
  obtain ⟨o, ho, hentry⟩ := h.sound s hs
  exact ⟨o, hperm.mem_iff.mpr ho, hentry⟩

/-- The resources have one list of entries. -/
lemma ListsServers.unique (h : ListsServers ext config now ids resources servers)
    (h' : ListsServers ext config now ids resources servers') : servers = servers' := by
  exact List.eq_of_pairwise_lt_key_of_mem_iff h.ascending h'.ascending
    fun s => h.mem_iff.trans h'.mem_iff.symm

/-! ### What the lookup builds -/

/-- The entry of a candidate, none if it shows no character asked for. -/
def Candidate.entry (ids : List String) (k : Candidate ext config now) : Option CharacterServer :=
  (k.pod.metadata.uid.map fun server =>
    { server, characters := k.characters.filter (askedFor ids) }).filter
      fun s => !s.characters.isEmpty

/-- A candidate with a uid gives its entry. -/
lemma listServer_eq {k : Candidate ext config now} {server : String}
    (huid : k.pod.metadata.uid = some server) : listServer ids k = .ok (k.entry ids) := by
  have hasked : (fun c : Character => ids.isEmpty || ids.contains c.characterId) = askedFor ids :=
    rfl
  rw [listServer, Candidate.entry, huid, hasked]
  cases hempty : (k.characters.filter (askedFor ids)).isEmpty with
  | true =>
      rw [if_pos rfl, Option.map_some, Option.filter_some_neg (by simp [hempty])]
  | false =>
      rw [if_neg Bool.false_ne_true, Option.map_some,
        Option.filter_some_pos (by simp [hempty])]

/-- Candidates with uids give their entries. -/
lemma collectServers_eq {ks : List (Candidate ext config now)}
    (huids : ∀ k ∈ ks, ∃ server, k.pod.metadata.uid = some server) :
    collectServers ids ks = .ok (ks.filterMap (Candidate.entry ids)) := by
  induction ks with
  | nil => rfl
  | cons k ks ih =>
      obtain ⟨server, hserver⟩ := huids k List.mem_cons_self
      have hrest := ih fun k' hk' => huids k' (List.mem_cons_of_mem k hk')
      rw [collectServers, listServer_eq hserver, hrest]
      cases h : k.entry ids with
      | none => rw [List.filterMap_cons_none h]; rfl
      | some s => rw [List.filterMap_cons_some h]; rfl

lemma Candidate.entry_eq_some {k : Candidate ext config now} {s : CharacterServer} :
    k.entry ids = some s
      ↔ k.pod.metadata.uid = some s.server ∧ k.characters.filter (askedFor ids) = s.characters
        ∧ s.characters ≠ [] := by
  obtain ⟨server, characters⟩ := s
  simp only [Candidate.entry, Option.filter_eq_some_iff, Option.map_eq_some_iff,
    CharacterServer.mk.injEq, Bool.not_eq_true', List.isEmpty_eq_false_iff]
  constructor
  · rintro ⟨⟨server', huid, rfl, hcharacters⟩, hne⟩
    exact ⟨huid, hcharacters, hne⟩
  · rintro ⟨huid, hcharacters, hne⟩
    exact ⟨⟨server, huid, rfl, hcharacters⟩, hne⟩

/-- The characters of a candidate that are asked for are those its Pod lists. -/
lemma Candidate.lists (ids : List String) (k : Candidate ext config now) :
    k.pod.Lists ext config now ids (k.characters.filter (askedFor ids)) := by
  obtain ⟨-, hsorted, hmem⟩ := charactersOnPod_iff.mp k.shown
  refine ⟨hsorted.filter _, fun c => ?_⟩
  rw [List.mem_filter, hmem]

/-- The entry of a candidate is that of its resource. -/
lemma Candidate.entryOf {k : Candidate ext config now} {s : CharacterServer}
    (h : k.entry ids = some s) : s.EntryOf ext config now ids k.object := by
  obtain ⟨huid, hcharacters, hne⟩ := Candidate.entry_eq_some.mp h
  rw [Externals.metadata_podOf k.decoded] at huid
  exact ⟨huid, ⟨k.pod, k.decoded, k.ready, hcharacters ▸ k.lists ids⟩, hne⟩

/-- A candidate that shows a character asked for has an entry. -/
lemma Candidate.exists_entry {k : Candidate ext config now} {server : String} {c : Character}
    (huid : k.pod.metadata.uid = some server) (hpresents : k.pod.Presents ext config now c)
    (hasked : askedFor ids c = true) : ∃ s, k.entry ids = some s := by
  have hc := ((k.lists ids).mem_iff c).mpr ⟨hpresents, hasked⟩
  exact ⟨⟨server, k.characters.filter (askedFor ids)⟩,
    Candidate.entry_eq_some.mpr ⟨huid, rfl, List.ne_nil_of_mem hc⟩⟩

/-- The candidates of a snapshot are in its order. -/
lemma object_sublist_of_candidates {ks : List (Candidate ext config now)}
    (h : candidates ext config now resources = .ok ks) :
    (ks.map Candidate.object).Sublist resources := by
  induction resources generalizing ks with
  | nil =>
      obtain rfl : [] = ks := Except.ok.inj h
      exact List.Sublist.refl _
  | cons o resources ih =>
      obtain ⟨r, hr, h⟩ := Except.exists_of_bind_eq_ok h
      obtain ⟨rest, hrest, h⟩ := Except.exists_of_bind_eq_ok h
      obtain rfl := Except.ok.inj h
      cases r with
      | none => exact (ih hrest).cons o
      | some k =>
          have hobject := object_of_candidate hr
          have hcons := (ih hrest).cons_cons o
          rwa [← hobject] at hcons ⊢

/-- Distinct uids of the resources are distinct uids of the entries. -/
lemma nodup_entries {ks : List (Candidate ext config now)}
    (huids : (resources.map fun o => o.metadata.uid).Nodup)
    (h : candidates ext config now resources = .ok ks) :
    ((ks.filterMap (Candidate.entry ids)).map CharacterServer.server).Nodup := by
  have hks : (ks.map fun k => k.object.metadata.uid).Nodup := by
    have hsublist := (object_sublist_of_candidates h).map fun o => o.metadata.uid
    simpa only [List.map_map, Function.comp_def] using huids.sublist hsublist
  rw [List.Nodup, List.pairwise_map, List.pairwise_filterMap]
  refine (List.pairwise_map.mp hks).imp ?_
  intro k k' hne s hs s' hs' hserver
  refine hne ?_
  rw [(Candidate.entryOf hs).server, (Candidate.entryOf hs').server, hserver]

/-- The sorted entries of the candidates are those of the resources. -/
lemma listsServers_of_candidates {ks : List (Candidate ext config now)}
    (huids : (resources.map fun o => o.metadata.uid).Nodup)
    (hnamed : ∀ o ∈ resources, ∃ server, o.metadata.uid = some server)
    (h : candidates ext config now resources = .ok ks) :
    ListsServers ext config now ids resources
      ((ks.filterMap (Candidate.entry ids)).insertionSort fun s s' => s.server ≤ s'.server) := by
  refine ⟨List.pairwise_lt_insertionSort_key (nodup_entries huids h), ?_, ?_⟩
  · intro s hs
    obtain ⟨k, hk, hentry⟩ := List.mem_filterMap.mp ((List.mem_insertionSort _).mp hs)
    exact ⟨k.object, object_mem_of_mem_candidates h k hk, Candidate.entryOf hentry⟩
  · intro o ho pod c hpod hready hpresents hasked
    obtain ⟨k, hk, rfl⟩ := exists_candidate_of_ready hpod hready h ho
    obtain rfl : k.pod = pod := Option.some.inj (k.decoded.symm.trans hpod)
    obtain ⟨server, hserver⟩ := hnamed _ ho
    rw [← Externals.metadata_podOf k.decoded] at hserver
    obtain ⟨s, hs⟩ := Candidate.exists_entry hserver hpresents hasked
    have hmem : s ∈ ks.filterMap (Candidate.entry ids) := List.mem_filterMap.mpr ⟨k, hk, hs⟩
    exact ⟨s, ⟨(List.mem_insertionSort _).mpr hmem, Candidate.entryOf hs⟩,
      fun s' _ hentry => hentry.unique (Candidate.entryOf hs)⟩

/-! ### The decision of a lookup -/

variable {a : Access}

/-- A lookup on a snapshot that is read replies with the sorted entries. -/
lemma decision_eq_characterList {ks : List (Candidate ext config now)} (hc : a.character = none)
    (hnamed : ∀ o ∈ resources, ∃ server, o.metadata.uid = some server)
    (h : candidates ext config now resources = .ok ks) :
    decision ext config a resources now = .ok (.reply (.characterList
      ((ks.filterMap (Candidate.entry a.ids)).insertionSort
        fun s s' => s.server ≤ s'.server))) := by
  have hks : ∀ k ∈ ks, ∃ server, k.pod.metadata.uid = some server := by
    intro k hk
    rw [Externals.metadata_podOf k.decoded]
    exact hnamed k.object (object_mem_of_mem_candidates h k hk)
  rw [decision, h]
  simp only [bind, Except.bind]
  split
  · rw [listServers, collectServers_eq hks]
    rfl
  · rename_i character hsome
    rw [hc] at hsome
    cases hsome

/-- Asking a Pod for some IDs is filtering all its characters, where no window ends after
the last date. -/
lemma charactersOnPod_eq_map_filter {pod : Pod} (requested : List String)
    (h : ¬pod.Overflows ext config now) :
    charactersOnPod ext pod config requested now
      = (charactersOnPod ext pod config [] now).map (List.filter (askedFor requested)) := by
  obtain ⟨cs, hcs⟩ := exists_charactersOnPod h
  rw [charactersOnPod_requested hcs, hcs]
  rfl

/-- **A lookup replies with the entries of the Pods** where reading the snapshot does not
panic. -/
theorem looksUp_of_not_panics (hc : a.character = none) (hpods : ArePods ext resources)
    (huids : (resources.map fun o => o.metadata.uid).Nodup)
    (hnamed : ∀ o ∈ resources, ∃ server, o.metadata.uid = some server)
    (h : ¬Panics ext config resources now) : LooksUp ext config a resources now := by
  obtain ⟨ks, hks⟩ := exists_candidates hpods h
  refine ⟨⟨_, decision_eq_characterList hc hnamed hks,
    listsServers_of_candidates huids hnamed hks⟩, ?_⟩
  intro o ho pod hpod hready
  exact charactersOnPod_eq_map_filter a.ids fun hoverflows =>
    h ⟨o, ho, pod, hpod, hready, hoverflows⟩

/-- A lookup that panics replies with nothing. -/
lemma not_looksUp_of_panics (hpods : ArePods ext resources)
    (h : Panics ext config resources now) : ¬LooksUp ext config a resources now := by
  intro hlooks
  obtain ⟨servers, hreply, -⟩ := hlooks.reply
  rw [decision_eq_panic hpods h] at hreply
  cases hreply

/-- **Character lookup is exact.** For a list of Pods with distinct uids, the lookup replies
with one entry for each ready Pod that shows a character asked for and with no other one, in
strictly ascending order of the uids, each entry with exactly the characters of its Pod that
are asked for in strictly ascending order of their IDs, if and only if reading no ready Pod of
the list panics; it replies the same on every permutation of the list; and a Pod can be asked
for some IDs or its characters be filtered afterwards, where no window ends after the last
date. -/
theorem looksUp_iff (hc : a.character = none) (hpods : ArePods ext resources)
    (huids : (resources.map fun o => o.metadata.uid).Nodup)
    (hnamed : ∀ o ∈ resources, ∃ server, o.metadata.uid = some server) :
    (LooksUp ext config a resources now ↔ ¬Panics ext config resources now)
      ∧ (∀ resources', resources'.Perm resources →
          decision ext config a resources' now = decision ext config a resources now)
      ∧ ∀ (pod : Pod) (requested : List String), ¬pod.Overflows ext config now →
          charactersOnPod ext pod config requested now
            = (charactersOnPod ext pod config [] now).map (List.filter (askedFor requested)) := by
  refine ⟨⟨fun hlooks hpanics => not_looksUp_of_panics hpods hpanics hlooks,
    looksUp_of_not_panics hc hpods huids hnamed⟩, ?_,
    fun pod requested => charactersOnPod_eq_map_filter requested⟩
  intro resources' hperm
  have hpods' : ArePods ext resources' := fun o ho => hpods o (hperm.mem_iff.mp ho)
  have hpanics_iff : Panics ext config resources' now ↔ Panics ext config resources now := by
    simp only [Panics, hperm.mem_iff]
  by_cases hpanics : Panics ext config resources now
  · rw [decision_eq_panic hpods hpanics, decision_eq_panic hpods' (hpanics_iff.mpr hpanics)]
  obtain ⟨⟨servers, hreply, hlists⟩, -⟩ :=
    looksUp_of_not_panics hc hpods huids hnamed hpanics
  obtain ⟨⟨servers', hreply', hlists'⟩, -⟩ := looksUp_of_not_panics hc hpods'
    ((hperm.map _).nodup_iff.mpr huids) (fun o ho => hnamed o (hperm.mem_iff.mp ho))
    fun h => hpanics (hpanics_iff.mp h)
  rw [hreply, hreply', hlists'.unique (hlists.congr hperm)]

end

/-! ### A lookup of two Pods, and a Pod far in the east -/

namespace Sample

/-- A lookup of all characters. -/
def lookupAll : Access := { joining with ids := [], character := none, valid := by simp }

/-- Two Pods, one with the character `bram`. -/
def allocatedPods : List DynamicObject :=
  [pod "game-1" "uid-1" "10.0.0.2",
    (pod "game-0" "uid-0" "10.0.0.1").patched (settings.characterKey "bram") "Allocated" "2"]

lemma arePods_allocatedPods : ArePods decoders allocatedPods := by
  intro o ho
  rcases List.mem_pair.mp ho with rfl | rfl <;> exact ⟨_, rfl⟩

lemma not_panics_allocatedPods : ¬Panics decoders settings allocatedPods ⟨0, 0⟩ := by
  refine not_panics_of_unannotated fun o ho => ?_
  rcases List.mem_pair.mp ho with rfl | rfl <;> rfl

/-- When the character `bram` disconnected, by a clock almost a day ahead of UTC. -/
def eastAt : String := "9999-12-31T23:59:30+23:59"

/-- The annotation that records it. -/
def eastText : String := "\x7b\"bram\":\"9999-12-31T23:59:30+23:59\"\x7d"

/-- Decoders that read the one annotation. -/
def eastDecoders : Externals where
  decodeStatus := decodeStatus
  decodeDisconnected := fun text =>
    if text = eastText then some ((∅ : Table String String).insert "bram" eastAt) else none
  parseRfc3339 := fun text =>
    if text = eastAt then some ⟨253402214430 * 10 ^ 9, 86340⟩ else none

/-- The Pod `game-0` on which `bram` is disconnected. -/
def eastPod : DynamicObject :=
  let annotations : Table String String := ∅
  { latePod with
    metadata :=
      { latePod.metadata with
        annotations := some (annotations.insert settings.disconnectAnnotation eastText) } }

/-- Half a minute later, almost a day before the last date ends. -/
def eastNow : OffsetDateTime := ⟨253402214460 * 10 ^ 9, 0⟩

lemma overflows_eastPod (status : Option PodStatus) :
    Pod.Overflows eastDecoders settings ⟨eastPod.metadata, status⟩ eastNow := by
  have hlabel : eastPod.metadata.label (settings.characterKey "bram") = some "Disconnected" := by
    decide
  have htimes : (disconnectTimes eastDecoders ⟨eastPod.metadata, none⟩ settings).lookup "bram"
      = some eastAt := by decide
  exact ⟨"bram", eastAt, ⟨253402214430 * 10 ^ 9, 86340⟩, by decide, hlabel, htimes, by decide,
    by decide, by decide⟩

lemma panics_eastPod : Panics eastDecoders settings [eastPod] eastNow :=
  ⟨eastPod, List.mem_singleton_self _, _, rfl, by decide, overflows_eastPod _⟩

end Sample

/-- Characters are looked up on two Pods. -/
theorem looksUp_iff_sample :
    LooksUp Sample.decoders Sample.settings Sample.lookupAll Sample.allocatedPods ⟨0, 0⟩ := by
  have hnamed : ∀ o ∈ Sample.allocatedPods, ∃ server, o.metadata.uid = some server := by
    intro o ho
    rcases List.mem_pair.mp ho with rfl | rfl <;> exact ⟨_, rfl⟩
  exact (looksUp_iff rfl Sample.arePods_allocatedPods (by decide) hnamed).1.mpr
    Sample.not_panics_allocatedPods

/-- **A clock in the east stops all lookups**: a character has disconnected from a ready Pod,
recorded by a local time in the last minute of the last date, although the instant is almost a
day earlier; half a minute later, long before the last two minutes of that date, the lookup
panics. -/
theorem east_window_panics :
    Sample.lookupAll.character = none
      ∧ ArePods Sample.eastDecoders [Sample.eastPod]
      ∧ ([Sample.eastPod].map fun o => o.metadata.uid).Nodup
      ∧ (∀ o ∈ [Sample.eastPod], ∃ server, o.metadata.uid = some server)
      ∧ (Sample.eastNow.checkedAddSeconds reconnectSeconds).isSome
      ∧ decision Sample.eastDecoders Sample.settings Sample.lookupAll [Sample.eastPod]
          Sample.eastNow = .error .panic
      ∧ ¬LooksUp Sample.eastDecoders Sample.settings Sample.lookupAll [Sample.eastPod]
          Sample.eastNow := by
  have hpods : ArePods Sample.eastDecoders [Sample.eastPod] := by
    intro o ho
    obtain rfl := List.mem_singleton.mp ho
    exact ⟨_, rfl⟩
  have hnamed : ∀ o ∈ [Sample.eastPod], ∃ server, o.metadata.uid = some server := by
    intro o ho
    obtain rfl := List.mem_singleton.mp ho
    exact ⟨_, rfl⟩
  exact ⟨rfl, hpods, by decide, hnamed, by decide,
    decision_eq_panic hpods Sample.panics_eastPod,
    not_looksUp_of_panics hpods Sample.panics_eastPod⟩

end UdpDirector
