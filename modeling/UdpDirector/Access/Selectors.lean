import UdpDirector.Access.Discipline
import UdpDirector.Kube.Selector

/-!
Which Pods a request can reach, by their labels, and how it asks for them.

* `Carries`: an object carries the labels of a table, which is what a list selects by;
* `Phase.Within`: a request holds Pods of its selector only, in every run whose lists return
  what their selectors match;
* `Reaches`: the request reports the Pod or is assigned to it;
* `reached_carries_iff`: the Pods reached carry the labels of the operator and the label of
  the map exactly where the operator does not select by the label of the map himself, or
  selects the map of the client;
* `operator_label_overridden`: where he selects another map, the client reaches its Pods;
* `selector_says_exactly`: the texts of the list and of the watch ask for the merged selector
  and for nothing else.
-/

namespace UdpDirector

variable {ext : Externals} {config : Config}

/-! ### Labels -/

/-- The object carries the labels of a table. -/
def Carries (labels : Table String String) (o : DynamicObject) : Prop :=
  ∀ key value, labels.lookup key = some value → o.metadata.label key = some value

/-- The label selector of the operator. -/
def Config.baseSelector (config : Config) : Table String String :=
  config.defaultEndpoint.labelSelector.getD ∅

lemma matchesLabels_iff {labels : Table String String} {o : DynamicObject} :
    matchesLabels labels o = true ↔ Carries labels o := by
  simp only [matchesLabels, List.all_eq_true, beq_iff_eq, Carries, Table.lookup_eq_some]
  exact ⟨fun h key value hmem => h ⟨key, value⟩ hmem, fun h e he => h e.1 e.2 he⟩

/-- **What the merged selector selects**: the label of the map, and every other label of the
operator. -/
lemma carries_selector_iff {map : String} {o : DynamicObject} :
    Carries (config.selector map) o
      ↔ o.metadata.label config.mapLabel = some map
        ∧ ∀ key value, key ≠ config.mapLabel → config.baseSelector.lookup key = some value →
          o.metadata.label key = some value := by
  constructor
  · intro h
    refine ⟨h _ _ (AList.lookup_insert _), fun key value hne hkey => h key value ?_⟩
    rw [Config.selector, AList.lookup_insert_ne hne]
    exact hkey
  · rintro ⟨hmap, hothers⟩ key value hkey
    rcases eq_or_ne key config.mapLabel with rfl | hne
    · rw [Config.selector, AList.lookup_insert] at hkey
      rw [hmap, Option.some.inj hkey]
    · rw [Config.selector, AList.lookup_insert_ne hne] at hkey
      exact hothers key value hne hkey

/-- A Pod of the merged selector carries all labels of the operator exactly where these do not
ask for another map. -/
lemma carries_base_iff {map : String} {o : DynamicObject} (h : Carries (config.selector map) o) :
    (Carries config.baseSelector o ∧ o.metadata.label config.mapLabel = some map)
      ↔ ∀ value, config.baseSelector.lookup config.mapLabel = some value → value = map := by
  obtain ⟨hmap, hothers⟩ := carries_selector_iff.mp h
  constructor
  · rintro ⟨hbase, -⟩ value hvalue
    exact Option.some.inj ((hbase _ _ hvalue).symm.trans hmap)
  · refine fun hsame => ⟨fun key value hkey => ?_, hmap⟩
    rcases eq_or_ne key config.mapLabel with rfl | hne
    · rw [hmap, hsame value hkey]
    · exact hothers key value hne hkey

/-! ### What a request holds -/

/-- The Pods that a phase holds are of the selector of the request. -/
def Phase.Within : Phase ext config → Prop
  | .running a (.deciding resources _) => ∀ o ∈ resources, Carries a.labels o
  | .running a (.extracting choice) => Carries a.labels choice.candidate.object
  | .running a (.allocating target) => Carries a.labels target.choice.candidate.object
  | .running a (.clearing target) => Carries a.labels target.choice.candidate.object
  | .running a (.installing target) => Carries a.labels target.choice.candidate.object
  | _ => True

lemma Phase.Refused.within {p : Phase ext config} (h : p.Refused) : p.Within := by
  cases h <;> trivial

lemma Moves.within {w : World ext config} {q : TaskId} {p p' : Phase ext config} {event : Event}
    {eff : Effect} (hphase : (w.tasks q).phase = p) (h : Moves w q p event p' eff)
    (hlists : Linearizable w (.task q event)) (hwithin : p.Within) : p'.Within := by
  cases h with
  | reject hp => exact hp.within
  | refuse hstage hp => exact hp.within
  | list hstage hr =>
      intro o ho
      have hpick := ((mem_filterSnapshot hr).mp ho).1
      exact matchesLabels_iff.mp ((hlists _ _ hphase o).mp hpick).2
  | assign hd => exact hwithin _ (decision_eq_assign hd).2.2.1
  | connected hr hc =>
      obtain ⟨rfl, -⟩ := resolve_eq_ok hr
      exact hwithin
  | allocate hr hc =>
      obtain ⟨rfl, -⟩ := resolve_eq_ok hr
      exact hwithin
  | patch hr hp => exact hwithin
  | clear => exact hwithin
  | _ => trivial

/-- **Requests hold Pods of their selector**, in every run whose lists return what their
selectors match. -/
theorem within_of_run {w₀ w : World ext config} {acts : List Action} (h₀ : w₀.Initial)
    (hlists : Run.Along step Linearizable w₀ acts) (hrun : Run.run step w₀ acts = some w)
    (q : TaskId) : (w.tasks q).phase.Within := by
  refine Run.run_invariant_along
    (I := fun w : World ext config => ∀ q, (w.tasks q).phase.Within) ?_ ?_ hlists hrun q
  · intro w action w' hw hlist hstep q
    obtain ⟨event, p, eff, rfl, hmoves, rfl⟩ | ⟨-, htask⟩ := moves_or_others hstep q
    · rw [World.phase_move]
      exact hmoves.within rfl hlist (hw q)
    · rw [htask]
      exact hw q
  · intro q
    rw [h₀.entry q]
    trivial

/-! ### What a request reaches -/

/-- The Pod a query is assigned to, from the write of its label on. -/
def Phase.assigned : Phase ext config → Option DynamicObject
  | .running _ (.allocating target) => some target.choice.candidate.object
  | .running _ (.clearing target) => some target.choice.candidate.object
  | .running _ (.installing target) => some target.choice.candidate.object
  | _ => none

lemma Phase.Within.assigned {w : World ext config} {q : TaskId} {o : DynamicObject}
    (h : (w.tasks q).phase.Within) (ho : (w.tasks q).phase.assigned = some o) :
    ∃ a stage, (w.tasks q).phase = .running a stage ∧ Carries a.labels o := by
  unfold Phase.assigned at ho
  split at ho
  · rename_i hphase
    rw [hphase] at h
    exact ⟨_, _, hphase, Option.some.inj ho ▸ h⟩
  · rename_i hphase
    rw [hphase] at h
    exact ⟨_, _, hphase, Option.some.inj ho ▸ h⟩
  · rename_i hphase
    rw [hphase] at h
    exact ⟨_, _, hphase, Option.some.inj ho ▸ h⟩
  · cases ho

/-- The request is about to report the Pod, under its uid, or is assigned to it. -/
inductive Reaches (w : World ext config) (q : TaskId) (o : DynamicObject) : Prop
  | reports {a resources version now servers server}
      (hphase : (w.tasks q).phase = .running a (.deciding resources version))
      (hd : decision ext config a resources now = .ok (.reply (.characterList servers)))
      (hserver : server ∈ servers) (ho : o ∈ resources)
      (huid : o.metadata.uid = some server.server)
  | assigns (ho : (w.tasks q).phase.assigned = some o)

lemma Reaches.carries {w : World ext config} {q : TaskId} {o : DynamicObject}
    (h : Reaches w q o) (hwithin : (w.tasks q).phase.Within) :
    ∃ a stage, (w.tasks q).phase = .running a stage ∧ Carries a.labels o := by
  cases h with
  | reports hphase hd hserver ho huid =>
      rw [hphase] at hwithin
      exact ⟨_, _, hphase, hwithin o ho⟩
  | assigns ho => exact hwithin.assigned ho

/-- **Operator selectors.** In every state of every run whose lists return exactly the Pods
their selectors match, and for every Pod that a request reports or is assigned to: the Pod
carries every label of the operator's selector and the label of the map the client sent, if
and only if the operator does not select by the label of the map, or selects that map. -/
theorem reached_carries_iff {w₀ w : World ext config} {acts : List Action} (h₀ : w₀.Initial)
    (hlists : Run.Along step Linearizable w₀ acts) (hrun : Run.run step w₀ acts = some w)
    {q : TaskId} {o : DynamicObject} (h : Reaches w q o) :
    (Carries config.baseSelector o
        ∧ o.metadata.label config.mapLabel = some (w.tasks q).request.map)
      ↔ ∀ value, config.baseSelector.lookup config.mapLabel = some value →
        value = (w.tasks q).request.map := by
  obtain ⟨a, stage, hphase, hcarries⟩ := h.carries (within_of_run h₀ hlists hrun q)
  obtain ⟨-, -, -, hlabels⟩ := prepare_eq_ok (prepared_of_run h₀ hrun hphase)
  rw [hlabels] at hcarries
  exact carries_base_iff hcarries

/-! ### Labels of the operator, and a map he did not select -/

namespace Sample

/-- The operator selects an application and a fleet. -/
def fleetSettings : Config :=
  { settings with
    defaultEndpoint :=
      { settings.defaultEndpoint with
        labelSelector := some
          (((∅ : Table String String).insert "app" "game-server").insert "fleet" "eu-west") } }

/-- A Pod of his fleet. -/
def fleetPod : DynamicObject :=
  { pod "game-0" "uid-0" "10.0.0.1" with
    metadata := ((pod "game-0" "uid-0" "10.0.0.1").metadata.setLabel "app" "game-server").setLabel
      "fleet" "eu-west" }

/-- A Pod of the same map that is of no fleet. -/
def strayPod : DynamicObject := pod "game-1" "uid-1" "10.0.0.2"

/-- Both Pods, and queries of their map. -/
def fleetWorld : World decoders fleetSettings where
  cluster := (VersionedStore.empty.put "game-0" fleetPod rfl (VersionedStore.fresh_empty _ _)).put
    "game-1" strayPod rfl (by decide)
  directors := fun _ => {}
  tasks := fun _ =>
    { director := 0
      request := .query "arena" "ayla" []
      client := { ip := .v4 203 0 113 7, port := 50000 } }

/-- The operator selects the map `de_dust2`. -/
def strictSettings : Config :=
  { settings with
    defaultEndpoint :=
      { settings.defaultEndpoint with
        labelSelector := some ((∅ : Table String String).insert "map" "de_dust2") } }

/-- A query of the map `arena`, where the one Pod is of this map. -/
def strictWorld : World decoders strictSettings where
  cluster := (world "10.0.0.1").cluster
  directors := fun _ => {}
  tasks := fun _ =>
    { director := 0
      request := .query "arena" "ayla" []
      client := { ip := .v4 203 0 113 7, port := 50000 } }

/-- A query up to its route, whose list returns the Pods at these places. -/
def untilInstallOf (indices : List ℕ) : List Action :=
  [.start, .acquire, .list (some (indices, "1")), .decide ⟨0, 0⟩, .extract none, .patch (some "2"),
    .clear].map (.task 0)

/-- A query of the only Pod up to its route. -/
def untilInstall : List Action := untilInstallOf [0]

/-- The query of the Pod of the fleet about to install its route. -/
def fleetInstall : World decoders fleetSettings :=
  Run.reached step fleetWorld (untilInstallOf [1]) (by decide +kernel)

/-- The query of the one Pod about to install its route. -/
def strictInstall : World decoders strictSettings :=
  Run.reached step strictWorld untilInstall (by decide +kernel)

lemma initial_fleetWorld : fleetWorld.Initial where
  entry := fun _ => rfl
  flight := fun _ => rfl
  unlocked := fun _ => rfl
  demand := fun _ => rfl

lemma initial_strictWorld : strictWorld.Initial where
  entry := fun _ => rfl
  flight := fun _ => rfl
  unlocked := fun _ => rfl
  demand := fun _ => rfl

lemma linearizable_fleetWorld : Run.Along step Linearizable fleetWorld (untilInstallOf [1]) :=
  linearizable_of_listsStored (by decide +kernel)

lemma reaches_fleetInstall : Reaches fleetInstall 0 fleetPod := .assigns rfl

lemma reaches_strictInstall : Reaches strictInstall 0 (pod "game-0" "uid-0" "10.0.0.1") :=
  .assigns rfl

/-- He does not select by the label of the map. -/
lemma lookup_map_fleetSettings :
    fleetSettings.baseSelector.lookup fleetSettings.mapLabel = none := by
  decide

end Sample

/-- Where the operator selects a fleet, the Pod is of his fleet and of the map, and another Pod of
the map is not. -/
theorem reached_carries_iff_sample :
    (Carries Sample.fleetSettings.baseSelector Sample.fleetPod
        ∧ Sample.fleetPod.metadata.label "map" = some "arena")
      ∧ ¬Carries Sample.fleetSettings.baseSelector Sample.strayPod := by
  constructor
  · refine (reached_carries_iff Sample.initial_fleetWorld
      Sample.linearizable_fleetWorld (Run.run_reached _ _ _) Sample.reaches_fleetInstall).mpr
        fun value hvalue => ?_
    rw [Sample.lookup_map_fleetSettings] at hvalue
    cases hvalue
  · rw [← matchesLabels_iff]
    decide

/-- **A client value replaces a label of the operator**: he selects the map `de_dust2`, and a
query of the map `arena` is assigned to a Pod of this map. -/
theorem operator_label_overridden :
    Sample.strictWorld.Initial
      ∧ Run.Along step Linearizable Sample.strictWorld Sample.untilInstall
      ∧ Run.run step Sample.strictWorld Sample.untilInstall = some Sample.strictInstall
      ∧ Reaches Sample.strictInstall 0 (Sample.pod "game-0" "uid-0" "10.0.0.1")
      ∧ Sample.strictSettings.baseSelector.lookup "map" = some "de_dust2"
      ∧ (Sample.pod "game-0" "uid-0" "10.0.0.1").metadata.label "map" = some "arena" :=
  ⟨Sample.initial_strictWorld, linearizable_of_listsStored (by decide +kernel),
    Run.run_reached _ _ _, Sample.reaches_strictInstall, by decide, by decide⟩

/-! ### How a request asks -/

/-- The requirements of a text are the labels of a map, each of them once. -/
structure SaysExactly (text : String) (labels : Table String String) : Prop where
  perm : (requirements text).Perm labels.entries
  once : ((requirements text).map Sigma.fst).Nodup
  same : ∀ o : DynamicObject, (∀ e ∈ requirements text, o.metadata.label e.1 = some e.2)
    ↔ matchesLabels labels o = true

/-- A text that gives back the entries of a map in some order says them exactly. -/
lemma saysExactly_of_perm {text : String} {labels : Table String String}
    (h : (requirements text).Perm labels.entries) : SaysExactly text labels := by
  refine ⟨h, (h.map Sigma.fst).nodup_iff.mpr labels.nodupKeys, fun o => ?_⟩
  simp only [matchesLabels, List.all_eq_true, beq_iff_eq, h.mem_iff]

/-- The labels of the merged selector are valid labels. -/
lemma valid_of_selector {map key value : String}
    (hbase : ∀ key value, config.baseSelector.lookup key = some value →
      validLabelKey key = true ∧ validLabelValue value = true)
    (hkey : validLabelKey config.mapLabel = true) (hmap : validCharacterId map = true)
    (h : (⟨key, value⟩ : Σ _ : String, String) ∈ (config.selector map).entries) :
    validLabelKey key = true ∧ validLabelValue value = true := by
  rw [← Table.lookup_eq_some, Config.selector] at h
  rcases eq_or_ne key config.mapLabel with rfl | hne
  · rw [AList.lookup_insert] at h
    obtain rfl := Option.some.inj h
    -- an accepted ID has the form of a name
    have hname : validLabelName map = true := hmap
    rw [validLabelValue, hname, Bool.or_true]
    exact ⟨hkey, rfl⟩
  · rw [AList.lookup_insert_ne hne] at h
    exact hbase key value h

/-- **The selector string says exactly what was asked.** Where the labels of the operator are
valid labels, and for every map that the director accepts and every order in which the merged
selector is iterated: the text of a list and the text of a watch, read back, give its labels,
each of them once, and both ask for the same Pods; iterated in the same order they are
equal. -/
theorem selector_says_exactly {map : String}
    (hbase : ∀ key value, config.baseSelector.lookup key = some value →
      validLabelKey key = true ∧ validLabelValue value = true)
    (hkey : validLabelKey config.mapLabel = true) (hmap : validCharacterId map = true)
    {order order' : List (Σ _ : String, String)}
    (horder : order.Perm (config.selector map).entries)
    (horder' : order'.Perm (config.selector map).entries) :
    (∃ text, labelSelectorStr (some order) = some text
        ∧ SaysExactly text (config.selector map))
      ∧ SaysExactly (watchSelector order') (config.selector map)
      ∧ labelSelectorStr (some order) = some (watchSelector order) := by
  have hread : ∀ {labels : List (Σ _ : String, String)},
      labels.Perm (config.selector map).entries →
        SaysExactly (joinLabels labels) (config.selector map) := by
    intro labels hperm
    have hvalid : ∀ e ∈ labels, validLabelKey e.1 = true ∧ validLabelValue e.2 = true :=
      fun e he => valid_of_selector hbase hkey hmap (hperm.mem_iff.mp he)
    have hne : labels ≠ [] := by
      rintro rfl
      have hmem : (⟨config.mapLabel, map⟩ : Σ _ : String, String) ∈ (config.selector map).entries :=
        Table.lookup_eq_some.mp (AList.lookup_insert _)
      rw [← hperm.mem_iff] at hmem
      simp at hmem
    have hrequirements := requirements_joinLabels hne (fun e he => (hvalid e he).1)
      fun e he => (hvalid e he).2
    exact saysExactly_of_perm (by rw [hrequirements]; exact hperm)
  exact ⟨⟨_, rfl, hread horder⟩, hread horder', rfl⟩

namespace Sample

/-- An order in which the merged selector may be iterated. -/
def listOrder : List (Σ _ : String, String) :=
  [⟨"map", "arena"⟩, ⟨"fleet", "eu-west"⟩, ⟨"app", "game-server"⟩]

/-- Another one. -/
def watchOrder : List (Σ _ : String, String) :=
  [⟨"app", "game-server"⟩, ⟨"map", "arena"⟩, ⟨"fleet", "eu-west"⟩]

lemma valid_fleetSettings (key value : String)
    (h : fleetSettings.baseSelector.lookup key = some value) :
    validLabelKey key = true ∧ validLabelValue value = true := by
  have hvalid : ∀ e ∈ fleetSettings.baseSelector.entries,
      validLabelKey e.1 = true ∧ validLabelValue e.2 = true := by decide +kernel
  exact hvalid ⟨key, value⟩ (Table.lookup_eq_some.mp h)

end Sample

/-- The selector of the map `arena` with two labels of the operator, listed and watched in different
orders. -/
theorem selector_says_exactly_sample :
    SaysExactly "map=arena,fleet=eu-west,app=game-server" (Sample.fleetSettings.selector "arena")
      ∧ SaysExactly "app=game-server,map=arena,fleet=eu-west"
        (Sample.fleetSettings.selector "arena") := by
  have hlisted : Sample.listOrder.Perm (Sample.fleetSettings.selector "arena").entries := by decide
  have hwatched : Sample.watchOrder.Perm (Sample.fleetSettings.selector "arena").entries := by
    decide
  obtain ⟨⟨text, htext, hlist⟩, hwatch, -⟩ := selector_says_exactly Sample.valid_fleetSettings
    (by decide) (by decide) hlisted hwatched
  obtain rfl := Option.some.inj htext
  exact ⟨hlist, hwatch⟩

end UdpDirector
