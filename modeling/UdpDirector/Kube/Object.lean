import UdpDirector.Config
import UdpDirector.Foundation.Fallible
import UdpDirector.Kube.Json

/-!
Kubernetes objects as the director holds them: the dynamic resource a list
returns, and the typed Pod decoded from it (`k8s_client.rs`).

* `ObjectMeta`, `DynamicObject`: metadata and the other fields, with the JSON
  value they serialize to; `Pod`, `PodStatus`: the typed view;
* `Externals`: the decoders of third-party crates, which the source only calls;
* `podDraining`, `podReady`: the two eligibility tests;
* `matchesStatusQuery`, `matchesAnnotationSelector`, `filterSnapshot`: the
  filters that `K8sClient::query_resources_snapshot` applies to a list.
-/

namespace UdpDirector

/-! ### Objects -/

/-- The metadata of an object; `other` holds the fields nothing reads by name. -/
structure ObjectMeta where
  name : Option String := none
  uid : Option String := none
  resourceVersion : Option String := none
  deletionTimestamp : Option String := none
  labels : Option (Table String String) := none
  annotations : Option (Table String String) := none
  other : List (String × Json) := []

namespace ObjectMeta

/-- A field that is left out when absent. -/
def optionalField (name : String) (value : Option Json) : List (String × Json) :=
  (value.map fun v => (name, v)).toList

/-- A string map as a JSON object. -/
def tableValue (t : Table String String) : Json :=
  .object (t.entries.map fun e => (e.1, .string e.2))

/-- The JSON value of the metadata. -/
def toValue (m : ObjectMeta) : Json :=
  .object <|
    optionalField "annotations" (m.annotations.map tableValue)
      ++ optionalField "deletionTimestamp" (m.deletionTimestamp.map .string)
      ++ optionalField "labels" (m.labels.map tableValue)
      ++ optionalField "name" (m.name.map .string)
      ++ optionalField "resourceVersion" (m.resourceVersion.map .string)
      ++ optionalField "uid" (m.uid.map .string)
      ++ m.other

/-- The value of a label. -/
def label (m : ObjectMeta) (key : String) : Option String :=
  m.labels.bind fun labels => labels.lookup key

/-- The metadata with one label set, as a merge patch leaves it. -/
def setLabel (m : ObjectMeta) (key value : String) : ObjectMeta :=
  { m with labels := some ((m.labels.getD ∅).insert key value) }

lemma label_setLabel_ne (m : ObjectMeta) {j key : String} (value : String) (h : j ≠ key) :
    (m.setLabel key value).label j = m.label j := by
  cases hl : m.labels <;>
    simp [label, setLabel, hl, AList.lookup_insert_ne h, -AList.insert_empty]

end ObjectMeta

/-- A resource as a list returns it: its metadata and its other fields. -/
structure DynamicObject where
  metadata : ObjectMeta
  data : List (String × Json) := []

/-- `serde_json::to_value` of a resource. -/
def DynamicObject.toValue (o : DynamicObject) : Json :=
  .object (("metadata", o.metadata.toValue) :: o.data)

/-- A condition of a Pod. -/
structure PodCondition where
  type_ : String
  status : String

/-- The status of a Pod. -/
structure PodStatus where
  phase : Option String := none
  podIp : Option String := none
  conditions : Option (List PodCondition) := none

/-- A Pod, with the fields the director reads. -/
structure Pod where
  metadata : ObjectMeta
  status : Option PodStatus

/-! ### Third-party decoders -/

/-- The decoders the director calls and does not define. -/
structure Externals where
  /-- The status of a Pod decoded from the fields of a resource; `none` when the
  resource is not a Pod. -/
  decodeStatus : List (String × Json) → Option (Option PodStatus)
  /-- `serde_json::from_str` into a map from character IDs to times. -/
  decodeDisconnected : String → Option (Table String String)
  /-- `OffsetDateTime::parse` with the RFC 3339 format. -/
  parseRfc3339 : String → Option OffsetDateTime

/-- The Pod of a resource: both types share their metadata, the rest is decoded. -/
def Externals.podOf (ext : Externals) (o : DynamicObject) : Option Pod :=
  (ext.decodeStatus o.data).map fun status => { metadata := o.metadata, status }

lemma Externals.metadata_podOf {ext : Externals} {o : DynamicObject} {pod : Pod}
    (h : ext.podOf o = some pod) : pod.metadata = o.metadata := by
  rw [podOf, Option.map_eq_some_iff] at h
  obtain ⟨status, -, rfl⟩ := h
  rfl

/-! ### Eligibility of a Pod -/

/-- The label that excludes a Pod from assignment. -/
def drainLabel : String := "udp-director.io/draining"

/-- `pod_draining`. -/
def podDraining (pod : Pod) : Bool :=
  pod.metadata.label drainLabel == some "true"

/-- `K8sClient::pod_ready`. -/
def podReady (pod : Pod) : Bool :=
  pod.metadata.deletionTimestamp.isNone
    && pod.status.any fun s =>
      s.phase == some "Running"
        && s.podIp.isSome
        && (s.conditions.getD []).any fun c => c.type_ == "Ready" && c.status == "True"

/-! ### Filters of a list -/

/-- `K8sClient::matches_status_query`. -/
def matchesStatusQuery (resource : DynamicObject) (query : StatusQuery) : Except Fault Bool := do
  match ← extractJsonPath resource.toValue query.jsonPath with
  | some (.string s) => return query.expectedValues.contains s
  | some (.number n) => return query.expectedValues.contains n.text
  | some (.bool b) => return query.expectedValues.contains (toString b)
  | _ => return false

/-- `K8sClient::matches_annotation_selector`. -/
def matchesAnnotationSelector (resource : DynamicObject) (selector : Table String String) : Bool :=
  match resource.metadata.annotations with
  | some annotations => selector.entries.all fun e => annotations.lookup e.1 == some e.2
  | none => false

/-- The items matching the status query, in order. -/
def filterStatus (query : StatusQuery) : List DynamicObject → Except Fault (List DynamicObject)
  | [] => .ok []
  | o :: os => do
      let keep ← matchesStatusQuery o query
      let rest ← filterStatus query os
      return if keep then o :: rest else rest

/-- The items carrying the configured annotations, all of them when none are
configured. -/
def filterAnnotations (annotationSelector : Option (Table String String))
    (items : List DynamicObject) : List DynamicObject :=
  match annotationSelector with
  | some annotations => items.filter fun o => matchesAnnotationSelector o annotations
  | none => items

/-- The filters of `K8sClient::query_resources_snapshot`. -/
def filterSnapshot (statusQuery : Option StatusQuery) (annotationSelector : Option (Table String String))
    (items : List DynamicObject) : Except Fault (List DynamicObject) :=
  match statusQuery with
  | some query => (filterStatus query items).map (filterAnnotations annotationSelector)
  | none => .ok (filterAnnotations annotationSelector items)

/-- What the two filters ask of a resource. -/
def Selected (statusQuery : Option StatusQuery) (annotationSelector : Option (Table String String))
    (o : DynamicObject) : Prop :=
  (∀ query ∈ statusQuery, matchesStatusQuery o query = .ok true)
    ∧ ∀ annotations ∈ annotationSelector, matchesAnnotationSelector o annotations = true

lemma mem_filterStatus {query : StatusQuery} {o : DynamicObject} :
    ∀ {items kept : List DynamicObject}, filterStatus query items = .ok kept →
      (o ∈ kept ↔ o ∈ items ∧ matchesStatusQuery o query = .ok true)
  | [], kept, h => by
      obtain rfl : [] = kept := by simpa [filterStatus] using h
      simp
  | i :: items, kept, h => by
      obtain ⟨keep, hk, h⟩ := Except.exists_of_bind_eq_ok h
      obtain ⟨rest, hr, h⟩ := Except.exists_of_bind_eq_ok h
      have ih := mem_filterStatus (o := o) hr
      obtain rfl : (if keep then i :: rest else rest) = kept := Except.ok.inj h
      by_cases ho : o = i
      · subst ho
        cases keep <;> simp [hk, ih]
      · cases keep <;> simp [ho, ih]

lemma mem_filterAnnotations {annotationSelector : Option (Table String String)}
    {items : List DynamicObject} {o : DynamicObject} :
    o ∈ filterAnnotations annotationSelector items
      ↔ o ∈ items ∧ ∀ annotations ∈ annotationSelector,
          matchesAnnotationSelector o annotations = true := by
  cases annotationSelector <;> simp [filterAnnotations]

/-- **The filters keep exactly the listed resources they select.** -/
lemma mem_filterSnapshot {statusQuery : Option StatusQuery}
    {annotationSelector : Option (Table String String)} {items kept : List DynamicObject}
    (h : filterSnapshot statusQuery annotationSelector items = .ok kept) {o : DynamicObject} :
    o ∈ kept ↔ o ∈ items ∧ Selected statusQuery annotationSelector o := by
  cases statusQuery with
  | none =>
      obtain rfl : filterAnnotations annotationSelector items = kept := Except.ok.inj h
      simp [mem_filterAnnotations, Selected]
  | some query =>
      obtain ⟨filtered, hf, rfl⟩ := Except.exists_of_map_eq_ok h
      simp [mem_filterAnnotations, mem_filterStatus hf, Selected, and_assoc]

end UdpDirector
