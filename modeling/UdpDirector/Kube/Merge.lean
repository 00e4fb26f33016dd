import UdpDirector.Kube.Cluster

/-!
JSON merge patches, and the Pod that the API serves once a label has been patched.

* `Json.merge`: a patch merged into a value: its objects are merged field by field, a null removes
  a field, anything else replaces what was there;
* `ObjectMeta.ofValue`, `Externals.readPod`: the Pod of a JSON value;
* `allocationBody`: the body that `K8sClient::allocate_character` sends;
* `ObjectMeta.Assigned`: what an assignment leaves of the metadata, which is what the cluster does
  to an object it patches (`assigned_patched`);
* `exists_readPod_merge`: so reads the value with the body merged into it.
-/

namespace UdpDirector

/-! ### Merging -/

namespace Json

/-- The fields of an object, none of any other value. -/
def members : Json → List (String × Json)
  | .object fields => fields
  | _ => []

/-- Fields with one of them set, in its place or at the end. -/
def setField (name : String) (value : Json) : List (String × Json) → List (String × Json)
  | [] => [(name, value)]
  | e :: fields =>
      if e.1 = name then (name, value) :: fields else e :: setField name value fields

mutual

/-- A value with a patch merged into it. -/
def merge : Json → Json → Json
  | target, .object fields => .object (mergeFields target.members fields)
  | _, patch => patch

/-- Fields with those of a patch merged into them. -/
def mergeFields : List (String × Json) → List (String × Json) → List (String × Json)
  | members, [] => members
  | members, (name, .null) :: fields => mergeFields (members.filter fun e => e.1 ≠ name) fields
  | members, (name, value) :: fields =>
      mergeFields (setField name (merge ((members.lookup name).getD .null) value) members) fields

end

section

variable {fields members : List (String × Json)} {name j : String} {value target : Json}

@[simp] lemma lookup_setField_self (name : String) (value : Json)
    (fields : List (String × Json)) : (setField name value fields).lookup name = some value := by
  induction fields with
  | nil => simp [setField]
  | cons e fields ih =>
      rw [setField]
      split
      · simp
      · rename_i hne
        have hbeq : (name == e.1) = false := beq_eq_false_iff_ne.mpr (Ne.symm hne)
        rw [List.lookup_cons, hbeq]
        exact ih

lemma lookup_setField_ne (value : Json) (fields : List (String × Json)) (h : j ≠ name) :
    (setField name value fields).lookup j = fields.lookup j := by
  have hbeq : (j == name) = false := beq_eq_false_iff_ne.mpr h
  induction fields with
  | nil => simp [setField, List.lookup_cons, hbeq]
  | cons e fields ih =>
      rw [setField]
      split
      · rename_i heq
        rw [List.lookup_cons, List.lookup_cons, hbeq, heq, hbeq]
      · rw [List.lookup_cons, List.lookup_cons, ih]

/-- The other fields stay as they are, and in their order. -/
lemma filter_setField (p : String → Bool) (name : String) (value : Json)
    (fields : List (String × Json)) (h : p name = false) :
    (setField name value fields).filter (fun e => p e.1) = fields.filter fun e => p e.1 := by
  induction fields with
  | nil => simp [setField, h]
  | cons e fields ih =>
      rw [setField]
      split
      · rename_i heq
        rw [List.filter_cons_of_neg (by simp [h]), List.filter_cons_of_neg (by simp [heq, h])]
      · rw [List.filter_cons, List.filter_cons, ih]

lemma merge_object (target : Json) (fields : List (String × Json)) :
    merge target (.object fields) = .object (mergeFields target.members fields) := by
  rw [merge]

lemma merge_string (target : Json) (s : String) : merge target (.string s) = .string s := by
  simp [merge]

lemma mergeFields_nil (members : List (String × Json)) : mergeFields members [] = members := by
  rw [mergeFields]

lemma mergeFields_cons (members fields : List (String × Json)) (name : String)
    (hvalue : value ≠ .null) :
    mergeFields members ((name, value) :: fields) =
      mergeFields (setField name (merge ((members.lookup name).getD .null) value) members)
        fields := by
  cases value with
  | null => exact absurd rfl hvalue
  | _ => rw [mergeFields]; simp

end

/-! ### Reading a Pod -/

/-- A field that may be absent or null. -/
def optional {α : Type*} (decode : Json → Option α) : Option Json → Option (Option α)
  | none => some none
  | some .null => some none
  | some value => (decode value).map some

@[simp] lemma optional_object {α : Type*} (decode : Json → Option α)
    (fields : List (String × Json)) :
    optional decode (some (.object fields)) = (decode (.object fields)).map some := rfl

@[simp] lemma optional_string {α : Type*} (decode : Json → Option α) (s : String) :
    optional decode (some (.string s)) = (decode (.string s)).map some := rfl

/-- The strings of some fields, the first of each name. -/
def stringEntries : List (String × Json) → Option (Table String String)
  | [] => some ∅
  | (key, value) :: fields => do
      let s ← value.asString
      let entries ← stringEntries fields
      return entries.insert key s

/-- A map of strings. -/
def stringMap : Json → Option (Table String String)
  | .object fields => stringEntries fields
  | _ => none

end Json

namespace ObjectMeta

/-- The fields of metadata that are read by name. -/
def names : List String :=
  ["name", "uid", "resourceVersion", "deletionTimestamp", "labels", "annotations"]

/-- The metadata of some fields. -/
def ofFields (fields : List (String × Json)) : Option ObjectMeta := do
  let name ← Json.optional Json.asString (fields.lookup "name")
  let uid ← Json.optional Json.asString (fields.lookup "uid")
  let resourceVersion ← Json.optional Json.asString (fields.lookup "resourceVersion")
  let deletionTimestamp ← Json.optional Json.asString (fields.lookup "deletionTimestamp")
  let labels ← Json.optional Json.stringMap (fields.lookup "labels")
  let annotations ← Json.optional Json.stringMap (fields.lookup "annotations")
  return {
    name, uid, resourceVersion, deletionTimestamp, labels, annotations,
    other := fields.filter fun e => !names.contains e.1 }

/-- The metadata of a value. -/
def ofValue : Json → Option ObjectMeta
  | .object fields => ofFields fields
  | _ => none

end ObjectMeta

/-- The Pod of a value: its metadata, empty where absent, and its status. -/
def Externals.readPod (ext : Externals) : Json → Option Pod
  | .object fields => do
      let metadata ← ObjectMeta.ofValue ((fields.lookup "metadata").getD (.object []))
      let status ← ext.decodeStatus (fields.filter fun e => e.1 ≠ "metadata")
      return { metadata, status }
  | _ => none

/-- The body that `K8sClient::allocate_character` sends. -/
def allocationBody (version key : String) : Json :=
  .object [("metadata", .object
    [("resourceVersion", .string version), ("labels", .object [(key, .string "Allocated")])])]

/-! ### What the API serves after an assignment -/

section

variable {fields : List (String × Json)} {key value version : String}

namespace Json

lemma lookup_stringEntries {entries : Table String String} (h : stringEntries fields = some entries)
    (j : String) : entries.lookup j = (fields.lookup j).bind asString := by
  induction fields generalizing entries with
  | nil =>
      obtain rfl := Option.some.inj h
      rfl
  | cons e fields ih =>
      obtain ⟨name, v⟩ := e
      obtain ⟨s, hs, h⟩ := Option.bind_eq_some_iff.mp h
      obtain ⟨rest, hrest, h⟩ := Option.bind_eq_some_iff.mp h
      obtain rfl := Option.some.inj h
      rcases eq_or_ne j name with rfl | hne
      · rw [AList.lookup_insert, List.lookup_cons, beq_self_eq_true]
        exact hs.symm
      · have hbeq : (j == name) = false := beq_eq_false_iff_ne.mpr hne
        rw [AList.lookup_insert_ne hne, ih hrest, List.lookup_cons, hbeq]

/-- A map of strings with one of them set is one again. -/
lemma exists_stringEntries_setField {entries : Table String String}
    (h : stringEntries fields = some entries) (key value : String) :
    ∃ entries', stringEntries (setField key (.string value) fields) = some entries' := by
  induction fields generalizing entries with
  | nil => exact ⟨_, rfl⟩
  | cons e fields ih =>
      obtain ⟨name, v⟩ := e
      obtain ⟨s, hs, h⟩ := Option.bind_eq_some_iff.mp h
      obtain ⟨rest, hrest, h⟩ := Option.bind_eq_some_iff.mp h
      rw [setField]
      split
      · exact ⟨rest.insert key value, by simp [stringEntries, asString, hrest]⟩
      · obtain ⟨rest', hrest'⟩ := ih hrest
        exact ⟨rest'.insert name s, by simp [stringEntries, hs, hrest']⟩

/-- What labels are read from is a list of strings. -/
lemma exists_stringEntries_of_optional {found : Option Json}
    {labels : Option (Table String String)} (h : optional stringMap found = some labels) :
    ∃ entries, stringEntries (found.getD .null).members = some entries
      ∧ ∀ j, entries.lookup j = labels.bind fun t => t.lookup j := by
  cases found with
  | none =>
      obtain rfl := Option.some.inj h
      exact ⟨∅, rfl, fun j => rfl⟩
  | some value =>
      cases value with
      | null =>
          obtain rfl := Option.some.inj h
          exact ⟨∅, rfl, fun j => rfl⟩
      | object fields =>
          obtain ⟨entries, hentries, rfl⟩ := Option.map_eq_some_iff.mp h
          exact ⟨entries, hentries, fun j => rfl⟩
      | _ => cases h

/-- Labels with one of them merged into them read again, and as before but for that one. -/
lemma exists_optional_merge {found : Option Json} {labels : Option (Table String String)}
    (h : optional stringMap found = some labels) (key value : String) :
    ∃ labels', optional stringMap
          (some (merge (found.getD .null) (.object [(key, .string value)]))) = some (some labels')
      ∧ ∀ j, labels'.lookup j
        = if j = key then some value else labels.bind fun t => t.lookup j := by
  obtain ⟨entries, hentries, hlookup⟩ := exists_stringEntries_of_optional h
  obtain ⟨labels', hlabels'⟩ := exists_stringEntries_setField hentries key value
  refine ⟨labels', ?_, fun j => ?_⟩
  · rw [merge_object, mergeFields_cons _ _ _ (by simp), mergeFields_nil, merge_string,
      optional_object, stringMap, hlabels', Option.map_some]
  · rw [lookup_stringEntries hlabels']
    split
    · rename_i hj
      rw [hj, lookup_setField_self]
      rfl
    · rename_i hj
      rw [lookup_setField_ne _ _ hj, ← hlookup, lookup_stringEntries hentries]

end Json

/-- What an assignment leaves of the metadata: the label is set, the version is that of the body,
and the rest stays. -/
structure ObjectMeta.Assigned (key version : String) (m m' : ObjectMeta) : Prop where
  rest : m' = { m with resourceVersion := some version, labels := m'.labels }
  label : ∀ j, m'.label j = (m.setLabel key "Allocated").label j

lemma ObjectMeta.label_setLabel (m : ObjectMeta) (j key value : String) :
    (m.setLabel key value).label j = if j = key then some value else m.label j := by
  split
  · rename_i hj
    rw [hj, ObjectMeta.label, ObjectMeta.setLabel]
    simp
  · rename_i hj
    exact m.label_setLabel_ne value hj

lemma ObjectMeta.ofFields_eq_some_iff {m : ObjectMeta} :
    ObjectMeta.ofFields fields = some m
      ↔ Json.optional Json.asString (fields.lookup "name") = some m.name
        ∧ Json.optional Json.asString (fields.lookup "uid") = some m.uid
        ∧ Json.optional Json.asString (fields.lookup "resourceVersion") = some m.resourceVersion
        ∧ Json.optional Json.asString (fields.lookup "deletionTimestamp")
          = some m.deletionTimestamp
        ∧ Json.optional Json.stringMap (fields.lookup "labels") = some m.labels
        ∧ Json.optional Json.stringMap (fields.lookup "annotations") = some m.annotations
        ∧ (fields.filter fun e => !ObjectMeta.names.contains e.1) = m.other := by
  rw [ObjectMeta.ofFields]
  constructor
  · intro h
    obtain ⟨name, hname, h₁⟩ := Option.bind_eq_some_iff.mp h
    obtain ⟨uid, huid, h₂⟩ := Option.bind_eq_some_iff.mp h₁
    obtain ⟨resourceVersion, hversion, h₃⟩ := Option.bind_eq_some_iff.mp h₂
    obtain ⟨deletionTimestamp, hdeletion, h₄⟩ := Option.bind_eq_some_iff.mp h₃
    obtain ⟨labels, hlabels, h₅⟩ := Option.bind_eq_some_iff.mp h₄
    obtain ⟨annotations, hannotations, h₆⟩ := Option.bind_eq_some_iff.mp h₅
    obtain rfl := Option.some.inj h₆
    exact ⟨hname, huid, hversion, hdeletion, hlabels, hannotations, rfl⟩
  · rintro ⟨hname, huid, hversion, hdeletion, hlabels, hannotations, hother⟩
    rw [hname, huid, hversion, hdeletion, hlabels, hannotations, hother]
    rfl

/-- The cluster patches an object as the merge does, up to the order of the labels. -/
lemma assigned_patched (o : DynamicObject) (key version : String) :
    ObjectMeta.Assigned key version o.metadata (o.patched key "Allocated" version).metadata :=
  ⟨rfl, fun _ => rfl⟩

/-- The fields of an assignment merged into those of some metadata. -/
lemma ObjectMeta.exists_ofFields_merge {m : ObjectMeta} (h : ObjectMeta.ofFields fields = some m)
    (key version : String) :
    ∃ m', ObjectMeta.ofFields (Json.mergeFields fields
          [("resourceVersion", .string version), ("labels", .object [(key, .string "Allocated")])])
        = some m'
      ∧ ObjectMeta.Assigned key version m m' := by
  obtain ⟨hname, huid, -, hdeletion, hlabels, hannotations, hother⟩ := ofFields_eq_some_iff.mp h
  obtain ⟨labels', hlabels', hlookup⟩ := Json.exists_optional_merge hlabels key "Allocated"
  -- the two fields are set one after the other, and any other is looked up past both
  let versioned := Json.setField "resourceVersion" (.string version) fields
  have hmerged : Json.mergeFields fields
      [("resourceVersion", .string version), ("labels", .object [(key, .string "Allocated")])] =
        Json.setField "labels"
          (Json.merge ((fields.lookup "labels").getD .null)
            (.object [(key, .string "Allocated")])) versioned := by
    rw [Json.mergeFields_cons _ _ _ (by simp), Json.mergeFields_cons _ _ _ (by simp),
      Json.mergeFields_nil, Json.merge_string, Json.lookup_setField_ne _ _ (by simp)]
  have hrest : ∀ j, j ≠ "labels" → j ≠ "resourceVersion" → ∀ v,
      (Json.setField "labels" v versioned).lookup j = fields.lookup j := by
    intro j hl hv v
    rw [Json.lookup_setField_ne _ _ hl, Json.lookup_setField_ne _ _ hv]
  refine ⟨{ m with resourceVersion := some version, labels := some labels' }, ?_, rfl, fun j => ?_⟩
  · rw [hmerged]
    refine ofFields_eq_some_iff.mpr ⟨?_, ?_, ?_, ?_, ?_, ?_, ?_⟩
    · rwa [hrest _ (by simp) (by simp)]
    · rwa [hrest _ (by simp) (by simp)]
    · rw [Json.lookup_setField_ne _ _ (by simp), Json.lookup_setField_self, Json.optional_string]
      rfl
    · rwa [hrest _ (by simp) (by simp)]
    · rwa [Json.lookup_setField_self]
    · rwa [hrest _ (by simp) (by simp)]
    · rw [← hother]
      have hkept := Json.filter_setField fun n => !names.contains n
      exact (hkept "labels" _ _ (by decide)).trans (hkept "resourceVersion" _ _ (by decide))
  · rw [label_setLabel]
    exact hlookup j

/-- The fields that metadata is read from. -/
lemma ObjectMeta.ofFields_members {found : Option Json} {m : ObjectMeta}
    (h : ObjectMeta.ofValue (found.getD (.object [])) = some m) :
    ObjectMeta.ofFields (found.getD .null).members = some m := by
  cases found with
  | none => exact h
  | some value =>
      cases value with
      | object fields => exact h
      | _ => cases h

/-- **An assignment is served as it is meant**: the value with the body merged into it reads as the
Pod with that label set, and nothing else changes. -/
lemma exists_readPod_merge {ext : Externals} {json : Json} {pod : Pod}
    (h : ext.readPod json = some pod) (key version : String) :
    ∃ pod', ext.readPod (json.merge (allocationBody version key)) = some pod'
      ∧ pod'.status = pod.status
      ∧ ObjectMeta.Assigned key version pod.metadata pod'.metadata := by
  cases json with
  | object fields =>
      obtain ⟨metadata, hmetadata, h'⟩ := Option.bind_eq_some_iff.mp h
      obtain ⟨status, hstatus, h''⟩ := Option.bind_eq_some_iff.mp h'
      obtain rfl := Option.some.inj h''
      obtain ⟨m', hm', hassigned⟩ :=
        ObjectMeta.exists_ofFields_merge (ObjectMeta.ofFields_members hmetadata) key version
      refine ⟨{ metadata := m', status }, ?_, rfl, hassigned⟩
      have hmerged : (Json.object fields).merge (allocationBody version key) =
          .object (Json.setField "metadata"
            (.object (Json.mergeFields ((fields.lookup "metadata").getD .null).members
              [("resourceVersion", .string version),
                ("labels", .object [(key, .string "Allocated")])])) fields) := by
        rw [allocationBody, Json.merge_object, Json.members,
          Json.mergeFields_cons _ _ _ (by simp), Json.mergeFields_nil, Json.merge_object]
      have hkept := Json.filter_setField (fun n => decide (n ≠ "metadata")) "metadata"
      rw [hmerged, Externals.readPod, Json.lookup_setField_self, hkept _ _ (by decide), hstatus,
        Option.getD_some, ObjectMeta.ofValue, hm']
      rfl
  | _ => cases h

end

end UdpDirector
