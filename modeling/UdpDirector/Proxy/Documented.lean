import UdpDirector.Config
import UdpDirector.Foundation.Derive
import UdpDirector.Foundation.Fallible
import UdpDirector.Kube.Json

/-!
The section of a configuration that chooses the load balancing, in the form that is documented and
in the form that is decoded (`load_balancer.rs`, `config.rs`).

* `strategyField` and the other fields with their attributes, as the source has them;
  `DerivedDecoders`: what the derived decoders make of them;
* `documentedSection`: the section of the example configuration, which names the strategy by a
  `type` of its own;
* `leastSessions_of_documented`: it is decoded as the default, because the strategy is looked for
  under `strategy`;
* `documented_never_takes_effect`: so it never takes effect, and a section is decoded as a strategy
  that it does not name exactly if its own `type` is not the one that is read.
-/

namespace UdpDirector

open Derive

/-! ### The types and their attributes -/

/-- `LoadBalancingConfig`. -/
structure LoadBalancingConfig where
  strategy : LoadBalancingStrategy

/-- The name of a variant of `LoadBalancingStrategy`. -/
def LoadBalancingStrategy.name : LoadBalancingStrategy → String
  | .leastSessions => RenameAll.camelCase.variant "LeastSessions"
  | .labelArithmetic .. => RenameAll.camelCase.variant "LabelArithmetic"

/-- A string. -/
def decodeString : Json → Except String String
  | .string s => .ok s
  | _ => .error "expected a string"

/-- An `i64`. -/
def decodeI64 : Json → Except String ℤ
  | .number (.int i) => if -2 ^ 63 ≤ i ∧ i < 2 ^ 63 then .ok i else .error "expected i64"
  | _ => .error "expected i64"

/-- An `Option`: a null is none. -/
def decodeOption {α : Type} (decode : Json → Except String α) : Json → Except String (Option α)
  | .null => .ok none
  | value => (decode value).map some

/-- The field `load_balancing` of `Config`. -/
def loadBalancingField (loadSection : Json → Except String LoadBalancingConfig) :
    Field Json (Option LoadBalancingConfig) where
  key := RenameAll.camelCase.field "load_balancing"
  default := some none
  decode := decodeOption loadSection

@[simp] lemma key_loadBalancingField
    (loadSection : Json → Except String LoadBalancingConfig) :
    (loadBalancingField loadSection).key = "loadBalancing" := by
  have hkey : RenameAll.camelCase.field "load_balancing" = "loadBalancing" := by decide
  exact hkey

/-- The field `strategy` of `LoadBalancingConfig`, which has a default. -/
def strategyField (loadStrategy : Json → Except String LoadBalancingStrategy) :
    Field Json LoadBalancingStrategy where
  key := RenameAll.camelCase.field "strategy"
  default := some .leastSessions
  decode := loadStrategy

@[simp] lemma key_strategyField (loadStrategy : Json → Except String LoadBalancingStrategy) :
    (strategyField loadStrategy).key = "strategy" := by
  have hkey : RenameAll.camelCase.field "strategy" = "strategy" := by decide
  exact hkey

-- `rename_all` on the enum names its variants; the fields of a variant keep their names

/-- The field `current_label` of `LabelArithmetic`. -/
def currentLabelField : Field Json String where
  key := RenameAll.verbatim.field "current_label"
  decode := decodeString

/-- The field `max_label` of `LabelArithmetic`. -/
def maxLabelField : Field Json String where
  key := RenameAll.verbatim.field "max_label"
  decode := decodeString

/-- The field `overlap` of `LabelArithmetic`. -/
def overlapField : Field Json ℤ where
  key := RenameAll.verbatim.field "overlap"
  default := some 0
  decode := decodeI64

/-- What the director relies on of the decoders that are derived for its types: a struct is decoded
from a mapping field by field, and an enum tagged by `type` as the variant that the tag names, whose
fields are read from the same mapping. -/
structure DerivedDecoders (load : Json → Except String Config)
    (loadSection : Json → Except String LoadBalancingConfig)
    (loadStrategy : Json → Except String LoadBalancingStrategy) : Prop where
  loadBalancing : ∀ {fields config}, load (.object fields) = .ok config →
    ∃ section_, (loadBalancingField loadSection).read fields = .ok section_
      ∧ config.loadBalancing = section_.map LoadBalancingConfig.strategy
  strategy : ∀ {fields section_}, loadSection (.object fields) = .ok section_ →
    (strategyField loadStrategy).read fields = .ok section_.strategy
  type : ∀ {fields strategy}, loadStrategy (.object fields) = .ok strategy →
    fields.lookup "type" = some (.string strategy.name)
  labelArithmetic : ∀ {fields currentLabel maxLabel overlap},
    loadStrategy (.object fields) = .ok (.labelArithmetic currentLabel maxLabel overlap) →
    currentLabelField.read fields = .ok currentLabel ∧ maxLabelField.read fields = .ok maxLabel
      ∧ overlapField.read fields = .ok overlap

/-! ### Sections -/

/-- The documented section for a strategy by label arithmetic, its overlap given or left out. -/
def documentedSection (currentLabel maxLabel : String) (overlap : Option ℤ) :
    List (String × Json) :=
  [("type", .string "labelArithmetic"), ("currentLabel", .string currentLabel),
    ("maxLabel", .string maxLabel)] ++ (overlap.map fun i => ("overlap", .number (.int i))).toList

/-- The configuration loads with the strategy that was documented. -/
def TakesEffect (load : Json → Except String Config) (fields : List (String × Json))
    (currentLabel maxLabel : String) (overlap : Option ℤ) : Prop :=
  ∃ config, load (.object fields) = .ok config
    ∧ config.getLoadBalancing = .labelArithmetic currentLabel maxLabel (overlap.getD 0)

/-- The name that a mapping has as its `type`. -/
def typeName (fields : List (String × Json)) : Option String :=
  (fields.lookup "type").bind Json.asString

/-- The name that a section has under its `strategy`. -/
def nestedName (section_ : List (String × Json)) : Option String :=
  ((section_.lookup "strategy").bind fun value => value.field "type").bind Json.asString

/-- The section names no strategy but the one that is used: neither by its own `type`, as
documented, nor under its `strategy`. -/
def NamedTruly (section_ : List (String × Json)) (config : Config) : Prop :=
  (∀ name, typeName section_ = some name → config.getLoadBalancing.name = name)
    ∧ ∀ name, nestedName section_ = some name → config.getLoadBalancing.name = name

section

variable {load : Json → Except String Config}
  {loadSection : Json → Except String LoadBalancingConfig}
  {loadStrategy : Json → Except String LoadBalancingStrategy}
  {fields section_ nested : List (String × Json)} {config : Config}
  {currentLabel maxLabel : String} {overlap : Option ℤ}

/-- The keys of a documented section, in any order. -/
lemma key_of_documented (h : section_.Perm (documentedSection currentLabel maxLabel overlap))
    {e : String × Json} (he : e ∈ section_) :
    e.1 ∈ ["type", "currentLabel", "maxLabel", "overlap"] := by
  have hmem := h.mem_iff.mp he
  cases overlap <;>
    simp only [documentedSection, Option.map_none, Option.map_some, Option.toList_none,
      Option.toList_some, List.cons_append, List.nil_append, List.mem_cons, List.not_mem_nil,
      or_false] at hmem ⊢ <;> grind

/-- A section that is a mapping is decoded by its field `strategy`. -/
lemma DerivedDecoders.read_strategy (h : DerivedDecoders load loadSection loadStrategy)
    (hsection : fields.lookup "loadBalancing" = some (.object section_))
    (hload : load (.object fields) = .ok config) :
    (strategyField loadStrategy).read section_ = .ok config.getLoadBalancing := by
  obtain ⟨found, hread, hconfig⟩ := h.loadBalancing hload
  rw [Field.read_of_lookup (by rwa [key_loadBalancingField])] at hread
  obtain ⟨balancing, hbalancing, rfl⟩ := Except.exists_of_map_eq_ok hread
  rw [Config.getLoadBalancing, hconfig, Option.map_some, Option.getD_some]
  exact h.strategy hbalancing

/-- **A documented section is decoded as the default**, because it has no key `strategy`. -/
lemma leastSessions_of_documented (h : DerivedDecoders load loadSection loadStrategy)
    (hsection : fields.lookup "loadBalancing" = some (.object section_))
    (hdocumented : section_.Perm (documentedSection currentLabel maxLabel overlap))
    (hload : load (.object fields) = .ok config) : config.getLoadBalancing = .leastSessions := by
  have hread := h.read_strategy hsection hload
  have hother : ∀ e ∈ section_, e.1 ≠ (strategyField loadStrategy).key := by
    intro e he heq
    have hkey := key_of_documented hdocumented he
    rw [heq, key_strategyField] at hkey
    exact absurd hkey (by decide)
  rw [Field.read_of_ne hother rfl] at hread
  exact (Except.ok.inj hread).symm

/-- The strategy of a section is the one that its `strategy` names, or the default. -/
lemma name_of_load (h : DerivedDecoders load loadSection loadStrategy)
    (hsection : fields.lookup "loadBalancing" = some (.object section_))
    (hload : load (.object fields) = .ok config)
    (hmapping : ∀ value, section_.lookup "strategy" = some value →
      ∃ nested, value = .object nested) :
    config.getLoadBalancing.name = (nestedName section_).getD "leastSessions" := by
  have hread := h.read_strategy hsection hload
  cases hstrategy : section_.lookup "strategy" with
  | none =>
      rw [Field.read_of_missing (by rwa [key_strategyField])] at hread
      rw [nestedName, hstrategy, ← Except.ok.inj hread]
      decide
  | some value =>
      obtain ⟨nested, rfl⟩ := hmapping value hstrategy
      rw [Field.read_of_lookup (by rwa [key_strategyField])] at hread
      rw [nestedName, hstrategy, Option.bind_some, Json.field, h.type hread]
      rfl

/-- A documented section does not load in the place where the strategy is looked for either: there
the labels have the names of their fields. -/
lemma not_load_of_nested_documented (h : DerivedDecoders load loadSection loadStrategy)
    (hsection : fields.lookup "loadBalancing" = some (.object section_))
    (hnested : section_.lookup "strategy" = some (.object nested))
    (hdocumented : nested.Perm (documentedSection currentLabel maxLabel overlap)) :
    load (.object fields) ≠ .ok config := by
  intro hload
  have hread := h.read_strategy hsection hload
  rw [Field.read_of_lookup (by rwa [key_strategyField])] at hread
  have htype := h.type hread
  cases hstrategy : config.getLoadBalancing with
  | leastSessions =>
      obtain ⟨_, _, hentries, -⟩ := List.lookup_eq_some_iff.mp htype
      have hmem : ("type", Json.string config.getLoadBalancing.name) ∈ nested := by
        simp [hentries]
      have hname : LoadBalancingStrategy.leastSessions.name = "leastSessions" := by decide
      rw [hstrategy, hname, hdocumented.mem_iff] at hmem
      cases overlap <;> simp [documentedSection] at hmem
  | labelArithmetic current max i =>
      rw [hstrategy] at hread
      have hcurrent := (h.labelArithmetic hread).1
      have hmissing : nested.lookup currentLabelField.key = none := by
        rw [List.lookup_eq_none_iff]
        intro e he
        have hkey := key_of_documented hdocumented he
        rw [bne_iff_ne]
        rintro heq
        rw [← heq] at hkey
        exact absurd hkey (by decide)
      rw [Field.read_of_missing hmissing] at hcurrent
      cases hcurrent

/-- **The documented section never takes effect**, whatever the two labels and the overlap are and
in whatever order its keys stand. A section that loads names no other strategy than the one that is
used exactly if its own `type`, where it has one, is that under its `strategy`, or the default where
it has no `strategy`. -/
theorem documented_never_takes_effect (h : DerivedDecoders load loadSection loadStrategy) :
    (∀ fields section_ currentLabel maxLabel overlap,
        fields.lookup "loadBalancing" = some (.object section_) →
        section_.Perm (documentedSection currentLabel maxLabel overlap) →
        ¬TakesEffect load fields currentLabel maxLabel overlap)
      ∧ ∀ fields section_ config, load (.object fields) = .ok config →
        fields.lookup "loadBalancing" = some (.object section_) →
        (∀ value, section_.lookup "strategy" = some value → ∃ nested, value = .object nested) →
        (NamedTruly section_ config ↔
          ∀ name, typeName section_ = some name →
            name = (nestedName section_).getD "leastSessions") := by
  constructor
  · rintro fields section_ currentLabel maxLabel overlap hsection hdocumented ⟨config, hload, hused⟩
    rw [leastSessions_of_documented h hsection hdocumented hload] at hused
    cases hused
  · intro fields section_ config hload hsection hmapping
    have hname := name_of_load h hsection hload hmapping
    constructor
    · intro htruly name htype
      rw [← hname, htruly.1 name htype]
    · intro htype
      refine ⟨fun name hown => ?_, fun name hnested => ?_⟩
      · rw [hname, htype name hown]
      · rw [hname, hnested, Option.getD_some]

end

namespace Sample

/-- A decoder of strategies. -/
def decodeStrategy : Json → Except String LoadBalancingStrategy
  | .object fields =>
      match typeName fields with
      | some name =>
          if name = "leastSessions" then
            .ok .leastSessions
          else if name = "labelArithmetic" then do
            let currentLabel ← currentLabelField.read fields
            let maxLabel ← maxLabelField.read fields
            let overlap ← overlapField.read fields
            return .labelArithmetic currentLabel maxLabel overlap
          else
            .error "unknown variant"
      | none => .error "missing field `type`"
  | _ => .error "expected a mapping"

/-- A decoder of sections. -/
def decodeSection : Json → Except String LoadBalancingConfig
  | .object fields => ((strategyField decodeStrategy).read fields).map LoadBalancingConfig.mk
  | _ => .error "expected a mapping"

/-- A decoder of configurations that have the other sections of the example. -/
def decodeExample : Json → Except String Config
  | .object fields => do
      let section_ ← (loadBalancingField decodeSection).read fields
      return {
        defaultEndpoint := { resourceType := "gameserver", namespaceName := "default" }
        sessionTimeoutSeconds := 300
        resourceQueryMapping := ∅
        loadBalancing := section_.map LoadBalancingConfig.strategy }
  | _ => .error "expected a mapping"

lemma lookup_of_typeName {fields : List (String × Json)} {name : String}
    (h : typeName fields = some name) : fields.lookup "type" = some (.string name) := by
  obtain ⟨value, hvalue, hname⟩ := Option.bind_eq_some_iff.mp h
  cases value with
  | string s =>
      obtain rfl := Option.some.inj hname
      exact hvalue
  | _ => cases hname

/-- A decoded strategy is the default one, or it has been read field by field. -/
lemma of_decodeStrategy {fields : List (String × Json)} {strategy : LoadBalancingStrategy}
    (h : decodeStrategy (.object fields) = .ok strategy) :
    typeName fields = some "leastSessions" ∧ strategy = .leastSessions
      ∨ typeName fields = some "labelArithmetic" ∧ ∃ currentLabel maxLabel overlap,
          strategy = .labelArithmetic currentLabel maxLabel overlap
            ∧ currentLabelField.read fields = .ok currentLabel
            ∧ maxLabelField.read fields = .ok maxLabel
            ∧ overlapField.read fields = .ok overlap := by
  rw [decodeStrategy] at h
  cases htype : typeName fields with
  | none =>
      rw [htype] at h
      cases h
  | some name =>
      simp only [htype] at h
      split at h
      · rename_i hname
        exact .inl ⟨by rw [hname], (Except.ok.inj h).symm⟩
      · split at h
        · rename_i hname
          obtain ⟨currentLabel, hcurrent, h⟩ := Except.exists_of_bind_eq_ok h
          obtain ⟨maxLabel, hmax, h⟩ := Except.exists_of_bind_eq_ok h
          obtain ⟨overlap, hoverlap, h⟩ := Except.exists_of_bind_eq_ok h
          exact .inr ⟨by rw [hname], currentLabel, maxLabel, overlap, (Except.ok.inj h).symm,
            hcurrent, hmax, hoverlap⟩
        · cases h

lemma derivedDecoders : DerivedDecoders decodeExample decodeSection decodeStrategy where
  loadBalancing {fields config} h := by
    obtain ⟨section_, hread, h⟩ := Except.exists_of_bind_eq_ok h
    obtain rfl := Except.ok.inj h
    exact ⟨section_, hread, rfl⟩
  strategy {fields section_} h := by
    obtain ⟨strategy, hread, rfl⟩ := Except.exists_of_map_eq_ok h
    exact hread
  type {fields strategy} h := by
    obtain ⟨htype, rfl⟩ | ⟨htype, _, _, _, rfl, -⟩ := of_decodeStrategy h
    · exact lookup_of_typeName htype
    · exact lookup_of_typeName htype
  labelArithmetic {fields currentLabel maxLabel overlap} h := by
    obtain ⟨-, heq⟩ | ⟨-, _, _, _, heq, hfields⟩ := of_decodeStrategy h
    · cases heq
    · obtain ⟨rfl, rfl, rfl⟩ := LoadBalancingStrategy.labelArithmetic.inj heq
      exact hfields

/-- The example configuration. -/
def exampleFields : List (String × Json) :=
  [("queryPort", .number (.int 9000)),
    ("defaultEndpoint", .object
      [("resourceType", .string "gameserver"), ("namespace", .string "default")]),
    ("sessionTimeoutSeconds", .number (.int 300)),
    ("loadBalancing", .object (documentedSection "currentUsers" "maxUsers" (some 2))),
    ("resourceQueryMapping", .object [])]

end Sample

/-- The example configuration does not use the strategy it documents. -/
theorem documented_never_takes_effect_sample :
    ¬TakesEffect Sample.decodeExample Sample.exampleFields "currentUsers" "maxUsers" (some 2) :=
  (documented_never_takes_effect Sample.derivedDecoders).1 Sample.exampleFields _ _ _ _ rfl
    (List.Perm.refl _)

/-- The example configuration loads, and routes to the backend with the fewest sessions. -/
theorem example_loads_default :
    ∃ config, Sample.decodeExample (.object Sample.exampleFields) = .ok config
      ∧ config.getLoadBalancing = .leastSessions
      ∧ config.getLoadBalancing ≠ .labelArithmetic "currentUsers" "maxUsers" 2 :=
  ⟨_, rfl, rfl, by decide⟩

end UdpDirector
