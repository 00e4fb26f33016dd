import UdpDirector.Kube.Extract
import UdpDirector.Kube.Filtering

/-!
Configured paths that make nothing panic.

* `Calm`: a result or an error, but no panic, with a rule for each way in which the source
  composes results;
* `ReadablePath`: extracting the path panics on no value; `readablePath_of_forall`: so it is
  where no step of the path panics;
* `ResourceMapping.Readable`: the paths of a mapping are readable; then addresses, ports and
  filtered lists are calm, whatever the resources are.
-/

namespace UdpDirector

/-! ### Calm results -/

/-- A result or an error, but no panic. -/
def Calm {α : Type} (r : Except Fault α) : Prop := r ≠ .error .panic

namespace Calm

variable {α β : Type} {r : Except Fault α} {f : α → Except Fault β}

lemma ok (x : α) : Calm (.ok x) := by
  intro h
  cases h

lemma error (message : String) : Calm (.error (.error message) : Except Fault α) := by
  intro h
  cases h

lemma bind (hr : Calm r) (hf : ∀ x, r = .ok x → Calm (f x)) : Calm (r >>= f) := by
  cases r with
  | error fault =>
      intro h
      exact hr (congrArg Except.error (Except.error.inj h))
  | ok x => exact hf x rfl

lemma map (hr : Calm r) (g : α → β) : Calm (r.map g) := by
  cases r with
  | error fault =>
      intro h
      exact hr (congrArg Except.error (Except.error.inj h))
  | ok x => exact ok (g x)

end Calm

/-! ### Paths -/

/-- Extracting the path panics on no value. -/
def ReadablePath (path : String) : Prop := ∀ json, ¬PanicsOn json path

/-- A path is readable where none of its steps panics. -/
lemma readablePath_of_forall {path : String}
    (h : ∀ part ∈ pathParts path, readStep part ≠ .error .panic) : ReadablePath path := by
  rintro json ⟨before, part, after, steps, hparts, -, hpanic, -⟩
  exact h part (by simp [hparts]) hpanic

/-- The paths of a mapping are readable. -/
structure ResourceMapping.Readable (mapping : ResourceMapping) : Prop where
  addressPath : ∀ path ∈ mapping.addressPath, ReadablePath path
  portPath : ∀ path ∈ mapping.portPath, ReadablePath path
  ports : ∀ portMappings ∈ mapping.ports, ∀ port ∈ portMappings,
    ∀ path ∈ port.portPath, ReadablePath path

/-- The paths that the director looks up resources by are readable. -/
structure Config.Readable (config : Config) : Prop where
  statusQuery : ∀ query ∈ config.defaultEndpoint.statusQuery, ReadablePath query.jsonPath
  mapping : ∀ mapping,
    config.resourceQueryMapping.lookup config.defaultEndpoint.resourceType = some mapping →
      mapping.Readable

section

variable {path : String} {resource : DynamicObject} {items : List DynamicObject}

lemma calm_extractJsonPath (h : ReadablePath path) (json : Json) :
    Calm (extractJsonPath json path) := by
  obtain ⟨found, hfound⟩ := exists_extractJsonPath_iff.mpr (h json)
  rw [hfound]
  exact .ok found

lemma calm_extractAddress (h : ReadablePath path) (addressType : Option String) :
    Calm (extractAddress resource path addressType) := by
  refine (calm_extractJsonPath h _).bind fun found _ => ?_
  split
  · split
    · split
      · split
        · exact .ok _
        · exact .error _
      · exact .error _
    · split
      · exact .ok _
      · exact .error _
  · exact .error _

lemma calm_portNumber (n : Number) : Calm (portNumber n) := by
  rw [portNumber]
  split
  · split
    · exact .ok _
    · exact .error _
  · exact .error _

lemma calm_extractPort {portPath : Option String} (h : ∀ path ∈ portPath, ReadablePath path)
    (portName : Option String) : Calm (extractPort resource portPath portName) := by
  rw [extractPort.eq_def]
  split
  · split
    · exact calm_portNumber _
    · exact .error _
  · split
    · refine (calm_extractJsonPath (h _ rfl) _).bind fun found _ => ?_
      split
      · split
        · exact calm_portNumber _
        · exact .error _
      · exact .error _
    · exact .error _

lemma calm_extractPorts {portMappings : List PortMapping}
    (h : ∀ port ∈ portMappings, ∀ path ∈ port.portPath, ReadablePath path)
    (ports : Table String UInt16) : Calm (extractPorts resource portMappings ports) := by
  induction portMappings generalizing ports with
  | nil => exact .ok ports
  | cons mapping mappings ih =>
      refine (calm_extractPort (h mapping List.mem_cons_self) _).bind fun port _ => ?_
      exact ih (fun port hport => h port (List.mem_cons_of_mem mapping hport)) _

/-- **Filtering a list panics nowhere** if the status path is readable. -/
lemma calm_filterSnapshot {statusQuery : Option StatusQuery}
    (h : ∀ query ∈ statusQuery, ReadablePath query.jsonPath)
    (annotationSelector : Option (Table String String)) :
    Calm (filterSnapshot statusQuery annotationSelector items) := by
  cases statusQuery with
  | none => exact .ok _
  | some query =>
      rw [filterSnapshot, filterStatus_eq fun o _ => h query rfl o.toValue]
      exact .ok _

end

end UdpDirector
