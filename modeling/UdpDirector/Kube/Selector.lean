import UdpDirector.Foundation.Table

/-!
Label selectors as text (`k8s_client.rs`): the requirements of a map, in the order in which
the map is iterated, joined by commas.

* `validLabelKey`, `validLabelValue`: what Kubernetes accepts as a label;
* `labelSelectorStr`, `watchSelector`: the texts of a list and of a watch;
* `requirements`: the text read back, at the commas and at the first equality sign of each
  part; `requirements_joinLabels`: it gives the entries of the map, in their order.
-/

namespace UdpDirector

/-! ### The syntax of labels -/

/-- The name of a label, also the form of a nonempty value. -/
def validLabelName (name : String) : Bool :=
  name.utf8ByteSize ≤ 63
    && name.toList.head?.any Char.isAlphanum
    && name.toList.getLast?.any Char.isAlphanum
    && name.toList.all fun c => c.isAlphanum || ['-', '_', '.'].contains c

/-- A domain name: parts of small letters, digits and hyphens between dots, none of them with a
hyphen at an end. -/
def validDomain (domain : List Char) : Bool :=
  domain.length ≤ 253
    && domain.all (fun c => c.isLower || c.isDigit || ['-', '.'].contains c)
    && (domain.splitOn '.').all fun part =>
      part.head?.any (fun c => c.isLower || c.isDigit)
        && part.getLast?.any fun c => c.isLower || c.isDigit

/-- The key of a label: a name, after an optional domain name and a slash. -/
def validLabelKey (key : String) : Bool :=
  match key.toList.splitOn '/' with
  | [name] => validLabelName (String.ofList name)
  | [domain, name] => validDomain domain && validLabelName (String.ofList name)
  | _ => false

/-- The value of a label. -/
def validLabelValue (value : String) : Bool := value.isEmpty || validLabelName value

/-! ### Selectors -/

/-- The labels of a map in the order of its iteration, as one text. -/
def joinLabels (labels : List (Σ _ : String, String)) : String :=
  ",".intercalate (labels.map fun e => e.1 ++ "=" ++ e.2)

/-- `label_selector_str` in `K8sClient::query_resources_snapshot`. -/
def labelSelectorStr (labelSelector : Option (List (Σ _ : String, String))) : Option String :=
  labelSelector.map joinLabels

/-- `selector` in `K8sClient::wait_for_pod_change`. -/
def watchSelector (labels : List (Σ _ : String, String)) : String := joinLabels labels

/-- A part of a selector, cut at its first equality sign. -/
def requirement (part : List Char) : Σ _ : String, String :=
  ⟨String.ofList (part.takeWhile (· ≠ '=')), String.ofList ((part.dropWhile (· ≠ '=')).drop 1)⟩

/-- The requirements of a selector. -/
def requirements (selector : String) : List (Σ _ : String, String) :=
  (selector.toList.splitOn ',').map requirement

/-! ### Reading a selector back -/

/-- The separators of a selector are in no name. -/
lemma separator_not_mem_name {name : String} {c : Char} (h : validLabelName name = true)
    (hc : c = ',' ∨ c = '=') : c ∉ name.toList := by
  intro hmem
  rw [validLabelName, Bool.and_eq_true, List.all_eq_true] at h
  have hallowed := h.2 c hmem
  rcases hc with rfl | rfl <;> simp [Char.isAlphanum] at hallowed

lemma separator_not_mem_domain {domain : List Char} {c : Char} (h : validDomain domain = true)
    (hc : c = ',' ∨ c = '=') : c ∉ domain := by
  intro hmem
  rw [validDomain, Bool.and_eq_true, Bool.and_eq_true, List.all_eq_true] at h
  have hallowed := h.1.2 c hmem
  rcases hc with rfl | rfl <;> simp at hallowed

lemma separator_not_mem_key {key : String} {c : Char} (h : validLabelKey key = true)
    (hc : c = ',' ∨ c = '=') : c ∉ key.toList := by
  have hjoin : List.intercalate ['/'] (key.toList.splitOn '/') = key.toList :=
    List.intercalate_splitOn '/'
  rw [← hjoin]
  rw [validLabelKey] at h
  split at h
  · rename_i name hsplit
    have hname := separator_not_mem_name h hc
    rw [String.toList_ofList] at hname
    rw [hsplit]
    simpa using hname
  · rename_i domain name hsplit
    rw [Bool.and_eq_true] at h
    have hname := separator_not_mem_name h.2 hc
    have hdomain := separator_not_mem_domain h.1 hc
    rw [String.toList_ofList] at hname
    rw [hsplit]
    rcases hc with rfl | rfl <;> simp [hname, hdomain]
  · cases h

lemma separator_not_mem_value {value : String} {c : Char} (h : validLabelValue value = true)
    (hc : c = ',' ∨ c = '=') : c ∉ value.toList := by
  rw [validLabelValue, Bool.or_eq_true] at h
  rcases h with hempty | hname
  · rw [String.isEmpty_iff.mp hempty]
    simp
  · exact separator_not_mem_name hname hc

/-- A part of a selector gives back its label. -/
lemma requirement_append {key value : String} (h : '=' ∉ key.toList) :
    requirement (key ++ "=" ++ value).toList = ⟨key, value⟩ := by
  have hkey : ∀ c ∈ key.toList, decide (c ≠ '=') = true := by
    intro c hc
    rw [decide_eq_true_iff]
    exact fun heq => h (heq ▸ hc)
  have htext : (key ++ "=" ++ value).toList = key.toList ++ '=' :: value.toList := by simp
  rw [htext, requirement, List.takeWhile_append_of_pos hkey, List.dropWhile_append_of_pos hkey]
  simp

/-- **A selector says exactly what was asked**: read back, its text gives the labels of the
map, in the order in which it was iterated. -/
theorem requirements_joinLabels {labels : List (Σ _ : String, String)} (hne : labels ≠ [])
    (hkeys : ∀ e ∈ labels, validLabelKey e.1 = true)
    (hvalues : ∀ e ∈ labels, validLabelValue e.2 = true) :
    requirements (joinLabels labels) = labels := by
  have hparts : ∀ part ∈ labels.map fun e => (e.1 ++ "=" ++ e.2).toList, ',' ∉ part := by
    intro part hpart
    obtain ⟨e, he, rfl⟩ := List.mem_map.mp hpart
    have hkey := separator_not_mem_key (hkeys e he) (.inl rfl)
    have hvalue := separator_not_mem_value (hvalues e he) (.inl rfl)
    simp [hkey, hvalue]
  have htext : (joinLabels labels).toList
      = [','].intercalate (labels.map fun e => (e.1 ++ "=" ++ e.2).toList) := by
    rw [joinLabels, String.toList_intercalate, List.map_map]
    rfl
  rw [requirements, htext, List.splitOn_intercalate ',' hparts (by simpa using hne), List.map_map]
  have hread : ∀ e ∈ labels, requirement (e.1 ++ "=" ++ e.2).toList = id e :=
    fun e he => requirement_append (separator_not_mem_key (hkeys e he) (.inr rfl))
  exact (List.map_congr_left hread).trans (List.map_id labels)

end UdpDirector
