import UdpDirector.Kube.Object
import UdpDirector.Kube.Path

/-!
The criteria of a query and the resources that `K8sClient::query_resources_snapshot` keeps of a
list.

* `Meets`: a resource has an expected value at the status path and carries every annotation of the
  selector, each if there is one;
* `FiltersExactly`: the filters return the resources that meet the criteria, in their order;
* `filtersExactly_iff`: so they do exactly if the status path panics on no listed resource, and
  under an empty selector no resource with an expected status is without annotations. The source
  drops such a resource before it looks at the selector.
-/

namespace UdpDirector

/-! ### Criteria -/

/-- The text that a value is compared by: a string, a number or a boolean has one. -/
def Json.scalarText : Json → Option String
  | .string s => some s
  | .number n => some n.text
  | .bool b => some (toString b)
  | _ => none

/-- The value of a resource at the status path has an expected text. -/
def HasExpected (query : StatusQuery) (o : DynamicObject) : Prop :=
  ∃ value text, extractJsonPath o.toValue query.jsonPath = .ok (some value)
    ∧ value.scalarText = some text ∧ text ∈ query.expectedValues

/-- A resource carries every key of a selector with its value. -/
def Annotated (selector : Table String String) (o : DynamicObject) : Prop :=
  ∀ key value, selector.lookup key = some value →
    (o.metadata.annotations.bind fun annotations => annotations.lookup key) = some value

/-- The criteria of a query, no constraint where one is absent. -/
structure Meets (statusQuery : Option StatusQuery)
    (annotationSelector : Option (Table String String)) (o : DynamicObject) : Prop where
  status : ∀ query ∈ statusQuery, HasExpected query o
  annotations : ∀ selector ∈ annotationSelector, Annotated selector o

open Classical in
/-- The filters return the listed resources that meet the criteria, in their order. -/
def FiltersExactly (statusQuery : Option StatusQuery)
    (annotationSelector : Option (Table String String)) (items : List DynamicObject) : Prop :=
  filterSnapshot statusQuery annotationSelector items =
    .ok (items.filter fun o => decide (Meets statusQuery annotationSelector o))

section

variable {query : StatusQuery} {selector : Table String String} {o : DynamicObject}
  {items kept : List DynamicObject}

/-! ### The status query -/

open Classical in
lemma matchesStatusQuery_eq {found : Option Json}
    (h : extractJsonPath o.toValue query.jsonPath = .ok found) :
    matchesStatusQuery o query = .ok (decide (HasExpected query o)) := by
  have hiff : HasExpected query o ↔
      ∃ value text, found = some value ∧ value.scalarText = some text
        ∧ text ∈ query.expectedValues := by
    simp only [HasExpected, h, Except.ok.injEq]
  rw [matchesStatusQuery, h]
  cases found with
  | none => simp [hiff, bind, Except.bind, pure, Except.pure]
  | some value =>
      cases value <;>
        simp [hiff, Json.scalarText, bind, Except.bind, pure, Except.pure]

open Classical in
/-- Where the path panics nowhere, the resources with an expected status are kept. -/
lemma filterStatus_eq (h : ∀ o ∈ items, ¬PanicsOn o.toValue query.jsonPath) :
    filterStatus query items = .ok (items.filter fun o => decide (HasExpected query o)) := by
  induction items with
  | nil => rfl
  | cons o items ih =>
      obtain ⟨found, hfound⟩ := exists_extractJsonPath_iff.mpr (h o List.mem_cons_self)
      have hrest := ih fun o' ho' => h o' (List.mem_cons_of_mem o ho')
      rw [filterStatus, matchesStatusQuery_eq hfound, hrest]
      by_cases hexpected : HasExpected query o <;>
        simp [hexpected, bind, Except.bind, pure, Except.pure]

/-- Filtering looks at the status of every resource. -/
lemma not_panicsOn_of_filterStatus (h : filterStatus query items = .ok kept) :
    ∀ o ∈ items, ¬PanicsOn o.toValue query.jsonPath := by
  induction items generalizing kept with
  | nil => simp
  | cons o items ih =>
      obtain ⟨keep, hkeep, h⟩ := Except.exists_of_bind_eq_ok h
      obtain ⟨rest, hrest, -⟩ := Except.exists_of_bind_eq_ok h
      obtain ⟨found, hfound, -⟩ := Except.exists_of_bind_eq_ok hkeep
      intro o' ho'
      rcases List.mem_cons.mp ho' with rfl | ho'
      · exact exists_extractJsonPath_iff.mp ⟨found, hfound⟩
      · exact ih hrest o' ho'

/-! ### The annotation selector -/

/-- A resource is matched by a selector if it has annotations and carries those of the
selector. -/
lemma matchesAnnotationSelector_iff :
    matchesAnnotationSelector o selector = true
      ↔ o.metadata.annotations ≠ none ∧ Annotated selector o := by
  rw [matchesAnnotationSelector, Annotated]
  cases o.metadata.annotations with
  | none => simp
  | some annotations =>
      simp [List.all_eq_true, Table.lookup_eq_some, Sigma.forall]

/-- A resource without annotations carries those of the empty selector only. -/
lemma Annotated.eq_empty (h : Annotated selector o) (hnone : o.metadata.annotations = none) :
    selector = ∅ := by
  refine AList.ext (List.eq_nil_iff_forall_not_mem.mpr ?_)
  rintro ⟨key, value⟩ hmem
  have hvalue := h key value (Table.lookup_eq_some.mpr hmem)
  rw [hnone] at hvalue
  cases hvalue

lemma annotated_empty : Annotated ∅ o := by
  intro key value h
  simp at h

/-! ### Both filters -/

variable {statusQuery : Option StatusQuery} {annotationSelector : Option (Table String String)}

open Classical in
/-- Where the path panics nowhere, the resources are kept that have an expected status and are
matched by the selector. -/
lemma filterSnapshot_eq
    (h : ∀ query ∈ statusQuery, ∀ o ∈ items, ¬PanicsOn o.toValue query.jsonPath) :
    filterSnapshot statusQuery annotationSelector items =
      .ok (items.filter fun o => decide ((∀ query ∈ statusQuery, HasExpected query o)
        ∧ ∀ selector ∈ annotationSelector, matchesAnnotationSelector o selector = true)) := by
  cases statusQuery with
  | none => cases annotationSelector <;> simp [filterSnapshot, filterAnnotations]
  | some query =>
      rw [filterSnapshot, filterStatus_eq (h query rfl)]
      cases annotationSelector <;>
        simp [filterAnnotations, Except.map, List.filter_filter, Bool.and_comm]

open Classical in
/-- **The filters are the conjunction of the criteria exactly if** the status path panics on no
listed resource and an empty selector meets no resource with an expected status that has no
annotations. -/
theorem filtersExactly_iff (statusQuery : Option StatusQuery)
    (annotationSelector : Option (Table String String)) (items : List DynamicObject) :
    FiltersExactly statusQuery annotationSelector items
      ↔ (∀ query ∈ statusQuery, ∀ o ∈ items, ¬PanicsOn o.toValue query.jsonPath)
        ∧ (annotationSelector = some ∅ → ∀ o ∈ items,
            (∀ query ∈ statusQuery, HasExpected query o) → o.metadata.annotations ≠ none) := by
  constructor
  · intro hexact
    have hsafe : ∀ query ∈ statusQuery, ∀ o ∈ items, ¬PanicsOn o.toValue query.jsonPath := by
      rintro query rfl
      obtain ⟨kept, hkept, -⟩ := Except.exists_of_map_eq_ok hexact
      exact not_panicsOn_of_filterStatus hkept
    refine ⟨hsafe, ?_⟩
    rintro rfl o ho hstatus
    -- a resource that meets the criteria is kept, so the selector has matched it
    have hmeets : Meets statusQuery (some ∅) o := by
      refine ⟨hstatus, fun selector h => ?_⟩
      obtain rfl : ∅ = selector := Option.some.inj h
      exact annotated_empty
    have hkept := (filterSnapshot_eq hsafe).symm.trans hexact
    have hmem : o ∈ items.filter fun o => decide (Meets statusQuery (some ∅) o) :=
      List.mem_filter.mpr ⟨ho, decide_eq_true hmeets⟩
    rw [← Except.ok.inj hkept, List.mem_filter, decide_eq_true_iff] at hmem
    exact (matchesAnnotationSelector_iff.mp (hmem.2.2 ∅ rfl)).1
  · rintro ⟨hsafe, hvacuous⟩
    rw [FiltersExactly, filterSnapshot_eq hsafe]
    refine congrArg Except.ok (List.filter_congr fun o ho => decide_eq_decide.mpr ⟨?_, ?_⟩)
    · rintro ⟨hstatus, hannotations⟩
      refine ⟨hstatus, fun selector h => ?_⟩
      exact (matchesAnnotationSelector_iff.mp (hannotations selector h)).2
    · rintro ⟨hstatus, hannotations⟩
      refine ⟨hstatus, ?_⟩
      rintro selector rfl
      have hcarried := hannotations selector rfl
      refine matchesAnnotationSelector_iff.mpr ⟨fun hnone => ?_, hcarried⟩
      obtain rfl := hcarried.eq_empty hnone
      exact hvacuous rfl o ho hstatus hnone

/-- A resource without annotations is dropped under an empty selector. -/
theorem not_filtersExactly_unannotated :
    ¬FiltersExactly none (some ∅) [{ metadata := { name := some "pod-1" } }] := by
  intro hexact
  have hmeets : Meets none (some ∅) { metadata := { name := some "pod-1" } } := by
    refine ⟨by simp, fun selector h => ?_⟩
    obtain rfl : ∅ = selector := Option.some.inj h
    exact annotated_empty
  have hdropped : filterSnapshot none (some ∅) [{ metadata := { name := some "pod-1" } }] =
      .ok [] := rfl
  rw [FiltersExactly, hdropped] at hexact
  simp [hmeets] at hexact

end

end UdpDirector
