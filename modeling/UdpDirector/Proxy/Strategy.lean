import UdpDirector.Proxy.Endpoint

/-!
What the balancing strategies are for, and that the load balancer does it.

* `listedBackends`: the listed resources of the default endpoint that have an address;
* `Admits`: the backends a strategy admits, a least count under the one, capacity for
  one session more under the other, in the integers;
* `Fits`: the capacities of the backends are numbers of `i64`, so that its arithmetic
  does not wrap around;
* `admits_of_query`: the load balancer then selects an admitted backend.
-/

namespace UdpDirector

/-! ### Backends -/

/-- A resource with its address, if it can be extracted. -/
def withAddress (addressPath : String) (addressType : Option String) (resource : DynamicObject) :
    Option (DynamicObject × String) :=
  (extractAddress resource addressPath addressType).toOption.map fun address => (resource, address)

/-- The resources in a list for the default endpoint that the filters keep and whose
address can be extracted, each with its address. -/
def listedBackends (config : Config) (items : List DynamicObject) :
    List (DynamicObject × String) :=
  match config.resourceQueryMapping.lookup config.defaultEndpoint.resourceType with
  | none => []
  | some mapping =>
      match mapping.addressPath, filterSnapshot config.defaultEndpoint.statusQuery
        config.defaultEndpoint.annotationSelector items with
      | some addressPath, .ok resources =>
          resources.filterMap (withAddress addressPath mapping.addressType)
      | _, _ => []

/-- The current load and the capacity of a resource by its labels. -/
def labelledLoad (currentLabel maxLabel : String) (resource : DynamicObject) :
    Option (Int64 × Int64) := do
  let current ← currentLoad currentLabel resource
  let max ← (resource.metadata.label maxLabel).bind parseI64
  return (current, max)

/-- The strategy admits the backend with an address among the given ones. -/
def Admits (strategy : LoadBalancingStrategy) (counts : SessionCounts)
    (backends : List (DynamicObject × String)) (address : String) : Prop :=
  match strategy with
  | .leastSessions =>
      (∃ b ∈ backends, b.2 = address)
        ∧ ∀ b ∈ backends, counts.count address ≤ counts.count b.2
  | .labelArithmetic currentLabel maxLabel overlap =>
      ∃ b ∈ backends, b.2 = address ∧ ∃ load ∈ labelledLoad currentLabel maxLabel b.1,
        load.1.toInt + counts.count address + 1 + overlap ≤ load.2.toInt

/-- The capacities left on the given backends are numbers of `i64`. -/
def Fits (strategy : LoadBalancingStrategy) (counts : SessionCounts)
    (backends : List (DynamicObject × String)) : Prop :=
  match strategy with
  | .leastSessions => True
  | .labelArithmetic currentLabel maxLabel overlap =>
      ∀ b ∈ backends, ∀ load ∈ labelledLoad currentLabel maxLabel b.1,
        -2 ^ 63 ≤ load.2.toInt - load.1.toInt - counts.count b.2 - overlap
          ∧ load.2.toInt - load.1.toInt - counts.count b.2 - overlap < 2 ^ 63

/-! ### Selection -/

section

variable {counts : SessionCounts} {addressPath : String} {addressType : Option String}
  {resources : List DynamicObject} {selected : DynamicObject}

/-- The load balancer looks at the resources that have an address. -/
lemma addressed_eq : ∀ {resources : List DynamicObject} {backends : List (DynamicObject × String)},
    addressed addressPath addressType resources = .ok backends →
      backends = resources.filterMap (withAddress addressPath addressType)
  | [], backends, h => (Except.ok.inj h).symm
  | resource :: rest, backends, h => by
      rw [addressed] at h
      split at h
      · simp at h
      · rename_i message hextract
        rw [addressed_eq h, List.filterMap_cons_none]
        rw [withAddress, hextract]
        rfl
      · rename_i address hextract
        obtain ⟨others, hothers, rfl⟩ := Except.exists_of_map_eq_ok h
        rw [addressed_eq hothers, List.filterMap_cons_some]
        rw [withAddress, hextract]
        rfl

/-- The session counts order the backends. -/
instance : Std.Total fun b b' : DynamicObject × String => counts.count b.2 ≤ counts.count b'.2 :=
  ⟨fun b b' => le_total (counts.count b.2) (counts.count b'.2)⟩

instance : IsTrans (DynamicObject × String) fun b b' => counts.count b.2 ≤ counts.count b'.2 :=
  ⟨fun _ _ _ h h' => h.trans h'⟩

/-- **The first strategy selects a backend with a least count.** -/
lemma least_of_selectLeastSessions
    (h : selectLeastSessions counts resources addressPath addressType = .ok selected) :
    ∃ address, (selected, address) ∈ resources.filterMap (withAddress addressPath addressType)
      ∧ ∀ b ∈ resources.filterMap (withAddress addressPath addressType),
          counts.count address ≤ counts.count b.2 := by
  obtain ⟨backends, hbackends, h⟩ := Except.exists_of_bind_eq_ok h
  obtain rfl := addressed_eq hbackends
  split at h
  · simp at h
  · rename_i best address rest hsorted
    obtain rfl : best = selected := Except.ok.inj h
    exact ⟨address, List.mem_of_insertionSort_eq_cons hsorted, fun b hb =>
      List.le_of_insertionSort_eq_cons
        (r := fun b b' : DynamicObject × String => counts.count b.2 ≤ counts.count b'.2) hsorted hb⟩

/-- The capacity left on a backend with a load. -/
lemma available_eq {currentLabel maxLabel : String} {overlap : ℤ} (b : DynamicObject × String) :
    available counts currentLabel maxLabel overlap b
      = (labelledLoad currentLabel maxLabel b.1).map fun load =>
        (load.2 - load.1 - Int64.ofNat (counts.count b.2) - Int64.ofInt overlap, load.1) := by
  rw [available, labelledLoad]
  cases currentLoad currentLabel b.1 with
  | none => rfl
  | some current => cases (b.1.metadata.label maxLabel).bind parseI64 <;> rfl

/-- The arithmetic of `i64` is that of the integers, reduced once. -/
lemma toInt_left (current max : Int64) (sessions : ℕ) (overlap : ℤ) :
    (max - current - Int64.ofNat sessions - Int64.ofInt overlap).toInt
      = (max.toInt - current.toInt - sessions - overlap).bmod (2 ^ 64) := by
  rw [Int64.toInt_sub, Int64.toInt_sub, Int64.toInt_sub, Int64.toInt_ofInt, Int64.toInt_ofNat']
  simp only [Int.bmod_sub_bmod, Int.sub_bmod_bmod, Int64.size]

/-- **The second strategy selects a backend with capacity left**, if the capacities are
numbers of `i64`. -/
lemma capacity_of_selectLabelArithmetic {currentLabel maxLabel : String} {overlap : ℤ}
    (h : selectLabelArithmetic counts resources addressPath addressType currentLabel maxLabel
      overlap = .ok selected)
    (hfits : Fits (.labelArithmetic currentLabel maxLabel overlap) counts
      (resources.filterMap (withAddress addressPath addressType))) :
    ∃ address, (selected, address) ∈ resources.filterMap (withAddress addressPath addressType)
      ∧ ∃ load ∈ labelledLoad currentLabel maxLabel selected,
          load.1.toInt + counts.count address + 1 + overlap ≤ load.2.toInt := by
  obtain ⟨backends, hbackends, h⟩ := Except.exists_of_bind_eq_ok h
  obtain rfl := addressed_eq hbackends
  dsimp only at h
  split at h
  · simp at h
  · rename_i best left rest hsorted
    obtain rfl : best = selected := Except.ok.inj h
    obtain ⟨b, hb, hcandidate⟩ :=
      List.mem_filterMap.mp (List.mem_of_insertionSort_eq_cons hsorted)
    obtain ⟨⟨room, current⟩, havailable, hcandidate⟩ := Option.bind_eq_some_iff.mp hcandidate
    obtain ⟨hpositive, hcandidate⟩ := Option.ite_none_right_eq_some.mp hcandidate
    obtain ⟨rfl, rfl⟩ := Prod.mk.inj (Option.some.inj hcandidate)
    rw [available_eq] at havailable
    obtain ⟨load, hload, heq⟩ := Option.map_eq_some_iff.mp havailable
    obtain ⟨rfl, rfl⟩ := Prod.mk.inj heq
    obtain ⟨hlower, hupper⟩ := hfits b hb load hload
    refine ⟨b.2, hb, load, hload, ?_⟩
    have hpos := Int64.lt_iff_toInt_lt.mp hpositive
    rw [toInt_left, Int.bmod_eq_of_le (by omega) (by omega), Int64.toInt_zero] at hpos
    omega

/-- The load balancer selects an admitted backend. -/
theorem admits_of_selectBackend {strategy : LoadBalancingStrategy}
    (h : selectBackend strategy counts resources addressPath addressType = .ok selected)
    (hfits : Fits strategy counts (resources.filterMap (withAddress addressPath addressType))) :
    ∃ address, extractAddress selected addressPath addressType = .ok address
      ∧ Admits strategy counts (resources.filterMap (withAddress addressPath addressType))
        address := by
  have hextract : ∀ address,
      (selected, address) ∈ resources.filterMap (withAddress addressPath addressType) →
        extractAddress selected addressPath addressType = .ok address := by
    intro address hmem
    obtain ⟨resource, -, hwith⟩ := List.mem_filterMap.mp hmem
    obtain ⟨address', haddress', heq⟩ := Option.map_eq_some_iff.mp hwith
    obtain ⟨rfl, rfl⟩ := Prod.mk.inj heq
    exact Except.eq_ok_of_toOption haddress'
  unfold selectBackend at h
  split at h
  · simp at h
  · split at h
    · obtain ⟨address, hmem, hleast⟩ := least_of_selectLeastSessions h
      exact ⟨address, hextract address hmem, ⟨_, hmem, rfl⟩, hleast⟩
    · obtain ⟨address, hmem, hload⟩ := capacity_of_selectLabelArithmetic h hfits
      exact ⟨address, hextract address hmem, _, hmem, rfl, hload⟩

end

/-- **A default endpoint has an address that the strategy admits**, with the session
counts of the query and the resources it listed, if the capacities are numbers of
`i64`. -/
theorem admits_of_query {config : Config} {counts : SessionCounts}
    {items : List DynamicObject} {endpoint : Endpoint}
    (h : queryDefaultEndpoint config counts (some items) = .ok endpoint)
    (hfits : Fits config.getLoadBalancing counts (listedBackends config items)) :
    Admits config.getLoadBalancing counts (listedBackends config items) endpoint.address := by
  obtain ⟨mapping, items', resources, addressPath, selected, hitems, hmapping, hresources,
    haddressPath, hselected, hendpoint⟩ := exists_selected_of_query h
  obtain rfl := Option.some.inj hitems
  have hbackends : listedBackends config items
      = resources.filterMap (withAddress addressPath mapping.addressType) := by
    simp only [listedBackends, hmapping, haddressPath, hresources]
  rw [hbackends] at hfits ⊢
  obtain ⟨address, haddress, hadmits⟩ := admits_of_selectBackend hselected hfits
  rw [extractAddress_of_endpoint hendpoint haddressPath] at haddress
  obtain rfl := Except.ok.inj haddress
  exact hadmits

end UdpDirector
