import UdpDirector.Foundation.Least
import UdpDirector.Kube.Extract
import UdpDirector.Net.SocketAddr

/-!
The choice of a backend for a default route (`load_balancer.rs`).

* `SessionCounts`: the sessions counted for each backend address;
* `selectLeastSessions`, `selectLabelArithmetic`: the two strategies; both pass
  over a resource without an address, and take the first of a stable sort;
* `available`: the arithmetic of the second one on `i64`, which wraps around in
  the release build;
* `mem_of_selectBackend`: the backend is one of the resources.
-/

namespace UdpDirector

/-- `LoadBalancer::session_counts`. -/
abbrev SessionCounts := Table String ℕ

namespace SessionCounts

/-- The sessions counted for an address. -/
def count (counts : SessionCounts) (address : String) : ℕ := (counts.lookup address).getD 0

/-- `LoadBalancer::increment_session`. -/
def increment (counts : SessionCounts) (address : String) : SessionCounts :=
  counts.insert address (counts.count address + 1)

end SessionCounts

/-! ### Numbers in labels -/

/-- A nonempty run of decimal digits. -/
def parseDigits (digits : List Char) : Option ℤ :=
  if digits ≠ [] ∧ digits.all fun c => (toDigit 10 c).isSome then
    some (digitsValue 10 digits)
  else
    none

/-- `str::parse::<i64>`. -/
def parseI64 (s : String) : Option Int64 := do
  let value ←
    match s.toList with
    | '+' :: digits => parseDigits digits
    | '-' :: digits => (parseDigits digits).map Neg.neg
    | digits => parseDigits digits
  if -2 ^ 63 ≤ value ∧ value < 2 ^ 63 then some (Int64.ofInt value) else none

/-! ### Strategies -/

/-- The resources with an extractable address, each with its address. -/
def addressed (addressPath : String) (addressType : Option String)
    (resources : List DynamicObject) : Except Fault (List (DynamicObject × String)) :=
  match resources with
  | [] => .ok []
  | resource :: rest =>
      match extractAddress resource addressPath addressType with
      | .error .panic => .error .panic
      | .error (.error _) => addressed addressPath addressType rest
      | .ok address => (addressed addressPath addressType rest).map ((resource, address) :: ·)

/-- `LoadBalancer::select_least_sessions`. -/
def selectLeastSessions (counts : SessionCounts) (resources : List DynamicObject)
    (addressPath : String) (addressType : Option String) : Except Fault DynamicObject := do
  let backends ← addressed addressPath addressType resources
  match backends.insertionSort fun b b' => counts.count b.2 ≤ counts.count b'.2 with
  | [] => .error (.error "No valid backends found after address extraction")
  | (selected, _) :: _ => return selected

/-- The current load of a resource by its label, zero without one. -/
def currentLoad (currentLabel : String) (resource : DynamicObject) : Option Int64 :=
  match resource.metadata.label currentLabel with
  | some value => parseI64 value
  | none => some 0

/-- The capacity left on a resource, with its current load. -/
def available (counts : SessionCounts) (currentLabel maxLabel : String) (overlap : ℤ)
    (backend : DynamicObject × String) : Option (Int64 × Int64) := do
  let current ← currentLoad currentLabel backend.1
  let max ← (backend.1.metadata.label maxLabel).bind parseI64
  return (max - current - Int64.ofNat (counts.count backend.2) - Int64.ofInt overlap, current)

/-- The first candidate comes before the second one: more capacity left, or as much
and less load. -/
def Preferred (c c' : DynamicObject × Int64 × Int64) : Prop :=
  c'.2.1 < c.2.1 ∨ c'.2.1 = c.2.1 ∧ c.2.2 ≤ c'.2.2

instance : DecidableRel Preferred := fun c c' =>
  inferInstanceAs (Decidable (c'.2.1 < c.2.1 ∨ c'.2.1 = c.2.1 ∧ c.2.2 ≤ c'.2.2))

/-- `LoadBalancer::select_label_arithmetic`. -/
def selectLabelArithmetic (counts : SessionCounts) (resources : List DynamicObject)
    (addressPath : String) (addressType : Option String) (currentLabel maxLabel : String)
    (overlap : ℤ) : Except Fault DynamicObject := do
  let backends ← addressed addressPath addressType resources
  let candidates := backends.filterMap fun backend => do
    let (left, current) ← available counts currentLabel maxLabel overlap backend
    if 0 < left then some (backend.1, left, current) else none
  match candidates.insertionSort Preferred with
  | [] =>
      .error (.error
        ("No backends available with capacity (checked " ++ toString resources.length
          ++ " resources). All backends may be at max capacity or missing required labels '"
          ++ currentLabel ++ "' and '" ++ maxLabel ++ "'"))
  | (selected, _) :: _ => return selected

/-- `LoadBalancer::select_backend`. -/
def selectBackend (strategy : LoadBalancingStrategy) (counts : SessionCounts)
    (resources : List DynamicObject) (addressPath : String) (addressType : Option String) :
    Except Fault DynamicObject :=
  if resources.isEmpty then
    .error (.error "No resources available for load balancing")
  else
    match strategy with
    | .leastSessions => selectLeastSessions counts resources addressPath addressType
    | .labelArithmetic currentLabel maxLabel overlap =>
        selectLabelArithmetic counts resources addressPath addressType currentLabel maxLabel overlap

/-! ### The backend is one of the resources -/

lemma mem_of_mem_addressed {addressPath : String} {addressType : Option String} :
    ∀ {resources : List DynamicObject} {backends : List (DynamicObject × String)},
      addressed addressPath addressType resources = .ok backends →
        ∀ b ∈ backends, b.1 ∈ resources ∧ extractAddress b.1 addressPath addressType = .ok b.2
  | [], backends, h, b, hb => by
      obtain rfl : [] = backends := Except.ok.inj h
      simp at hb
  | resource :: rest, backends, h, b, hb => by
      rw [addressed] at h
      split at h
      · simp at h
      · obtain ⟨hmem, haddress⟩ := mem_of_mem_addressed h b hb
        exact ⟨List.mem_cons_of_mem resource hmem, haddress⟩
      · rename_i address haddress
        obtain ⟨others, hothers, rfl⟩ := Except.exists_of_map_eq_ok h
        rcases List.mem_cons.mp hb with rfl | hb
        · exact ⟨List.mem_cons_self, haddress⟩
        · obtain ⟨hmem, haddress'⟩ := mem_of_mem_addressed hothers b hb
          exact ⟨List.mem_cons_of_mem resource hmem, haddress'⟩

/-- **Either strategy selects a resource it was given**, and one with an address. -/
theorem mem_of_selectBackend {strategy : LoadBalancingStrategy} {counts : SessionCounts}
    {resources : List DynamicObject} {addressPath : String} {addressType : Option String}
    {selected : DynamicObject}
    (h : selectBackend strategy counts resources addressPath addressType = .ok selected) :
    selected ∈ resources
      ∧ ∃ address, extractAddress selected addressPath addressType = .ok address := by
  unfold selectBackend at h
  split at h
  · simp at h
  · split at h
    · obtain ⟨backends, hbackends, h⟩ := Except.exists_of_bind_eq_ok h
      split at h
      · simp at h
      · rename_i best address rest hsorted
        obtain rfl : best = selected := Except.ok.inj h
        obtain ⟨hmem, haddress⟩ :=
          mem_of_mem_addressed hbackends _ (List.mem_of_insertionSort_eq_cons hsorted)
        exact ⟨hmem, address, haddress⟩
    · obtain ⟨backends, hbackends, h⟩ := Except.exists_of_bind_eq_ok h
      dsimp only at h
      split at h
      · simp at h
      · rename_i best left rest hsorted
        obtain rfl : best = selected := Except.ok.inj h
        obtain ⟨b, hb, hcandidate⟩ :=
          List.mem_filterMap.mp (List.mem_of_insertionSort_eq_cons hsorted)
        obtain ⟨hmem, haddress⟩ := mem_of_mem_addressed hbackends b hb
        obtain ⟨left', -, hcandidate⟩ := Option.bind_eq_some_iff.mp hcandidate
        obtain ⟨-, hcandidate⟩ := Option.ite_none_right_eq_some.mp hcandidate
        obtain rfl := (Prod.mk.inj (Option.some.inj hcandidate)).1
        exact ⟨hmem, b.2, haddress⟩

end UdpDirector
