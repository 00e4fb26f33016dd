import UdpDirector.Proxy.Strategy

/-!
Which backend the load balancer selects, and in which arithmetic.

* `standing`: where a resource stands for a strategy, by the capacity left on it and by its
  load, and whether it stands for selection at all; the capacity is passed through a
  reduction, none in the integers and `wrapped` in `i64`;
* `selectBackend_eq_ok_iff`: the load balancer selects the first resource that stands best
  with reduced capacities, under both strategies;
* `selectBackend_eq_panic_iff`: it panics where the extraction of an address does, and fails
  otherwise;
* `Unmisled`: no capacity is too large a number of `i64`, and a backend whose capacity is too
  small a one stands behind a backend with room even where turns of `i64` raise it;
* `selects_exactly`: the load balancer then selects by exact capacities, and only then as long
  as no capacity is more than one turn too large;
* `overfull_selected`: a backend beyond its maximum is selected.
-/

namespace UdpDirector

/-! ### Where a backend stands -/

/-- The address of a resource, if it can be extracted. -/
def addressOf (addressPath : String) (addressType : Option String) (resource : DynamicObject) :
    Option String :=
  (extractAddress resource addressPath addressType).toOption

/-- More capacity left comes first, then less load. -/
def Roomier (k k' : ℤ × ℤ) : Prop := k'.1 < k.1 ∨ k'.1 = k.1 ∧ k.2 ≤ k'.2

instance : DecidableRel Roomier := fun k k' =>
  inferInstanceAs (Decidable (k'.1 < k.1 ∨ k'.1 = k.1 ∧ k.2 ≤ k'.2))

/-- The capacity left on a resource, with its load: the counted sessions under the first
strategy, where every backend has room, and the current label under the second one. None
where the resource does not stand for selection. -/
def standing (reduce : ℤ → ℤ) (strategy : LoadBalancingStrategy) (counts : SessionCounts)
    (addressPath : String) (addressType : Option String) (resource : DynamicObject) :
    Option (ℤ × ℤ) := do
  let address ← addressOf addressPath addressType resource
  match strategy with
  | .leastSessions => return (0, (counts.count address : ℤ))
  | .labelArithmetic currentLabel maxLabel overlap => do
      let load ← labelledLoad currentLabel maxLabel resource
      let left := reduce (load.2.toInt - load.1.toInt - counts.count address - overlap)
      if 0 < left then some (left, load.1.toInt) else none

/-- The exact capacity left on a resource under the second strategy, with its load, whether or
not there is room. -/
def capacity (strategy : LoadBalancingStrategy) (counts : SessionCounts) (addressPath : String)
    (addressType : Option String) (resource : DynamicObject) : Option (ℤ × ℤ) :=
  match strategy with
  | .leastSessions => none
  | .labelArithmetic currentLabel maxLabel overlap => do
      let address ← addressOf addressPath addressType resource
      let load ← labelledLoad currentLabel maxLabel resource
      return (load.2.toInt - load.1.toInt - counts.count address - overlap, load.1.toInt)

/-- The arithmetic of `i64`. -/
def wrapped (n : ℤ) : ℤ := n.bmod (2 ^ 64)

/-- The first resource of the best standing. -/
def StandsBest (reduce : ℤ → ℤ) (strategy : LoadBalancingStrategy) (counts : SessionCounts)
    (addressPath : String) (addressType : Option String) (resources : List DynamicObject)
    (o : DynamicObject) : Prop :=
  List.FirstLeast Roomier (standing reduce strategy counts addressPath addressType) resources o

/-! ### What the load balancer selects -/

section

variable {strategy : LoadBalancingStrategy} {counts : SessionCounts} {addressPath : String}
  {addressType : Option String} {resources : List DynamicObject}
  {currentLabel maxLabel : String} {overlap : ℤ}

/-- Where an address panics, no resource has one. -/
lemma addressed_eq_error {fault : Fault} :
    ∀ {resources : List DynamicObject}, addressed addressPath addressType resources = .error fault →
      ∀ o : DynamicObject, addressOf addressPath addressType o = none
  | [], h, _ => by cases h
  | resource :: rest, h, o => by
      rw [addressed] at h
      split at h
      · rename_i hpanic
        rw [addressOf]
        cases haddress : extractAddress o addressPath addressType with
        | error fault => rfl
        | ok address => exact absurd haddress (extractAddress_ne_ok hpanic)
      · exact addressed_eq_error h o
      · cases hrest : addressed addressPath addressType rest with
        | error fault' => exact addressed_eq_error hrest o
        | ok backends =>
            rw [hrest] at h
            cases h

/-- The extraction of the addresses panics where one of them does. -/
lemma addressed_eq_panic_iff :
    addressed addressPath addressType resources = .error .panic
      ↔ ∃ o ∈ resources, extractAddress o addressPath addressType = .error .panic := by
  induction resources with
  | nil => simp [addressed]
  | cons resource rest ih =>
      rw [addressed]
      simp only [List.mem_cons, or_and_right, exists_or, exists_eq_left]
      cases haddress : extractAddress resource addressPath addressType with
      | error fault =>
          cases fault with
          | panic => simp
          | error message => simp [ih]
      | ok address =>
          cases hrest : addressed addressPath addressType rest with
          | error fault => simpa [Except.map, hrest] using ih
          | ok backends => simpa [Except.map, hrest] using ih

/-- The candidates of the second strategy, by the load it sorts them by. -/
def candidateLoad (counts : SessionCounts) (addressPath : String) (addressType : Option String)
    (currentLabel maxLabel : String) (overlap : ℤ) (resource : DynamicObject) :
    Option (Int64 × Int64) :=
  (addressOf addressPath addressType resource).bind fun address =>
    (available counts currentLabel maxLabel overlap (resource, address)).bind fun load =>
      if 0 < load.1 then some load else none

/-- The loads order the candidates. -/
def PreferredLoad (k k' : Int64 × Int64) : Prop := k'.1 < k.1 ∨ k'.1 = k.1 ∧ k.2 ≤ k'.2

lemma preferredLoad_iff (k k' : Int64 × Int64) :
    PreferredLoad k k' ↔ Roomier (k.1.toInt, k.2.toInt) (k'.1.toInt, k'.2.toInt) := by
  rw [PreferredLoad, Roomier, Int64.lt_iff_toInt_lt, ← Int64.toInt_inj, Int64.le_iff_toInt_le]

instance : DecidableRel PreferredLoad := fun k k' =>
  inferInstanceAs (Decidable (k'.1 < k.1 ∨ k'.1 = k.1 ∧ k.2 ≤ k'.2))

instance : Std.Total Roomier := by
  refine ⟨fun k k' => ?_⟩
  simp only [Roomier]
  omega

instance : IsTrans (ℤ × ℤ) Roomier := by
  refine ⟨fun k k' k'' h h' => ?_⟩
  simp only [Roomier] at *
  omega

instance : Std.Total PreferredLoad :=
  ⟨fun k k' => by simpa only [preferredLoad_iff] using Std.Total.total (r := Roomier) _ _⟩

instance : IsTrans (Int64 × Int64) PreferredLoad :=
  ⟨fun k k' k'' h h' => by
    rw [preferredLoad_iff] at *
    exact IsTrans.trans (r := Roomier) _ _ _ h h'⟩

lemma standing_leastSessions (reduce : ℤ → ℤ) :
    standing reduce .leastSessions counts addressPath addressType
      = fun o => (addressOf addressPath addressType o).map fun address =>
          (0, (counts.count address : ℤ)) := by
  funext o
  rw [standing]
  cases addressOf addressPath addressType o <;> rfl

lemma standing_labelArithmetic :
    standing wrapped (.labelArithmetic currentLabel maxLabel overlap) counts addressPath addressType
      = fun o => (candidateLoad counts addressPath addressType currentLabel maxLabel overlap o).map
          fun load => (load.1.toInt, load.2.toInt) := by
  funext o
  rw [standing, candidateLoad]
  cases addressOf addressPath addressType o with
  | none => rfl
  | some address =>
      simp only [Option.bind_eq_bind, Option.bind_some, available_eq]
      cases labelledLoad currentLabel maxLabel o with
      | none => rfl
      | some load =>
          have hroom := toInt_left load.1 load.2 (counts.count address) overlap
          simp only [Option.bind_some, Option.map_some, wrapped, ← hroom, Int64.lt_iff_toInt_lt,
            Int64.toInt_zero]
          split <;> rfl

/-- Nothing stands for selection where no resource has an address. -/
lemma not_firstLeast_of_addressed {κ : Type*} {r : κ → κ → Prop} {key : DynamicObject → Option κ}
    {fault : Fault} {o : DynamicObject}
    (hkey : ∀ o, addressOf addressPath addressType o = none → key o = none)
    (h : addressed addressPath addressType resources = .error fault) :
    ¬List.FirstLeast r key resources o := by
  rintro ⟨pre, post, k, -, hk, -⟩
  rw [hkey o (addressed_eq_error h o)] at hk
  cases hk

lemma selectLeastSessions_eq_ok_iff {o : DynamicObject} :
    selectLeastSessions counts resources addressPath addressType = .ok o
      ↔ List.FirstLeast (fun a a' => counts.count a ≤ counts.count a')
          (addressOf addressPath addressType) resources o := by
  have htotal : Std.Total fun a a' => counts.count a ≤ counts.count a' :=
    ⟨fun a a' => le_total (counts.count a) (counts.count a')⟩
  have htrans : IsTrans String fun a a' => counts.count a ≤ counts.count a' :=
    ⟨fun _ _ _ h h' => h.trans h'⟩
  rw [selectLeastSessions]
  cases hbackends : addressed addressPath addressType resources with
  | error fault =>
      exact iff_of_false (by simp [bind, Except.bind])
        (not_firstLeast_of_addressed (fun _ h => h) hbackends)
  | ok backends =>
      obtain rfl : backends = List.keyed (addressOf addressPath addressType) resources :=
        addressed_eq hbackends
      rw [← List.head?_insertionSort_keyed]
      simp only [bind, Except.bind]
      split
      · rename_i hsorted
        simp [hsorted]
      · rename_i selected address rest hsorted
        simp [hsorted, pure, Except.pure]

/-- The candidates are the resources that stand for selection. -/
lemma filterMap_candidates :
    (resources.filterMap (withAddress addressPath addressType)).filterMap (fun backend =>
        (available counts currentLabel maxLabel overlap backend).bind fun load =>
          if 0 < load.1 then some (backend.1, load) else none)
      = List.keyed (candidateLoad counts addressPath addressType currentLabel maxLabel overlap)
          resources := by
  rw [List.filterMap_filterMap, List.keyed]
  refine List.filterMap_congr fun o _ => ?_
  rw [withAddress, candidateLoad, ← addressOf]
  cases addressOf addressPath addressType o with
  | none => rfl
  | some address =>
      rw [Option.map_some, Option.bind_some, Option.bind_some]
      cases available counts currentLabel maxLabel overlap (o, address) with
      | none => rfl
      | some load =>
          rw [Option.bind_some, Option.bind_some]
          split <;> rfl

lemma selectLabelArithmetic_eq_ok_iff {o : DynamicObject} :
    selectLabelArithmetic counts resources addressPath addressType currentLabel maxLabel overlap
        = .ok o
      ↔ List.FirstLeast PreferredLoad
          (candidateLoad counts addressPath addressType currentLabel maxLabel overlap)
          resources o := by
  rw [selectLabelArithmetic]
  cases hbackends : addressed addressPath addressType resources with
  | error fault =>
      refine iff_of_false (by simp [bind, Except.bind]) (not_firstLeast_of_addressed ?_ hbackends)
      intro o hnone
      rw [candidateLoad, hnone, Option.bind_none]
  | ok backends =>
      obtain rfl := addressed_eq hbackends
      rw [← List.head?_insertionSort_keyed, ← filterMap_candidates]
      simp only [bind, Except.bind]
      split
      · rename_i hsorted
        change List.insertionSort (fun p q : DynamicObject × Int64 × Int64 =>
          PreferredLoad p.2 q.2) _ = [] at hsorted
        simp [hsorted]
      · rename_i selected load rest hsorted
        change List.insertionSort (fun p q : DynamicObject × Int64 × Int64 =>
          PreferredLoad p.2 q.2) _ = (selected, load) :: rest at hsorted
        simp [hsorted, pure, Except.pure]

/-- **The load balancer selects the first resource that stands best**, with capacities as
`i64` has them. -/
theorem selectBackend_eq_ok_iff {o : DynamicObject} :
    selectBackend strategy counts resources addressPath addressType = .ok o
      ↔ StandsBest wrapped strategy counts addressPath addressType resources o := by
  unfold selectBackend
  cases resources with
  | nil =>
      refine iff_of_false (by simp) ?_
      rintro ⟨pre, post, k, hl, -⟩
      simp at hl
  | cons resource rest =>
      rw [List.isEmpty_cons, if_neg (by decide), StandsBest]
      cases strategy with
      | leastSessions =>
          rw [selectLeastSessions_eq_ok_iff, standing_leastSessions]
          refine (List.firstLeast_map fun a a' => ?_).symm
          simp [Roomier]
      | labelArithmetic currentLabel maxLabel overlap =>
          rw [selectLabelArithmetic_eq_ok_iff, standing_labelArithmetic]
          exact (List.firstLeast_map preferredLoad_iff).symm

/-- Nobody stands best exactly where nobody stands for selection. -/
lemma not_standsBest_iff {reduce : ℤ → ℤ} :
    (¬∃ o, StandsBest reduce strategy counts addressPath addressType resources o)
      ↔ ∀ o ∈ resources, standing reduce strategy counts addressPath addressType o = none := by
  constructor
  · intro h o ho
    cases hk : standing reduce strategy counts addressPath addressType o with
    | none => rfl
    | some k => exact absurd (List.exists_firstLeast ho hk) h
  · rintro h ⟨o, pre, post, k, rfl, hk, -⟩
    rw [h o (by simp)] at hk
    cases hk

/-- A selection panics where the extraction of an address does. -/
lemma selectBackend_eq_panic_iff :
    selectBackend strategy counts resources addressPath addressType = .error .panic
      ↔ ∃ o ∈ resources, extractAddress o addressPath addressType = .error .panic := by
  rw [← addressed_eq_panic_iff, selectBackend.eq_def]
  cases resources with
  | nil => simp [addressed]
  | cons resource rest =>
      rw [List.isEmpty_cons, if_neg (by decide)]
      cases strategy with
      | leastSessions =>
          dsimp only
          rw [selectLeastSessions]
          cases addressed addressPath addressType (resource :: rest) with
          | error fault => simp [bind, Except.bind]
          | ok backends =>
              simp only [bind, Except.bind]
              split <;> simp [pure, Except.pure]
      | labelArithmetic currentLabel maxLabel overlap =>
          dsimp only
          rw [selectLabelArithmetic]
          cases addressed addressPath addressType (resource :: rest) with
          | error fault => simp [bind, Except.bind]
          | ok backends =>
              simp only [bind, Except.bind]
              split <;> simp [pure, Except.pure]

/-! ### Exact arithmetic -/

variable (strategy counts addressPath addressType resources) in
/-- The load balancer selects by exact capacities. -/
structure SelectsExactly : Prop where
  /-- It returns the first resource that stands best. -/
  selects : ∀ o, selectBackend strategy counts resources addressPath addressType = .ok o
    ↔ StandsBest id strategy counts addressPath addressType resources o
  /-- It fails, with an error, where no resource stands for selection. -/
  fails : (∃ message, selectBackend strategy counts resources addressPath addressType
      = .error (.error message))
    ↔ ∀ o ∈ resources, standing id strategy counts addressPath addressType o = none
  /-- It never returns a resource without room. -/
  room : ∀ o, selectBackend strategy counts resources addressPath addressType = .ok o →
    ∃ k, standing id strategy counts addressPath addressType o = some k

/-- Where the resource that stands best is the one by exact capacities, and no address panics, the
selection is exact. -/
lemma selectsExactly_of_standsBest
    (hcalm : ∀ o ∈ resources, extractAddress o addressPath addressType ≠ .error .panic)
    (h : ∀ o, StandsBest id strategy counts addressPath addressType resources o
      ↔ StandsBest wrapped strategy counts addressPath addressType resources o) :
    SelectsExactly strategy counts addressPath addressType resources := by
  have hselects : ∀ o, selectBackend strategy counts resources addressPath addressType = .ok o
      ↔ StandsBest id strategy counts addressPath addressType resources o :=
    fun o => selectBackend_eq_ok_iff.trans (h o).symm
  refine ⟨hselects, ?_, fun o ho => ?_⟩
  · rw [← not_standsBest_iff]
    cases hresult : selectBackend strategy counts resources addressPath addressType with
    | error fault =>
        have hnone : ¬∃ o, StandsBest id strategy counts addressPath addressType resources o := by
          rintro ⟨o, ho⟩
          rw [(hselects o).mpr ho] at hresult
          cases hresult
        cases fault with
        | error message => exact iff_of_true ⟨message, rfl⟩ hnone
        | panic =>
            obtain ⟨o, ho, hpanic⟩ := selectBackend_eq_panic_iff.mp hresult
            exact absurd hpanic (hcalm o ho)
    | ok o =>
        refine iff_of_false (by simp) ?_
        exact not_not.mpr ⟨o, (hselects o).mp hresult⟩
  · obtain ⟨pre, post, k, -, hk, -⟩ := (hselects o).mp ho
    exact ⟨k, hk⟩

/-- Where the extraction of an address panics, the selection neither succeeds nor fails. -/
lemma SelectsExactly.calm (h : SelectsExactly strategy counts addressPath addressType resources) :
    ∀ o ∈ resources, extractAddress o addressPath addressType ≠ .error .panic := by
  intro o ho hpanic
  have hselected : selectBackend strategy counts resources addressPath addressType
      = .error .panic := selectBackend_eq_panic_iff.mpr ⟨o, ho, hpanic⟩
  have hnone : ∀ o ∈ resources,
      standing id strategy counts addressPath addressType o = none := by
    intro o' _
    have haddress : addressOf addressPath addressType o' = none :=
      addressed_eq_error (addressed_eq_panic_iff.mpr ⟨o, ho, hpanic⟩) o'
    rw [standing, haddress]
    rfl
  obtain ⟨message, hmessage⟩ := h.fails.mpr hnone
  rw [hselected] at hmessage
  cases hmessage

/-! ### Turns of `i64` -/

variable (strategy counts addressPath addressType resources) in
/-- No turn of `i64` misleads the selection. -/
structure Unmisled : Prop where
  /-- No extraction of an address panics. -/
  calm : ∀ o ∈ resources, extractAddress o addressPath addressType ≠ .error .panic
  /-- No capacity is too large a number. -/
  upper : ∀ o ∈ resources, ∀ k ∈ capacity strategy counts addressPath addressType o, k.1 < 2 ^ 63
  /-- A backend whose capacity is too small a number stands behind one with room, even with the
  capacity that some turns raise it to. -/
  outdone : ∀ pre o post, resources = pre ++ o :: post →
    ∀ k ∈ capacity strategy counts addressPath addressType o, k.1 < -2 ^ 63 →
      ∀ turns : ℕ, 0 < k.1 + turns * 2 ^ 64 → k.1 + turns * 2 ^ 64 < 2 ^ 63 →
        List.Outdone Roomier (standing id strategy counts addressPath addressType) pre post
          (k.1 + turns * 2 ^ 64, k.2)

/-- A number of `i64` is not reduced. -/
lemma wrapped_of_fits {n : ℤ} (hlower : -2 ^ 63 ≤ n) (hupper : n < 2 ^ 63) : wrapped n = n :=
  Int.bmod_eq_of_le (by omega) (by omega)

/-- A number that some turns raise to one of `i64` is reduced to this one. -/
lemma wrapped_of_turns {n : ℤ} {turns : ℕ} (hlower : -2 ^ 63 ≤ n + turns * 2 ^ 64)
    (hupper : n + turns * 2 ^ 64 < 2 ^ 63) : wrapped n = n + turns * 2 ^ 64 := by
  have hturn : (n + turns * 2 ^ 64).bmod (2 ^ 64) = n.bmod (2 ^ 64) := by
    exact_mod_cast Int.add_mul_bmod_self_right n turns (2 ^ 64)
  rw [wrapped, ← hturn]
  exact Int.bmod_eq_of_le (by omega) (by omega)

/-- A number that is not too large is raised by some turns. -/
lemma exists_turns {n : ℤ} (h : n < 2 ^ 63) :
    ∃ turns : ℕ, wrapped n = n + turns * 2 ^ 64 ∧ wrapped n < 2 ^ 63 := by
  have hlower : -((2 ^ 64 : ℕ) / 2 : ℤ) ≤ wrapped n := Int.le_bmod (by decide)
  have hupper : wrapped n < ((2 ^ 64 : ℕ) + 1 : ℤ) / 2 := Int.bmod_lt (by decide)
  have hturns : wrapped n = n - 2 ^ 64 * n.bdiv (2 ^ 64) := Int.bmod_eq_self_sub_mul_bdiv n (2 ^ 64)
  refine ⟨(-n.bdiv (2 ^ 64)).toNat, ?_, ?_⟩ <;> omega

/-- A number that is too large by less than a turn is lowered by one. -/
lemma wrapped_of_le {n : ℤ} (hlower : 2 ^ 63 ≤ n) (hupper : n ≤ 2 ^ 64) :
    wrapped n = n - 2 ^ 64 := by
  have hturn : (n - 2 ^ 64).bmod (2 ^ 64) = n.bmod (2 ^ 64) := by
    exact_mod_cast Int.sub_bmod_right n (2 ^ 64)
  rw [wrapped, ← hturn]
  exact Int.bmod_eq_of_le (by omega) (by omega)

/-- A resource stands for selection under the second strategy where its capacity, reduced, leaves
room. -/
lemma standing_eq_capacity (reduce : ℤ → ℤ) (o : DynamicObject) :
    standing reduce (.labelArithmetic currentLabel maxLabel overlap) counts addressPath addressType
        o
      = (capacity (.labelArithmetic currentLabel maxLabel overlap) counts addressPath addressType
          o).bind fun k => if 0 < reduce k.1 then some (reduce k.1, k.2) else none := by
  rw [standing, capacity]
  cases addressOf addressPath addressType o with
  | none => rfl
  | some address =>
      cases hload : labelledLoad currentLabel maxLabel o with
      | none => simp only [Option.bind_eq_bind, Option.bind_some, hload, Option.bind_none]
      | some load =>
          simp only [Option.bind_eq_bind, Option.bind_some, hload, Option.pure_def]

lemma mem_standing_iff (reduce : ℤ → ℤ) {o : DynamicObject} {k : ℤ × ℤ} :
    k ∈ standing reduce (.labelArithmetic currentLabel maxLabel overlap) counts addressPath
        addressType o
      ↔ ∃ c ∈ capacity (.labelArithmetic currentLabel maxLabel overlap) counts addressPath
          addressType o, 0 < reduce c.1 ∧ (reduce c.1, c.2) = k := by
  simp only [standing_eq_capacity, Option.mem_def, Option.bind_eq_some_iff,
    Option.ite_none_right_eq_some, Option.some.injEq]

/-- Where no turn misleads it, the resource that stands best is the one by exact capacities. -/
lemma Unmisled.standsBest_iff (h : Unmisled strategy counts addressPath addressType resources)
    (o : DynamicObject) :
    StandsBest id strategy counts addressPath addressType resources o
      ↔ StandsBest wrapped strategy counts addressPath addressType resources o := by
  cases strategy with
  | leastSessions => exact Iff.rfl
  | labelArithmetic currentLabel maxLabel overlap =>
      refine List.firstLeast_iff_of_outdone (fun b hb k hk => ?_)
        fun pre b post hsplit hnone k hk => ?_
      · -- where there is room the capacity is a number of `i64`
        obtain ⟨c, hc, hroom, rfl⟩ := (mem_standing_iff id).mp hk
        have hupper := h.upper b hb c hc
        rw [id] at hroom
        have hfits : wrapped c.1 = c.1 := wrapped_of_fits (by omega) hupper
        exact (mem_standing_iff wrapped).mpr ⟨c, hc, by rwa [hfits], by rw [hfits, id]⟩
      · -- the reduced capacity of a backend without room comes from some turns
        obtain ⟨c, hc, hroom, rfl⟩ := (mem_standing_iff wrapped).mp hk
        have hupper := h.upper b (by rw [hsplit]; simp) c hc
        have hfull : ¬0 < c.1 := by
          intro hpos
          have hmem := (mem_standing_iff id).mpr ⟨c, hc, hpos, rfl⟩
          rw [hnone] at hmem
          cases hmem
        have hlow : c.1 < -2 ^ 63 := by
          by_contra hlower
          rw [wrapped_of_fits (not_lt.mp hlower) hupper] at hroom
          exact hfull hroom
        obtain ⟨turns, hturns, hlt⟩ := exists_turns hupper
        rw [hturns] at hroom hlt ⊢
        exact h.outdone pre b post hsplit c hc hlow turns hroom hlt

/-- Where the capacities are numbers of `i64`, no turn misleads the selection. -/
lemma unmisled_of_fits
    (hcalm : ∀ o ∈ resources, extractAddress o addressPath addressType ≠ .error .panic)
    (hfits : Fits strategy counts (resources.filterMap (withAddress addressPath addressType))) :
    Unmisled strategy counts addressPath addressType resources := by
  have hrange : ∀ o ∈ resources, ∀ k ∈ capacity strategy counts addressPath addressType o,
      -2 ^ 63 ≤ k.1 ∧ k.1 < 2 ^ 63 := by
    intro o ho k hk
    cases strategy with
    | leastSessions => cases hk
    | labelArithmetic currentLabel maxLabel overlap =>
        obtain ⟨address, haddress, hk⟩ := Option.bind_eq_some_iff.mp hk
        obtain ⟨load, hload, hk⟩ := Option.bind_eq_some_iff.mp hk
        obtain rfl := Option.some.inj hk
        exact hfits (o, address) (List.mem_keyed.mpr ⟨ho, haddress⟩) load hload
  refine ⟨hcalm, fun o ho k hk => (hrange o ho k hk).2, ?_⟩
  intro pre o post hsplit k hk hlow
  have hlower := (hrange o (by rw [hsplit]; simp) k hk).1
  omega

/-- Under an exact selection no capacity is too large, if none is more than one turn too large:
the backend of the largest capacity is lowered by a turn, and not selected. -/
lemma SelectsExactly.upper
    (hturn : ∀ o ∈ resources, ∀ k ∈ capacity (.labelArithmetic currentLabel maxLabel overlap) counts
      addressPath addressType o, k.1 ≤ 2 ^ 64)
    (h : SelectsExactly (.labelArithmetic currentLabel maxLabel overlap) counts addressPath
      addressType resources) :
    ∀ o ∈ resources, ∀ k ∈ capacity (.labelArithmetic currentLabel maxLabel overlap) counts
      addressPath addressType o, k.1 < 2 ^ 63 := by
  intro o ho k hk
  by_contra hlarge
  rw [not_lt] at hlarge
  have hstands := (mem_standing_iff id).mpr ⟨k, hk, by rw [id]; omega, rfl⟩
  obtain ⟨b, hb⟩ := List.exists_firstLeast (s := Roomier) ho hstands
  obtain ⟨_, _, _, -, hbest, -, -⟩ := selectBackend_eq_ok_iff.mp ((h.selects b).mpr hb)
  obtain ⟨pre, post, k', hsplit, hk', -, hleast⟩ := hb
  obtain ⟨c, hc, -, rfl⟩ := (mem_standing_iff id).mp hk'
  obtain ⟨c', hc', hroom, -⟩ := (mem_standing_iff wrapped).mp hbest
  obtain rfl := Option.mem_unique hc hc'
  have hle := hturn b (by rw [hsplit]; simp) c hc
  have hroomier := hleast o ho _ hstands
  simp only [Roomier, id] at hroomier
  rw [wrapped_of_le (by omega) hle] at hroom
  omega

/-- Under an exact selection a backend that some turns raise to room stands behind the selected
one, which has room without them. -/
lemma SelectsExactly.outdone
    (hupper : ∀ o ∈ resources, ∀ k ∈ capacity (.labelArithmetic currentLabel maxLabel overlap)
      counts addressPath addressType o, k.1 < 2 ^ 63)
    (h : SelectsExactly (.labelArithmetic currentLabel maxLabel overlap) counts addressPath
      addressType resources) {pre post : List DynamicObject} {o : DynamicObject}
    (hsplit : resources = pre ++ o :: post) {k : ℤ × ℤ}
    (hk : k ∈ capacity (.labelArithmetic currentLabel maxLabel overlap) counts addressPath
      addressType o) (hlow : k.1 < -2 ^ 63) {turns : ℕ} (hpos : 0 < k.1 + turns * 2 ^ 64)
    (hlt : k.1 + turns * 2 ^ 64 < 2 ^ 63) :
    List.Outdone Roomier (standing id (.labelArithmetic currentLabel maxLabel overlap) counts
      addressPath addressType) pre post (k.1 + turns * 2 ^ 64, k.2) := by
  have hmem : o ∈ resources := by rw [hsplit]; simp
  have hraised : wrapped k.1 = k.1 + turns * 2 ^ 64 := wrapped_of_turns (by omega) hlt
  have hstands := (mem_standing_iff wrapped).mpr ⟨k, hk, hraised.symm ▸ hpos, rfl⟩
  rw [hraised] at hstands
  -- something is selected, hence with room, and it is another backend
  obtain ⟨b, hb⟩ := List.exists_firstLeast (s := Roomier) hmem hstands
  obtain ⟨k', hk'⟩ := h.room b (selectBackend_eq_ok_iff.mpr hb)
  obtain ⟨c, hc, hroom, rfl⟩ := (mem_standing_iff id).mp hk'
  obtain ⟨before, after, -, hsplit', -⟩ := id hb
  rw [id] at hroom
  have hfits : wrapped c.1 = c.1 :=
    wrapped_of_fits (by omega) (hupper b (by rw [hsplit']; simp) c hc)
  have hk'' := (mem_standing_iff wrapped).mpr ⟨c, hc, by rwa [hfits], by rw [hfits]⟩
  refine hb.outdone ?_ hsplit hstands ?_
  · exact hk'.trans hk''.symm
  · rintro rfl
    obtain rfl := Option.mem_unique hc hk
    omega

/-- An exact selection is misled by no turn, if no capacity is more than one turn too large. -/
lemma SelectsExactly.unmisled
    (hturn : ∀ o ∈ resources, ∀ k ∈ capacity strategy counts addressPath addressType o,
      k.1 ≤ 2 ^ 64)
    (h : SelectsExactly strategy counts addressPath addressType resources) :
    Unmisled strategy counts addressPath addressType resources := by
  cases strategy with
  | leastSessions => refine ⟨h.calm, fun o _ k hk => ?_, fun pre o post _ k hk => ?_⟩ <;> cases hk
  | labelArithmetic currentLabel maxLabel overlap =>
      have hupper := h.upper hturn
      refine ⟨h.calm, hupper, fun pre o post hsplit k hk hlow turns hpos hlt => ?_⟩
      exact h.outdone hupper hsplit hk hlow hpos hlt

variable (strategy counts addressPath addressType resources) in
/-- **When the choice of a backend matches exact arithmetic**: it does where no turn of `i64`
misleads it, and nowhere else as long as no capacity is more than one turn too large. -/
theorem selects_exactly :
    (Unmisled strategy counts addressPath addressType resources →
        SelectsExactly strategy counts addressPath addressType resources)
      ∧ ((∀ o ∈ resources, ∀ k ∈ capacity strategy counts addressPath addressType o,
          k.1 ≤ 2 ^ 64) →
        SelectsExactly strategy counts addressPath addressType resources →
          Unmisled strategy counts addressPath addressType resources) :=
  ⟨fun h => selectsExactly_of_standsBest h.calm h.standsBest_iff, fun hturn h => h.unmisled hturn⟩

end

/-! ### A backend beyond its maximum -/

namespace Sample

/-- Twenty users where there is room for ten. -/
def overfullPod : DynamicObject where
  metadata :=
    { name := some "game-0"
      labels := some
        (((∅ : Table String String).insert "currentUsers" "20").insert "maxUsers" "10") }
  data := [("status", .object [("podIP", .string "10.0.0.1")])]

/-- A strategy with the largest overlap. -/
def largestOverlap : LoadBalancingStrategy :=
  .labelArithmetic "currentUsers" "maxUsers" 9223372036854775807

/-- Three users where there is room for ten. -/
def roomyPod : DynamicObject where
  metadata :=
    { name := some "game-1"
      labels := some
        (((∅ : Table String String).insert "currentUsers" "3").insert "maxUsers" "10") }
  data := [("status", .object [("podIP", .string "10.0.0.2")])]

/-- A strategy with room for one more. -/
def smallOverlap : LoadBalancingStrategy := .labelArithmetic "currentUsers" "maxUsers" 1

lemma addressed_pods : [overfullPod, roomyPod].filterMap (withAddress "status.podIP" none)
    = [(overfullPod, "10.0.0.1"), (roomyPod, "10.0.0.2")] := by rfl

lemma fits_pods :
    Fits smallOverlap ∅ ([overfullPod, roomyPod].filterMap (withAddress "status.podIP" none)) := by
  have hoverfull : labelledLoad "currentUsers" "maxUsers" overfullPod = some (20, 10) := by
    decide +kernel
  have hroomy : labelledLoad "currentUsers" "maxUsers" roomyPod = some (3, 10) := by decide +kernel
  intro b hb load hload
  rw [addressed_pods] at hb
  rcases List.mem_pair.mp hb with rfl | rfl
  · obtain rfl := Option.some.inj (hoverfull.symm.trans hload)
    decide
  · obtain rfl := Option.some.inj (hroomy.symm.trans hload)
    decide

lemma calm_pods : ∀ o ∈ [overfullPod, roomyPod],
    extractAddress o "status.podIP" none ≠ .error .panic := by
  decide +kernel

lemma standing_overfullPod :
    standing id largestOverlap ∅ "status.podIP" none overfullPod = none := by decide +kernel

lemma standing_roomyPod :
    standing id largestOverlap ∅ "status.podIP" none roomyPod = none := by decide +kernel

/-- What the largest overlap leaves on the Pod beyond its maximum. -/
def overfullCapacity : ℤ × ℤ := (10 - 20 - 9223372036854775807, 20)

lemma capacity_overfullPod :
    overfullCapacity ∈ capacity largestOverlap ∅ "status.podIP" none overfullPod := by
  decide +kernel

lemma capacities_pods : ∀ o ∈ [overfullPod, roomyPod],
    ∀ k ∈ capacity largestOverlap ∅ "status.podIP" none o, k.1 ≤ 2 ^ 64 := by
  decide +kernel

end Sample

/-- Of a backend beyond its maximum and one with room the latter is selected, with a small
overlap; with the largest one it is not, which makes the selection inexact. -/
theorem selects_exactly_sample :
    StandsBest id Sample.smallOverlap ∅ "status.podIP" none [Sample.overfullPod, Sample.roomyPod]
        Sample.roomyPod
      ∧ ¬SelectsExactly Sample.largestOverlap ∅ "status.podIP" none
          [Sample.overfullPod, Sample.roomyPod] := by
  refine ⟨?_, fun h => ?_⟩
  · have hexact := (selects_exactly Sample.smallOverlap ∅ "status.podIP" none
      [Sample.overfullPod, Sample.roomyPod]).1 (unmisled_of_fits Sample.calm_pods Sample.fits_pods)
    exact (hexact.selects _).mp (by rfl)
  · have hunmisled := (selects_exactly Sample.largestOverlap ∅ "status.podIP" none
      [Sample.overfullPod, Sample.roomyPod]).2 Sample.capacities_pods h
    have houtdone := hunmisled.outdone [] Sample.overfullPod [Sample.roomyPod] rfl
      Sample.overfullCapacity Sample.capacity_overfullPod (by decide) 1 (by decide) (by decide)
    rcases houtdone with ⟨b, hb, -⟩ | ⟨b, hb, k, hk, -⟩
    · cases hb
    · obtain rfl := List.mem_singleton.mp hb
      rw [Sample.standing_roomyPod] at hk
      cases hk

/-- **An overlap makes an over-full backend eligible**: the capacity left on it is
`10 - 20 - 9223372036854775807`, which wraps around to a positive number. -/
theorem overfull_selected :
    selectBackend Sample.largestOverlap ∅ [Sample.overfullPod] "status.podIP" none
        = .ok Sample.overfullPod
      ∧ ¬SelectsExactly Sample.largestOverlap ∅ "status.podIP" none [Sample.overfullPod] := by
  have hselected : selectBackend Sample.largestOverlap ∅ [Sample.overfullPod] "status.podIP" none
      = .ok Sample.overfullPod := by rfl
  refine ⟨hselected, fun h => ?_⟩
  obtain ⟨k, hk⟩ := h.room Sample.overfullPod hselected
  rw [Sample.standing_overfullPod] at hk
  cases hk

end UdpDirector
