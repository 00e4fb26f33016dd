import UdpDirector.Access.Request
import UdpDirector.Characters.Shown
import Mathlib.Data.Prod.Lex
import Mathlib.Order.WithBot

/-!
One decision of `process_access` on a snapshot: the reply to a lookup, the Pod a
character is assigned to, or a cold wait.

* `Candidate`: a listed resource together with the facts the loop over the
  snapshot established, that it is a ready Pod and which characters it shows, so
  that a candidate without them cannot be built;
* `Choice`: the selected candidate, which hosts the character or has room for it
  and does not drain;
* `rank`: the sort key; the first Pod in its order is selected;
* `decision_eq_assign`, `decision_eq_cold`: a choice comes from the snapshot, and
  hosts the character if any eligible Pod of the snapshot does; a cold wait means
  that none does.
-/

namespace UdpDirector

variable (ext : Externals) (config : Config)

/-! ### Candidates -/

/-- A ready Pod of a snapshot with the characters it shows at a time. -/
structure Candidate (now : OffsetDateTime) where
  object : DynamicObject
  pod : Pod
  characters : List Character
  decoded : ext.podOf object = some pod
  ready : podReady pod = true
  shown : charactersOnPod ext pod config [] now = .ok characters

/-- The candidate a resource is at a time, none if it is not ready. -/
def candidate (now : OffsetDateTime) (o : DynamicObject) :
    Except Fault (Option (Candidate ext config now)) :=
  match decoded : ext.podOf o with
  | none => .error (.error "Invalid Pod")
  | some pod =>
      if ready : podReady pod = true then
        match shown : charactersOnPod ext pod config [] now with
        | .error fault => .error fault
        | .ok characters => .ok (some { object := o, pod, characters, decoded, ready, shown })
      else
        .ok none

/-- The candidates of a snapshot, in its order. -/
def candidates (now : OffsetDateTime) :
    List DynamicObject → Except Fault (List (Candidate ext config now))
  | [] => .ok []
  | o :: os => do
      let k ← candidate ext config now o
      let rest ← candidates now os
      return k.toList ++ rest

variable {ext config}

lemma object_of_candidate {now : OffsetDateTime} {o : DynamicObject}
    {k : Candidate ext config now} (h : candidate ext config now o = .ok (some k)) :
    k.object = o := by
  rw [candidate] at h
  split at h
  · simp at h
  · split at h
    · split at h
      · simp at h
      · obtain rfl := Option.some.inj (Except.ok.inj h)
        rfl
    · simp at h

/-- A ready Pod is a candidate whenever the loop gets past it. -/
lemma candidate_of_ready {now : OffsetDateTime} {o : DynamicObject} {pod : Pod}
    {r : Option (Candidate ext config now)} (h : candidate ext config now o = .ok r)
    (hpod : ext.podOf o = some pod) (hready : podReady pod = true) : ∃ k, r = some k := by
  rw [candidate] at h
  split at h
  · simp at h
  · rename_i pod' hpod'
    obtain rfl : pod = pod' := Option.some.inj (hpod.symm.trans hpod')
    rw [dif_pos hready] at h
    split at h
    · simp at h
    · exact ⟨_, (Except.ok.inj h).symm⟩

/-- Every candidate is listed. -/
lemma object_mem_of_mem_candidates {now : OffsetDateTime} :
    ∀ {os : List DynamicObject} {ks : List (Candidate ext config now)},
      candidates ext config now os = .ok ks → ∀ k ∈ ks, k.object ∈ os
  | [], ks, h, k, hk => by
      obtain rfl : [] = ks := Except.ok.inj h
      simp at hk
  | o :: os, ks, h, k, hk => by
      obtain ⟨r, hr, h⟩ := Except.exists_of_bind_eq_ok h
      obtain ⟨rest, hrest, h⟩ := Except.exists_of_bind_eq_ok h
      obtain rfl := Except.ok.inj h
      rcases List.mem_append.mp hk with hk | hk
      · obtain rfl := Option.mem_toList.mp hk
        rw [object_of_candidate hr]
        exact List.mem_cons_self
      · exact List.mem_cons_of_mem o (object_mem_of_mem_candidates hrest k hk)

/-- Every ready Pod of the snapshot is a candidate. -/
lemma exists_candidate_of_ready {now : OffsetDateTime} {o : DynamicObject} {pod : Pod}
    (hpod : ext.podOf o = some pod) (hready : podReady pod = true) :
    ∀ {os : List DynamicObject} {ks : List (Candidate ext config now)},
      candidates ext config now os = .ok ks → o ∈ os → ∃ k ∈ ks, k.object = o
  | [], _, _, ho => by simp at ho
  | o' :: os, ks, h, ho => by
      obtain ⟨r, hr, h⟩ := Except.exists_of_bind_eq_ok h
      obtain ⟨rest, hrest, h⟩ := Except.exists_of_bind_eq_ok h
      obtain rfl := Except.ok.inj h
      rcases List.mem_cons.mp ho with rfl | ho
      · obtain ⟨k, rfl⟩ := candidate_of_ready hr hpod hready
        exact ⟨k, by simp, object_of_candidate hr⟩
      · obtain ⟨k, hk, hobject⟩ := exists_candidate_of_ready hpod hready hrest ho
        exact ⟨k, List.mem_append_right _ hk, hobject⟩

/-! ### The reply to a lookup -/

/-- The entry of a candidate in a lookup, none if it shows no character asked
for. -/
def listServer (ids : List String) {now : OffsetDateTime} (k : Candidate ext config now) :
    Except Fault (Option CharacterServer) :=
  let characters := k.characters.filter fun c => ids.isEmpty || ids.contains c.characterId
  if characters.isEmpty then
    .ok none
  else
    match k.pod.metadata.uid with
    | some server => .ok (some { server, characters })
    | none => .error (.error "Missing server identity")

/-- The entries of all candidates, in the order of the snapshot. -/
def collectServers (ids : List String) {now : OffsetDateTime} :
    List (Candidate ext config now) → Except Fault (List CharacterServer)
  | [] => .ok []
  | k :: ks => do
      let server ← listServer ids k
      let rest ← collectServers ids ks
      return server.toList ++ rest

/-- The reply to a lookup. -/
def listServers (ids : List String) {now : OffsetDateTime} (ks : List (Candidate ext config now)) :
    Except Fault QueryResponse :=
  (collectServers ids ks).map fun servers =>
    .characterList (servers.insertionSort fun a b => a.server ≤ b.server)

/-! ### Selection -/

/-- The sort key: hosting the character first, then the most friends, then the
fewest characters, then the smallest uid, a missing one before any other. -/
abbrev Rank := Boolᵒᵈ ×ₗ ℕᵒᵈ ×ₗ ℕ ×ₗ WithBot String

/-- The rank of a candidate for a character and its friends. -/
def rank (character : String) (ids : List String) {now : OffsetDateTime}
    (k : Candidate ext config now) : Rank :=
  toLex
    (OrderDual.toDual (visible k.characters character),
      toLex
        (OrderDual.toDual (k.characters.countP fun c => ids.contains c.characterId),
          toLex (k.characters.length, (k.pod.metadata.uid : WithBot String))))

/-- The candidate hosts the character, or has room for it. -/
def admits (character : String) {now : OffsetDateTime} (k : Candidate ext config now) : Bool :=
  visible k.characters character || k.characters.length < config.maxCharactersPerServer

/-- The candidates left after both filters, in the order of their ranks. -/
def ranked (character : String) (ids : List String) {now : OffsetDateTime}
    (ks : List (Candidate ext config now)) : List (Candidate ext config now) :=
  ((ks.filter (admits character)).filter fun k => !podDraining k.pod).insertionSort
    fun k k' => rank character ids k ≤ rank character ids k'

variable (ext config) in
/-- The selected Pod, with the time of the selection. -/
structure Choice where
  character : String
  now : OffsetDateTime
  candidate : Candidate ext config now
  valid : validCharacterId character = true
  seated : visible candidate.characters character = true
    ∨ candidate.characters.length < config.maxCharactersPerServer
  undrained : podDraining candidate.pod = false

section

variable {character : String} {ids : List String} {now : OffsetDateTime}
  {ks : List (Candidate ext config now)} {k : Candidate ext config now}

instance : Std.Total fun k k' : Candidate ext config now =>
    rank character ids k ≤ rank character ids k' :=
  ⟨fun k k' => le_total (rank character ids k) (rank character ids k')⟩

instance : IsTrans (Candidate ext config now) fun k k' =>
    rank character ids k ≤ rank character ids k' :=
  ⟨fun _ _ _ h h' => h.trans h'⟩

lemma mem_ranked :
    k ∈ ranked character ids ks ↔ k ∈ ks ∧ admits character k = true
      ∧ podDraining k.pod = false := by
  simp only [ranked, List.mem_insertionSort, List.mem_filter, Bool.not_eq_true', and_assoc]

lemma admits_iff :
    admits character k = true ↔ visible k.characters character = true
      ∨ k.characters.length < config.maxCharactersPerServer := by
  rw [admits, Bool.or_eq_true, decide_eq_true_iff]

/-- The first of the ranked candidates has the least rank. -/
lemma rank_le_of_ranked {best : Candidate ext config now} {rest : List (Candidate ext config now)}
    (h : ranked character ids ks = best :: rest) (hk : k ∈ ranked character ids ks) :
    rank character ids best ≤ rank character ids k :=
  List.le_of_insertionSort_eq_cons (r := fun k k' => rank character ids k ≤ rank character ids k') h
    ((List.mem_insertionSort _).mp hk)

/-- A Pod of lower rank hosts the character if the other one does. -/
lemma visible_of_rank_le {k' : Candidate ext config now}
    (h : rank character ids k ≤ rank character ids k')
    (hk' : visible k'.characters character = true) : visible k.characters character = true := by
  rw [rank, rank, Prod.Lex.toLex_le_toLex] at h
  rcases h with hlt | ⟨heq, -⟩
  · rw [OrderDual.toDual_lt_toDual, hk'] at hlt
    exact absurd hlt (by simp)
  · rw [← OrderDual.toDual_inj.mp heq] at hk'
    exact hk'

end

/-- The first of the ranked candidates, as a choice. -/
def choose (character : String) (valid : validCharacterId character = true) (ids : List String)
    {now : OffsetDateTime} (ks : List (Candidate ext config now)) : Option (Choice ext config) :=
  match h : ranked character ids ks with
  | [] => none
  | best :: _ =>
      have hbest := mem_ranked.mp (h ▸ List.mem_cons_self : best ∈ ranked character ids ks)
      some
        { character, now, candidate := best, valid
          seated := admits_iff.mp hbest.2.1
          undrained := hbest.2.2 }

variable (ext config) in
/-- The outcome of one decision. -/
inductive Decision where
  | reply (response : QueryResponse)
  | assign (choice : Choice ext config)
  | cold

variable (ext config) in
/-- One round of the loop of `process_access` on a snapshot. -/
def decision (a : Access) (resources : List DynamicObject) (now : OffsetDateTime) :
    Except Fault (Decision ext config) := do
  let ks ← candidates ext config now resources
  match hc : a.character with
  | none => return .reply (← listServers a.ids ks)
  | some character =>
      match choose character (a.valid character hc) a.ids ks with
      | some choice => return .assign choice
      | none => return .cold

section

variable {a : Access} {resources : List DynamicObject} {now : OffsetDateTime}

/-- A chosen candidate heads the ranking. -/
lemma choose_eq_some {character : String} {valid : validCharacterId character = true}
    {ids : List String} {ks : List (Candidate ext config now)} {choice : Choice ext config}
    (h : choose character valid ids ks = some choice) :
    choice.character = character ∧ ∃ best rest, ranked character ids ks = best :: rest
      ∧ choice.candidate.object = best.object ∧ choice.now = now
      ∧ choice.candidate.characters = best.characters := by
  rw [choose] at h
  split at h
  · simp at h
  · rename_i best rest hranked
    obtain rfl := Option.some.inj h
    exact ⟨rfl, best, rest, hranked, rfl, rfl, rfl⟩

/-- **A choice comes from its snapshot**: the decision was made for a joining
character, at the given time, on a listed Pod, and on one that hosts the
character if some ready, undrained Pod of the snapshot does. -/
theorem decision_eq_assign {choice : Choice ext config}
    (h : decision ext config a resources now = .ok (.assign choice)) :
    a.character = some choice.character ∧ choice.now = now
      ∧ choice.candidate.object ∈ resources
      ∧ ∀ o ∈ resources, ∀ pod cs, ext.podOf o = some pod → podReady pod = true →
          podDraining pod = false → charactersOnPod ext pod config [] now = .ok cs →
          visible cs choice.character = true →
          visible choice.candidate.characters choice.character = true := by
  obtain ⟨ks, hks, h⟩ := Except.exists_of_bind_eq_ok h
  split at h
  · obtain ⟨_, -, h⟩ := Except.exists_of_bind_eq_ok h
    cases h
  · rename_i character hc
    split at h
    · rename_i choice' hchoose
      obtain rfl : choice' = choice := by simpa using Except.ok.inj h
      obtain ⟨rfl, best, rest, hranked, hobject, hnow, hchars⟩ := choose_eq_some hchoose
      have hbest := mem_ranked.mp (hranked ▸ List.mem_cons_self)
      refine ⟨hc, hnow, hobject ▸ object_mem_of_mem_candidates hks best hbest.1, ?_⟩
      intro o ho pod cs hpod hready hdrain hcs hvis
      obtain ⟨k, hk, rfl⟩ := exists_candidate_of_ready hpod hready hks ho
      obtain rfl : k.pod = pod := Option.some.inj (k.decoded.symm.trans hpod)
      obtain rfl : k.characters = cs := Except.ok.inj (k.shown.symm.trans hcs)
      have hmem : k ∈ ranked choice'.character a.ids ks :=
        mem_ranked.mpr ⟨hk, admits_iff.mpr (.inl hvis), hdrain⟩
      rw [hchars]
      exact visible_of_rank_le (rank_le_of_ranked hranked hmem) hvis
    · cases h

/-- A reply is given to lookups only. -/
lemma decision_eq_reply {response : QueryResponse}
    (h : decision ext config a resources now = .ok (.reply response)) :
    a.character = none ∧ ∃ servers, response = .characterList servers := by
  obtain ⟨ks, hks, h⟩ := Except.exists_of_bind_eq_ok h
  split at h
  · rename_i hc
    obtain ⟨r, hr, h⟩ := Except.exists_of_bind_eq_ok h
    obtain rfl : r = response := by simpa using Except.ok.inj h
    obtain ⟨servers, -, rfl⟩ := Except.exists_of_map_eq_ok hr
    exact ⟨hc, _, rfl⟩
  · split at h <;> cases h

/-- Nothing is chosen only where no candidate is left. -/
lemma choose_eq_none {character : String} {valid : validCharacterId character = true}
    {ids : List String} {ks : List (Candidate ext config now)}
    (h : choose character valid ids ks = none) : ranked character ids ks = [] := by
  rw [choose] at h
  split at h
  · assumption
  · simp at h

/-- **A cold wait**: only a joining character waits for capacity, and only where
no ready, undrained Pod of the snapshot hosts it. -/
theorem decision_eq_cold (h : decision ext config a resources now = .ok .cold) :
    ∃ character, a.character = some character
      ∧ ∀ o ∈ resources, ∀ pod cs, ext.podOf o = some pod → podReady pod = true →
          podDraining pod = false → charactersOnPod ext pod config [] now = .ok cs →
          visible cs character = false := by
  obtain ⟨ks, hks, h⟩ := Except.exists_of_bind_eq_ok h
  split at h
  · obtain ⟨_, -, h⟩ := Except.exists_of_bind_eq_ok h
    cases h
  · rename_i character hc
    refine ⟨character, hc, ?_⟩
    split at h
    · cases h
    · rename_i hchoose
      intro o ho pod cs hpod hready hdrain hcs
      rw [Bool.eq_false_iff]
      intro hvis
      obtain ⟨k, hk, rfl⟩ := exists_candidate_of_ready hpod hready hks ho
      obtain rfl : k.pod = pod := Option.some.inj (k.decoded.symm.trans hpod)
      obtain rfl : k.characters = cs := Except.ok.inj (k.shown.symm.trans hcs)
      have hmem : k ∈ ranked character a.ids ks :=
        mem_ranked.mpr ⟨hk, admits_iff.mpr (.inl hvis), hdrain⟩
      simp [choose_eq_none hchoose] at hmem

end

end UdpDirector
