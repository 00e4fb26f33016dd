import Mathlib.Data.List.GetD
import UdpDirector.Foundation.Fair
import UdpDirector.Proxy.Operations

/-!
No packet and no connection is left hanging.

* `Phase.prompt`: where a task waits for nobody but the API or the operating system,
  `Phase.rank` counting what is left of it;
* `Phase.reads`: where it holds the cached endpoint locked for reading; `unread`: not for ever;
* `eventually_handled`: under fair scheduling every packet is handled and every connection is
  refused or open, and one that closes is done, however many others there are.
-/

namespace UdpDirector

namespace Proxy

/-! ### Phases -/

namespace Phase

/-- The task is over. -/
def ended : Phase → Bool
  | .done _ | .panicked => true
  | _ => false

/-- The connection is open. -/
def isOpen : Phase → Bool
  | .copying _ => true
  | _ => false

/-- The task waits to write to the cache. -/
def stores : Phase → Bool
  | .storing _ => true
  | _ => false

/-- The task waits for nobody but the API or the operating system. -/
def prompt : Phase → Bool
  | .arrived | .storing _ | .copying _ | .done _ | .panicked => false
  | _ => true

/-- The task holds the cached endpoint locked for reading. -/
def reads : Phase → Bool
  | .clearing _ cached | .installing _ cached | .counting _ cached => cached
  | _ => false

/-- The steps left of a task. -/
def rank : Phase → ℕ
  | .arrived => 10
  | .reading => 9
  | .querying _ => 8
  | .storing _ => 7
  | .clearing _ _ => 6
  | .installing _ _ => 5
  | .counting _ _ => 4
  | .forwarding _ | .looking => 3
  | .sending _ _ _ | .connecting _ => 2
  | .touching => 1
  | .copying _ | .done _ | .panicked => 0

lemma prompt_of_reads {phase : Phase} (h : phase.reads = true) : phase.prompt = true := by
  cases phase <;> first | rfl | cases h

/-- A prompt task is not over, not open and does not wait for the cache. -/
lemma not_of_prompt {phase : Phase} (h : phase.prompt = true) :
    phase.ended = false ∧ phase.isOpen = false ∧ phase.stores = false := by
  cases phase <;> first | exact ⟨rfl, rfl, rfl⟩ | cases h

lemma rank_of_stores {phase : Phase} (h : phase.stores = true) : phase.rank = 7 := by
  cases phase <;> first | rfl | cases h

/-- A task that has begun is over, open, waits for the cache, or is prompt. -/
lemma cases_of_ne_arrived {phase : Phase} (h : phase ≠ .arrived) :
    phase.ended = true ∨ phase.isOpen = true ∨ phase.stores = true ∨ phase.prompt = true := by
  cases phase with
  | arrived => exact absurd rfl h
  | done | panicked => exact .inl rfl
  | copying => exact .inr (.inl rfl)
  | storing => exact .inr (.inr (.inl rfl))
  | _ => exact .inr (.inr (.inr rfl))

end Phase

/-! ### One step -/

section

variable {config : Config} {p q : Plane} {c : Connection} {i : ℕ} {old phase : Phase}
  {event : Event} {effect : Effect}

lemma rank_routed (c : Connection) (first : Bool) :
    (c.routed first).prompt = true ∧ (c.routed first).rank = 3 := by
  rcases c.routed_eq first with heq | heq <;> rw [heq] <;> exact ⟨rfl, rfl⟩

lemma rank_supported (c : Connection) (endpoint : Endpoint) :
    (c.supported endpoint).ended = true
      ∨ (c.supported endpoint).prompt = true ∧ (c.supported endpoint).rank = 6 := by
  rcases c.supported_eq endpoint with heq | ⟨error, heq⟩ <;> rw [heq]
  · exact .inr ⟨rfl, rfl⟩
  · exact .inl rfl

/-- A task whose connection is not open ends, opens it, or has less left. -/
lemma Moves.rank_lt (h : Moves config p c old event phase effect) (hold : old.isOpen = false) :
    phase.ended = true ∨ phase.isOpen = true
      ∨ (phase.stores = true ∨ phase.prompt = true) ∧ phase.rank < old.rank := by
  have hless : phase.prompt = true → phase.rank < old.rank →
      (phase.stores = true ∨ phase.prompt = true) ∧ phase.rank < old.rank :=
    fun hprompt hrank => ⟨.inr hprompt, hrank⟩
  cases h with
  | found | count =>
      obtain ⟨hprompt, hrank⟩ := rank_routed c _
      exact .inr (.inr (hless hprompt (by rw [hrank]; simp [Phase.rank])))
  | @query _ endpoint | @store endpoint =>
      rcases rank_supported c endpoint with hended | ⟨hprompt, hrank⟩
      · exact .inl hended
      · exact .inr (.inr (hless hprompt (by rw [hrank]; simp [Phase.rank])))
  | @fault _ _ fault => cases fault <;> exact .inl rfl
  | fetch => exact .inr (.inr ⟨.inl rfl, by simp [Phase.rank]⟩)
  | @sent first =>
      cases first with
      | true => exact .inl rfl
      | false => exact .inr (.inr (hless rfl (by simp [Phase.rank])))
  | connected => exact .inr (.inl rfl)
  | closed => cases hold
  | touch | unforwarded | unsent | lost | refused => exact .inl rfl
  | _ => exact .inr (.inr (hless rfl (by simp [Phase.rank])))

/-- **A prompt task can go on.** -/
lemma exists_step_of_prompt (h : (p.connections i).phase.prompt = true) :
    ∃ event q, step config p (.connection i event) = some q := by
  suffices ∃ event, (advance config p (p.connections i) event).isSome = true by
    obtain ⟨event, hsome⟩ := this
    obtain ⟨⟨phase, effect⟩, hadvance⟩ := Option.isSome_iff_exists.mp hsome
    exact ⟨event, _, by rw [step, hadvance]; rfl⟩
  cases hphase : (p.connections i).phase with
  | reading =>
      refine ⟨.read, ?_⟩
      simp only [advance, hphase]
      cases p.cache with
      | none => rfl
      | some endpoint =>
          dsimp only
          split <;> rfl
  | querying =>
      refine ⟨.list none, ?_⟩
      simp only [advance, hphase]
      split
      · rfl
      · split <;> rfl
  | clearing => exact ⟨.clear, by simp only [advance, hphase]; rfl⟩
  | installing => exact ⟨.install, by simp only [advance, hphase]; rfl⟩
  | counting => exact ⟨.count, by simp only [advance, hphase]; rfl⟩
  | forwarding =>
      refine ⟨.forward true, ?_⟩
      simp only [advance, hphase]
      split <;> rfl
  | sending => exact ⟨.sent false, by simp only [advance, hphase]; rfl⟩
  | looking =>
      refine ⟨.lookup, ?_⟩
      simp only [advance, hphase]
      split
      · rfl
      · split <;> rfl
  | connecting => exact ⟨.connected false, by simp only [advance, hphase]; rfl⟩
  | touching => exact ⟨.touch, by simp only [advance, hphase]; rfl⟩
  | _ =>
      rw [hphase] at h
      cases h

end

/-! ### Fair runs -/

/-- Fair scheduling, as far as a task depends on it. -/
structure FairTo {config : Config} (ρ : Run.Forever (step config)) (i : ℕ) : Prop where
  /-- A task that waits for nobody but the API or the operating system goes on. -/
  prompt : ∀ j, ρ.WeakFair (fun a => ∃ event, a = .connection j event) fun p =>
    (p.connections j).phase.prompt = true ∧ ∃ event q, step config p (.connection j event) = some q
  /-- A task that waits to write to the cache does so, where none of the tasks that read it
  keeps it: the lock lets later readers wait behind it. -/
  lock : (∀ j, ρ.LeadsTo (fun p => (p.connections j).phase.reads = true)
      fun p => (p.connections j).phase.reads = false) →
    ∀ n, (∀ m, n ≤ m → ((ρ.state m).connections i).phase.stores = true) →
      ∃ m, n ≤ m ∧ ρ.label m = .connection i .store

section

variable {config : Config} {ρ : Run.Forever (step config)} {i : ℕ}

/-- A step of a task, at a place of a run. -/
lemma moves_of_label {n : ℕ} {event : Event} (hlabel : ρ.label n = .connection i event) :
    ∃ phase effect, Moves config (ρ.state n) ((ρ.state n).connections i)
        ((ρ.state n).connections i).phase event phase effect
      ∧ ((ρ.state (n + 1)).connections i).phase = phase := by
  have hstep := ρ.next n
  rw [hlabel] at hstep
  obtain ⟨phase, effect, hmoves, heq⟩ := exists_moves_of_step hstep
  refine ⟨phase, effect, hmoves, ?_⟩
  rw [heq, connections_move, Function.update_self]

/-- Another step leaves the task. -/
lemma same_of_label {n : ℕ} (hlabel : ¬∃ event, ρ.label n = .connection i event) :
    (ρ.state (n + 1)).connections i = (ρ.state n).connections i :=
  connections_of_step (ρ.next n) i fun event heq => hlabel ⟨event, heq⟩

/-- **A task that reads the cache does not keep it.** -/
lemma unread (hfair : FairTo ρ i) (j : ℕ) :
    ρ.LeadsTo (fun p => (p.connections j).phase.reads = true)
      fun p => (p.connections j).phase.reads = false := by
  refine Run.Forever.leadsTo_of_rank (fun p => (p.connections j).phase.rank) (hfair.prompt j)
    ?_ ?_ ?_
  · intro n hreads _
    have hprompt := Phase.prompt_of_reads hreads
    exact ⟨hprompt, exists_step_of_prompt hprompt⟩
  · rintro n hreads ⟨event, hlabel⟩
    obtain ⟨phase, effect, hmoves, heq⟩ := moves_of_label hlabel
    rw [heq]
    cases hreads' : phase.reads with
    | false => exact .inl rfl
    | true =>
        obtain ⟨hnot, hclosed, -⟩ := Phase.not_of_prompt (Phase.prompt_of_reads hreads')
        obtain hended | hopen | ⟨-, hrank⟩ :=
          hmoves.rank_lt (Phase.not_of_prompt (Phase.prompt_of_reads hreads)).2.1
        · exact absurd hended (by simp [hnot])
        · exact absurd hopen (by simp [hclosed])
        · exact .inr ⟨rfl, hrank⟩
  · intro n hreads hlabel
    rw [same_of_label hlabel]
    exact .inr ⟨hreads, le_rfl⟩

/-- A prompt task ends, opens its connection, or comes to wait for the cache. -/
lemma prompt_leadsTo (hfair : FairTo ρ i) :
    ρ.LeadsTo (fun p => (p.connections i).phase.prompt = true) fun p =>
      (p.connections i).phase.ended = true ∨ (p.connections i).phase.isOpen = true
        ∨ (p.connections i).phase.stores = true := by
  refine Run.Forever.leadsTo_of_rank (fun p => (p.connections i).phase.rank) (hfair.prompt i)
    ?_ ?_ ?_
  · exact fun n hprompt _ => ⟨hprompt, exists_step_of_prompt hprompt⟩
  · rintro n hprompt ⟨event, hlabel⟩
    obtain ⟨phase, effect, hmoves, heq⟩ := moves_of_label hlabel
    rw [heq]
    obtain hended | hopen | ⟨hstores | hprompt', hrank⟩ :=
      hmoves.rank_lt (Phase.not_of_prompt hprompt).2.1
    · exact .inl (.inl hended)
    · exact .inl (.inr (.inl hopen))
    · exact .inl (.inr (.inr hstores))
    · exact .inr ⟨hprompt', hrank⟩
  · intro n hprompt hlabel
    rw [same_of_label hlabel]
    exact .inr ⟨hprompt, le_rfl⟩

/-- The waiting for the cache is behind the task. -/
def Phase.settled (phase : Phase) : Prop := phase.prompt = true ∧ phase.rank ≤ 6

/-- Past the cache, a task ends or opens its connection. -/
lemma settled_leadsTo (hfair : FairTo ρ i) :
    ρ.LeadsTo (fun p => (p.connections i).phase.settled) fun p =>
      (p.connections i).phase.ended = true ∨ (p.connections i).phase.isOpen = true := by
  refine Run.Forever.leadsTo_of_rank (fun p => (p.connections i).phase.rank) (hfair.prompt i)
    ?_ ?_ ?_
  · exact fun n hsettled _ => ⟨hsettled.1, exists_step_of_prompt hsettled.1⟩
  · rintro n hsettled ⟨event, hlabel⟩
    obtain ⟨phase, effect, hmoves, heq⟩ := moves_of_label hlabel
    rw [heq]
    obtain hended | hopen | ⟨hstores | hprompt, hrank⟩ :=
      hmoves.rank_lt (Phase.not_of_prompt hsettled.1).2.1
    · exact .inl (.inl hended)
    · exact .inl (.inr hopen)
    · -- only a query for the endpoint is followed by a store
      have hlow := hrank.trans_le hsettled.2
      rw [Phase.rank_of_stores hstores] at hlow
      omega
    · exact .inr ⟨⟨hprompt, hrank.le.trans hsettled.2⟩, hrank⟩
  · intro n hsettled hlabel
    rw [same_of_label hlabel]
    exact .inr ⟨hsettled, le_rfl⟩

/-- A task that waits for the cache gets it. -/
lemma stores_leadsTo (hfair : FairTo ρ i) :
    ρ.LeadsTo (fun p => (p.connections i).phase.stores = true) fun p =>
      (p.connections i).phase.ended = true ∨ (p.connections i).phase.settled := by
  have hleaves : ∀ n event, ((ρ.state n).connections i).phase.stores = true →
      ρ.label n = .connection i event → ((ρ.state (n + 1)).connections i).phase.ended = true
        ∨ ((ρ.state (n + 1)).connections i).phase.settled := by
    intro n event hstores hlabel
    obtain ⟨phase, effect, hmoves, heq⟩ := moves_of_label hlabel
    rw [heq]
    generalize ((ρ.state n).connections i).phase = old at hmoves hstores
    cases hmoves with
    | @store endpoint =>
        rcases rank_supported ((ρ.state n).connections i) endpoint with hended | ⟨hprompt, hrank⟩
        · exact .inl hended
        · exact .inr ⟨hprompt, hrank.le⟩
    | _ => cases hstores
  refine Run.Forever.leadsTo_of_step (fun a => a = .connection i .store)
    (hfair.lock (unread hfair)) ?_ ?_
  · exact fun n hstores hlabel => hleaves n _ hstores hlabel
  · intro n hstores hlabel
    by_cases hown : ∃ event, ρ.label n = .connection i event
    · obtain ⟨event, hown⟩ := hown
      exact .inl (hleaves n event hstores hown)
    · rw [same_of_label hown]
      exact .inr hstores

/-- The touch of the session is the end of a task. -/
lemma touching_leadsTo (hfair : FairTo ρ i) :
    ρ.LeadsTo (fun p => (p.connections i).phase = .touching) fun p =>
      (p.connections i).phase.ended = true := by
  refine Run.Forever.leadsTo_of_step (fun a => ∃ event, a = .connection i event) ?_ ?_ ?_
  · intro n htouching
    refine hfair.prompt i n fun m hm => ?_
    have hprompt : ((ρ.state m).connections i).phase.prompt = true := by rw [htouching m hm]; rfl
    exact ⟨hprompt, exists_step_of_prompt hprompt⟩
  · rintro n htouching ⟨event, hlabel⟩
    obtain ⟨phase, effect, hmoves, heq⟩ := moves_of_label hlabel
    rw [heq]
    rw [htouching] at hmoves
    cases hmoves
    rfl
  · intro n htouching hlabel
    rw [same_of_label hlabel]
    exact .inr htouching

/-- **Every packet is handled, and every connection refused or opened.** In every infinite run
in which the tasks that wait for nobody but the API or the operating system go on, and a task
that waits to write to the cache does so where no reader keeps it, a packet or a connection
that has begun is over in the end, or the connection is open; and one that is closed is over
in the end. No reader of the cached endpoint keeps it, however many others there are. -/
theorem eventually_handled (hfair : FairTo ρ i) {n : ℕ} :
    (((ρ.state n).connections i).phase ≠ .arrived →
        ∃ m, n ≤ m ∧ (((ρ.state m).connections i).phase.ended = true
          ∨ ((ρ.state m).connections i).phase.isOpen = true))
      ∧ (ρ.label n = .connection i .closed →
        ∃ m, n ≤ m ∧ ((ρ.state m).connections i).phase.ended = true) := by
  have hstored : ρ.LeadsTo (fun p => (p.connections i).phase.stores = true) fun p =>
      (p.connections i).phase.ended = true ∨ (p.connections i).phase.isOpen = true := by
    intro k hstores
    obtain ⟨m, hm, hended | hsettled⟩ := stores_leadsTo hfair k hstores
    · exact ⟨m, hm, .inl hended⟩
    · obtain ⟨m', hm', hdone⟩ := settled_leadsTo hfair m hsettled
      exact ⟨m', hm.trans hm', hdone⟩
  constructor
  · intro hbegun
    obtain hended | hopen | hstores | hprompt := Phase.cases_of_ne_arrived hbegun
    · exact ⟨n, le_rfl, .inl hended⟩
    · exact ⟨n, le_rfl, .inr hopen⟩
    · exact hstored n hstores
    · obtain ⟨m, hm, hended | hopen | hstores⟩ := prompt_leadsTo hfair n hprompt
      · exact ⟨m, hm, .inl hended⟩
      · exact ⟨m, hm, .inr hopen⟩
      · obtain ⟨m', hm', hdone⟩ := hstored m hstores
        exact ⟨m', hm.trans hm', hdone⟩
  · intro hlabel
    obtain ⟨phase, effect, hmoves, heq⟩ := moves_of_label hlabel
    obtain rfl : phase = .touching := by
      generalize ((ρ.state n).connections i).phase = old at hmoves
      cases hmoves
      rfl
    obtain ⟨m, hm, hended⟩ := touching_leadsTo hfair (n + 1) heq
    exact ⟨m, by omega, hended⟩

end

/-! ### Packets that are handled while the clock goes on -/

namespace Sample

/-- Packets of three clients. -/
def threeClients : Plane where
  connections := fun i =>
    { client := { client with ip := .v4 203 0 113 (UInt8.ofNat (7 + i)) }, proxyPort := 7777,
      protocol := .udp }

/-- A list of the one Pod. -/
def onePod : Event := .list (some [UdpDirector.Sample.pod "game-0" "uid-0" "10.0.0.1"])

/-- The first two packets find no endpoint cached. The first one stores it, and the third one reads
it before the second one has stored its own, which waits until the reader is done. -/
def contention : List Action :=
  [.arrive, .read].map (.connection 0) ++ [.arrive, .read].map (.connection 1)
    ++ [onePod, .store].map (.connection 0) ++ [.arrive, .read].map (.connection 2)
    ++ [.connection 1 onePod] ++ [.clear, .install, .count].map (.connection 2)
    ++ [.store, .clear, .install, .count, .forward true, .sent true].map (.connection 1)
    ++ [.clear, .install, .count, .forward true, .sent true].map (.connection 0)
    ++ [.forward true, .sent true].map (.connection 2)

/-- The steps of the packets, then the clock. -/
def label (n : ℕ) : Action := contention.getD n (.tick 1)

lemma label_of_le {n : ℕ} (h : 25 ≤ n) : label n = .tick 1 := by
  have hlength : contention.length ≤ n := h
  exact List.getD_eq_default _ _ hlength

/-- There are no more packets than these. -/
lemma le_two_of_label {n j : ℕ} {event : Event} (h : label n = .connection j event) : j ≤ 2 := by
  have hmem : ∀ action ∈ contention, ∀ j event, action = .connection j event → j ≤ 2 := by
    simp +contextual [contention]
  rcases lt_or_ge n 25 with hn | hn
  · have hlength : n < contention.length := hn
    rw [label, List.getD_eq_getElem _ _ hlength] at h
    exact hmem _ (List.getElem_mem _) j event h
  · rw [label_of_le hn] at h
    cases h

lemma isSome_step_label (n : ℕ) :
    (step settings (Run.Forever.follow (step settings) threeClients label n) (label n)).isSome
      = true := by
  rcases lt_or_ge n 25 with h | h
  · revert n
    decide +kernel
  · rw [label_of_le h]
    rfl

/-- The run of packets that are handled while the clock goes on. -/
def handling : Run.Forever (step settings) := .ofLabels threeClients label isSome_step_label

/-- Once handled, they are over. -/
lemma ended_handling {j : ℕ} (hj : j ≤ 2) {n : ℕ} (h : 25 ≤ n) :
    ((handling.state n).connections j).phase.ended = true := by
  induction n, h using Nat.le_induction with
  | base =>
      revert j
      decide +kernel
  | succ n hn ih =>
      rw [connections_of_step (handling.next n) j fun event heq => ?_]
      · exact ih
      · rw [show handling.label n = label n from rfl, label_of_le hn] at heq
        cases heq

/-- No other packet arrives. -/
lemma arrived_handling {j : ℕ} (hj : 2 < j) (n : ℕ) :
    ((handling.state n).connections j).phase = .arrived := by
  induction n with
  | zero => rfl
  | succ n ih =>
      rw [connections_of_step (handling.next n) j fun event heq => ?_]
      · exact ih
      · exact absurd (le_two_of_label heq) (not_le.mpr hj)

lemma fairTo_handling {i : ℕ} (hi : i ≤ 2) : FairTo handling i where
  prompt j n hready := by
    exfalso
    obtain ⟨hprompt, -⟩ := hready (n + 25) (by omega)
    rcases le_or_gt j 2 with hj | hj
    · have hended := ended_handling hj (n := n + 25) (by omega)
      rw [(Phase.not_of_prompt hprompt).1] at hended
      cases hended
    · rw [arrived_handling hj] at hprompt
      cases hprompt
  lock _ n hstores := by
    exfalso
    have hended := ended_handling hi (n := n + 25) (by omega)
    have hstores' := hstores (n + 25) (by omega)
    generalize ((handling.state (n + 25)).connections i).phase = phase at hended hstores'
    cases phase <;> first
      | exact absurd hended Bool.false_ne_true
      | exact absurd hstores' Bool.false_ne_true

/-- The second packet waits to store its endpoint. -/
lemma stores_handling : ((handling.state 9).connections 1).phase.stores = true := by decide +kernel

lemma begun_handling : ((handling.state 9).connections 1).phase ≠ .arrived := by
  intro harrived
  have hstores := stores_handling
  rw [harrived] at hstores
  cases hstores

end Sample

/-- A packet that waits for a reader of the cached endpoint to store its own is handled in the
end. -/
theorem eventually_handled_sample :
    (Sample.handling.state 9).readers = 1
      ∧ ((Sample.handling.state 9).connections 1).phase.stores = true
      ∧ ∃ m, 9 ≤ m ∧ (((Sample.handling.state m).connections 1).phase.ended = true
        ∨ ((Sample.handling.state m).connections 1).phase.isOpen = true) :=
  ⟨by decide +kernel, Sample.stores_handling,
    (eventually_handled (Sample.fairTo_handling (by decide))).1 Sample.begun_handling⟩

end Proxy

end UdpDirector
