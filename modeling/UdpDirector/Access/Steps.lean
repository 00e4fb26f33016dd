import UdpDirector.Access.World

/-!
What one step of a request can do, said once.

* `Exits w q a s e p`: the ways out of a running request, from a stage before the first
  effect on the routes; `Polls`: the progress of the POST that its flight shares;
* `Moves w q p e p' eff`: in the phase `p` the event `e` takes the request to
  `p'` with the effect `eff`; one constructor for each way on, and one for all
  the ways out;
* `step_task`: a step of a request is a move, performed;
* the frame lemmas of `perform` and `enter`: what each leaves in place.
-/

namespace UdpDirector

variable {ext : Externals} {config : Config}

/-! ### Moves -/

/-- A phase that answers with an error or not at all. -/
inductive Phase.Refused : Phase ext config → Prop where
  | panicked : Refused .panicked
  | error (e : AccessError) : Refused (.done (.error e))
  | message (text : String) : Refused (.done (.ok (.error text)))

/-- The stages before the first effect on the routes. -/
def Stage.uncommitted : Stage ext config → Bool
  | .clearing _ | .installing _ => false
  | _ => true

lemma Stage.uncommitted_of_waiting {stage : Stage ext config} (h : stage.waiting = true) :
    stage.uncommitted = true := by
  cases stage <;> simp_all [waiting, uncommitted]

/-- How a query moves the shared POST of its flight on: it sends it, or gets its result. -/
inductive Polls (now : Instant) (flight : Flight) : Event → Accepted → Prop where
  | send (h : flight.accepted = .unpolled) : Polls now flight .poll .inFlight
  | reply {status} (h : flight.accepted = .inFlight) :
      Polls now flight (.reply status) (.done (postDemand status))
  | expire (h : flight.accepted = .inFlight) (hdeadline : flight.deadline ≤ now) :
      Polls now flight .expire (.done (.error .timeout))

lemma Polls.ne_unpolled {now : Instant} {flight : Flight} {event : Event} {accepted : Accepted}
    (h : Polls now flight event accepted) : accepted ≠ .unpolled := by
  cases h <;> simp

/-- The ways out of a running request, none of them from behind its first effect on the routes. -/
inductive Exits (w : World ext config) (q : TaskId) (a : Access) :
    Stage ext config → Event → Phase ext config → Prop where
  | unlisted {stage} (hstage : stage = .listing ∨ stage = .relisting) :
      Exits w q a stage (.list none)
        (.done (.error (.failed ("Failed to list resources: " ++ a.mapping.resource))))
  | unfiltered {stage indices version fault} (hstage : stage = .listing ∨ stage = .relisting)
      (hr : filterSnapshot config.defaultEndpoint.statusQuery
        config.defaultEndpoint.annotationSelector (w.cluster.pick indices) = .error fault) :
      Exits w q a stage (.list (some (indices, version))) fault.phase
  | undecided {resources version now fault}
      (hd : decision ext config a resources now = .error fault) :
      Exits w q a (.deciding resources version) (.decide now) fault.phase
  | full {resources version now} (hd : decision ext config a resources now = .ok .cold)
      (hdc : config.capacityDemand = none) :
      Exits w q a (.deciding resources version) (.decide now)
        (.done (.ok (.error "No server available")))
  | unaccepted {version id flight error} (hheld : w.heldFlight q = some (id, flight))
      (hdone : flight.accepted = .done (.error error)) :
      Exits w q a (.awaitingDemand version) .accept (.done (.error (.demand error)))
  | unversioned {id flight} (hheld : w.heldFlight q = some (id, flight))
      (hdone : flight.accepted = .done (.ok ())) :
      Exits w q a (.awaitingDemand "") .accept
        (.done (.error (.failed "Pod list has no resource version")))
  | unwatched {version} :
      Exits w q a (.watching version) (.watched false)
        (.done (.error (.failed "Pod watch failed")))
  | timeout {stage id flight} (hwaiting : stage.waiting = true)
      (hheld : w.heldFlight q = some (id, flight))
      (hdeadline : flight.deadline ≤ (w.director q).now) :
      Exits w q a stage .timeout (.done (.error (.demand .timeout)))
  | disconnect {stage} (hwaiting : stage.waiting = true) :
      Exits w q a stage .disconnect (.done (.error (.demand .cancelled)))
  | unresolved {choice services fault} (hr : resolve a choice services = .error fault) :
      Exits w q a (.extracting choice) (.extract services) fault.phase
  | unpatchable {target served fault}
      (hr : allocateRequest target.choice.candidate.pod = .error fault) :
      Exits w q a (.allocating target) (.patch served) fault.phase
  | unpatched {target request} (hr : allocateRequest target.choice.candidate.pod = .ok request) :
      Exits w q a (.allocating target) (.patch none)
        (.done (.error (.failed "Failed to patch Pod")))
  | conflict {target name version fresh}
      (hr : allocateRequest target.choice.candidate.pod = .ok (name, version))
      (hp : w.cluster.patchLabel name version target.key "Allocated" fresh = some none) :
      Exits w q a (.allocating target) (.patch (some fresh))
        (.done (.error (.failed "Pod patch conflict")))

/-- The ways a request moves on. -/
inductive Moves (w : World ext config) (q : TaskId) :
    Phase ext config → Event → Phase ext config → Effect → Prop where
  | reject {result} (hp : (Phase.done result : Phase ext config).Refused)
      (hr : prepare config (w.tasks q).request = .error result) :
      Moves w q .entry .start (.done result) .none
  | enqueue {a} (ha : prepare config (w.tasks q).request = .ok a)
      (hc : a.character.isSome = true) : Moves w q .entry .start (.running a .locking) .none
  | lookup {a} (ha : prepare config (w.tasks q).request = .ok a) (hc : a.character = none) :
      Moves w q .entry .start (.running a .listing) .none
  | acquire {a} (hfree : (w.director q).assignments = none) :
      Moves w q (.running a .locking) .acquire (.running a .listing) .lock
  | reacquire {a} (hfree : (w.director q).assignments = none) :
      Moves w q (.running a .relocking) .acquire (.running a .relisting) .lock
  | list {a stage indices version resources} (hstage : stage = .listing ∨ stage = .relisting)
      (hr : filterSnapshot config.defaultEndpoint.statusQuery
        config.defaultEndpoint.annotationSelector (w.cluster.pick indices) = .ok resources) :
      Moves w q (.running a stage) (.list (some (indices, version)))
        (.running a (.deciding resources version)) .none
  | reply {a resources version now servers}
      (hd : decision ext config a resources now = .ok (.reply (.characterList servers))) :
      Moves w q (.running a (.deciding resources version)) (.decide now)
        (.done (.ok (.characterList servers))) .none
  | assign {a resources version now choice}
      (hd : decision ext config a resources now = .ok (.assign choice)) :
      Moves w q (.running a (.deciding resources version)) (.decide now)
        (.running a (.extracting choice)) .none
  | wait {a resources version now demandConfig}
      (hd : decision ext config a resources now = .ok .cold)
      (hdc : config.capacityDemand = some demandConfig) :
      Moves w q (.running a (.deciding resources version)) (.decide now)
        (.running a (.signalling demandConfig version)) .unlock
  | rejoin {a demandConfig version id} (hf : (w.tasks q).flight = some id) :
      Moves w q (.running a (.signalling demandConfig version)) .signal
        (.running a (.awaitingDemand version)) .none
  | signal {a demandConfig version demand id} (hf : (w.tasks q).flight = none)
      (hs : (w.director q).demand.signal demandConfig
        ((demandConfig.backendGroups.lookup a.map).getD a.map) (w.director q).now
          = (demand, some id)) :
      Moves w q (.running a (.signalling demandConfig version)) .signal
        (.running a (.awaitingDemand version)) (.demand demand (some id))
  | poison {a demandConfig version demand} (hf : (w.tasks q).flight = none)
      (hs : (w.director q).demand.signal demandConfig
        ((demandConfig.backendGroups.lookup a.map).getD a.map) (w.director q).now
          = (demand, none)) :
      Moves w q (.running a (.signalling demandConfig version)) .signal .panicked
        (.demand demand none)
  | poll {a version event id flight accepted} (hf : (w.tasks q).flight = some id)
      (hheld : w.heldFlight q = some (id, flight))
      (hpolls : Polls (w.director q).now flight event accepted) :
      Moves w q (.running a (.awaitingDemand version)) event
        (.running a (.awaitingDemand version)) (w.polled q id accepted)
  | accept {a version id flight} (hv : version ≠ "") (hheld : w.heldFlight q = some (id, flight))
      (hdone : flight.accepted = .done (.ok ())) :
      Moves w q (.running a (.awaitingDemand version)) .accept (.running a (.watching version))
        .none
  | watched {a version} :
      Moves w q (.running a (.watching version)) (.watched true) (.running a .relocking) .none
  | connected {a choice services target} (hr : resolve a choice services = .ok target)
      (hc : target.connected = true) :
      Moves w q (.running a (.extracting choice)) (.extract services)
        (.running a (.clearing target)) .none
  | allocate {a choice services target} (hr : resolve a choice services = .ok target)
      (hc : target.connected = false) :
      Moves w q (.running a (.extracting choice)) (.extract services)
        (.running a (.allocating target)) .none
  | patch {a target name version fresh cluster}
      (hr : allocateRequest target.choice.candidate.pod = .ok (name, version))
      (hp : w.cluster.patchLabel name version target.key "Allocated" fresh = some (some cluster)) :
      Moves w q (.running a (.allocating target)) (.patch (some fresh))
        (.running a (.clearing target)) (.write cluster)
  | clear {a target} :
      Moves w q (.running a (.clearing target)) .clear (.running a (.installing target))
        (.sessions ((w.director q).sessions.clear (.legacyIp (w.tasks q).client.ip)))
  | install {a target} :
      Moves w q (.running a (.installing target)) .install (.done (.ok target.response))
        (.sessions ((w.director q).sessions.insert (.legacyIp (w.tasks q).client.ip)
          (Session.newMultiPort target.ip target.routes (w.director q).now)))
  | refuse {a stage event p} (hstage : stage.uncommitted = true) (hp : p.Refused)
      (hexits : Exits w q a stage event p) : Moves w q (.running a stage) event p .none

lemma World.flight_of_heldFlight {w : World ext config} {q : TaskId} {id : FlightId}
    {flight : Flight} (h : w.heldFlight q = some (id, flight)) : (w.tasks q).flight = some id := by
  simp only [heldFlight, bind, Option.bind_eq_some_iff, pure] at h
  obtain ⟨id', hid, flight', -, h⟩ := h
  rw [hid, (Prod.mk.inj (Option.some.inj h)).1]

/-- A request that waits for a deadline holds the flight that has it. -/
lemma World.heldFlight_of_deadline {w : World ext config} {q : TaskId} {deadline : Instant}
    (h : w.deadline q = some deadline) :
    ∃ id flight, w.heldFlight q = some (id, flight) ∧ flight.deadline = deadline := by
  rw [World.deadline] at h
  obtain ⟨id, hid, h⟩ := Option.bind_eq_some_iff.mp h
  obtain ⟨flight, hflight, h⟩ := Option.bind_eq_some_iff.mp h
  exact ⟨id, flight, by simp [World.heldFlight, hid, hflight], Option.some.inj h⟩

lemma Fault.refused_phase (fault : Fault) : (fault.phase : Phase ext config).Refused := by
  cases fault with
  | panic => exact .panicked
  | error message => exact .error _

namespace Exits

variable {w : World ext config} {q : TaskId} {a : Access} {stage : Stage ext config}
  {event : Event} {p : Phase ext config}

lemma uncommitted (h : Exits w q a stage event p) : stage.uncommitted = true := by
  cases h with
  | unlisted hstage | unfiltered hstage => rcases hstage with rfl | rfl <;> rfl
  | timeout hwaiting | disconnect hwaiting => exact Stage.uncommitted_of_waiting hwaiting
  | _ => rfl

lemma refused (h : Exits w q a stage event p) : p.Refused := by
  cases h with
  | unfiltered | undecided | unresolved | unpatchable => exact Fault.refused_phase _
  | full => exact .message _
  | _ => exact .error _

/-- A way out is a move. -/
lemma moves (h : Exits w q a stage event p) : Moves w q (.running a stage) event p .none :=
  .refuse h.uncommitted h.refused h

end Exits

namespace Moves

variable {w : World ext config} {q : TaskId}

lemma of_listed {a : Access} {stage : Stage ext config} {reply : Option (List ℕ × String)}
    (hstage : stage = .listing ∨ stage = .relisting) :
    Moves w q (.running a stage) (.list reply) (listed a w.cluster reply) .none := by
  unfold listed
  split
  · exact (Exits.unlisted hstage).moves
  · split
    · rename_i hr
      exact (Exits.unfiltered hstage hr).moves
    · rename_i hr
      exact .list hstage hr

lemma of_decided {a : Access} {resources : List DynamicObject} {version : String}
    {now : OffsetDateTime} {p : Phase ext config} {eff : Effect}
    (h : decided a resources version now = (p, eff)) :
    Moves w q (.running a (.deciding resources version)) (.decide now) p eff := by
  rw [decided] at h
  split at h
  · rename_i hd
    obtain ⟨rfl, rfl⟩ := Prod.mk.inj h
    exact (Exits.undecided hd).moves
  · rename_i hd
    obtain ⟨rfl, rfl⟩ := Prod.mk.inj h
    obtain ⟨-, servers, rfl⟩ := decision_eq_reply hd
    exact .reply hd
  · rename_i hd
    obtain ⟨rfl, rfl⟩ := Prod.mk.inj h
    exact .assign hd
  · rename_i hd
    split at h
    · rename_i hdc
      obtain ⟨rfl, rfl⟩ := Prod.mk.inj h
      exact (Exits.full hd hdc).moves
    · rename_i hdc
      obtain ⟨rfl, rfl⟩ := Prod.mk.inj h
      exact .wait hd hdc

lemma of_signalled {a : Access} {demandConfig : CapacityDemandConfig} {version : String}
    {p : Phase ext config} {eff : Effect}
    (h : signalled a demandConfig version (w.tasks q).flight (w.director q) = (p, eff)) :
    Moves w q (.running a (.signalling demandConfig version)) .signal p eff := by
  unfold signalled at h
  split at h
  · rename_i hf
    obtain ⟨rfl, rfl⟩ := Prod.mk.inj h
    exact .rejoin hf
  · rename_i hf
    split at h
    · rename_i hs
      obtain ⟨rfl, rfl⟩ := Prod.mk.inj h
      exact .poison hf hs
    · rename_i hs
      obtain ⟨rfl, rfl⟩ := Prod.mk.inj h
      exact .signal hf hs

lemma of_polls {a : Access} {version : String} {event : Event} {id : FlightId} {flight : Flight}
    {accepted : Accepted} (hheld : w.heldFlight q = some (id, flight))
    (hpolls : Polls (w.director q).now flight event accepted) :
    Moves w q (.running a (.awaitingDemand version)) event
      (.running a (.awaitingDemand version)) (w.polled q id accepted) :=
  .poll (World.flight_of_heldFlight hheld) hheld hpolls

lemma of_accepted {a : Access} {version : String} {id : FlightId} {flight : Flight}
    {result : Except DemandError Unit} (hheld : w.heldFlight q = some (id, flight))
    (hdone : flight.accepted = .done result) :
    Moves w q (.running a (.awaitingDemand version)) .accept (accepted a version result)
      .none := by
  unfold accepted
  split
  · exact (Exits.unaccepted hheld hdone).moves
  · split
    · rename_i hv
      subst hv
      exact (Exits.unversioned hheld hdone).moves
    · rename_i hv
      exact .accept hv hheld hdone

lemma of_extracted {a : Access} {choice : Choice ext config} {services : Option (List Service)} :
    Moves w q (.running a (.extracting choice)) (.extract services) (extracted a choice services)
      .none := by
  rw [extracted]
  split
  · rename_i hr
    exact (Exits.unresolved hr).moves
  · rename_i hr
    split
    · rename_i hc
      exact .connected hr hc
    · rename_i hc
      exact .allocate hr (by simpa using hc)

lemma of_allocated {a : Access} {target : Target ext config} {served : Option String}
    {p : Phase ext config} {eff : Effect}
    (h : allocated a target w.cluster served = some (p, eff)) :
    Moves w q (.running a (.allocating target)) (.patch served) p eff := by
  rw [allocated] at h
  split at h
  · rename_i hr
    obtain ⟨rfl, rfl⟩ := Prod.mk.inj (Option.some.inj h)
    exact (Exits.unpatchable hr).moves
  · rename_i hr
    split at h
    · obtain ⟨rfl, rfl⟩ := Prod.mk.inj (Option.some.inj h)
      exact (Exits.unpatched hr).moves
    · obtain ⟨outcome, hp, h⟩ := Option.map_eq_some_iff.mp h
      cases outcome with
      | none =>
          obtain ⟨rfl, rfl⟩ := Prod.mk.inj h
          exact (Exits.conflict hr hp).moves
      | some cluster =>
          obtain ⟨rfl, rfl⟩ := Prod.mk.inj h
          exact .patch hr hp

end Moves

/-- **The inversion of a step of a request**: every enabled event is a move. -/
theorem moves_of_advance {w : World ext config} {q : TaskId} {event : Event}
    {p : Phase ext config} {eff : Effect} (h : advance w q event = some (p, eff)) :
    Moves w q (w.tasks q).phase event p eff := by
  unfold advance at h
  generalize hphase : (w.tasks q).phase = phase at h ⊢
  split at h
  · -- start
    split at h
    · rename_i result hr
      obtain ⟨rfl, rfl⟩ := Prod.mk.inj (Option.some.inj h)
      refine .reject ?_ hr
      rcases prepare_eq_error hr with rfl | ⟨message, rfl⟩
      · exact .message _
      · exact .error _
    · rename_i a ha
      obtain ⟨rfl, rfl⟩ := Prod.mk.inj (Option.some.inj h)
      cases hc : a.character with
      | none => exact .lookup ha hc
      | some character => exact .enqueue ha (by rw [hc]; rfl)
  · -- acquire
    obtain ⟨hfree, h⟩ := Option.ite_none_right_eq_some.mp h
    obtain ⟨rfl, rfl⟩ := Prod.mk.inj (Option.some.inj h)
    exact .acquire hfree
  · -- list
    obtain ⟨rfl, rfl⟩ := Prod.mk.inj (Option.some.inj h)
    exact .of_listed (.inl rfl)
  · -- decide
    exact .of_decided (Option.some.inj h)
  · -- signal
    exact .of_signalled (Option.some.inj h)
  · -- poll
    split at h
    · rename_i hheld
      obtain ⟨rfl, rfl⟩ := Prod.mk.inj (Option.some.inj h)
      exact .of_polls hheld (.send rfl)
    · simp at h
  · -- reply
    split at h
    · rename_i hheld
      obtain ⟨rfl, rfl⟩ := Prod.mk.inj (Option.some.inj h)
      exact .of_polls hheld (.reply rfl)
    · simp at h
  · -- expire
    split at h
    · rename_i hheld
      obtain ⟨hdeadline, h⟩ := Option.ite_none_right_eq_some.mp h
      obtain ⟨rfl, rfl⟩ := Prod.mk.inj (Option.some.inj h)
      exact .of_polls hheld (.expire rfl hdeadline)
    · simp at h
  · -- accept
    split at h
    · rename_i hheld
      obtain ⟨rfl, rfl⟩ := Prod.mk.inj (Option.some.inj h)
      exact .of_accepted hheld rfl
    · simp at h
  · -- watched
    split at h
    · rename_i hchanged
      obtain ⟨rfl, rfl⟩ := Prod.mk.inj (Option.some.inj h)
      subst hchanged
      exact .watched
    · rename_i hchanged
      obtain ⟨rfl, rfl⟩ := Prod.mk.inj (Option.some.inj h)
      rw [Bool.not_eq_true] at hchanged
      subst hchanged
      exact Exits.unwatched.moves
  · -- acquire again
    obtain ⟨hfree, h⟩ := Option.ite_none_right_eq_some.mp h
    obtain ⟨rfl, rfl⟩ := Prod.mk.inj (Option.some.inj h)
    exact .reacquire hfree
  · -- list again
    obtain ⟨rfl, rfl⟩ := Prod.mk.inj (Option.some.inj h)
    exact .of_listed (.inr rfl)
  · -- timeout
    obtain ⟨⟨hwaiting, deadline, hdeadline, hpassed⟩, h⟩ := Option.ite_none_right_eq_some.mp h
    obtain ⟨rfl, rfl⟩ := Prod.mk.inj (Option.some.inj h)
    obtain ⟨id, flight, hheld, rfl⟩ := World.heldFlight_of_deadline hdeadline
    exact (Exits.timeout hwaiting hheld hpassed).moves
  · -- disconnect
    obtain ⟨hwaiting, h⟩ := Option.ite_none_right_eq_some.mp h
    obtain ⟨rfl, rfl⟩ := Prod.mk.inj (Option.some.inj h)
    exact (Exits.disconnect hwaiting).moves
  · -- extract
    obtain ⟨rfl, rfl⟩ := Prod.mk.inj (Option.some.inj h)
    exact .of_extracted
  · -- patch
    exact .of_allocated h
  · -- clear
    obtain ⟨rfl, rfl⟩ := Prod.mk.inj (Option.some.inj h)
    exact .clear
  · -- install
    obtain ⟨rfl, rfl⟩ := Prod.mk.inj (Option.some.inj h)
    exact .install
  · simp at h

/-- A step of a request is a move of it, performed. -/
lemma exists_moves_of_step {w w' : World ext config} {q : TaskId} {event : Event}
    (h : step w (.task q event) = some w') :
    ∃ p eff, Moves w q (w.tasks q).phase event p eff ∧ w' = w.move q p eff := by
  obtain ⟨⟨p, eff⟩, hadvance, rfl⟩ := Option.map_eq_some_iff.mp h
  exact ⟨p, eff, moves_of_advance hadvance, rfl⟩

/-- An enabled event is performed. -/
lemma step_of_advance {w : World ext config} {q : TaskId} {event : Event} {p : Phase ext config}
    {eff : Effect} (h : advance w q event = some (p, eff)) :
    step w (.task q event) = some (w.move q p eff) := by
  simp [step, h]

namespace Moves

variable {w : World ext config} {q : TaskId} {p p' : Phase ext config} {eff : Effect}

/-- A request takes the lock when it is free. -/
lemma exists_of_acquire (h : Moves w q p .acquire p' eff) :
    (w.director q).assignments = none ∧ ∃ a stage, p = .running a stage := by
  cases h with
  | acquire hfree | reacquire hfree => exact ⟨hfree, _, _, rfl⟩
  | poll _ _ hpolls => cases hpolls
  | refuse _ _ hexits => cases hexits

/-- Only a query that is about to signal signals. -/
lemma exists_of_signal (h : Moves w q p .signal p' eff) :
    ∃ a demandConfig version, p = .running a (.signalling demandConfig version) := by
  cases h with
  | rejoin | signal | poison => exact ⟨_, _, _, rfl⟩
  | poll _ _ hpolls => cases hpolls
  | refuse _ _ hexits => cases hexits

/-- A query polls a POST that has not been sent, while it awaits the demand. -/
lemma exists_of_poll (h : Moves w q p .poll p' eff) :
    ∃ a version id flight, p = .running a (.awaitingDemand version) ∧ p' = p
      ∧ w.heldFlight q = some (id, flight) ∧ flight.accepted = .unpolled
      ∧ eff = w.polled q id .inFlight := by
  cases h with
  | poll _ hheld hpolls =>
      cases hpolls with
      | send hunpolled => exact ⟨_, _, _, _, rfl, rfl, hheld, hunpolled, rfl⟩
  | refuse _ _ hexits => cases hexits

/-- A request that times out says so. -/
lemma eq_of_timeout (h : Moves w q p .timeout p' eff) :
    p' = .done (.error (.demand .timeout)) := by
  cases h with
  | poll _ _ hpolls => cases hpolls
  | refuse _ _ hexits =>
      cases hexits with
      | timeout => rfl

end Moves

/-- A write of another client stores its object under a new version. -/
lemma step_write {w w' : World ext config} {name : String} {o : DynamicObject}
    (h : step w (.write name o) = some w') :
    ∃ (hkey : o.metadata.name = some name) (hfresh : w.cluster.Fresh name o),
      w' = { w with cluster := w.cluster.put name o hkey hfresh } := by
  simp only [step] at h
  split at h
  · rename_i hguard
    exact ⟨hguard.1, hguard.2, (Option.some.inj h).symm⟩
  · simp at h

/-! ### What a move leaves in place -/

namespace Effect

/-- The cluster after an effect. -/
def clusterAfter (c : Cluster) : Effect → Cluster
  | .write c' => c'
  | _ => c

/-- The session table after an effect. -/
def sessionsAfter (s : SessionState) : Effect → SessionState
  | .sessions s' => s'
  | _ => s

/-- The holder of the lock after an effect. -/
def holderAfter (q : TaskId) (holder : Option TaskId) : Effect → Option TaskId
  | .lock => some q
  | .unlock => dropGuard q holder
  | _ => holder

end Effect

/-- The holder of the lock after a request has entered a phase. -/
def Phase.holderAfter (q : TaskId) (holder : Option TaskId) (p : Phase ext config) :
    Option TaskId :=
  if p.ended then dropGuard q holder else holder

@[simp] lemma dropGuard_self (q : TaskId) : dropGuard q (some q) = none := by simp [dropGuard]

lemma dropGuard_of_ne {q : TaskId} {holder : Option TaskId} (h : holder ≠ some q) :
    dropGuard q holder = holder := if_neg h

lemma dropGuard_ne (q : TaskId) (holder : Option TaskId) : dropGuard q holder ≠ some q := by
  rw [dropGuard]
  split
  · simp
  · assumption

@[simp] lemma dropGuard_dropGuard (q : TaskId) (holder : Option TaskId) :
    dropGuard q (dropGuard q holder) = dropGuard q holder :=
  dropGuard_of_ne (dropGuard_ne q holder)

namespace World

variable (w : World ext config) (q : TaskId) (p : Phase ext config) (eff : Effect)

lemma tasks_move_of_ne {q' : TaskId} (h : q' ≠ q) : (w.move q p eff).tasks q' = w.tasks q' := by
  cases eff <;> simp only [move, enter, perform] <;> split <;>
    simp [updateTask, updateDirector, h]

@[simp] lemma phase_move : ((w.move q p eff).tasks q).phase = p := by
  cases eff <;> simp only [move, enter, perform] <;> split <;>
    simp [updateTask, updateDirector]

/-- A request never changes its director, its text or its client. -/
lemma task_move (q' : TaskId) :
    ((w.move q p eff).tasks q').director = (w.tasks q').director
      ∧ ((w.move q p eff).tasks q').request = (w.tasks q').request
      ∧ ((w.move q p eff).tasks q').client = (w.tasks q').client := by
  rcases eq_or_ne q' q with rfl | h
  · cases eff <;> simp only [move, enter, perform] <;> split <;>
      simp [updateTask, updateDirector]
  · rw [w.tasks_move_of_ne q p eff h]
    exact ⟨rfl, rfl, rfl⟩

@[simp] lemma cluster_move : (w.move q p eff).cluster = eff.clusterAfter w.cluster := by
  cases eff <;> simp only [move, enter, perform] <;> split <;> rfl

lemma directors_move_of_ne {d : ℕ} (h : d ≠ (w.tasks q).director) :
    (w.move q p eff).directors d = w.directors d := by
  cases eff <;> simp only [move, enter, perform] <;> split <;>
    simp [updateTask, updateDirector, h]

lemma sessions_release (flight : Option FlightId) (d : Director) :
    (d.release flight).sessions = d.sessions := by
  cases flight <;> rfl

lemma assignments_release (flight : Option FlightId) (d : Director) :
    (d.release flight).assignments = d.assignments := by
  cases flight <;> rfl

lemma sessions_move :
    ((w.move q p eff).directors (w.tasks q).director).sessions
      = eff.sessionsAfter (w.director q).sessions := by
  cases eff <;> simp only [move, enter, perform] <;> split <;>
    simp [updateTask, updateDirector, sessions_release, Director.unlock, director,
      Effect.sessionsAfter]

/-- A step of a request leaves every clock alone. -/
lemma now_move (d : ℕ) : ((w.move q p eff).directors d).now = (w.directors d).now := by
  rcases eq_or_ne d (w.tasks q).director with rfl | hne
  · have hrelease : ∀ (flight : Option FlightId) (director : Director),
        (director.release flight).now = director.now := fun flight _ => by cases flight <;> rfl
    cases eff <;> simp only [move, enter, perform] <;> split <;>
      simp [updateTask, updateDirector, Director.unlock, hrelease]
  · rw [w.directors_move_of_ne q p eff hne]

lemma assignments_move :
    ((w.move q p eff).directors (w.tasks q).director).assignments
      = p.holderAfter q (eff.holderAfter q (w.director q).assignments) := by
  cases eff <;> simp only [move, enter, perform] <;> split <;> rename_i hp <;>
    simp [updateTask, updateDirector, assignments_release, Director.unlock, director,
      Effect.holderAfter, Phase.holderAfter, hp]

end World

end UdpDirector
