import UdpDirector.Access.Flights

/-!
Why a request is refused.

* `Fails`: the steps at which a request fails with an error that its client is not told;
* `Refuses`: the steps that end a request with an error, each with what it found;
  `Moves.refuses`: there are no others;
* `Answers`: the step that gives the shared POST of a flight its result, the reply of the demand
  endpoint or the deadline; `answered_of_run`: a flight has the result that such a step gave it;
* `Refusal`: a cause of each text that a client can be sent;
* `refusal_explained`: in every run the text that a request is refused with has its cause among
  the steps taken.
-/

namespace UdpDirector

variable {ext : Externals} {config : Config}

/-! ### The results of flights -/

namespace CapacityDemand

variable {demand demand' : CapacityDemand} {id : FlightId} {result : Except DemandError Unit}

/-- The shared POST of a flight has a result. -/
def Done (demand : CapacityDemand) (id : FlightId) (result : Except DemandError Unit) : Prop :=
  ∃ flight, demand.flight id = some flight ∧ flight.accepted = .done result

lemma Done.of_alter {j : FlightId} {f : Flight → Flight}
    (h : (demand.alterFlight j f).Done id result)
    (hf : ∀ flight, (f flight).accepted = flight.accepted) : demand.Done id result := by
  obtain ⟨flight, hflight, hdone⟩ := h
  rw [flight_alterFlight] at hflight
  split at hflight
  · obtain ⟨old, hold, rfl⟩ := Option.map_eq_some_iff.mp hflight
    exact ⟨old, hold, (hf old).symm.trans hdone⟩
  · exact ⟨flight, hflight, hdone⟩

/-- A result is set, or was there before. -/
lemma Done.of_post {j : FlightId} {accepted : Accepted}
    (h : (demand.alterFlight j fun flight => { flight with accepted }).Done id result) :
    demand.Done id result ∨ j = id ∧ accepted = .done result := by
  obtain ⟨flight, hflight, hdone⟩ := h
  rw [flight_alterFlight] at hflight
  split at hflight
  · rename_i hj
    obtain ⟨old, -, rfl⟩ := Option.map_eq_some_iff.mp hflight
    exact .inr ⟨hj, hdone⟩
  · exact .inl ⟨flight, hflight, hdone⟩

/-- A call of `signal` gives no flight a result. -/
lemma Done.of_signal {demandConfig : CapacityDemandConfig} {group : String} {now : Instant}
    {started : Option FlightId}
    (hsignal : demand.signal demandConfig group now = (demand', started))
    (h : demand'.Done id result) : demand.Done id result := by
  cases started with
  | none => obtain rfl | rfl := signal_eq_none hsignal <;> exact h
  | some j =>
      obtain ⟨-, rfl⟩ | ⟨-, -, deadline, -, rfl⟩ := signal_eq_some hsignal
      · exact Done.of_alter h fun _ => rfl
      · obtain ⟨flight, hflight, hdone⟩ := h
        rw [flight_started] at hflight
        split at hflight
        · obtain rfl := Option.some.inj hflight
          cases hdone
        · exact ⟨flight, hflight, hdone⟩

end CapacityDemand

/-- In the step a query of the director that holds the flight gets its shared POST a result: the
demand endpoint replies, or does not, or the deadline has passed. -/
def Answers (d : ℕ) (id : FlightId) (result : Except DemandError Unit)
    (s : Taken ext config) : Prop :=
  ∃ r event flight, s.2.1 = .task r event ∧ (s.1.tasks r).director = d
    ∧ s.1.heldFlight r = some (id, flight)
    ∧ ((∃ status, event = .reply status ∧ result = postDemand status)
      ∨ event = .expire ∧ result = .error .timeout ∧ flight.deadline ≤ (s.1.directors d).now)

section

variable {w₀ w w' : World ext config} {q : TaskId} {acts : List Action}

/-- The POST of a flight gets its result from a query that holds it. -/
lemma answers_of_polls {event : Event} {id : FlightId} {flight : Flight} {accepted : Accepted}
    (hheld : w.heldFlight q = some (id, flight))
    (h : Polls (w.director q).now flight event accepted) {result : Except DemandError Unit}
    (hresult : accepted = .done result) :
    Answers (w.tasks q).director id result (w, .task q event, w') := by
  cases h with
  | send => cases hresult
  | @reply status =>
      exact ⟨q, _, _, rfl, rfl, hheld, .inl ⟨status, rfl, (Accepted.done.inj hresult).symm⟩⟩
  | expire _ hdeadline =>
      exact ⟨q, _, _, rfl, rfl, hheld, .inr ⟨rfl, (Accepted.done.inj hresult).symm, hdeadline⟩⟩

/-- A flight that has a result after a step had it before, or the step gave it. -/
lemma done_of_step {action : Action} (hstep : step w action = some w') {d : ℕ} {id : FlightId}
    {result : Except DemandError Unit} (h : (w'.directors d).demand.Done id result) :
    (w.directors d).demand.Done id result ∨ Answers d id result (w, action, w') := by
  cases action with
  | task q event =>
      obtain ⟨p, eff, hmoves, rfl⟩ := exists_moves_of_step hstep
      rcases eq_or_ne d (w.tasks q).director with rfl | hd
      swap
      · rw [w.directors_move_of_ne q p eff hd] at h
        exact .inl h
      -- a reference given up changes no result
      have hafter : (w.demandAfter q eff).Done id result := by
        rw [World.demand_move_eq] at h
        split at h
        · generalize w.flightAfter q eff = flight at h
          cases flight with
          | none => exact h
          | some j => exact CapacityDemand.Done.of_alter h fun _ => rfl
        · exact h
      generalize (w.tasks q).phase = phase at hmoves
      cases hmoves with
      | signal hf hs | poison hf hs => exact .inl (hafter.of_signal hs)
      | poll hf hheld hpolls =>
          obtain hold | ⟨rfl, haccepted⟩ := CapacityDemand.Done.of_post hafter
          · exact .inl hold
          · exact .inr (answers_of_polls hheld hpolls haccepted)
      | _ => exact .inl hafter
  | write name o =>
      obtain ⟨hkey, hfresh, rfl⟩ := step_write hstep
      exact .inl h
  | delete name =>
      obtain rfl := Option.some.inj hstep
      exact .inl h
  | tick d' nanos | dataPlane d' sessions =>
      obtain rfl := Option.some.inj hstep
      left
      rcases eq_or_ne d d' with rfl | hne
      · simpa [World.updateDirector] using h
      · simpa [World.updateDirector, hne] using h

/-- **A flight has the result that the reply or the deadline gave it**, in every run. -/
theorem answered_of_run (h₀ : w₀.Initial) (hrun : Run.run step w₀ acts = some w) {d : ℕ}
    {id : FlightId} {result : Except DemandError Unit}
    (h : (w.directors d).demand.Done id result) :
    ∃ s ∈ Run.trace step w₀ acts, Answers d id result s := by
  revert h
  refine Run.run_induction (P := fun acts w => ((World.directors w d).demand).Done id result →
    ∃ s ∈ Run.trace step w₀ acts, Answers d id result s) ?_ ?_ hrun
  · rintro ⟨flight, hflight, -⟩
    rw [h₀.demand d] at hflight
    simp [CapacityDemand.flight] at hflight
  · intro as u action v hu ih hstep hdone
    rw [Run.trace_concat hu hstep]
    obtain hold | hanswers := done_of_step hstep hdone
    · obtain ⟨s, hs, hanswers⟩ := ih hold
      exact ⟨s, List.mem_append_left _ hs, hanswers⟩
    · exact ⟨_, by simp, hanswers⟩

/-! ### The ends of a request -/

/-- The steps at which a request fails with an error that its client is not told. -/
inductive Fails (w : World ext config) (q : TaskId) : Phase ext config → Event → Prop where
  /-- The configuration has no Pod mapping for the default endpoint. -/
  | unmapped {message} (hvalid : (w.tasks q).request.valid = true)
      (h : prepare config (w.tasks q).request = .error (.error (.failed message))) :
      Fails w q .entry .start
  /-- The API does not list. -/
  | list {a stage} : Fails w q (.running a stage) (.list none)
  /-- What is listed cannot be filtered. -/
  | filter {a stage indices version message}
      (h : filterSnapshot config.defaultEndpoint.statusQuery
        config.defaultEndpoint.annotationSelector (w.cluster.pick indices)
          = .error (.error message)) :
      Fails w q (.running a stage) (.list (some (indices, version)))
  /-- A Pod of the snapshot cannot be looked at. -/
  | decide {a resources version now message}
      (h : decision ext config a resources now = .error (.error message)) :
      Fails w q (.running a (.deciding resources version)) (.decide now)
  /-- The list had no version to watch from. -/
  | unversioned {a} : Fails w q (.running a (.awaitingDemand "")) .accept
  /-- The API does not watch. -/
  | watch {a version} : Fails w q (.running a (.watching version)) (.watched false)
  /-- The Pod that is chosen has no address, port or identity. -/
  | extract {a choice services message} (h : resolve a choice services = .error (.error message)) :
      Fails w q (.running a (.extracting choice)) (.extract services)
  /-- The Pod that is chosen cannot be patched. -/
  | unpatchable {a target served message}
      (h : allocateRequest target.choice.candidate.pod = .error (.error message)) :
      Fails w q (.running a (.allocating target)) (.patch served)
  /-- The API does not patch. -/
  | patch {a target} : Fails w q (.running a (.allocating target)) (.patch none)
  /-- The Pod that is chosen has changed, or is gone. -/
  | conflict {a target name version fresh}
      (hrequest : allocateRequest target.choice.candidate.pod = .ok (name, version))
      (h : ∀ o, w.cluster.live name = some o → o.metadata.resourceVersion ≠ some version) :
      Fails w q (.running a (.allocating target)) (.patch (some fresh))

/-- The steps that end a request with an error or a message. -/
inductive Refuses (w : World ext config) (q : TaskId) :
    Phase ext config → Event → Except AccessError QueryResponse → Prop where
  | invalid (h : (w.tasks q).request.valid = false) :
      Refuses w q .entry .start (.ok (.error "Invalid map or character ID"))
  | full {a resources version now} (hd : decision ext config a resources now = .ok .cold)
      (hdemand : config.capacityDemand = none) :
      Refuses w q (.running a (.deciding resources version)) (.decide now)
        (.ok (.error "No server available"))
  | demand {a version id flight error} (hheld : w.heldFlight q = some (id, flight))
      (hdone : flight.accepted = .done (.error error)) :
      Refuses w q (.running a (.awaitingDemand version)) .accept (.error (.demand error))
  | timeout {a stage id flight} (hheld : w.heldFlight q = some (id, flight))
      (hdeadline : flight.deadline ≤ (w.director q).now) :
      Refuses w q (.running a stage) .timeout (.error (.demand .timeout))
  | disconnect {a stage} : Refuses w q (.running a stage) .disconnect (.error (.demand .cancelled))
  | failed {phase event message} (h : Fails w q phase event) :
      Refuses w q phase event (.error (.failed message))

/-- The answer is no error. -/
def Granted : Except AccessError QueryResponse → Prop
  | .ok (.characterList _) | .ok (.success _ _ _) => True
  | _ => False

lemma refuses_of_fault {a : Access} {stage : Stage ext config} {event : Event} {fault : Fault}
    {r : Except AccessError QueryResponse} (h : (fault.phase : Phase ext config) = .done r)
    (hfails : ∀ message, fault = .error message → Fails w q (.running a stage) event) :
    Refuses w q (.running a stage) event r := by
  cases fault with
  | panic => cases h
  | error message =>
      obtain rfl := Phase.done.inj h
      exact .failed (hfails message rfl)

lemma refuses_of_prepare {r : Except AccessError QueryResponse}
    (h : prepare config (w.tasks q).request = .error r) : Refuses w q .entry .start r := by
  cases hvalid : (w.tasks q).request.valid with
  | false =>
      rw [prepare, dif_neg (by simp [hvalid])] at h
      obtain rfl := Except.error.inj h
      exact .invalid hvalid
  | true =>
      obtain rfl | ⟨message, rfl⟩ := prepare_eq_error h
      · rw [prepare, dif_pos hvalid] at h
        split at h
        · cases h
        · split at h <;> cases h
      · exact .failed (.unmapped hvalid h)

/-- **Every way out is a refusal** or a panic. -/
lemma Exits.refuses {a : Access} {stage : Stage ext config} {event : Event}
    {p : Phase ext config} {r : Except AccessError QueryResponse}
    (h : Exits w q a stage event p) (hp : p = .done r) :
    Refuses w q (.running a stage) event r := by
  cases h with
  | unfiltered _ hr => exact refuses_of_fault hp fun message hfault => .filter (hfault ▸ hr)
  | undecided hd => exact refuses_of_fault hp fun message hfault => .decide (hfault ▸ hd)
  | unresolved hr => exact refuses_of_fault hp fun message hfault => .extract (hfault ▸ hr)
  | unpatchable hr => exact refuses_of_fault hp fun message hfault => .unpatchable (hfault ▸ hr)
  | unlisted =>
      obtain rfl := Phase.done.inj hp
      exact .failed .list
  | full hd hdc =>
      obtain rfl := Phase.done.inj hp
      exact .full hd hdc
  | unaccepted hheld hdone =>
      obtain rfl := Phase.done.inj hp
      exact .demand hheld hdone
  | unversioned =>
      obtain rfl := Phase.done.inj hp
      exact .failed .unversioned
  | unwatched =>
      obtain rfl := Phase.done.inj hp
      exact .failed .watch
  | timeout _ hheld hdeadline =>
      obtain rfl := Phase.done.inj hp
      exact .timeout hheld hdeadline
  | disconnect =>
      obtain rfl := Phase.done.inj hp
      exact .disconnect
  | unpatched =>
      obtain rfl := Phase.done.inj hp
      exact .failed .patch
  | conflict hr hpatch =>
      obtain rfl := Phase.done.inj hp
      exact .failed (.conflict hr fun o hlive hversion =>
        Cluster.patchLabel_ne_refused hlive hversion hpatch)

/-- **A request is refused at these steps only**; otherwise it is answered. -/
theorem Moves.refuses {p p' : Phase ext config} {event : Event}
    {r : Except AccessError QueryResponse} {eff : Effect} (h : Moves w q p event p' eff)
    (hp' : p' = .done r) : Granted r ∨ Refuses w q p event r := by
  cases h with
  | reject _ hr =>
      obtain rfl := Phase.done.inj hp'
      exact .inr (refuses_of_prepare hr)
  | refuse _ _ hexits => exact .inr (hexits.refuses hp')
  | reply | install =>
      obtain rfl := Phase.done.inj hp'
      exact .inl trivial
  | _ => cases hp'

/-! ### The cause of a refusal -/

/-- A cause of the text that a client is sent, among the steps taken. -/
inductive Refusal (q : TaskId) (request : QueryRequest) (steps : List (Taken ext config)) :
    String → Prop where
  /-- The request names a map or a character that is not valid. -/
  | invalid (h : request.valid = false) : Refusal q request steps "Invalid map or character ID"
  /-- The last list had no seat, and there is nobody to ask for more servers. -/
  | full {a version} (h : request.valid = true) (ha : prepare config request = .ok a)
      (hdemand : config.capacityDemand = none) (hcourted : Courted q a version steps) :
      Refusal q request steps "No server available"
  /-- The demand endpoint replied so to the shared POST, or the deadline ended it, and the
  request held its flight. -/
  | demand {d id flight s s' error} (h : request.valid = true) (hs : s ∈ steps)
      (hanswers : Answers d id (.error error) s) (hs' : s' ∈ steps) (hby : By q s')
      (hd : (s'.1.tasks q).director = d) (hheld : s'.1.heldFlight q = some (id, flight)) :
      Refusal q request steps error.text
  /-- The deadline of the flight passed. -/
  | timeout {id flight s} (h : request.valid = true) (hs : s ∈ steps) (hby : By q s)
      (hheld : s.1.heldFlight q = some (id, flight))
      (hdeadline : flight.deadline ≤ (s.1.director q).now) :
      Refusal q request steps "Server startup timed out"
  /-- Something else failed, at a step of the request. -/
  | failed {s event} (h : request.valid = true) (hs : s ∈ steps) (hstep : s.2.1 = .task q event)
      (hfails : Fails s.1 q (s.1.tasks q).phase event) :
      Refusal q request steps "Unable to establish route"

lemma Refusal.concat {request : QueryRequest} {steps : List (Taken ext config)} {text : String}
    {s : Taken ext config} (h : Refusal q request steps text) (hs : ¬By q s) :
    Refusal q request (steps ++ [s]) text := by
  cases h with
  | invalid h => exact .invalid h
  | full h ha hdemand hcourted =>
      obtain ⟨pre, v, v', now, post, resources, rfl, hlisted, hseatless, hpost⟩ := hcourted
      exact .full h ha hdemand ⟨pre, v, v', now, post ++ [s], resources, by simp, hlisted,
        hseatless, not_by_concat hpost hs⟩
  | demand h hs hanswers hs' hby hd hheld =>
      exact .demand h (List.mem_append_left _ hs) hanswers (List.mem_append_left _ hs') hby hd hheld
  | timeout h hs hby hheld hdeadline =>
      exact .timeout h (List.mem_append_left _ hs) hby hheld hdeadline
  | failed h hs hstep hfails => exact .failed h (List.mem_append_left _ hs) hstep hfails

/-- The answer has its cause, and a request that is not valid has only one answer. -/
structure Explained (q : TaskId) (request : QueryRequest) (steps : List (Taken ext config))
    (r : Except AccessError QueryResponse) : Prop where
  cause : ∀ text, processQuery r = some (.error text) → Refusal q request steps text
  invalid : request.valid = false → r = .ok (.error "Invalid map or character ID")

/-- A client that is answered is sent no error. -/
lemma not_error_of_granted {r : Except AccessError QueryResponse} {text : String}
    (h : Granted r) : processQuery r ≠ some (.error text) := by
  intro htext
  cases r with
  | error error => cases h
  | ok response =>
      obtain rfl := Option.some.inj htext
      cases h

/-- The answer to a valid request has only to have its cause. -/
lemma Explained.of_valid {request : QueryRequest} {steps : List (Taken ext config)}
    {r : Except AccessError QueryResponse} (h : request.valid = true)
    (hcause : ∀ text, processQuery r = some (.error text) → Refusal q request steps text) :
    Explained q request steps r :=
  ⟨hcause, fun hinvalid => by simp [h] at hinvalid⟩

lemma valid_of_prepare {request : QueryRequest} {a : Access}
    (h : prepare config request = .ok a) : request.valid = true := by
  rw [prepare] at h
  split at h
  · assumption
  · cases h

/-- A running request is valid. -/
lemma valid_of_running (h₀ : w₀.Initial) (hrun : Run.run step w₀ acts = some w) {a : Access}
    {stage : Stage ext config} (hphase : (w.tasks q).phase = .running a stage) :
    (w.tasks q).request.valid = true :=
  valid_of_prepare (prepared_of_run h₀ hrun hphase)

lemma valid_of_fails (h₀ : w₀.Initial) (hrun : Run.run step w₀ acts = some w)
    {phase : Phase ext config} {event : Event} (hphase : (w.tasks q).phase = phase)
    (h : Fails w q phase event) : (w.tasks q).request.valid = true := by
  cases h with
  | unmapped hvalid h => exact hvalid
  | _ => exact valid_of_running h₀ hrun hphase

/-- A request that is answered has been running. -/
lemma Moves.exists_running_of_granted {p : Phase ext config} {event : Event}
    {r : Except AccessError QueryResponse} {eff : Effect} (h : Moves w q p event (.done r) eff)
    (hgranted : Granted r) : ∃ a stage, p = .running a stage := by
  cases h with
  | reject hp => cases hp <;> cases hgranted
  | refuse hstage hp => exact ⟨_, _, rfl⟩
  | reply hd => exact ⟨_, _, rfl⟩
  | install => exact ⟨_, _, rfl⟩

/-- A client is told the text of the demand error, unless it is gone. -/
lemma text_of_demand {error : DemandError} {text : String}
    (h : processQuery (.error (.demand error)) = some (.error text)) : text = error.text := by
  cases error with
  | cancelled => cases h
  | _ => exact (QueryResponse.error.inj (Option.some.inj h)).symm

lemma explained_of_refuses (h₀ : w₀.Initial) (hrun : Run.run step w₀ acts = some w)
    {event : Event} {r : Except AccessError QueryResponse}
    (h : Refuses w q (w.tasks q).phase event r) :
    Explained q (w.tasks q).request
      (Run.trace step w₀ acts ++ [(w, .task q event, w')]) r := by
  generalize hphase : (w.tasks q).phase = phase at h
  cases h with
  | invalid h =>
      refine ⟨fun text htext => ?_, fun _ => rfl⟩
      obtain rfl := QueryResponse.error.inj (Option.some.inj htext)
      exact .invalid h
  | full hd hdemand =>
      have ha := prepared_of_run h₀ hrun hphase
      have hlisted := courting_of_run h₀ hrun q
      rw [hphase] at hlisted
      have h := valid_of_prepare ha
      refine .of_valid h fun text htext => ?_
      obtain rfl := QueryResponse.error.inj (Option.some.inj htext)
      exact .full h ha hdemand
        ⟨_, w, w', _, [], _, rfl, hlisted, seatless_of_cold hd, by simp⟩
  | @demand a version id flight error hheld hdone =>
      have h := valid_of_running h₀ hrun hphase
      refine .of_valid h fun text htext => ?_
      obtain ⟨s, hs, hanswers⟩ := answered_of_run h₀ hrun
        (⟨flight, World.flight_of_heldFlight' hheld, hdone⟩ : (w.director q).demand.Done id _)
      obtain rfl := text_of_demand htext
      exact .demand h (List.mem_append_left _ hs) hanswers
        (List.mem_append_right _ List.mem_cons_self) ⟨_, rfl⟩ rfl hheld
  | timeout hheld hdeadline =>
      have h := valid_of_running h₀ hrun hphase
      refine .of_valid h fun text htext => ?_
      obtain rfl := QueryResponse.error.inj (Option.some.inj htext)
      exact .timeout h (List.mem_append_right _ List.mem_cons_self) ⟨_, rfl⟩ hheld hdeadline
  | disconnect =>
      have h := valid_of_running h₀ hrun hphase
      exact .of_valid h fun text htext => by cases htext
  | failed hfails =>
      have h := valid_of_fails h₀ hrun hphase hfails
      refine .of_valid h fun text htext => ?_
      obtain rfl := QueryResponse.error.inj (Option.some.inj htext)
      exact .failed h (List.mem_append_right _ List.mem_cons_self) rfl (hphase ▸ hfails)

/-- **Every refusal is explained.** In every run, whatever text a client is sent instead of an
answer, its cause is among the steps taken: the request is not valid, or the last list had no
seat and there is no demand endpoint, or the endpoint replied so to the POST of the flight the
request held, or the deadline of this flight has passed, or a step of the request failed in one of
the ways of `Fails`; and a request that is not valid is told so. -/
theorem refusal_explained (h₀ : w₀.Initial) (hrun : Run.run step w₀ acts = some w)
    {r : Except AccessError QueryResponse} (hphase : (w.tasks q).phase = .done r) :
    Explained q (w.tasks q).request (Run.trace step w₀ acts) r := by
  revert r
  refine Run.run_induction (P := fun acts w => ∀ {r}, (World.tasks w q).phase = .done r →
    Explained q (w.tasks q).request (Run.trace step w₀ acts) r) ?_ ?_ hrun
  · intro r hdone
    rw [h₀.entry q] at hdone
    cases hdone
  · intro as u action v hu ih hstep r hdone
    rw [Run.trace_concat hu hstep, (task_of_step hstep q).2.1]
    obtain ⟨event, p, eff, rfl, -, -⟩ | ⟨hothers, htask⟩ := moves_or_others hstep q
    · obtain ⟨p, eff, hmoves, rfl⟩ := exists_moves_of_step hstep
      rw [World.phase_move] at hdone
      subst hdone
      obtain hgranted | hrefuses := hmoves.refuses rfl
      · obtain ⟨a, stage, hrunning⟩ := hmoves.exists_running_of_granted hgranted
        have h := valid_of_running h₀ hu hrunning
        refine .of_valid h fun text htext => ?_
        exact absurd htext (not_error_of_granted hgranted)
      · exact explained_of_refuses h₀ hu hrefuses
    · rw [htask] at hdone
      obtain ⟨hcause, hinvalid⟩ := ih hdone
      exact ⟨fun text htext => (hcause text htext).concat hothers, hinvalid⟩

end

namespace Sample

/-- A cold query whose group the demand endpoint does not know. -/
def untilUnknown : List Action :=
  untilFlight 0 ++ [Event.poll, .reply (some 404), .accept].map (.task 0)

/-- The query is over. -/
def unknown : World decoders demandSettings :=
  Run.reached step emptyWorld untilUnknown (by decide +kernel)

lemma run_unknown : Run.run step emptyWorld untilUnknown = some unknown :=
  Run.run_reached _ _ _

/-- The query has ended because its group is unknown. -/
def endsUnknown : Phase decoders demandSettings → Bool
  | .done (.error (.demand .unknownGroup)) => true
  | _ => false

lemma phase_unknown : (unknown.tasks 0).phase = .done (.error (.demand .unknownGroup)) := by
  have h : endsUnknown (unknown.tasks 0).phase = true := by decide +kernel
  generalize (unknown.tasks 0).phase = phase at h ⊢
  unfold endsUnknown at h
  split at h
  · rfl
  · cases h

end Sample

/-- The query is told that the group is unknown, because of the reply to its flight. -/
theorem refusal_explained_sample :
    Refusal 0 (.query "arena" "ayla" []) (Run.trace step Sample.emptyWorld Sample.untilUnknown)
      "Unknown backend group" := by
  have hrequest : (Sample.unknown.tasks 0).request = .query "arena" "ayla" [] := by
    decide +kernel
  rw [← hrequest]
  exact (refusal_explained Sample.initial_emptyWorld Sample.run_unknown
    Sample.phase_unknown).cause _ rfl

end UdpDirector
