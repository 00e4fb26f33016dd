import UdpDirector.Access.Target
import UdpDirector.Foundation.Run
import UdpDirector.Kube.Cluster
import UdpDirector.Session

/-!
Any number of directors answering any number of requests against one cluster: the
steps of `process_access` between its awaits, interleaved with the writes of
other clients of the Kubernetes API.

* `Stage`, `Phase`, `Task`: where a request is, with the local variables that are
  live there;
* `Director`: what the requests of one process share, the assignments lock, the
  capacity demand and the session table; `World`: directors, requests, cluster;
* `Event`, `Action`: the labels of the steps. A label carries everything the
  environment decides: the reply of an API call, the time read, which branch of
  the `select!` is taken;
* `advance`: the next phase of a request and its effect on what it shares;
  `step` performs both, and drops the guard and the flight of a request that
  ends.
-/

namespace UdpDirector

variable (ext : Externals) (config : Config)

/-! ### States -/

/-- The awaits of `process_access`, and the places between two effects. -/
inductive Stage where
  | locking
  | listing
  | deciding (resources : List DynamicObject) (version : String)
  | signalling (demandConfig : CapacityDemandConfig) (version : String)
  | awaitingDemand (version : String)
  | watching (version : String)
  | relocking
  | relisting
  | extracting (choice : Choice ext config)
  | allocating (target : Target ext config)
  | clearing (target : Target ext config)
  | installing (target : Target ext config)

/-- Where a request is. -/
inductive Phase where
  | entry
  | running (a : Access) (stage : Stage ext config)
  | done (result : Except AccessError QueryResponse)
  | panicked

/-- A request, named by a number, with the flight it holds. -/
structure Task where
  director : ℕ
  request : QueryRequest
  client : SocketAddr
  phase : Phase ext config := .entry
  flight : Option FlightId := none

/-- The name of a request. -/
abbrev TaskId := ℕ

/-- What the requests of one process share. -/
structure Director where
  /-- The request that holds the assignments lock. -/
  assignments : Option TaskId := none
  demand : CapacityDemand := {}
  sessions : SessionState := {}
  now : Instant := 0

/-- All directors and requests, and the cluster. -/
structure World where
  cluster : Cluster
  directors : ℕ → Director
  tasks : TaskId → Task ext config

/-! ### Labels -/

/-- A step of one request. -/
inductive Event where
  | start
  | acquire
  /-- The list replies with copies and a version, or fails. -/
  | list (reply : Option (List ℕ × String))
  /-- The decision reads the clock. -/
  | decide (now : OffsetDateTime)
  | signal
  /-- A waiting query is the first to poll the shared POST. -/
  | poll
  /-- The POST replies with a status, or fails. -/
  | reply (status : Option ℕ)
  /-- The deadline ends the POST. -/
  | expire
  | accept
  /-- The watch reports a change, or fails. -/
  | watched (changed : Bool)
  | timeout
  | disconnect
  /-- The list of Services replies, where one is made. -/
  | extract (services : Option (List Service))
  /-- The API serves the patch, with the version it would assign, or fails. -/
  | patch (served : Option String)
  | clear
  | install

/-- A step of the system. -/
inductive Action where
  | task (q : TaskId) (event : Event)
  /-- Another client of the API stores an object. -/
  | write (name : String) (o : DynamicObject)
  | delete (name : String)
  /-- The monotonic clock of a director advances. -/
  | tick (d : ℕ) (nanos : ℕ)
  /-- Packets and cleanup change the session table of a director. -/
  | dataPlane (d : ℕ) (sessions : SessionState)

variable {ext config}

namespace Stage

/-- The query waits inside the `select!`. -/
def waiting : Stage ext config → Bool
  | awaitingDemand _ | watching _ | relocking | relisting => true
  | _ => false

/-- The query holds the assignments lock, if it joins a character. -/
def locked : Stage ext config → Bool
  | listing | deciding _ _ | relisting | extracting _ | allocating _ | clearing _
  | installing _ => true
  | _ => false

end Stage

/-- How a fault ends a request. -/
def Fault.phase : Fault → Phase ext config
  | .panic => .panicked
  | .error message => .done (.error (.failed message))

/-- The request has ended. -/
def Phase.ended : Phase ext config → Bool
  | .done _ | .panicked => true
  | _ => false

/-- The request was answered with a success. -/
def Phase.succeeded : Phase ext config → Bool
  | .done (.ok (.success _ _ _)) => true
  | _ => false

namespace World

/-- The director of a request. -/
def director (w : World ext config) (q : TaskId) : Director := w.directors (w.tasks q).director

/-- The deadline of the flight a request holds. -/
def deadline (w : World ext config) (q : TaskId) : Option Instant := do
  let flight ← (w.director q).demand.flight (← (w.tasks q).flight)
  return flight.deadline

/-- One director changed in place. -/
def updateDirector (w : World ext config) (d : ℕ) (f : Director → Director) : World ext config :=
  { w with directors := Function.update w.directors d (f (w.directors d)) }

/-- One request changed in place. -/
def updateTask (w : World ext config) (q : TaskId) (f : Task ext config → Task ext config) :
    World ext config :=
  { w with tasks := Function.update w.tasks q (f (w.tasks q)) }

end World

/-- The holder of the lock once a request has given it up. -/
def dropGuard (q : TaskId) (holder : Option TaskId) : Option TaskId :=
  if holder = some q then none else holder

/-- The assignments lock given up, if the request holds it. -/
def Director.unlock (q : TaskId) (d : Director) : Director :=
  { d with assignments := dropGuard q d.assignments }

/-- A flight given up, if the request holds one. -/
def Director.release (flight : Option FlightId) (d : Director) : Director :=
  match flight with
  | some id => { d with demand := d.demand.release id }
  | none => d

/-! ### Steps of a request -/

/-- What a step of a request changes besides its phase. -/
inductive Effect where
  | none
  | lock
  | unlock
  | demand (demand : CapacityDemand) (flight : Option FlightId)
  | write (cluster : Cluster)
  | sessions (sessions : SessionState)

/-- The phase after a snapshot. -/
def listed (a : Access) (cluster : Cluster) : Option (List ℕ × String) → Phase ext config
  | none => .done (.error (.failed ("Failed to list resources: " ++ a.mapping.resource)))
  | some (indices, version) =>
      match filterSnapshot config.defaultEndpoint.statusQuery
          config.defaultEndpoint.annotationSelector (cluster.pick indices) with
      | .error fault => fault.phase
      | .ok resources => .running a (.deciding resources version)

/-- The phase after a decision. -/
def decided (a : Access) (resources : List DynamicObject) (version : String)
    (now : OffsetDateTime) : Phase ext config × Effect :=
  match decision ext config a resources now with
  | .error fault => (fault.phase, .none)
  | .ok (.reply response) => (.done (.ok response), .none)
  | .ok (.assign choice) => (.running a (.extracting choice), .none)
  | .ok .cold =>
      -- the guard is dropped before the configuration is looked at
      match config.capacityDemand with
      | none => (.done (.ok (.error "No server available")), .none)
      | some demandConfig => (.running a (.signalling demandConfig version), .unlock)

/-- The phase once a cold query has its flight, the first one it asked for. -/
def signalled (a : Access) (demandConfig : CapacityDemandConfig) (version : String)
    (flight : Option FlightId) (d : Director) : Phase ext config × Effect :=
  match flight with
  | some _ => (.running a (.awaitingDemand version), .none)
  | none =>
      match d.demand.signal demandConfig ((demandConfig.backendGroups.lookup a.map).getD a.map)
          d.now with
      | (demand, none) => (.panicked, .demand demand none)
      | (demand, some id) => (.running a (.awaitingDemand version), .demand demand (some id))

/-- The phase once the shared POST has its result. -/
def accepted (a : Access) (version : String) : Except DemandError Unit → Phase ext config
  | .error error => .done (.error (.demand error))
  | .ok () =>
      if version = "" then
        .done (.error (.failed "Pod list has no resource version"))
      else
        .running a (.watching version)

/-- The phase after the extraction. -/
def extracted (a : Access) (choice : Choice ext config) (services : Option (List Service)) :
    Phase ext config :=
  match resolve a choice services with
  | .error fault => fault.phase
  | .ok target =>
      if target.connected then .running a (.clearing target) else .running a (.allocating target)

/-- The phase after the patch, none where the version it would assign is not new. -/
def allocated (a : Access) (target : Target ext config) (cluster : Cluster)
    (served : Option String) : Option (Phase ext config × Effect) :=
  match allocateRequest target.choice.candidate.pod with
  | .error fault => some (fault.phase, .none)
  | .ok (name, version) =>
      match served with
      | none => some (.done (.error (.failed "Failed to patch Pod")), .none)
      | some fresh =>
          (cluster.patchLabel name version target.key "Allocated" fresh).map fun
            | none => (.done (.error (.failed "Pod patch conflict")), .none)
            | some cluster => (.running a (.clearing target), .write cluster)

/-- The flight a request holds, with its name. -/
def World.heldFlight (w : World ext config) (q : TaskId) : Option (FlightId × Flight) := do
  let id ← (w.tasks q).flight
  let flight ← (w.director q).demand.flight id
  return (id, flight)

/-- The shared POST of the flight moved on by a query that polls it. -/
def World.polled (w : World ext config) (q : TaskId) (id : FlightId) (accepted : Accepted) :
    Effect :=
  .demand ((w.director q).demand.alterFlight id fun flight => { flight with accepted }) (some id)

/-- The next phase of a request and its effect, none where the event is not
enabled. -/
def advance (w : World ext config) (q : TaskId) (event : Event) :
    Option (Phase ext config × Effect) :=
  match (w.tasks q).phase, event with
  | .entry, .start =>
      match prepare config (w.tasks q).request with
      | .error result => some (.done result, .none)
      | .ok a => some (.running a (if a.character.isSome then .locking else .listing), .none)
  | .running a .locking, .acquire =>
      if (w.director q).assignments = none then some (.running a .listing, .lock) else none
  | .running a .listing, .list reply => some (listed a w.cluster reply, .none)
  | .running a (.deciding resources version), .decide now =>
      some (decided a resources version now)
  | .running a (.signalling demandConfig version), .signal =>
      some (signalled a demandConfig version (w.tasks q).flight (w.director q))
  | .running a (.awaitingDemand version), .poll =>
      match w.heldFlight q with
      | some (id, { accepted := .unpolled, .. }) =>
          some (.running a (.awaitingDemand version), w.polled q id .inFlight)
      | _ => none
  | .running a (.awaitingDemand version), .reply status =>
      match w.heldFlight q with
      | some (id, { accepted := .inFlight, .. }) =>
          some (.running a (.awaitingDemand version), w.polled q id (.done (postDemand status)))
      | _ => none
  | .running a (.awaitingDemand version), .expire =>
      match w.heldFlight q with
      | some (id, { accepted := .inFlight, deadline, .. }) =>
          if deadline ≤ (w.director q).now then
            some (.running a (.awaitingDemand version), w.polled q id (.done (.error .timeout)))
          else
            none
      | _ => none
  | .running a (.awaitingDemand version), .accept =>
      match w.heldFlight q with
      | some (_, { accepted := .done result, .. }) => some (accepted a version result, .none)
      | _ => none
  | .running a (.watching _), .watched changed =>
      if changed then some (.running a .relocking, .none)
      else some (.done (.error (.failed "Pod watch failed")), .none)
  | .running a .relocking, .acquire =>
      if (w.director q).assignments = none then some (.running a .relisting, .lock) else none
  | .running a .relisting, .list reply => some (listed a w.cluster reply, .none)
  | .running _ stage, .timeout =>
      if stage.waiting ∧ ∃ deadline ∈ w.deadline q, deadline ≤ (w.director q).now then
        some (.done (.error (.demand .timeout)), .none)
      else
        none
  | .running _ stage, .disconnect =>
      if stage.waiting then some (.done (.error (.demand .cancelled)), .none) else none
  | .running a (.extracting choice), .extract services => some (extracted a choice services, .none)
  | .running a (.allocating target), .patch served => allocated a target w.cluster served
  | .running a (.clearing target), .clear =>
      some (.running a (.installing target),
        .sessions ((w.director q).sessions.clear (.legacyIp (w.tasks q).client.ip)))
  | .running _ (.installing target), .install =>
      let session := Session.newMultiPort target.ip target.routes (w.director q).now
      some (.done (.ok target.response),
        .sessions ((w.director q).sessions.insert (.legacyIp (w.tasks q).client.ip) session))
  | _, _ => none

namespace World

/-- The effect of a step on what the request shares, and on the flight it
holds. -/
def perform (w : World ext config) (q : TaskId) : Effect → World ext config
  | .none => w
  | .lock => w.updateDirector (w.tasks q).director fun d => { d with assignments := some q }
  | .unlock => w.updateDirector (w.tasks q).director (Director.unlock q)
  | .demand demand flight =>
      (w.updateDirector (w.tasks q).director fun d => { d with demand }).updateTask q
        fun t => { t with flight }
  | .write cluster => { w with cluster }
  | .sessions sessions => w.updateDirector (w.tasks q).director fun d => { d with sessions }

/-- A request enters a phase; one that ends drops its guard and its flight. -/
def enter (w : World ext config) (q : TaskId) (phase : Phase ext config) : World ext config :=
  if phase.ended then
    (w.updateDirector (w.tasks q).director fun d =>
        (d.unlock q).release (w.tasks q).flight).updateTask q
      fun t => { t with phase, flight := none }
  else
    w.updateTask q fun t => { t with phase }

/-- A request enters a phase with an effect. -/
def move (w : World ext config) (q : TaskId) (phase : Phase ext config) (effect : Effect) :
    World ext config :=
  (w.perform q effect).enter q phase

/-- The target of a query about to write its label. -/
def allocating (w : World ext config) (q : TaskId) : Option (Target ext config) :=
  match (w.tasks q).phase with
  | .running _ (.allocating target) => some target
  | _ => none

lemma exists_of_allocating {w : World ext config} {q : TaskId}
    (h : (w.allocating q).isSome = true) :
    ∃ a target, (w.tasks q).phase = .running a (.allocating target) := by
  rw [allocating] at h
  split at h
  · rename_i hphase
    exact ⟨_, _, hphase⟩
  · simp at h

/-- The request was answered with a success. -/
def succeeded (w : World ext config) (q : TaskId) : Bool := (w.tasks q).phase.succeeded

lemma succeeded_iff {w : World ext config} {q : TaskId} :
    w.succeeded q = true ↔ ∃ status server ports,
      (w.tasks q).phase = .done (.ok (.success status server ports)) := by
  rw [succeeded]
  unfold Phase.succeeded
  constructor
  · intro h
    split at h
    · rename_i hphase
      exact ⟨_, _, _, hphase⟩
    · simp at h
  · rintro ⟨status, server, ports, hphase⟩
    rw [hphase]

end World

/-- One step of the system. -/
def step (w : World ext config) : Action → Option (World ext config)
  | .task q event => (advance w q event).map fun (phase, effect) => w.move q phase effect
  | .write name o =>
      if h : o.metadata.name = some name ∧ w.cluster.Fresh name o then
        some { w with cluster := w.cluster.put name o h.1 h.2 }
      else
        none
  | .delete name => some { w with cluster := w.cluster.remove name }
  | .tick d nanos => some (w.updateDirector d fun d => { d with now := d.now + nanos })
  | .dataPlane d sessions => some (w.updateDirector d fun d => { d with sessions })

/-- Nothing has been asked yet: no request has started and no lock is held. The
cluster, the session tables and the clocks are arbitrary. -/
structure World.Initial (w : World ext config) : Prop where
  entry : ∀ q, (w.tasks q).phase = .entry
  flight : ∀ q, (w.tasks q).flight = none
  unlocked : ∀ d, (w.directors d).assignments = none
  demand : ∀ d, (w.directors d).demand = {}

/-! ### A cluster with one Pod -/

namespace Sample

/-- The status of a Pod read from its fields. -/
def decodeStatus (data : List (String × Json)) : Option (Option PodStatus) :=
  some <| (data.lookup "status").map fun status =>
    { phase := (status.field "phase").bind Json.asString
      podIp := (status.field "podIP").bind Json.asString
      conditions := ((status.field "conditions").bind Json.asArray).map fun conditions =>
        conditions.filterMap fun c => do
          let type_ ← (c.field "type").bind Json.asString
          let status ← (c.field "status").bind Json.asString
          return { type_, status } }

/-- Decoders that agree with the real ones on the Pods below, which carry no
annotations. -/
def decoders : Externals where
  decodeStatus := decodeStatus
  decodeDisconnected := fun _ => none
  parseRfc3339 := fun _ => none

/-- How Pods are listed, and that their first container port is the target. -/
def podMapping : ResourceMapping where
  group := ""
  resource := "pods"
  addressPath := some "status.podIP"
  portPath := some "spec.containers[0].ports[0].containerPort"

/-- One UDP port, forwarded to the first container port. -/
def settings : Config where
  maxCharactersPerServer := 2
  defaultEndpoint := { resourceType := "pod", namespaceName := "games" }
  sessionTimeoutSeconds := 300
  resourceQueryMapping := (∅ : Table String ResourceMapping).insert "pod" podMapping

/-- A ready Pod of the map `arena`. -/
def pod (name uid ip : String) : DynamicObject where
  metadata :=
    { name := some name
      uid := some uid
      resourceVersion := some "1"
      labels := some ((∅ : Table String String).insert "map" "arena") }
  data :=
    [("spec", .object [("containers", .array [.object [("ports", .array
        [.object [("containerPort", .number (.int 7000))]])]])]),
      ("status", .object
        [("phase", .string "Running"), ("podIP", .string ip),
          ("conditions", .array
            [.object [("type", .string "Ready"), ("status", .string "True")]])])]

/-- The Pod `game-0` once the controller has marked `ayla` connected. -/
def connectedPod (ip : String) : DynamicObject :=
  (pod "game-0" "uid-0" ip).patched (settings.characterKey "ayla") "Used" "2"

/-- The Pod `game-0` once the controller has marked it for draining. -/
def drainingPod (ip : String) : DynamicObject :=
  (pod "game-0" "uid-0" ip).patched drainLabel "true" "2"

/-- The Pod `game-0` with an address, and queries for the character `ayla` from
one client. -/
def world (ip : String) : World decoders settings where
  cluster := VersionedStore.empty.put "game-0" (pod "game-0" "uid-0" ip) rfl
    (VersionedStore.fresh_empty _ _)
  directors := fun _ => {}
  tasks := fun _ =>
    { director := 0
      request := .query "arena" "ayla" []
      client := { ip := .v4 203 0 113 7, port := 50000 } }

lemma initial_world (ip : String) : (world ip).Initial where
  entry := fun _ => rfl
  flight := fun _ => rfl
  unlocked := fun _ => rfl
  demand := fun _ => rfl

/-- The state that some labels lead to. -/
def reach (w : World decoders settings) (acts : List Action)
    (h : (Run.run step w acts).isSome = true) : World decoders settings :=
  (Run.run step w acts).get h

lemma run_reach (w : World decoders settings) (acts : List Action)
    (h : (Run.run step w acts).isSome = true) : Run.run step w acts = some (reach w acts h) :=
  (Option.some_get h).symm

/-- A query up to its patch. -/
def untilPatch (q : TaskId) : List Action :=
  [.start, .acquire, .list (some ([0], "1")), .decide ⟨0, 0⟩, .extract none].map (.task q)

/-- The query of the one Pod about to write its label. -/
def beforePatch : World decoders settings :=
  reach (world "10.0.0.1") (untilPatch 0) (by decide)

/-- The query of the one Pod after its patch. -/
def afterPatch : World decoders settings :=
  reach beforePatch [.task 0 (.patch (some "2"))] (by decide)

/-- The query of the one Pod once it is answered. -/
def answered : World decoders settings :=
  reach afterPatch [.task 0 .clear, .task 0 .install] (by decide)

lemma run_beforePatch :
    Run.run step (world "10.0.0.1") (untilPatch 0) = some beforePatch :=
  run_reach _ _ _

lemma step_afterPatch : step beforePatch (.task 0 (.patch (some "2"))) = some afterPatch :=
  (Run.run_singleton _ _).symm.trans (run_reach beforePatch [.task 0 (.patch (some "2"))] _)

/-- All steps of the query of the one Pod. -/
def toAnswer : List Action :=
  untilPatch 0 ++ [.task 0 (.patch (some "2"))] ++ [.task 0 .clear, .task 0 .install]

lemma task_of_mem_toAnswer : ∀ action ∈ toAnswer, ∃ event, action = .task 0 event := by
  simp [toAnswer, untilPatch]

lemma run_answered : Run.run step (world "10.0.0.1") toAnswer = some answered :=
  Run.run_trans (Run.run_concat run_beforePatch step_afterPatch) (run_reach _ _ _)

/-! ### A map without a Pod -/

/-- The settings of the one Pod, with a capacity demand for the map `arena`. -/
def demandSettings : Config :=
  { settings with
    capacityDemand := some
      { endpoint := "http://demand"
        backendGroups := (∅ : Table String String).insert "arena" "arenas"
        bootTimeoutSeconds := 60 } }

/-- No Pod at all, and queries for the character `ayla`. -/
def emptyWorld : World decoders demandSettings where
  cluster := VersionedStore.empty
  directors := fun _ => {}
  tasks := fun _ =>
    { director := 0
      request := .query "arena" "ayla" []
      client := { ip := .v4 203 0 113 7, port := 50000 } }

lemma initial_emptyWorld : emptyWorld.Initial where
  entry := fun _ => rfl
  flight := fun _ => rfl
  unlocked := fun _ => rfl
  demand := fun _ => rfl

/-- A query up to its flight. -/
def untilFlight (q : TaskId) : List Action :=
  [.start, .acquire, .list (some ([], "1")), .decide ⟨0, 0⟩, .signal].map (.task q)

/-- Queries for two characters, from two clients. -/
def pairWorld : World decoders demandSettings where
  cluster := VersionedStore.empty
  directors := fun _ => {}
  tasks := fun q =>
    { director := 0
      request := .query "arena" (if q = 0 then "ayla" else "bram") []
      client := { ip := .v4 203 0 113 (if q = 0 then 7 else 8), port := 50000 } }

lemma initial_pairWorld : pairWorld.Initial where
  entry := fun _ => rfl
  flight := fun _ => rfl
  unlocked := fun _ => rfl
  demand := fun _ => rfl

/-- The first query waits for capacity until a Pod comes up, and then for the lock, which the
second one has taken: it is answered after it. -/
def contention : List Action :=
  untilFlight 0 ++ [.poll, .reply (some 202), .accept].map (.task 0)
    ++ [.write "game-0" (pod "game-0" "uid-0" "10.0.0.1"), .task 0 (.watched true)]
    ++ untilPatch 1 ++ [.patch (some "2"), .clear, .install].map (.task 1)
    ++ [.acquire, .list (some ([0], "2")), .decide ⟨0, 0⟩, .extract none, .patch (some "3"), .clear,
      .install].map (.task 0)

/-- Both queries are answered. -/
def contended : World decoders demandSettings :=
  Run.reached step pairWorld contention (by decide +kernel)

lemma run_contended : Run.run step pairWorld contention = some contended := Run.run_reached _ _ _

end Sample

end UdpDirector
