import UdpDirector.Characters
import UdpDirector.Demand

/-!
Access requests and responses (`query_server.rs`), with the part of
`process_access` that runs before anything is awaited and the part of
`process_query` that turns its outcome into a response.

* `QueryRequest`, `QueryResponse`, `AccessError`;
* `Access`: what the request and the configuration fix for all of
  `process_access`; the character it joins is valid;
* `prepare`: validation, and the mapping of the default endpoint.
-/

namespace UdpDirector

/-- A request of a client. -/
inductive QueryRequest where
  | characterList (map : String) (characterIds : List String)
  | query (map characterId : String) (friendIds : List String)
  deriving DecidableEq, Repr

/-- The response to a request. -/
inductive QueryResponse where
  | characterList (servers : List CharacterServer)
  | success (status server : String) (ports : Table String UInt16)
  | error (error : String)

/-- An error of `process_access`: a demand error, or any other under its text. -/
inductive AccessError where
  | demand (error : DemandError)
  | failed (message : String)
  deriving DecidableEq, Repr

/-- `process_query`, on the outcome of `process_access`. -/
def processQuery : Except AccessError QueryResponse → Option QueryResponse
  | .ok response => some response
  | .error (.demand .cancelled) => none
  | .error (.demand error) => some (.error error.text)
  | .error (.failed _) => some (.error "Unable to establish route")

namespace QueryRequest

/-- The map of a request. -/
def map : QueryRequest → String
  | characterList map _ => map
  | query map _ _ => map

/-- The IDs a request lists: those looked up, or the friends. -/
def ids : QueryRequest → List String
  | characterList _ characterIds => characterIds
  | query _ _ friendIds => friendIds

/-- The character that joins, none for a lookup. -/
def character : QueryRequest → Option String
  | characterList _ _ => none
  | query _ characterId _ => some characterId

/-- The IDs of the request are all valid. -/
def valid (request : QueryRequest) : Bool :=
  validCharacterId request.map && request.ids.all validCharacterId
    && request.character.all validCharacterId

end QueryRequest

/-- The local variables that `process_access` binds before its first snapshot. -/
structure Access where
  map : String
  ids : List String
  character : Option String
  mapping : ResourceMapping
  /-- The label selector of the snapshots. -/
  labels : Table String String
  valid : ∀ id ∈ character, validCharacterId id = true

/-- The label selector of the snapshots for a map. -/
def Config.selector (config : Config) (map : String) : Table String String :=
  (config.defaultEndpoint.labelSelector.getD ∅).insert config.mapLabel map

/-- `process_access` up to its first await: a response, an error, or the
variables it goes on with. -/
def prepare (config : Config) (request : QueryRequest) :
    Except (Except AccessError QueryResponse) Access :=
  if h : request.valid then
    match config.resourceQueryMapping.lookup config.defaultEndpoint.resourceType with
    | none => .error (.error (.failed "Missing server mapping"))
    | some mapping =>
        if mapping.group = "" ∧ mapping.resource = "pods" then
          .ok
            { map := request.map
              ids := request.ids
              character := request.character
              mapping
              labels := config.selector request.map
              valid := by
                intro id hid
                rw [Option.mem_def] at hid
                simp only [QueryRequest.valid, hid, Bool.and_eq_true, Option.all_some] at h
                exact h.2 }
        else
          .error (.error (.failed "Access requires a Pod mapping"))
  else
    .error (.ok (.error "Invalid map or character ID"))

section

variable {config : Config} {request : QueryRequest} {a : Access}

/-- A request that goes on keeps its IDs and its selector. -/
lemma prepare_eq_ok (h : prepare config request = .ok a) :
    a.map = request.map ∧ a.ids = request.ids ∧ a.character = request.character
      ∧ a.labels = config.selector request.map := by
  rw [prepare] at h
  split at h
  · split at h
    · simp at h
    · split at h
      · obtain rfl := Except.ok.inj h
        exact ⟨rfl, rfl, rfl, rfl⟩
      · simp at h
  · simp at h

/-- What is answered before the first await is never a success. -/
lemma prepare_eq_error {r : Except AccessError QueryResponse}
    (h : prepare config request = .error r) :
    r = .ok (.error "Invalid map or character ID") ∨ ∃ message, r = .error (.failed message) := by
  rw [prepare] at h
  split at h
  · split at h
    · exact .inr ⟨_, (Except.error.inj h).symm⟩
    · split at h
      · simp at h
      · exact .inr ⟨_, (Except.error.inj h).symm⟩
  · exact .inl (Except.error.inj h).symm

end

end UdpDirector
