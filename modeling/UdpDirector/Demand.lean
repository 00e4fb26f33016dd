import UdpDirector.Config

/-!
The capacity signal (`demand.rs`): one shared POST for the cold queries of a
backend group.

* `DemandError`, with the texts a client may receive;
* `Flight`: a shared POST with its deadline, how far it is, and the number of
  queries holding it;
* `CapacityDemand.signal`: join the flight of a group or start one. The table of
  flights holds weak references, so a flight nobody holds is not joined. The
  computation of a deadline may panic, which poisons the mutex of the table.
-/

namespace UdpDirector

/-- Why a capacity demand ends a query. -/
inductive DemandError where
  | unknownGroup
  | maintenance
  | unavailable
  | timeout
  | cancelled
  deriving DecidableEq, Repr

/-- The text of a demand error. -/
def DemandError.text : DemandError → String
  | .unknownGroup => "Unknown backend group"
  | .maintenance => "Backend group is under maintenance"
  | .unavailable => "Capacity demand unavailable"
  | .timeout => "Server startup timed out"
  | .cancelled => "Query disconnected"

/-- How far the shared POST of a flight is: its future is first polled by a
query that awaits it. -/
inductive Accepted where
  | unpolled
  | inFlight
  | done (result : Except DemandError Unit)

/-- A flight, named by its place among all flights started. -/
abbrev FlightId := ℕ

/-- `DemandFlight`, with the number of its strong references. -/
structure Flight where
  group : String
  deadline : Instant
  accepted : Accepted := .unpolled
  strong : ℕ := 1

/-- The outcome of `post_demand` by the status of the reply, none where no reply
arrives. -/
def postDemand : Option ℕ → Except DemandError Unit
  | some 202 => .ok ()
  | some 404 => .error .unknownGroup
  | some 503 => .error .maintenance
  | _ => .error .unavailable

/-- `CapacityDemand`: the table of weak references, and every flight started. -/
structure CapacityDemand where
  flights : Table String FlightId := ∅
  cells : List Flight := []
  poisoned : Bool := false

namespace CapacityDemand

/-- The flight with a name. -/
def flight (demand : CapacityDemand) (id : FlightId) : Option Flight := demand.cells[id]?

/-- A flight altered in place. -/
def alterFlight (demand : CapacityDemand) (id : FlightId) (f : Flight → Flight) :
    CapacityDemand :=
  { demand with cells := demand.cells.modify id f }

/-- A strong reference given up. -/
def release (demand : CapacityDemand) (id : FlightId) : CapacityDemand :=
  demand.alterFlight id fun flight => { flight with strong := flight.strong - 1 }

/-- A flight is held by a query. -/
def live (demand : CapacityDemand) (id : FlightId) : Bool :=
  (demand.flight id).any fun flight => 0 < flight.strong

/-- `CapacityDemand::signal`: the flight to hold, none if the call panics. -/
def signal (demand : CapacityDemand) (config : CapacityDemandConfig) (group : String)
    (now : Instant) : CapacityDemand × Option FlightId :=
  if demand.poisoned then
    (demand, none)
  else
    let flights := Table.retain (fun _ id => demand.live id) demand.flights
    match flights.lookup group with
    | some id =>
        ({ demand with flights }.alterFlight id fun flight =>
            { flight with strong := flight.strong + 1 },
          some id)
    | none =>
        match Instant.checkedAdd now config.bootTimeoutSeconds with
        | none => ({ demand with flights, poisoned := true }, none)
        | some deadline =>
            let id := demand.cells.length
            ({ demand with
                flights := flights.insert group id
                cells := demand.cells ++ [{ group, deadline }] },
              some id)

end CapacityDemand

end UdpDirector
