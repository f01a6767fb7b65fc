import HotelBooking.Effect.CircuitBreaker
import HotelBooking.Services.Clients

/-! The health flags of the global node, without a replica (Single Primary Topology). Every API
instance has one. While it is down, `DbRouter` answers the queries on the guests of this instance
with the 503 of a refused connection, and sends nothing to the node. -/
namespace HotelBooking
open Effect
variable {n : Nat}

/-- The connection was lost, before or after the effect. -/
def Drops (fault : Fault Err) : Prop :=
  fault = .refused (.db .connection) ∨ fault = .lost (.db .connection)

def Cmd.isGuests : Cmd n → Bool
  | .guests _ => true
  | _ => false

/-- `health.primary` of the instance that serves a client: a query that loses its connection marks
it down, a health check marks it down or up. -/
def primaryHealth (server : Nat → Nat) : CircuitBreaker (signature n) Err Nat where
  guards := Cmd.isGuests
  owner := server
  trips
    | .none => false
    | .refused error | .lost error => error.isConnection
  refusal := .db .connection

/-- The clients behind the routers of their instances. -/
abbrev Instances (n : Nat) : Type := Guarded (signature n) Err Response (World n) Nat

abbrev InstanceMove (n : Nat) : Type :=
  Transition (Instances n) (GuardedEvent (signature n) Err Nat)

variable {server : Nat → Nat}

theorem drops_of_trips {fault : Fault Err}
    (trips : (primaryHealth (n := n) server).trips fault = true) : Drops fault := by
  have connection : ∀ error : Err, error.isConnection = true → error = .db .connection := by
    intro error lost
    cases error with
    | db kind =>
      cases kind with
      | connection => rfl
      | _ => cases lost
    | _ => cases lost
  cases fault with
  | none => cases trips
  | refused error => exact Or.inl (congrArg _ (connection error trips))
  | lost error => exact Or.inr (congrArg _ (connection error trips))

theorem isGuests_iff {cmd : Cmd n} : cmd.isGuests = true ↔ ∃ stmt, cmd = .guests stmt := by
  cases cmd with
  | guests stmt => exact ⟨fun _ => ⟨stmt, rfl⟩, fun _ => rfl⟩
  | shard | cache => exact ⟨nofun, nofun⟩

/-- A health check of the instance failed, or a query of one of its clients lost its connection,
and no health check has succeeded since. -/
def MarkedDown (server : Nat → Nat) (key : Nat) (trace : List (InstanceMove n)) : Prop :=
  ∃ early move late, trace = early ++ move :: late ∧
    (move.event = .probe key false ∨
      ∃ client, server client = key ∧ move.event = .trip client ∧
        ∃ query ∈ early, ∃ stmt fault, query.event = .serve ⟨client, .guests stmt, fault⟩ ∧
          Drops fault) ∧
    ∀ later ∈ late, later.event ≠ .probe key true

theorem markedDown {key : Nat} {trace : List (InstanceMove n)}
    (since : (primaryHealth server).OpenSince key trace) : MarkedDown server key trace := by
  obtain ⟨early, move, late, split, opens, quiet⟩ := since
  refine ⟨early, move, late, split, ?_, quiet⟩
  rcases opens with probed | ⟨client, serves, tripped, query, listed, ⟨i, cmd, fault⟩, served, rfl, passes, trips⟩
  · exact Or.inl probed
  · obtain ⟨stmt, rfl⟩ := isGuests_iff.mp passes
    exact Or.inr ⟨i, serves, tripped, query, listed, stmt, fault, served, drops_of_trips trips⟩

end HotelBooking
