import HotelBooking.Effect.LaggingCopy
import HotelBooking.Services.ErrorProvenance
import HotelBooking.Sharding.PartialFanOut

/-! What the list requests answer. A fan-out reads each shard at a moment of its own, and the
join with the guests is made by the application, with the directory at yet another moment, which is
in the past if the replica answers. The answer is the query over these snapshots; only the shards
whose read failed are left out. -/
namespace HotelBooking
open Effect
variable {n : Nat}

/-- The statement that a list request sends to every shard. -/
def Request.listing : Request → Option Stmt
  | .findHotels => some .hotelFindMany
  | .findRooms => some .roomFindMany
  | .findBookings => some .bookingFindMany
  | .findGuestBookings id => some (.bookingFindByGuest id)
  | _ => none

/-- The tables of the shards that answered, and the guests. -/
structure Snapshots (n : Nat) where
  shards : Fin n → Option Tables
  directory : Guests

namespace Snapshots

/-- The rows of all shards that answered, in the order of the shards. -/
def rows (seen : Snapshots n) (select : Tables → List α) : List α :=
  (List.finRange n).flatMap fun i => ((seen.shards i).map select).getD []

end Snapshots

section Paths
variable {router : ShardRouter n} {i : Fin n} {stmt : Stmt}
  {steps : List (Exchange (signature n) Err)}

end Paths

section Sightings

def Cmd.readsGuests : Cmd n → Bool
  | .guests stmt => stmt.isRead
  | _ => false

/-- The clients where the global node has a replica. Which of the reads of the guests `DbRouter` sends
there is left open. -/
abbrev Replicated (n : Nat) : Type := Copied (signature n) Err Response (World n)

abbrev ReplicatedMove (n : Nat) : Type := CopiedMove (signature n) Err Response (World n)

abbrev Replicated.Step : Replicated n → CopiedEvent (signature n) Err → Replicated n → Prop :=
  Copied.Step Cmd.readsGuests World.exec AnyFault

variable {env : Env n} {trace : List (ReplicatedMove n)} {start last : Replicated n} {client : Nat}
  {stmt : Stmt}

/-- The snapshot of the shard was taken by a read of the client, or its read failed. -/
def Snapshots.Taken (seen : Snapshots n) (trace : List (ReplicatedMove n)) (client : Nat)
    (stmt : Stmt) (i : Fin n) : Prop :=
  ∃ move ∈ trace, ∃ fault, move.event = .serve ⟨client, .shard i stmt, fault⟩ ∧
    ((fault = .none ∧ seen.shards i = some (move.before.pool.state.shards i)) ∨
      (fault ≠ .none ∧ seen.shards i = none))

end Sightings

end HotelBooking
