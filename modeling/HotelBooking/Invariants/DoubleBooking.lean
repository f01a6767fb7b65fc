import HotelBooking.Relational.Conflict
import HotelBooking.Invariants.Colocation
import HotelBooking.Services.Clients
import Mathlib

/-! No double booking: two active bookings of one room never share a night. A write
keeps this exactly when the row it writes clashes with no other stored row. -/
namespace HotelBooking
open Relational Effect
variable {n : Nat} {env : Env n} {entropy : Entropy} {request : Request}
  {i : Fin n} {tables after : Tables} {world : World n}

/-- The half-open stay. -/
def Booking.stay (booking : Booking) : Set Instant :=
  Set.Ico booking.checkInDate booking.checkOutDate

/-- Both bookings hold one room at one time. -/
structure Clash (first second : Booking) : Prop where
  room : first.roomId = second.roomId
  left : first.Active
  right : second.Active
  shared : ¬ Disjoint first.stay second.stay

theorem Clash.symm {first second : Booking} (clash : Clash first second) : Clash second first :=
  ⟨clash.room.symm, clash.right, clash.left, fun disjoint => clash.shared disjoint.symm⟩

theorem clash_symmetric (first second : Booking) (clash : Clash first second) :
    Clash second first := clash.symm

theorem not_clash_of_inactive {first second : Booking} (inactive : ¬ second.Active) :
    ¬ Clash first second := fun clash => inactive clash.right

/-- The availability check finds every clash: intersecting stays overlap in its sense. -/
theorem Clash.overlaps {first second : Booking} (clash : Clash first second)
    (excluded : Option Text) (included : excluded.all fun id => id == [] || first.id != id) :
    Tables.overlaps second.roomId second.checkInDate second.checkOutDate excluded first = true := by
  obtain ⟨room, left, right, shared⟩ := clash
  simp only [Booking.stay, Set.Ico_disjoint_Ico, not_le, lt_min_iff, max_lt_iff] at shared
  obtain ⟨⟨_, crossing⟩, crossing', _⟩ := shared
  have active : first.status ∈ activeStatuses := left
  simp only [Tables.overlaps, room, beq_self_eq_true, included, active, crossing, crossing',
    decide_true, Bool.and_self]

def World.NoDoubleBooking (world : World n) : Prop :=
  ∀ i, ∀ first ∈ (world.shards i).bookings, ∀ j, ∀ second ∈ (world.shards j).bookings,
    first ≠ second → first.roomId = second.roomId → first.Active → second.Active →
    Disjoint first.stay second.stay

instance (first second : Booking) : Decidable (Disjoint first.stay second.stay) :=
  decidable_of_iff _ Set.Ico_disjoint_Ico.symm

instance (world : World n) : Decidable world.NoDoubleBooking :=
  have _inner (first : Booking) : Decidable (∀ j, ∀ second ∈ (world.shards j).bookings.rows,
      first ≠ second → first.roomId = second.roomId → first.Active → second.Active →
      Disjoint first.stay second.stay) := inferInstance
  inferInstanceAs (Decidable (∀ i, ∀ first ∈ (world.shards i).bookings.rows, _))

/-- The bookings of one room all lie on one shard, so the property is shard-wise. -/
theorem noDoubleBooking_iff {router : ShardRouter n}
    (placed : world.Everywhere (BookingsPlaced router)) : world.NoDoubleBooking ↔
      world.Everywhere fun _ tables => tables.bookings.ConflictFree Clash := by
  constructor
  · intro held i first left second right different clash
    exact clash.shared
      (held i first left i second right different clash.room clash.left clash.right)
  · intro held i first left j second right different room activeLeft activeRight
    have same : i = j := by
      rw [← (placed i).room left, ← (placed j).room right, room]
    subst same
    by_contra shared
    exact held i first left second right different ⟨room, activeLeft, activeRight, shared⟩

/-- The row that an update writes, if it writes one, clashes with no other booking. -/
def UpdateAdmitted (tables : Tables) (id : Text) (data : BookingData) : Prop :=
  ∀ old new, tables.bookings.find? id = some old → data.over old = .ok new →
    (tables.rooms.find? new.roomId).isSome → tables.bookings.Admits Clash new

theorem admits_of_reserves {data : Reservation} {created : Booking}
    (made : Reserves tables data none created) : tables.bookings.Admits Clash created := by
  intro other member _ clash
  have overlapping := clash.overlaps none rfl
  rw [made.free other member] at overlapping
  cases overlapping

/-- The one row that the new reservation may clash with is cancelled by the same transaction. -/
theorem conflictFree_reserveAndCancel {data : Reservation} {id : Text} {created old : Booking}
    (made : Reserves tables data (some id) created)
    {room : ((tables.insertBooking created made.fresh made.room).rooms.find? old.roomId).isSome}
    (found : (tables.insertBooking created made.fresh made.room).bookings.find? id = some old)
    (free : tables.bookings.ConflictFree Clash) :
    ((tables.insertBooking created made.fresh made.room).putBooking
      { old with status := .cancelled } room).bookings.ConflictFree Clash := by
  have key : old.id = id := (Table.find?_eq_some.mp found).2
  have cancelled : ¬ ({ old with status := .cancelled } : Booking).Active := by
    simp [Booking.Active, activeStatuses]
  have apart : ∀ other ∈ tables.bookings, other.id ≠ id → ¬ Clash other created := by
    intro other member different clash
    have overlapping := clash.overlaps (some id) (by simp [different])
    rw [made.free other member] at overlapping
    cases overlapping
  intro first left second right different clash
  rcases Table.mem_put.mp left with ⟨rfl, _⟩ | ⟨oldLeft, leftKey⟩
  · exact cancelled clash.left
  rcases Table.mem_put.mp right with ⟨rfl, _⟩ | ⟨oldRight, rightKey⟩
  · exact cancelled clash.right
  rw [key] at leftKey rightKey
  rcases Tables.mem_insertBooking.mp oldLeft with rfl | storedLeft <;>
    rcases Tables.mem_insertBooking.mp oldRight with rfl | storedRight
  · exact different rfl
  · exact apart second storedRight rightKey clash.symm
  · exact apart first storedLeft leftKey clash
  · exact free first storedLeft second storedRight different clash

theorem Issued.updateMany_cancels {id : Text} {statuses : List BookingStatus}
    {status : BookingStatus}
    (issued : Issued env entropy request (.shard i (.bookingUpdateMany id statuses status))) :
    status = .cancelled := by
  cases issued with
  | shardRead read => cases read
  | sagaCancel => rfl
  | compensate => rfl

/-- Every write other than an update by key keeps the bookings free of clashes, and
an update by key keeps them so exactly when the row it writes is admitted. -/
theorem conflictFree_wrote {stmt : Stmt} (issued : Issued env entropy request (.shard i stmt))
    (wrote : stmt.Wrote tables after) (free : tables.bookings.ConflictFree Clash) :
    after.bookings.ConflictFree Clash ↔
      ∀ id data, stmt = .bookingUpdate id data → UpdateAdmitted tables id data := by
  cases wrote with
  | @bookingUpdate id data old new found merged room =>
    have key : new.id = id :=
      (BookingData.over_ok merged).1.trans (Table.find?_eq_some.mp found).2
    rw [Tables.putBooking, Table.conflictFree_put clash_symmetric (key ▸ found) free]
    constructor
    · rintro admits _ _ ⟨⟩ other row foundOther mergedOther _
      obtain rfl := Option.some.inj (found.symm.trans foundOther)
      obtain rfl := Except.ok.inj (merged.symm.trans mergedOther)
      exact admits
    · intro admitted
      exact admitted id data rfl old new found merged room
  | bookingUpdateMany found listed room =>
    obtain rfl := issued.updateMany_cancels
    have key := (Table.find?_eq_some.mp found).2
    refine iff_of_true ?_ (by rintro _ _ ⟨⟩)
    refine (Table.conflictFree_put clash_symmetric (key ▸ found) free).mpr ?_
    exact fun other _ _ => not_clash_of_inactive (by simp [Booking.Active, activeStatuses])
  | bookingDelete =>
    exact iff_of_true (Table.conflictFree_erase free) (by rintro _ _ ⟨⟩)
  | reserve made =>
    refine iff_of_true ?_ (by rintro _ _ ⟨⟩)
    exact (Table.conflictFree_insert clash_symmetric made.fresh free).mpr
      (admits_of_reserves made)
  | reserveAndCancel made room found =>
    exact iff_of_true (conflictFree_reserveAndCancel made found free) (by rintro _ _ ⟨⟩)
  | read isRead => exact iff_of_true free (by rintro _ _ rfl; cases isRead)
  | _ => exact iff_of_true free (by rintro _ _ ⟨⟩)

/-- What a command must meet so that it makes no double booking. -/
def Admitted (world : World n) (cmd : Cmd n) : Prop :=
  ∀ i id data, cmd = .shard i (.bookingUpdate id data) → UpdateAdmitted (world.shards i) id data

theorem placed_exec {cmd : Cmd n} (issued : Issued env entropy request cmd)
    (placed : world.Everywhere (BookingsPlaced env.router)) :
    (World.exec cmd world).2.Everywhere (BookingsPlaced env.router) := by
  refine World.everywhere_exec ?_ placed
  rintro j stmt after rfl wrote held
  exact bookingsPlaced_wrote issued wrote held

/-- An update that fails writes no row. -/
theorem updateAdmitted_of_error {id : Text} {data : BookingData} {error : Err}
    (failed : tables.bookingUpdate id data = .error error) : UpdateAdmitted tables id data := by
  intro old new found merged room
  rw [Tables.bookingUpdate_stored found merged room] at failed
  cases failed

theorem noDoubleBooking_exec {cmd : Cmd n} (issued : Issued env entropy request cmd)
    (placed : world.Everywhere (BookingsPlaced env.router)) (held : world.NoDoubleBooking) :
    (World.exec cmd world).2.NoDoubleBooking ↔ Admitted world cmd := by
  rw [noDoubleBooking_iff placed] at held
  rw [noDoubleBooking_iff (placed_exec issued placed)]
  cases cmd with
  | guests stmt =>
    refine iff_of_true ?_ (by rintro _ _ _ ⟨⟩)
    simp only [World.exec]
    split <;> exact held
  | cache cmd => exact iff_of_true held (by rintro _ _ _ ⟨⟩)
  | shard i stmt =>
    cases done : stmt.exec (world.shards i) with
    | error error =>
      rw [World.exec_shard_error done]
      refine iff_of_true held ?_
      rintro _ id data ⟨⟩
      exact updateAdmitted_of_error done
    | ok result =>
      obtain ⟨answer, after⟩ := result
      rw [World.exec_shard_ok done]
      have exact_here := conflictFree_wrote issued (Stmt.wrote done) (held i)
      constructor
      · rintro free j id data ⟨⟩
        have here := free i
        rw [World.setShard_self] at here
        exact exact_here.mp here id data rfl
      · intro admitted j
        by_cases same : j = i
        · subst same
          rw [World.setShard_self]
          exact exact_here.mpr fun id data update => admitted j id data (update ▸ rfl)
        · rw [World.setShard_of_ne world same]
          exact held j

/-- Requests that change bookings, without PATCH. -/
inductive Request.BooksUnpatched : Request → Prop where
  | create {dto : CreateBookingDto} : BooksUnpatched (.createBooking dto)
  | cancel {id : Text} : BooksUnpatched (.cancelBooking id)
  | remove {id : Text} : BooksUnpatched (.removeBooking id)
  | relocate {id : Text} {dto : RelocateBookingDto} : BooksUnpatched (.relocateBooking id dto)

/-- T3 finds its reservation gone or still active, or the reservation that was cancelled
since T1 clashes, when it is active again, with no other booking of its room. -/
def ConfirmAdmitted (world : World n) (cmd : Cmd n) : Prop :=
  ∀ i id status, cmd = .shard i (.bookingUpdate id { status := .value status }) →
    status ∈ activeStatuses → ∀ reservation,
    (world.shards i).bookings.find? id = some reservation → ¬ reservation.Active →
    (world.shards i).bookings.Admits Clash { reservation with status }

/-- Of the updates that these requests issue, only T3 can write an active row. -/
theorem admitted_iff_confirmAdmitted {cmd : Cmd n} (unpatched : request.BooksUnpatched)
    (issued : Issued env entropy request cmd)
    (free : world.Everywhere fun _ tables => tables.bookings.ConflictFree Clash) :
    Admitted world cmd ↔ ConfirmAdmitted world cmd := by
  constructor
  · rintro admitted i id status rfl _ reservation found _
    refine admitted i id _ rfl reservation _ found (BookingData.over_status _ _) ?_
    exact (world.shards i).bookings_room reservation (Table.find?_eq_some.mp found).1
  · rintro confirm i id data rfl old new found merged room
    cases issued with
    | shardRead read => cases read
    | updateBooking guard => cases unpatched
    | cancelBooking =>
      cases merged
      exact fun other _ _ => not_clash_of_inactive (by simp [Booking.Active, activeStatuses])
    | sagaConfirm active otherShard =>
      cases merged
      by_cases still : old.Active
      · refine (free _).admits (Table.find?_eq_some.mp found).1 rfl fun other clash => ?_
        exact ⟨clash.room, clash.left, still, clash.shared⟩
      · exact confirm _ id _ rfl active old found still

/-- The bookings are placed and all waiting commands belong to the given calls. -/
structure PlacedClients (env : Env n) (calls : List (Call n)) (pool : Clients n) : Prop where
  placed : pool.state.Everywhere (BookingsPlaced env.router)
  uses : pool.Uses (IssuedBy env calls)

theorem PlacedClients.step {policy : Policy (signature n) Err (World n)} {calls : List (Call n)}
    {before later : Clients n} {event : Event (signature n) Err}
    (held : PlacedClients env calls before)
    (stepped : Pool.Step World.exec policy before event later) : PlacedClients env calls later := by
  obtain ⟨⟨call, _, issued⟩, uses⟩ := stepped.issued held.uses
  exact ⟨stepped.keeps held.placed (placed_exec issued held.placed), uses⟩

theorem noDoubleBooking_step {calls : List (Call n)}
    (unpatched : ∀ call ∈ calls, call.request.BooksUnpatched) {before later : Clients n}
    {event : Event (signature n) Err} (held : PlacedClients env calls before)
    (good : before.state.NoDoubleBooking)
    (stepped : Pool.Step World.exec Aborts before event later) :
    later.state.NoDoubleBooking ↔ ConfirmAdmitted before.state event.cmd := by
  obtain ⟨⟨call, listed, issued⟩, _⟩ := stepped.issued held.uses
  obtain ⟨permitted, result⟩ := stepped.state_eq
  rw [result]
  cases fault : event.fault with
  | none =>
    have free := (noDoubleBooking_iff held.placed).mp good
    rw [← admitted_iff_confirmAdmitted (unpatched call listed) issued free]
    exact noDoubleBooking_exec issued held.placed good
  | refused error =>
    refine iff_of_true good ?_
    rw [fault] at permitted
    cases permitted with
    | aborted transaction =>
      intro i id status update
      rw [update] at transaction
      cases transaction
  | lost error =>
    rw [fault] at permitted
    cases permitted

/-- Under concurrency no double booking is visited exactly when every T3 is admitted: the
reservation it confirms may have been cancelled, and its nights booked again, since T1. -/
theorem concurrent_noDoubleBooking (env : Env n) (calls : List (Call n))
    (unpatched : ∀ call ∈ calls, call.request.BooksUnpatched) (world : World n)
    (placed : world.Everywhere (BookingsPlaced env.router)) (initial : world.NoDoubleBooking)
    {trace : List (Move n)} {last : Clients n}
    (run : Run (Pool.Step World.exec Aborts) (clients env world calls) trace last) :
    (∀ move ∈ trace, move.after.state.NoDoubleBooking) ↔
      ∀ move ∈ trace, ConfirmAdmitted move.before.state move.event.cmd := by
  have keeps : ∀ {before event after}, PlacedClients env calls before →
      Pool.Step World.exec Aborts before event after → PlacedClients env calls after :=
    fun held stepped => held.step stepped
  have exact_step : ∀ {before event after}, PlacedClients env calls before →
      before.state.NoDoubleBooking → Pool.Step World.exec Aborts before event after →
      (after.state.NoDoubleBooking ↔ ConfirmAdmitted before.state event.cmd) :=
    fun held good stepped => noDoubleBooking_step unpatched held good stepped
  exact run.visits_iff keeps exact_step ⟨placed, clients_uses env world calls⟩ initial

/-- Its relocation to the other shard, a cancellation of the new reservation between T1 and T2,
and a booking of the nights that became free. -/
def rebooking : List (Call 2) :=
  [.sample (.relocateBooking (sampleKey 34 6) ⟨room201, false⟩) 7,
    .sample (.cancelBooking (sampleKey 53 7)) 8, .sample (sampleBooking room201 1 5) 9]

theorem rebooking_unpatched : ∀ call ∈ rebooking, call.request.BooksUnpatched := by
  simp only [rebooking, List.forall_mem_cons, List.not_mem_nil, false_implies, implies_true, and_true]
  exact ⟨.relocate, .cancel, .create⟩

def rebooked : Clients 2 :=
  (clients twoShards booked rebooking).play World.exec [0, 0, 1, 1, 2, 2, 0, 0]

theorem run_rebooked : ∃ trace, Run (Pool.Step World.exec Aborts)
    (clients twoShards booked rebooking) trace rebooked :=
  Pool.run_play Aborts.faultless _ _

theorem concurrent_doubleBooking : booked.NoDoubleBooking ∧
    (∀ call ∈ rebooking, call.request.BooksUnpatched) ∧
    ∃ trace last, Run (Pool.Step World.exec Aborts) (clients twoShards booked rebooking)
      trace last ∧ ¬ last.state.NoDoubleBooking := by
  obtain ⟨trace, run⟩ := run_rebooked
  exact ⟨by decide +kernel, rebooking_unpatched, trace, rebooked, run, by decide +kernel⟩

theorem concurrent_noDoubleBooking_rebooked : ∃ trace,
    Run (Pool.Step World.exec Aborts) (clients twoShards booked rebooking) trace rebooked ∧
    ∃ move ∈ trace, ¬ ConfirmAdmitted move.before.state move.event.cmd := by
  obtain ⟨trace, run⟩ := run_rebooked
  refine ⟨trace, run, ?_⟩
  have initial : booked.NoDoubleBooking := by decide +kernel
  have clash : ¬ rebooked.state.NoDoubleBooking := by decide +kernel
  have placed : booked.Everywhere (BookingsPlaced twoShards.router) := by
    unfold World.Everywhere
    decide +kernel
  by_contra admitted
  simp only [not_exists, not_and, not_not] at admitted
  have visited := (concurrent_noDoubleBooking twoShards rebooking rebooking_unpatched booked
    placed initial run).mpr admitted
  refine clash (run.visits_last (fun pool => pool.state.NoDoubleBooking) ?_ visited)
  simpa only [clients_state] using initial

end HotelBooking
