import HotelBooking.Invariants.Ownership
import HotelBooking.Invariants.DoubleBooking

/-! The life of a booking's status. Requests create PENDING bookings and cancel them; any
other status is only handed on, by a relocation, from a booking that has it. -/
namespace HotelBooking
open Relational Effect
variable {n : Nat} {env : Env n} {entropy : Entropy} {request : Request} {world : World n}
  {good : BookingStatus → Prop} {tables after : Tables} {i : Fin n}

/-- Every stored booking has one of the good statuses. -/
def StatusesIn (good : BookingStatus → Prop) (tables : Tables) : Prop :=
  ∀ booking ∈ tables.bookings, good booking.status

theorem StatusesIn.insert {booking : Booking} (held : StatusesIn good tables)
    (fresh : tables.bookings.find? booking.id = none)
    (room : (tables.rooms.find? booking.roomId).isSome) (here : good booking.status) :
    StatusesIn good (tables.insertBooking booking fresh room) := by
  intro other member
  rcases Tables.mem_insertBooking.mp member with rfl | old
  · exact here
  · exact held other old

theorem StatusesIn.put {booking : Booking} (held : StatusesIn good tables)
    {room : (tables.rooms.find? booking.roomId).isSome} (here : good booking.status) :
    StatusesIn good (tables.putBooking booking room) := by
  intro other member
  rcases Table.mem_put.mp member with ⟨rfl, _⟩ | ⟨old, _⟩
  · exact here
  · exact held other old

theorem Issued.reserve_pending {data : Reservation}
    (issued : Issued env entropy request (.shard i (.reserve data))) : data.status = .pending := by
  cases issued with
  | shardRead read => cases read
  | createBooking _ _ _ _ _ _ status => exact status
  | sagaReserve => rfl

/-- The status that an update writes: the old one, CANCELLED or one that it was told. -/
theorem Grounded.update_status {id : Text} {data : BookingData} {old new : Booking}
    (grounded : Grounded good env entropy request (.shard i (.bookingUpdate id data)))
    (merged : data.over old = .ok new) :
    new.status = old.status ∨ new.status = .cancelled ∨ new.status ∈ activeStatuses ∧ good new.status := by
  cases grounded.issued with
  | shardRead read => cases read
  | updateBooking =>
    exact Or.inl (Except.ok.inj (BookingData.over_ok merged).2.2).symm
  | cancelBooking =>
    cases merged
    exact Or.inr (Or.inl rfl)
  | sagaConfirm active =>
    cases merged
    rcases (grounded.update _ _ _ rfl).2 with rfl | told
    · exact Or.inr (Or.inl rfl)
    · exact Or.inr (Or.inr ⟨active, told⟩)

theorem statusesIn_wrote {stmt : Stmt} (pending : good .pending) (cancelled : good .cancelled)
    (grounded : Grounded good env entropy request (.shard i stmt))
    (wrote : stmt.Wrote tables after) (held : StatusesIn good tables) : StatusesIn good after := by
  cases wrote with
  | bookingUpdate found merged =>
    refine held.put ?_
    rcases grounded.update_status merged with same | same | ⟨_, told⟩
    · rw [same]
      exact held _ (Table.find?_eq_some.mp found).1
    · rw [same]
      exact cancelled
    · exact told
  | bookingUpdateMany =>
    obtain rfl := grounded.issued.updateMany_cancels
    exact held.put cancelled
  | bookingDelete =>
    intro booking member
    exact held booking (Table.mem_erase.mp member).1
  | reserve made =>
    refine held.insert made.fresh made.room ?_
    rw [made.status, grounded.issued.reserve_pending]
    exact pending
  | reserveAndCancel made =>
    refine (held.insert made.fresh made.room ?_).put cancelled
    rw [made.status]
    exact grounded.exchange _ _ _ rfl
  | _ => exact held

theorem sustains_statuses {calls : List (Call n)} (pending : good .pending)
    (cancelled : good .cancelled) :
    Sustains World.exec (Told good) (fun cmd => ∃ client, GroundedBy good env calls client cmd)
      (World.Everywhere fun _ tables => StatusesIn good tables) where
  answers _ cmd held _ := told_exec held cmd
  errors := told_error good
  keeps state cmd held := by
    rintro ⟨_, call, _, grounded⟩
    refine World.everywhere_exec ?_ held
    rintro i stmt after rfl wrote before
    exact statusesIn_wrote pending cancelled grounded wrote before

/-- The completed bookings, by their keys. -/
def CompletedIn (tables : Tables) (id : Text) : Prop :=
  ∃ booking ∈ tables.bookings, booking.id = id ∧ booking.status = .completed

theorem not_completed_of_active {status : BookingStatus} (active : status ∈ activeStatuses) :
    status ≠ .completed := by
  rintro rfl
  simp [activeStatuses] at active

theorem completed_of_insert {booking : Booking} {fresh : tables.bookings.find? booking.id = none}
    {room : (tables.rooms.find? booking.roomId).isSome} {id : Text}
    (new : booking.status ≠ .completed)
    (completed : CompletedIn (tables.insertBooking booking fresh room) id) :
    CompletedIn tables id := by
  obtain ⟨other, member, same, status⟩ := completed
  rcases Tables.mem_insertBooking.mp member with rfl | old
  · exact absurd status new
  · exact ⟨other, old, same, status⟩

theorem completed_of_put {booking old : Booking} {room : (tables.rooms.find? booking.roomId).isSome}
    {id : Text} (stored : old ∈ tables.bookings) (key : booking.id = old.id)
    (kept : booking.status = .completed → old.status = .completed)
    (completed : CompletedIn (tables.putBooking booking room) id) : CompletedIn tables id := by
  obtain ⟨other, member, same, status⟩ := completed
  rcases Table.mem_put.mp member with ⟨rfl, _⟩ | ⟨stored, _⟩
  · exact ⟨old, stored, key.symm.trans same, kept status⟩
  · exact ⟨other, stored, same, status⟩

/-- No statement of a request completes a booking. -/
theorem completed_wrote {stmt : Stmt} {id : Text}
    (grounded : Grounded good env entropy request (.shard i stmt))
    (wrote : stmt.Wrote tables after) (completed : CompletedIn after id) : CompletedIn tables id := by
  cases wrote with
  | bookingUpdate found merged =>
    have stored := (Table.find?_eq_some.mp found).1
    refine completed_of_put stored (BookingData.over_ok merged).1 ?_ completed
    intro status
    rcases grounded.update_status merged with same | same | ⟨active, _⟩
    · exact same ▸ status
    · cases status.symm.trans same
    · exact absurd status (not_completed_of_active active)
  | bookingUpdateMany found =>
    obtain rfl := grounded.issued.updateMany_cancels
    refine completed_of_put (Table.find?_eq_some.mp found).1 ?_ ?_ completed
    · rfl
    · rintro ⟨⟩
  | bookingDelete =>
    obtain ⟨booking, member, same, status⟩ := completed
    exact ⟨booking, (Table.mem_erase.mp member).1, same, status⟩
  | reserve made =>
    refine completed_of_insert ?_ completed
    rw [made.status, grounded.issued.reserve_pending]
    rintro ⟨⟩
  | reserveAndCancel made room found =>
    refine completed_of_insert ?_
      (completed_of_put (Table.find?_eq_some.mp found).1 ?_ ?_ completed)
    · rw [made.status]
      cases grounded.issued with
      | shardRead read => cases read
      | relocateLocally active => exact not_completed_of_active active
    · rfl
    · rintro ⟨⟩
  | _ => exact completed

/-- The bookings that are completed now were so at the start. -/
def CompletedSince (start world : World n) : Prop :=
  world.Everywhere fun i tables => ∀ id, CompletedIn tables id → CompletedIn (start.shards i) id

theorem completedSince_exec {start : World n} {cmd : Cmd n} {calls : List (Call n)} {client : Nat}
    (held : CompletedSince start world) (grounded : GroundedBy good env calls client cmd) :
    CompletedSince start (World.exec cmd world).2 := by
  obtain ⟨call, _, grounded⟩ := grounded
  refine World.everywhere_exec ?_ held
  rintro i stmt after rfl wrote before id completed
  exact before id (completed_wrote grounded wrote completed)

/-- The status that a write leaves in a booking. -/
def Cmd.status? : Cmd n → Option BookingStatus
  | .shard _ (.reserve data) => some data.status
  | .shard _ (.reserveAndCancel data _) => some data.status
  | .shard _ (.bookingUpdate _ { status := .value status, .. }) => some status
  | .shard _ (.bookingUpdateMany _ _ status) => some status
  | _ => none

/-- The status of this booking, as a read has found it. -/
def Cmd.shownStatus (id : Text) : (cmd : Cmd n) → Except Err cmd.Answer → Option BookingStatus
  | .shard _ (.bookingFindUnique key), .ok (some row) => if key = id then some row.status else none
  | _, _ => none

/-- The client has read the status of the booking. -/
def StatusRead (trace : List (Move n)) (client : Nat) (id : Text) (status : BookingStatus) : Prop :=
  ∃ read ∈ trace, read.event.client = client ∧
    Cmd.shownStatus id read.event.cmd (Pool.reply World.exec read) = some status

/-- Where a relocation of the booking may have the status from that it writes: T1 makes a PENDING
reservation, T2 and the compensation cancel, and the others write what the relocation has read. -/
inductive HandsOn (trace : List (Move n)) (client : Nat) (id : Text) : Cmd n → BookingStatus → Prop where
  | pending {i : Fin n} {data : Reservation} :
      HandsOn trace client id (.shard i (.reserve data)) .pending
  | cancelled {i : Fin n} {key : Text} {statuses : List BookingStatus} :
      HandsOn trace client id (.shard i (.bookingUpdateMany key statuses .cancelled)) .cancelled
  | read {cmd : Cmd n} {status : BookingStatus} : StatusRead trace client id status →
      HandsOn trace client id cmd status

/-- A relocation that was told good statuses only, writes one of these. -/
theorem Grounded.handsOn {id : Text} {dto : RelocateBookingDto} {cmd : Cmd n} {trace : List (Move n)}
    {client : Nat} {status : BookingStatus}
    (grounded : Grounded (StatusRead trace client id) env entropy (.relocateBooking id dto) cmd)
    (writes : cmd.status? = some status) : HandsOn trace client id cmd status := by
  have issued := grounded.issued
  unfold Cmd.status? at writes
  split at writes
  · next i data =>
    obtain rfl := Option.some.inj writes
    rw [issued.reserve_pending]
    exact .pending
  · obtain rfl := Option.some.inj writes
    exact .read (grounded.exchange _ _ _ rfl)
  · next i key room guest arrives leaves given =>
    obtain rfl := Option.some.inj writes
    generalize written : BookingData.mk room guest arrives leaves (.value given) = data at issued
    cases issued with
    | shardRead read => cases read
    | sagaConfirm active =>
      cases written
      rcases (grounded.update _ _ _ rfl).2 with rfl | told
      · simp [activeStatuses] at active
      · exact .read told
  · obtain rfl := Option.some.inj writes
    obtain rfl := issued.updateMany_cancels
    exact .cancelled
  · cases writes

/-- Replies that a client got, as what it relies on: the statuses of the booking that it relocates
are those that it has read. -/
theorem told_read {calls : List (Call n)} {policy : Policy (signature n) Err (World n)}
    {trace : List (Move n)} {last : Clients n}
    (run : Run (Pool.Step World.exec policy) (clients env world calls) trace last)
    {client : Nat} {call : Call n} {id : Text} {dto : RelocateBookingDto}
    (listed : calls[client]? = some call) (asked : call.request = .relocateBooking id dto) :
    ∀ move ∈ trace, move.event.client = client →
      Told (StatusRead trace client id) move.event.cmd (Pool.reply World.exec move) := by
  intro move member mine
  obtain ⟨other, found, grounded⟩ := clients_own run move member
  obtain rfl : other = call := Option.some.inj (found.symm.trans (mine ▸ listed))
  have shown := fun status here =>
    (⟨move, member, mine, here⟩ : StatusRead trace client id status)
  have truth : Told (fun _ => True) move.event.cmd (Pool.reply World.exec move) := by
    obtain ⟨before, ⟨i, cmd, fault⟩, after⟩ := move
    cases fault with
    | none => exact told_exec (fun _ _ _ => trivial) cmd
    | refused error | lost error => exact told_error _ cmd error
  generalize Pool.reply World.exec move = reply at shown truth ⊢
  generalize move.event.cmd = cmd at grounded reply shown truth ⊢
  unfold Told
  split
  · next i key row =>
    obtain rfl : key = id := grounded.keys id dto asked
    exact shown row.status (if_pos rfl)
  · exact truth
  · trivial

/-- Whatever requests interleave and whatever commands fail: no booking has a status other than
PENDING and CANCELLED that no booking had at the start, and no booking becomes COMPLETED. Besides
PENDING and CANCELLED a relocation writes only the status that it has read of its booking. -/
theorem statuses_handed_on (env : Env n) (calls : List (Call n)) (world : World n)
    {trace : List (Move n)} {last : Clients n}
    (run : Run (Pool.Step World.exec AnyFault) (clients env world calls) trace last) (i : Fin n) :
    (∀ booking ∈ (last.state.shards i).bookings,
      booking.status = .pending ∨ booking.status = .cancelled ∨
        ∃ j, ∃ first ∈ (world.shards j).bookings, first.status = booking.status) ∧
    (∀ booking ∈ (last.state.shards i).bookings, booking.status = .completed →
      ∃ first ∈ (world.shards i).bookings, first.id = booking.id ∧ first.status = .completed) ∧
    ∀ early move late call id dto status, trace = early ++ move :: late →
      calls[move.event.client]? = some call → call.request = .relocateBooking id dto →
      move.event.cmd.status? = some status →
      HandsOn early move.event.client id move.event.cmd status := by
  let good (status : BookingStatus) : Prop := status = .pending ∨ status = .cancelled ∨
    ∃ j, ∃ first ∈ (world.shards j).bookings, first.status = status
  have initial : world.Everywhere fun _ tables => StatusesIn good tables :=
    fun j booking member => Or.inr (Or.inr ⟨j, booking, member, rfl⟩)
  have sustains : Sustains World.exec (Told good)
      (fun cmd => ∃ client, GroundedBy good env calls client cmd) (World.Everywhere fun _ tables => StatusesIn good tables) :=
    sustains_statuses (Or.inl rfl) (Or.inr (Or.inl rfl))
  obtain ⟨guaranteed, final⟩ := (clients_honours initial).run sustains run
  have since : CompletedSince world last.state := by
    refine (run.carries (fun pool => CompletedSince world pool.state) (fun _ _ done => done) ?_).2
    intro move member held
    exact (run.steps move member).keeps held (completedSince_exec held (guaranteed move member).2)
  refine ⟨final.state i, ?_, ?_⟩
  · intro booking member status
    exact since i booking.id ⟨booking, member, rfl, status⟩
  · intro early move late call id dto status split listed asked writes
    have begins : (clients env world calls).clients[move.event.client]? = some (call.program env) := by
      rw [clients, List.getElem?_map, listed, Option.map_some]
    have grounded := Pool.guaranteed_told run split begins
      (warrants_program (StatusRead early move.event.client id) env call)
      (told_read (run.cut split) listed asked)
    rw [asked] at grounded
    exact grounded.handsOn writes

theorem statuses_handed_on_rebooked : ∃ trace,
    Run (Pool.Step World.exec AnyFault) (clients twoShards booked rebooking) trace rebooked ∧
    ∀ i, ∀ booking ∈ (rebooked.state.shards i).bookings, booking.status ≠ .completed := by
  obtain ⟨trace, run⟩ : ∃ trace, Run (Pool.Step World.exec AnyFault)
      (clients twoShards booked rebooking) trace rebooked := Pool.run_play (fun _ _ => trivial) _ _
  refine ⟨trace, run, ?_⟩
  intro i booking member status
  obtain ⟨first, stored, _, completed⟩ :=
    (statuses_handed_on twoShards rebooking booked run i).2.1 booking member status
  have none : ∀ i, ∀ booking ∈ (booked.shards i).bookings.rows, booking.status ≠ .completed := by
    decide +kernel
  exact none i first stored completed

end HotelBooking
