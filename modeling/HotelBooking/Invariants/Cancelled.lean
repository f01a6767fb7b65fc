import HotelBooking.Invariants.DoubleBooking

/-! CANCELLED as a terminal status. Of all statements only the status write of T3 can give
a cancelled row another status; it is sent for a reservation that was PENDING at T1. -/
namespace HotelBooking
open Relational Effect
variable {n : Nat} {env : Env n} {entropy : Entropy} {request : Request}
  {i : Fin n} {id : Text} {tables after : Tables} {world : World n}

def Stored (world : World n) (i : Fin n) (id : Text) : Prop :=
  ((world.shards i).bookings.find? id).isSome

def CancelledAt (world : World n) (i : Fin n) (id : Text) : Prop :=
  ∃ booking, (world.shards i).bookings.find? id = some booking ∧ booking.status = .cancelled

instance (world : World n) (i : Fin n) (id : Text) : Decidable (CancelledAt world i id) :=
  decidable_of_iff (((world.shards i).bookings.find? id).any
    fun booking => decide (booking.status = .cancelled)) (by
      unfold CancelledAt
      cases (world.shards i).bookings.find? id <;> simp)

/-- A status write that gives the cancelled row `id` another status. -/
def Reactivates (world : World n) (cmd : Cmd n) (i : Fin n) (id : Text) : Prop :=
  ∃ status, cmd = .shard i (.bookingUpdate id { status := .value status }) ∧
    status ≠ .cancelled ∧ CancelledAt world i id

/-- PATCH has no status to write. -/
theorem patchData_status {platform : Platform} {dto : UpdateBookingDto} {old new : Booking}
    (merged : (BookingsService.patchData platform dto).over old = .ok new) :
    new.status = old.status := by
  obtain ⟨_, _, status⟩ := BookingData.over_ok merged
  exact (Except.ok.inj status).symm

/-- A cancelled row that is still stored after a write is still cancelled, unless the
write is a status write for it. -/
theorem cancelled_wrote {stmt : Stmt} {old new : Booking}
    (issued : Issued env entropy request (.shard i stmt)) (wrote : stmt.Wrote tables after)
    (found : tables.bookings.find? id = some old) (cancelled : old.status = .cancelled)
    (kept : after.bookings.find? id = some new) :
    new.status = .cancelled ∨ ∃ status, stmt = .bookingUpdate id { status := .value status } ∧
      status ≠ .cancelled := by
  have unchanged : after.bookings = tables.bookings → new.status = .cancelled := by
    intro same
    rw [same, found] at kept
    cases kept
    exact cancelled
  cases wrote with
  | @bookingUpdate key data old' booking found' merged room =>
    have sameKey : booking.id = key :=
      (BookingData.over_ok merged).1.trans (Table.find?_eq_some.mp found').2
    rw [Tables.find?_putBooking found' sameKey] at kept
    split at kept
    · next here =>
      cases kept
      obtain rfl : key = id := sameKey.symm.trans here
      obtain rfl := Option.some.inj (found.symm.trans found')
      cases issued with
      | shardRead read => cases read
      | updateBooking => exact Or.inl ((patchData_status merged).trans cancelled)
      | cancelBooking =>
        cases merged
        exact Or.inl rfl
      | sagaConfirm active otherShard =>
        refine Or.inr ⟨_, rfl, ?_⟩
        rintro rfl
        simp [activeStatuses] at active
    · rw [found] at kept
      cases kept
      exact Or.inl cancelled
  | @bookingUpdateMany key statuses status old' found' listed room =>
    obtain rfl := issued.updateMany_cancels
    have sameKey : ({ old' with status := .cancelled } : Booking).id = key :=
      (Table.find?_eq_some.mp found').2
    rw [Tables.find?_putBooking found' sameKey] at kept
    split at kept
    · cases kept
      exact Or.inl rfl
    · rw [found] at kept
      cases kept
      exact Or.inl cancelled
  | bookingDelete =>
    rw [Tables.find?_eraseBooking] at kept
    split at kept
    · cases kept
    · rw [found] at kept
      cases kept
      exact Or.inl cancelled
  | @reserve data created made =>
    rw [Tables.find?_insertBooking, if_neg (made.id_ne found), found] at kept
    cases kept
    exact Or.inl cancelled
  | @reserveAndCancel data key created old' made room found' =>
    have sameKey : ({ old' with status := .cancelled } : Booking).id = key :=
      (Table.find?_eq_some.mp found').2
    rw [Tables.find?_putBooking found' sameKey] at kept
    split at kept
    · cases kept
      exact Or.inl rfl
    · rw [Tables.find?_insertBooking, if_neg (made.id_ne found), found] at kept
      cases kept
      exact Or.inl cancelled
  | _ => exact Or.inl (unchanged rfl)

theorem cancelled_exec {cmd : Cmd n} (issued : Issued env entropy request cmd)
    (cancelled : CancelledAt world i id) (kept : Stored (World.exec cmd world).2 i id)
    (quiet : ¬ Reactivates world cmd i id) : CancelledAt (World.exec cmd world).2 i id := by
  cases cmd with
  | cache cmd => exact cancelled
  | guests stmt =>
    simp only [World.exec]
    split <;> exact cancelled
  | shard j stmt =>
    cases done : stmt.exec (world.shards j) with
    | error error =>
      rw [World.exec_shard_error done]
      exact cancelled
    | ok result =>
      obtain ⟨answer, after⟩ := result
      rw [World.exec_shard_ok done] at kept ⊢
      by_cases same : i = j
      · subst same
        simp only [Stored, World.setShard_self] at kept
        obtain ⟨new, stored⟩ := Option.isSome_iff_exists.mp kept
        obtain ⟨old, found, status⟩ := cancelled
        rcases cancelled_wrote issued (Stmt.wrote done) found status stored with still | revived
        · exact ⟨new, by rwa [World.setShard_self], still⟩
        · obtain ⟨other, rfl, active⟩ := revived
          exact absurd ⟨other, rfl, active, old, found, status⟩ quiet
      · simpa only [CancelledAt, World.setShard_of_ne world same] using cancelled

/-- The status write of a stored row always succeeds. -/
theorem reactivated_exec {cmd : Cmd n} (reactivates : Reactivates world cmd i id) :
    Stored (World.exec cmd world).2 i id ∧ ¬ CancelledAt (World.exec cmd world).2 i id := by
  obtain ⟨status, rfl, active, old, found, _⟩ := reactivates
  have room := (world.shards i).bookings_room old (Table.find?_eq_some.mp found).1
  have key : ({ old with status } : Booking).id = id := (Table.find?_eq_some.mp found).2
  have done : Stmt.exec (.bookingUpdate id { status := .value status }) (world.shards i) =
      .ok ({ old with status }, (world.shards i).putBooking { old with status } room) :=
    Tables.bookingUpdate_stored found (BookingData.over_status old status) room
  have stored : ((World.exec (.shard i (.bookingUpdate id { status := .value status }))
      world).2.shards i).bookings.find? id = some { old with status } := by
    rw [World.exec_shard_ok done, World.setShard_self, Tables.find?_putBooking found key, if_pos key]
  refine ⟨by rw [Stored, stored]; rfl, ?_⟩
  rintro ⟨booking, found', cancelled⟩
  rw [stored] at found'
  cases found'
  exact active cancelled

/-- Wherever in the run a stored row is cancelled, it stays so as long as it is stored. A row
inserted later under the same key is another row. -/
def StaysCancelled (trace : List (Move n)) : Prop :=
  ∀ early life late, trace = early ++ (life ++ late) → ∀ i id,
    (∀ first ∈ life.head?, CancelledAt first.before.state i id) →
    (∀ move ∈ life, Stored move.after.state i id) →
    ∀ move ∈ life, CancelledAt move.after.state i id

/-- A fault only aborts transactions, and no transaction is a status write. -/
theorem reactivates_answered {before later : Clients n} {event : Event (signature n) Err}
    (stepped : Pool.Step World.exec Aborts before event later)
    (reactivates : Reactivates before.state event.cmd i id) :
    later.state = (World.exec event.cmd before.state).2 := by
  obtain ⟨permitted, result⟩ := stepped.state_eq
  obtain ⟨status, write, _⟩ := reactivates
  rw [write] at permitted
  cases fault : event.fault with
  | none => rw [result, fault]; rfl
  | refused error =>
    rw [fault] at permitted
    cases permitted with
    | aborted transaction => cases transaction
  | lost error =>
    rw [fault] at permitted
    cases permitted

theorem cancelled_step {calls : List (Call n)} {before later : Clients n}
    {event : Event (signature n) Err} (issued : IssuedBy env calls event.cmd)
    (stepped : Pool.Step World.exec Aborts before event later)
    (cancelled : CancelledAt before.state i id) (kept : Stored later.state i id)
    (quiet : ¬ Reactivates before.state event.cmd i id) : CancelledAt later.state i id := by
  obtain ⟨call, _, issued⟩ := issued
  obtain ⟨_, result⟩ := stepped.state_eq
  rcases event.fault.apply_state World.exec event.cmd before.state with executed | unchanged
  · rw [result, executed] at kept ⊢
    exact cancelled_exec issued cancelled kept quiet
  · rw [result, unchanged]
    exact cancelled

/-- CANCELLED is terminal in a run exactly when no status write of the run, that is no T3,
finds its row cancelled. -/
theorem staysCancelled_iff (env : Env n) (world : World n) (calls : List (Call n))
    {trace : List (Move n)} {last : Clients n}
    (run : Run (Pool.Step World.exec Aborts) (clients env world calls) trace last) :
    StaysCancelled trace ↔
      ∀ move ∈ trace, ∀ i id, ¬ Reactivates move.before.state move.event.cmd i id := by
  constructor
  · intro stays move member i id reactivates
    obtain ⟨early, late, split⟩ := List.append_of_mem member
    obtain ⟨stored, revived⟩ := reactivated_exec reactivates
    rw [← reactivates_answered (run.steps move member) reactivates] at stored revived
    have cancelled : CancelledAt move.before.state i id := reactivates.choose_spec.2.2
    refine revived (stays early [move] late split i id ?_ ?_ move List.mem_cons_self)
    · rintro first ⟨⟩
      exact cancelled
    · simpa only [List.forall_mem_singleton] using stored
  · rintro quiet early life late rfl i id cancelled stored
    have issued := Pool.run_issued (clients_uses env world calls) run
    obtain ⟨born, _, rest⟩ := run.split
    obtain ⟨dead, living, _⟩ := rest.split
    intro move member
    have initial : CancelledAt born.state i id := by
      cases life with
      | nil => exact absurd member List.not_mem_nil
      | cons first more => exact living.before_head rfl ▸ cancelled first rfl
    refine (living.carries (fun pool => CancelledAt pool.state i id) initial ?_).1 move member
    · intro step inLife before
      have inTrace : step ∈ early ++ (life ++ late) :=
        List.mem_append_right _ (List.mem_append_left _ inLife)
      exact cancelled_step (issued step inTrace) (run.steps step inTrace) before
        (stored step inLife) (quiet step inTrace i id)

/-- The relocation of `rebooking` as far as T2, with its reservation cancelled after T1. -/
def cancelledBeforeConfirm : Clients 2 :=
  (clients twoShards booked rebooking).play World.exec [0, 0, 1, 1, 0]

theorem cancelled_revived : ∃ trace last,
    Run (Pool.Step World.exec Aborts) (clients twoShards booked rebooking) trace last ∧
      ¬ StaysCancelled trace := by
  obtain ⟨early, run⟩ : ∃ trace, Run (Pool.Step World.exec Aborts)
      (clients twoShards booked rebooking) trace cancelledBeforeConfirm :=
    Pool.run_play Aborts.faultless _ _
  obtain ⟨life, run, moves, moved⟩ := Pool.run_serve Aborts.faultless run 0
  refine ⟨_, _, run, fun stays => ?_⟩
  have cancelled : CancelledAt cancelledBeforeConfirm.state 1 (sampleKey 53 7) := by decide +kernel
  have revived : Stored (cancelledBeforeConfirm.serve World.exec 0).state 1 (sampleKey 53 7) ∧
      ¬ CancelledAt (cancelledBeforeConfirm.serve World.exec 0).state 1 (sampleKey 53 7) := by
    unfold Stored
    decide +kernel
  cases life with
  | nil =>
    rw [moved rfl] at revived
    exact revived.2 cancelled
  | cons confirm rest =>
    obtain ⟨before, after⟩ := moves confirm List.mem_cons_self
    have still := stays early (confirm :: rest) [] (by rw [List.append_nil]) 1 (sampleKey 53 7)
      (by rintro _ ⟨⟩; rw [before]; exact cancelled)
      (fun move member => by rw [(moves move member).2]; exact revived.1) confirm List.mem_cons_self
    rw [after] at still
    exact revived.2 still

theorem staysCancelled_iff_rebooking : ∃ trace last,
    Run (Pool.Step World.exec Aborts) (clients twoShards booked rebooking) trace last ∧
      (StaysCancelled trace ↔
        ∀ move ∈ trace, ∀ i id, ¬ Reactivates move.before.state move.event.cmd i id) := by
  obtain ⟨trace, run⟩ := run_rebooked
  exact ⟨trace, rebooked, run, staysCancelled_iff twoShards booked rebooking run⟩

end HotelBooking
