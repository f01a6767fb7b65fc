import HotelBooking.Services.Relocations
import HotelBooking.Relocation.Atomicity

/-! Whose rows they are. Requests interleave and commands fail at will, and still each change of a
row is one that the request of its client was asked for: it names the row, or has made up the
identifier. No compensation, retry or lost reply reaches a row of another request. -/
namespace HotelBooking
open Effect
variable {n : Nat} {env : Env n}

/-- The request is one that may change the row like this. -/
structure MayChange (env : Env n) (call : Call n) (cell : Cell n) (before after : Option Row) : Prop where
  names : call.request.names env call.entropy cell
  created : before = none → call.request.makes = true
  removed : after = none → call.request.removes = true

/-- Each client writes the rows that its own call names. -/
theorem clients_own {calls : List (Call n)} {world : World n}
    {policy : Policy (signature n) Err (World n)} {trace : List (Move n)} {last : Clients n}
    (run : Run (Pool.Step World.exec policy) (clients env world calls) trace last) :
    ∀ move ∈ trace, ∃ call, calls[move.event.client]? = some call ∧
      Grounded (fun _ => True) env call.entropy call.request move.event.cmd := by
  have sustains : Sustains World.exec (Told fun _ => True)
      (fun cmd => ∃ client, GroundedBy (fun _ => True) env calls client cmd) fun _ => True :=
    ⟨fun _ cmd _ _ => told_exec (fun _ _ _ => trivial) cmd, told_error _, fun _ _ _ _ => trivial⟩
  have honours : (clients env world calls).Honours (Told fun _ => True)
      (GroundedBy (fun _ => True) env calls) fun _ => True := clients_honours trivial
  exact fun move member => ((honours.run sustains run).1 move member).2

theorem row_changed {calls : List (Call n)} {world : World n}
    {policy : Policy (signature n) Err (World n)} {trace : List (Move n)} {last : Clients n}
    (run : Run (Pool.Step World.exec policy) (clients env world calls) trace last)
    {move : Move n} (member : move ∈ trace) {cell : Cell n}
    (changed : move.after.state.row? cell ≠ move.before.state.row? cell) :
    ∃ call, calls[move.event.client]? = some call ∧
      MayChange env call cell (move.before.state.row? cell) (move.after.state.row? cell) := by
  obtain ⟨call, here, grounded⟩ := clients_own run move member
  have applied := (run.steps move member).state_eq.2
  rcases move.event.fault.apply_state World.exec move.event.cmd move.before.state with
    executed | unchanged
  · rw [applied, executed] at changed ⊢
    have changes := World.exec_changes changed
    exact ⟨call, here, grounded.own cell changes.target,
      fun missing => grounded.issued.inserts (changes.inserted missing),
      fun gone => grounded.issued.erases (changes.erased gone)⟩
  · rw [applied, unchanged] at changed
    exact absurd rfl changed

/-- Every row of every table has its owners. Whatever requests interleave and whatever commands
fail or lose their replies: who changes a row names it, who makes one was asked to create, who
makes one disappear was asked to remove it; and a row that no request names stays as it was. -/
theorem rows_owned (env : Env n) (calls : List (Call n)) (world : World n)
    {trace : List (Move n)} {last : Clients n}
    (run : Run (Pool.Step World.exec AnyFault) (clients env world calls) trace last)
    (cell : Cell n) :
    (∀ move ∈ trace, move.after.state.row? cell ≠ move.before.state.row? cell →
      ∃ call, calls[move.event.client]? = some call ∧
        MayChange env call cell (move.before.state.row? cell) (move.after.state.row? cell)) ∧
    ((∀ call ∈ calls, ¬ call.request.names env call.entropy cell) →
      last.state.row? cell = world.row? cell) := by
  refine ⟨fun move member changed => row_changed run member changed, fun unnamed => ?_⟩
  refine (run.carries (fun pool => pool.state.row? cell = world.row? cell) rfl ?_).2
  intro move member kept
  by_contra changed
  obtain ⟨call, here, may⟩ := row_changed run member fun same => changed (same.trans kept)
  exact unnamed call (List.mem_of_getElem? here) may.names

/-- A cancellation while another request lists the bookings. -/
def cancelling : List (Move 2) × Clients 2 :=
  (clients twoShards booked [.sample (.cancelBooking bookedRow.id) 1, .sample .findBookings 2]).record
    World.exec [(1, .none), (0, .none), (0, .none), (0, .none)]

theorem rows_owned_cancelling : ∃ (move : Move 2) (call : Call 2), move.event.client = 0 ∧
    MayChange twoShards call (twoShards.router.home .booking bookedRow.id)
      (move.before.state.row? (twoShards.router.home .booking bookedRow.id))
      (move.after.state.row? (twoShards.router.home .booking bookedRow.id)) := by
  have run : Run (Pool.Step World.exec AnyFault) (clients twoShards booked
      [.sample (.cancelBooking bookedRow.id) 1, .sample .findBookings 2]) cancelling.1 cancelling.2 :=
    Pool.run_record fun _ _ => trivial
  obtain ⟨move, member, first, changed⟩ : ∃ move ∈ cancelling.1, move.event.client = 0 ∧
      move.after.state.row? (twoShards.router.home .booking bookedRow.id) ≠
        move.before.state.row? (twoShards.router.home .booking bookedRow.id) := by
    decide +kernel
  obtain ⟨call, _, may⟩ := (rows_owned twoShards _ booked run _).1 move member changed
  exact ⟨move, call, first, may⟩

end HotelBooking
