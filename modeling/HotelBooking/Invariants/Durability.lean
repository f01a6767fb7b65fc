import HotelBooking.Services.Acknowledgements
import HotelBooking.Invariants.Ownership

/-! Acknowledged writes are commits. Requests interleave and commands fail at will: the row that
a write request answers was stored by a command of this request, as it was answered, and it
stands until a request that names the row changes it. -/
namespace HotelBooking
open Effect
variable {n : Nat} {env : Env n}

/-- A move whose reply reports a row has executed its command. -/
theorem committed_of_reported {move : Move n} {policy : Policy (signature n) Err (World n)}
    (step : Pool.Step World.exec policy move.before move.event move.after) {cell : Cell n} {row : Row}
    (reported : move.event.cmd.reports (Pool.reply World.exec move) = some (cell, row)) :
    cell ∈ move.event.cmd.targets ∧ Landed move.event.cmd.erases row
      (move.before.state.row? cell) (move.after.state.row? cell) := by
  have applied := step.state_eq.2
  obtain ⟨before, ⟨client, cmd, fault⟩, after⟩ := move
  dsimp only at reported applied ⊢
  rw [applied]
  cases fault with
  | none =>
    cases done : World.exec cmd before.state with
    | mk reply world =>
      have same : Pool.reply World.exec ⟨before, ⟨client, cmd, .none⟩, after⟩ = reply :=
        congrArg Prod.fst done
      have left : (Fault.none.apply World.exec cmd before.state).2 = world := congrArg Prod.snd done
      rw [same] at reported
      rw [left]
      cases reply with
      | ok answer => exact World.reports_exec done reported
      | error error => cases (Cmd.reports_error error).symm.trans reported
  | refused error => cases (Cmd.reports_error error).symm.trans reported
  | lost error => cases (Cmd.reports_error error).symm.trans reported

/-- What is acknowledged is committed, and lasts. Whatever requests interleave and whatever fails:
the row that a write request answers is one that the request names; a command of this very request
has stored it like that, or has removed it; and it is like that in the end unless a request that
names it too has changed it since. -/
theorem acknowledged_durable (env : Env n) (calls : List (Call n)) (world : World n)
    {trace : List (Move n)} {last : Clients n}
    (run : Run (Pool.Step World.exec AnyFault) (clients env world calls) trace last)
    {client : Nat} {call : Call n} (here : calls[client]? = some call)
    (writes : call.request.writes = true) {response : Response}
    (answered : last.clients[client]? = some (.ret response)) :
    ∃ row cell, response.row? = some row ∧ call.request.names env call.entropy cell ∧
      ∃ early move late, trace = early ++ move :: late ∧ move.event.client = client ∧
        Landed call.request.removes row (move.before.state.row? cell)
          (move.after.state.row? cell) ∧
        (last.state.row? cell = move.after.state.row? cell ∨
          ∃ later ∈ late, later.after.state.row? cell ≠ later.before.state.row? cell ∧
            ∃ other, calls[later.event.client]? = some other ∧ MayChange env other cell
              (later.before.state.row? cell) (later.after.state.row? cell)) := by
  have begins : (clients env world calls).clients[client]? = some (call.program env) := by
    simp [clients, here]
  have path : (call.program env).Path (Pool.exchanges World.exec trace client) (.ok response) :=
    Pool.run_exchanges run begins answered
  obtain ⟨row, shown, step, member, erases, cell, reported⟩ := reported_program call writes path
  obtain ⟨move, listed, own, rfl⟩ := Pool.mem_exchanges member
  obtain ⟨target, committed⟩ := committed_of_reported (run.steps move listed) reported
  obtain ⟨other, found, grounded⟩ := clients_own run move listed
  rw [own, here] at found
  obtain rfl := Option.some.inj found
  obtain ⟨early, late, split⟩ := List.append_of_mem listed
  dsimp only at erases
  rw [erases] at committed
  refine ⟨row, cell, shown, grounded.own cell target, early, move, late, split, own, committed, ?_⟩
  by_contra changed
  obtain ⟨gone, never⟩ := not_or.mp changed
  refine gone ((run.resume split).2.carries
    (fun pool => pool.state.row? cell = move.after.state.row? cell) rfl ?_).2
  intro later within kept
  by_contra other
  have differs : later.after.state.row? cell ≠ later.before.state.row? cell :=
    fun same => other (same.trans kept)
  have inside : later ∈ trace := split ▸ List.mem_append_right _ (List.mem_cons_of_mem _ within)
  exact never ⟨later, within, differs, row_changed run inside differs⟩

theorem acknowledged_durable_cancelling : ∃ row, ∃ move ∈ cancelling.1, move.event.client = 0 ∧
    move.after.state.row? (twoShards.router.home .booking bookedRow.id) = some row := by
  have run : Run (Pool.Step World.exec AnyFault) (clients twoShards booked
      [.sample (.cancelBooking bookedRow.id) 1, .sample .findBookings 2]) cancelling.1 cancelling.2 :=
    Pool.run_record fun _ _ => trivial
  have served : ((cancelling.2.clients[0]?.bind Program.result?).bind Except.toOption).isSome = true := by
    decide +kernel
  obtain ⟨response, found⟩ := Option.isSome_iff_exists.mp served
  obtain ⟨result, ended, answered⟩ := Option.bind_eq_some_iff.mp found
  obtain ⟨program, waits, stops⟩ := Option.bind_eq_some_iff.mp ended
  rw [Program.eq_ofExcept stops] at waits
  cases result with
  | error error => cases answered
  | ok other =>
    obtain ⟨row, cell, _, names, early, move, late, split, own, committed, _⟩ :=
      acknowledged_durable twoShards _ booked run rfl rfl waits
    refine ⟨row, move, split ▸ List.mem_append_right _ List.mem_cons_self, own, ?_⟩
    rw [← show cell = twoShards.router.home .booking bookedRow.id from names]
    exact committed.stored rfl

end HotelBooking
