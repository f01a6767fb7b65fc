import HotelBooking.Invariants.Duplicates
import HotelBooking.Services.Clients
import HotelBooking.Services.FanOut

/-! Concurrent requests for unique keys: how a request ends that meets a taken key, and which of
several creates of one key succeeds. -/
namespace HotelBooking
open Effect Relational
variable {n : Nat}

section Statements
variable {world : World n} {tables : Tables} {directory : Guests}

theorem exec_guests_ok {stmt : GuestStmt} {answer : stmt.Answer} {guests : Guests}
    (done : stmt.exec world.guests = .ok (answer, guests)) :
    World.exec (.guests stmt) world = (.ok answer, { world with guests }) := by
  simp only [World.exec, done]

theorem exec_guests_error {stmt : GuestStmt} {error : Err}
    (failed : stmt.exec world.guests = .error error) :
    World.exec (.guests stmt) world = (.error error, world) := by
  simp only [World.exec, failed]

theorem row_key {dto : CreateRoomDto} {id : Text} {createdAt : Instant} {room : Room}
    (row : dto.row id createdAt = .ok room) :
    room.id = id ∧ room.hotelId = dto.hotelId ∧ room.roomNumber = dto.roomNumber := by
  simp only [CreateRoomDto.row, except_bind_ok, except_pure, Except.ok.injEq] at row
  obtain ⟨_, _, _, _, rfl⟩ := row
  exact ⟨rfl, rfl, rfl⟩

/-- A new row may have a key that no row has. -/
theorem numberFree_iff {room : Room} (fresh : tables.rooms.find? room.id = none) :
    tables.NumberFree room ↔ ¬ tables.NumberTaken room.hotelId room.roomNumber := by
  constructor
  · rintro free ⟨other, stored, hotel, number⟩
    exact Table.find?_eq_none.mp fresh other stored (free other stored hotel number)
  · intro absent other stored hotel number
    exact absurd ⟨other, stored, hotel, number⟩ absent

theorem emailFree_iff {guest : Guest} (fresh : directory.guests.find? guest.id = none) :
    directory.EmailFree guest ↔ ¬ directory.EmailTaken guest.email := by
  constructor
  · rintro free ⟨other, stored, same⟩
    exact Table.find?_eq_none.mp fresh other stored (free other stored same)
  · intro absent other stored same
    exact absurd ⟨other, stored, same⟩ absent

theorem roomCreate_taken {id : Text} {dto : CreateRoomDto} {createdAt : Instant} {room : Room}
    (row : dto.row id createdAt = .ok room) (taken : tables.NumberTaken dto.hotelId dto.roomNumber) :
    tables.roomCreate id dto createdAt = .error (.db .uniqueConstraint) := by
  obtain ⟨_, hotel, number⟩ := row_key row
  simp only [Tables.roomCreate, row, except_ok_bind]
  split
  · next fresh =>
    rw [dif_neg]
    · rfl
    · rw [numberFree_iff fresh, hotel, number, not_not]
      exact taken
  · rfl

theorem roomUpdate_taken {id : Text} {dto : UpdateRoomDto} {old room : Room}
    (found : tables.rooms.find? id = some old) (merged : dto.over old = .ok room)
    (taken : ¬ tables.NumberFree room) :
    tables.roomUpdate id dto = .error (.db .uniqueConstraint) := by
  simp only [Tables.roomUpdate, found, merged, except_ok_bind]
  rw [dif_neg taken]
  rfl

theorem guestCreate_taken {id : Text} {dto : CreateGuestDto} {createdAt : Instant}
    (taken : directory.EmailTaken dto.email) :
    (GuestStmt.create id dto createdAt).exec directory = .error (.db .uniqueConstraint) := by
  simp only [GuestStmt.exec]
  split
  · next fresh =>
    rw [dif_neg]
    rw [emailFree_iff fresh, not_not]
    exact taken
  · rfl

theorem guestUpdate_taken {id : Text} {dto : UpdateGuestDto} {old guest : Guest}
    (found : directory.guests.find? id = some old) (merged : dto.over old = .ok guest)
    (taken : ¬ directory.EmailFree guest) :
    (GuestStmt.update id dto).exec directory = .error (.db .uniqueConstraint) := by
  simp only [GuestStmt.exec, found, merged, except_ok_bind]
  rw [dif_neg taken]
  rfl

theorem findsTaken_exec {cmd : Cmd n} (taken : FindsTaken world cmd) :
    KeyVerdict.ofReply cmd (World.exec cmd world).1 = .found := by
  unfold FindsTaken at taken
  split at taken
  · next i hotelId roomNumber =>
    obtain ⟨room, stored, hotel, number⟩ := taken
    have found : ((world.shards i).rooms.rows.find? fun room =>
        room.hotelId = hotelId ∧ room.roomNumber = roomNumber).isSome := by
      rw [List.find?_isSome]
      exact ⟨room, stored, by simp [hotel, number]⟩
    obtain ⟨existing, same⟩ := Option.isSome_iff_exists.mp found
    have done : (Stmt.roomFindByNumber hotelId roomNumber).exec (world.shards i) =
        .ok (some existing, world.shards i) := by rw [Stmt.exec, same]
    rw [World.exec_shard_ok done]
    rfl
  · next email =>
    obtain ⟨guest, stored, same⟩ := taken
    have found : (world.guests.guests.rows.find? fun guest => guest.email = email).isSome := by
      rw [List.find?_isSome]
      exact ⟨guest, stored, by simp [same]⟩
    obtain ⟨existing, same⟩ := Option.isSome_iff_exists.mp found
    have done : (GuestStmt.findByEmail email).exec world.guests =
        .ok (some existing, world.guests) := by rw [GuestStmt.exec, same]
    rw [exec_guests_ok done]
    rfl
  · cases taken

theorem writesTaken_exec {cmd : Cmd n} (taken : WritesTaken world cmd) :
    KeyVerdict.ofReply cmd (World.exec cmd world).1 = .refused := by
  unfold WritesTaken at taken
  split at taken
  · next i id dto createdAt =>
    obtain ⟨⟨room, row⟩, taken⟩ := taken
    have refused : (Stmt.roomCreate id dto createdAt).exec (world.shards i) =
        .error (.db .uniqueConstraint) := roomCreate_taken row taken
    rw [World.exec_shard_error refused]
    rfl
  · next i id dto =>
    obtain ⟨old, room, found, merged, taken⟩ := taken
    have refused : (Stmt.roomUpdate id dto).exec (world.shards i) =
        .error (.db .uniqueConstraint) := roomUpdate_taken found merged taken
    rw [World.exec_shard_error refused]
    rfl
  · next id dto createdAt =>
    rw [exec_guests_error (guestCreate_taken taken)]
    rfl
  · next id dto =>
    obtain ⟨old, guest, found, merged, taken⟩ := taken
    rw [exec_guests_error (guestUpdate_taken found merged taken)]
    rfl
  · cases taken

end Statements
section Reads
variable {env : Env n} {call : Call n} {world : World n} {cmd : Cmd n}

theorem ofWrite_decides (reply : Except Err α) :
    KeyVerdict.ofWrite reply = .stored ∨ KeyVerdict.ofWrite reply = .refused ∨
      KeyVerdict.ofWrite reply = .failed := by
  unfold KeyVerdict.ofWrite
  split
  · exact Or.inl rfl
  · exact Or.inr (Or.inl rfl)
  · exact Or.inr (Or.inr rfl)

/-- What leaves the key undecided, or finds it taken, is a read. -/
theorem asks_reads (asks : Asks env call cmd) {reply : Except Err cmd.Answer}
    (unsettled : KeyVerdict.ofReply cmd reply = .undecided ∨ KeyVerdict.ofReply cmd reply = .found) :
    (World.exec cmd world).2 = world := by
  have writes {α : Type} (reply : Except Err α)
      (unsettled : KeyVerdict.ofWrite reply = .undecided ∨ KeyVerdict.ofWrite reply = .found) : False := by
    rcases ofWrite_decides reply with same | same | same <;> simp [same] at unsettled
  unfold Asks at asks
  split at asks
  · rcases asks with rfl | rfl | rfl
    · rw [exec_isRead rfl]
    · rw [exec_isRead rfl]
    · exact (writes reply unsettled).elim
  · rcases asks with rfl | rfl
    · rw [exec_isRead rfl]
    · exact (writes reply unsettled).elim
  · rcases asks with rfl | rfl
    · rfl
    · exact (writes reply unsettled).elim
  · rcases asks with rfl | rfl
    · rfl
    · exact (writes reply unsettled).elim
  · cases asks

end Reads

section Run
variable {env : Env n} {world : World n} {calls : List (Call n)} {trace early late : List (Move n)}
  {last : Clients n} {move : Move n}

/-- What each client has learned of its key. -/
def keyedStages (env : Env n) (calls : List (Call n)) (trace : List (Move n)) : Nat → KeyedStage n :=
  Pool.phases (keyProtocol env) World.exec
    (fun i => ⟨calls[i]?.getD (.sample .findHotels 0), .undecided⟩) trace

theorem clients_keyed (env : Env n) (world : World n) (keyed : ∀ call ∈ calls, call.request.Keyed) :
    (clients env world calls).Obeys (keyProtocol env) (fun _ => KeyedStage.Ends)
      (keyedStages env calls []) := by
  intro i program found
  simp only [clients, List.getElem?_map] at found
  obtain ⟨call, listed, rfl⟩ := Option.map_eq_some_iff.mp found
  simp only [keyedStages, Pool.phases_nil, listed, Option.getD_some]
  exact keyed_obeys (keyed call (List.mem_of_getElem? listed))

theorem next_call (stage : KeyedStage n) (cmd : Cmd n) (reply : Except Err cmd.Answer) :
    ((keyProtocol env).next stage cmd reply).call = stage.call := by
  simp only
  split <;> rfl

theorem next_decided {stage : KeyedStage n} (decided : stage.verdict ≠ .undecided) (cmd : Cmd n)
    (reply : Except Err cmd.Answer) : (keyProtocol env).next stage cmd reply = stage := by
  dsimp only
  split
  · next same => exact absurd same decided
  · rfl

theorem next_undecided {stage : KeyedStage n} (undecided : stage.verdict = .undecided) (cmd : Cmd n)
    (reply : Except Err cmd.Answer) :
    (keyProtocol env).next stage cmd reply = ⟨stage.call, KeyVerdict.ofReply cmd reply⟩ := by
  simp only [keyProtocol, undecided]

theorem stages_call (env : Env n) (calls : List (Call n)) (trace : List (Move n)) (i : Nat) :
    (keyedStages env calls trace i).call = calls[i]?.getD (.sample .findHotels 0) :=
  Pool.phases_rule (keyProtocol env)
    (fun stage => stage.call = calls[i]?.getD (.sample .findHotels 0)) rfl trace
    fun _ _ _ stage same => (next_call stage _ _).trans same

/-- What is decided stays so. -/
theorem stages_decided {i : Nat} (decided : (keyedStages env calls early i).verdict ≠ .undecided)
    (late : List (Move n)) : keyedStages env calls (early ++ late) i = keyedStages env calls early i := by
  unfold keyedStages at decided ⊢
  rw [Pool.phases_append]
  refine Pool.phases_rule (keyProtocol env) (fun stage => stage = _) rfl late ?_
  intro move _ _ stage same
  rw [same]
  exact next_decided decided move.event.cmd _

theorem stages_served (env : Env n) (calls : List (Call n)) (early : List (Move n)) (move : Move n) :
    keyedStages env calls (early ++ [move]) move.event.client =
      (keyProtocol env).next (keyedStages env calls early move.event.client) move.event.cmd
        (Pool.reply World.exec move) := by
  unfold keyedStages
  rw [Pool.phases_concat, Pool.advance, Function.update_self]

theorem stages_other {i : Nat} (other : i ≠ move.event.client) :
    keyedStages env calls (early ++ [move]) i = keyedStages env calls early i := by
  unfold keyedStages
  rw [Pool.phases_concat, Pool.advance, Function.update_of_ne other]

theorem reply_calm (calm : move.event.fault = .none) :
    Pool.reply World.exec move = (World.exec move.event.cmd move.before.state).1 := by
  rw [Pool.reply, calm]
  rfl

variable (keyed : ∀ call ∈ calls, call.request.Keyed)
  (run : Run (Pool.Step World.exec AnyFault) (clients env world calls) trace last)
include keyed run

/-- A command is asked for while the key is undecided, or only invalidates. -/
theorem run_asks (split : trace = early ++ move :: late) :
    ((keyedStages env calls early move.event.client).verdict = .undecided ∧
      Asks env (keyedStages env calls early move.event.client).call move.event.cmd) ∨
    ((keyedStages env calls early move.event.client).verdict = .stored ∧
      ∃ command, move.event.cmd = .cache command) := by
  have allowed := Pool.run_allows (clients_keyed env world keyed) run split
  simp only [keyProtocol] at allowed
  split at allowed
  · next undecided => exact Or.inl ⟨undecided, allowed⟩
  · next stored => exact Or.inr ⟨stored, allowed⟩
  · cases allowed

/-- A decisive reply is what its client knows in the end. -/
theorem run_decides (split : trace = early ++ move :: late)
    (asks : ∀ command, move.event.cmd ≠ .cache command)
    (decisive : KeyVerdict.ofReply move.event.cmd (Pool.reply World.exec move) ≠ .undecided) :
    (keyedStages env calls trace move.event.client).verdict =
      KeyVerdict.ofReply move.event.cmd (Pool.reply World.exec move) := by
  rcases run_asks keyed run split with ⟨undecided, _⟩ | ⟨_, command, same⟩
  · have served := stages_served env calls early move
    rw [next_undecided undecided] at served
    have decided : (keyedStages env calls (early ++ [move]) move.event.client).verdict ≠ .undecided := by
      rw [served]
      exact decisive
    have kept := stages_decided decided late
    rw [List.append_assoc, List.singleton_append, ← split] at kept
    rw [kept, served]
  · exact absurd same (asks command)

/-- A client that found its key taken has ended with a conflict. -/
theorem found_ended {i : Nat} (bound : i < calls.length)
    (found : (keyedStages env calls trace i).verdict = .found) :
    ∃ message, last.clients[i]? = some (.raise (.conflict message)) := by
  have length : last.clients.length = calls.length := by
    rw [Pool.run_length run]
    exact List.length_map ..
  have stored : i < last.clients.length := length ▸ bound
  have obeys := Pool.run_obeys (clients_keyed env world keyed) run i _
    (List.getElem?_eq_getElem stored)
  change (last.clients[i]).Obeys (keyProtocol env) KeyedStage.Ends (keyedStages env calls trace i) at obeys
  rw [List.getElem?_eq_getElem stored]
  cases program : last.clients[i] with
  | ret response =>
    rw [program] at obeys
    simp only [Program.Obeys, KeyedStage.Ends, found] at obeys
    obtain ⟨message, same⟩ := obeys
    cases same
  | raise error =>
    rw [program] at obeys
    simp only [Program.Obeys, KeyedStage.Ends, found] at obeys
    obtain ⟨message, same⟩ := obeys
    cases same
    exact ⟨message, rfl⟩
  | call cmd next =>
    rw [program] at obeys
    have allowed := obeys.1
    simp only [found] at allowed

/-- All moves of such a client were reads. -/
theorem found_reads {i : Nat} (found : (keyedStages env calls trace i).verdict = .found)
    (member : move ∈ trace) (served : move.event.client = i) :
    move.after.state = move.before.state := by
  obtain ⟨early, late, split⟩ := List.append_of_mem member
  subst served
  have kept {first : List (Move n)} (rest : List (Move n)) (cut : trace = first ++ rest)
      (decided : (keyedStages env calls first move.event.client).verdict ≠ .undecided) :
      (keyedStages env calls first move.event.client).verdict = .found := by
    rw [← stages_decided decided rest, ← cut]
    exact found
  rcases run_asks keyed run split with ⟨undecided, asks⟩ | ⟨stored, _⟩
  · have unsettled : KeyVerdict.ofReply move.event.cmd (Pool.reply World.exec move) = .undecided ∨
        KeyVerdict.ofReply move.event.cmd (Pool.reply World.exec move) = .found := by
      rw [or_iff_not_imp_left]
      intro decisive
      have verdict := congrArg KeyedStage.verdict (stages_served env calls early move)
      rw [next_undecided undecided] at verdict
      have known := kept late (by simp [split]) fun same => decisive (verdict.symm.trans same)
      exact verdict.symm.trans known
    have unchanged : (World.exec move.event.cmd move.before.state).2 = move.before.state :=
      asks_reads asks unsettled
    rw [(run.steps move member).state_eq.2]
    rcases Fault.apply_state move.event.fault World.exec move.event.cmd move.before.state with
      executed | refused
    · rw [executed, unchanged]
    · exact refused
  · have same := kept (move :: late) split (by rw [stored]; decide)
    rw [stored] at same
    cases same

end Run

/-- Where a request meets a taken key it ends with a conflict, and no move of it changes a row. -/
def ConflictsAnswered (trace : List (Move n)) (last : Clients n) : Prop :=
  ∀ move ∈ trace, move.event.fault = .none →
    FindsTaken move.before.state move.event.cmd ∨ WritesTaken move.before.state move.event.cmd →
    (∃ message, last.clients[move.event.client]? = some (.raise (.conflict message))) ∧
      ∀ own ∈ trace, own.event.client = move.event.client →
        own.after.state.shards = own.before.state.shards ∧
          own.after.state.guests = own.before.state.guests

/-- No write of the run finds its key taken. -/
def WritesFree (trace : List (Move n)) : Prop :=
  ∀ move ∈ trace, move.event.fault = .none → ¬ WritesTaken move.before.state move.event.cmd

section Answered
variable {env : Env n} {world : World n} {calls : List (Call n)} {trace : List (Move n)}
  {last : Clients n}

theorem findsTaken_issued {cmd : Cmd n} (taken : FindsTaken world cmd) (command : CacheCmd) :
    cmd ≠ .cache command := by
  rintro rfl
  cases taken

theorem writesTaken_issued {cmd : Cmd n} (taken : WritesTaken world cmd) (command : CacheCmd) :
    cmd ≠ .cache command := by
  rintro rfl
  cases taken

theorem client_bound {move : Move n}
    (run : Run (Pool.Step World.exec AnyFault) (clients env world calls) trace last)
    (member : move ∈ trace) : move.event.client < calls.length := by
  obtain ⟨early, late, split⟩ := List.append_of_mem member
  have length := Pool.run_length (run.cut split)
  have stepped := run.steps move member
  obtain ⟨before, event, after⟩ := move
  cases stepped with
  | serve found permitted =>
    rw [← List.length_map (Call.program env)]
    exact length ▸ (List.getElem?_eq_some_iff.mp found).1

theorem conflictsAnswered_iff (keyed : ∀ call ∈ calls, call.request.Keyed)
    (run : Run (Pool.Step World.exec AnyFault) (clients env world calls) trace last) :
    ConflictsAnswered trace last ↔ WritesFree trace := by
  constructor
  · intro answered move member calm taken
    obtain ⟨⟨message, ended⟩, _⟩ := answered move member calm (Or.inr taken)
    obtain ⟨early, late, split⟩ := List.append_of_mem member
    have refused : KeyVerdict.ofReply move.event.cmd (Pool.reply World.exec move) = .refused := by
      rw [reply_calm calm]
      exact writesTaken_exec taken
    have final := run_decides keyed run split (writesTaken_issued taken) (by rw [refused]; decide)
    have ends : KeyedStage.Ends (keyedStages env calls trace move.event.client)
        (.error (.conflict message) : Except Err Response) :=
      Pool.run_ends (clients_keyed env world keyed) run ended
    simp only [KeyedStage.Ends, final, refused] at ends
    cases ends
  · intro free move member calm taken
    have found : KeyVerdict.ofReply move.event.cmd (Pool.reply World.exec move) = .found := by
      rw [reply_calm calm]
      exact findsTaken_exec (taken.resolve_right (free move member calm))
    obtain ⟨early, late, split⟩ := List.append_of_mem member
    have final := run_decides keyed run split
      (findsTaken_issued (taken.resolve_right (free move member calm))) (by rw [found]; decide)
    rw [found] at final
    refine ⟨found_ended keyed run (client_bound run member) final, fun own listed served => ?_⟩
    have unchanged := found_reads keyed run final listed served
    rw [unchanged]
    exact ⟨rfl, rfl⟩

end Answered
end HotelBooking
