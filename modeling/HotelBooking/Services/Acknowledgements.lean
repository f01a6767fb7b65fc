import HotelBooking.Services.ListAnswers
import HotelBooking.Services.Ownership

/-! What a request acknowledges. The row that a write request answers is the row that one of its
own commands has reported, and the databases report what they have stored or removed. -/
namespace HotelBooking
open Relational Effect
variable {n : Nat}

/-- The row that a reply to a write shows, under its key. -/
def Cmd.reports : (cmd : Cmd n) → Except Err cmd.Answer → Option (Cell n × Row)
  | .shard i (.hotelCreate id _ _), .ok row => some (.shard i (.hotel id), .hotel row)
  | .shard i (.hotelUpdate id _), .ok row => some (.shard i (.hotel id), .hotel row)
  | .shard i (.hotelDelete id), .ok row => some (.shard i (.hotel id), .hotel row)
  | .shard i (.roomCreate id _ _), .ok row => some (.shard i (.room id), .room row)
  | .shard i (.roomUpdate id _), .ok row => some (.shard i (.room id), .room row)
  | .shard i (.roomDelete id), .ok row => some (.shard i (.room id), .room row)
  | .shard i (.bookingUpdate id _), .ok row => some (.shard i (.booking id), .booking row)
  | .shard i (.bookingDelete id), .ok row => some (.shard i (.booking id), .booking row)
  | .shard i (.reserve data), .ok row => some (.shard i (.booking data.id), .booking row)
  | .guests (.create id _ _), .ok row => some (.guest id, .guest row)
  | .guests (.update id _), .ok row => some (.guest id, .guest row)
  | .guests (.delete id), .ok row => some (.guest id, .guest row)
  | _, _ => none

theorem Cmd.reports_error {cmd : Cmd n} (error : Err) : cmd.reports (.error error) = none := by
  cases cmd with
  | shard i stmt => cases stmt <;> rfl
  | guests stmt => cases stmt <;> rfl
  | cache cmd => rfl

/-- The row is stored now, or it was stored and is gone. -/
structure Landed (erased : Bool) (row : Row) (before after : Option Row) : Prop where
  stored : erased = false → after = some row
  removed : erased = true → before = some row ∧ after = none

theorem Landed.store {row : Row} {before after : Option Row} (here : after = some row) :
    Landed false row before after := ⟨fun _ => here, nofun⟩

theorem Landed.erase {row : Row} {before after : Option Row} (there : before = some row)
    (gone : after = none) : Landed true row before after := ⟨nofun, fun _ => ⟨there, gone⟩⟩

section Statements
variable {tables after : Tables} {stmt : Stmt} {i : Fin n}

theorem shown {wrap : α → Row} {found : Option α} {row : α} (same : found = some row) :
    found.map wrap = some (wrap row) := by rw [same, Option.map_some]

theorem stored_insert {key : α → Text} {table : Table key} {row : α}
    (fresh : table.find? (key row) = none) : (table.insert row fresh).find? (key row) = some row := by
  rw [Table.find?_insert, if_pos rfl]

theorem stored_put {key : α → Text} {table : Table key} {row old : α} {id : Text}
    (found : table.find? id = some old) (same : key row = key old) :
    (table.put row).find? id = some row := by
  have kept := same.trans (Table.find?_eq_some.mp found).2
  rw [Table.find?_put (kept ▸ found), if_pos kept]

/-- A statement reports the row that it has stored, or the row that it has removed. -/
theorem Stmt.reports_exec {answer : stmt.Answer} (done : stmt.exec tables = .ok (answer, after))
    {cell : Cell n} {row : Row} (reported : (Cmd.shard i stmt).reports (.ok answer) = some (cell, row)) :
    ∃ key, cell = .shard i key ∧ key ∈ stmt.targets ∧
      Landed (Cmd.shard i stmt).erases row (tables.row? key) (after.row? key) := by
  cases stmt with
  | hotelCreate id dto createdAt =>
    cases reported
    obtain ⟨made, fresh, rfl⟩ := Tables.hotelCreate_ok done
    refine ⟨_, rfl, List.mem_singleton_self _, .store (shown ?_)⟩
    rw [← (CreateHotelDto.row_ok made).1]
    exact stored_insert fresh
  | hotelUpdate id dto =>
    cases reported
    obtain ⟨old, found, merged, rfl⟩ := Tables.hotelUpdate_ok done
    refine ⟨_, rfl, List.mem_singleton_self _, .store (shown ?_)⟩
    exact stored_put found (UpdateHotelDto.over_ok merged).1
  | hotelDelete id =>
    cases reported
    obtain ⟨found, unused, rfl⟩ := Tables.hotelDelete_ok done
    refine ⟨_, rfl, List.mem_singleton_self _, .erase (shown found) ?_⟩
    exact congrArg (Option.map Row.hotel) ((Table.find?_erase _ _).trans (if_pos rfl))
  | roomCreate id dto createdAt =>
    cases reported
    obtain ⟨made, fresh, hotel, number, rfl⟩ := Tables.roomCreate_ok done
    refine ⟨_, rfl, List.mem_singleton_self _, .store (shown ?_)⟩
    rw [← (CreateRoomDto.row_ok made).1]
    exact stored_insert fresh
  | roomUpdate id dto =>
    cases reported
    obtain ⟨old, found, merged, hotel, number, rfl⟩ := Tables.roomUpdate_ok done
    refine ⟨_, rfl, List.mem_singleton_self _, .store (shown ?_)⟩
    exact stored_put found (UpdateRoomDto.over_ok merged).1
  | roomDelete id =>
    cases reported
    obtain ⟨found, unused, rfl⟩ := Tables.roomDelete_ok done
    refine ⟨_, rfl, List.mem_singleton_self _, .erase (shown found) ?_⟩
    exact congrArg (Option.map Row.room) ((Table.find?_erase _ _).trans (if_pos rfl))
  | bookingUpdate id data =>
    cases reported
    obtain ⟨old, room, found, merged, rfl⟩ := Tables.bookingUpdate_ok done
    refine ⟨_, rfl, List.mem_singleton_self _, .store (shown ?_)⟩
    exact stored_put found (BookingData.over_ok merged).1
  | bookingDelete id =>
    cases reported
    obtain ⟨found, rfl⟩ := Tables.bookingDelete_ok done
    refine ⟨_, rfl, List.mem_singleton_self _, .erase (shown found) ?_⟩
    exact congrArg (Option.map Row.booking) ((Table.find?_erase _ _).trans (if_pos rfl))
  | reserve data =>
    cases reported
    obtain ⟨made, rfl⟩ := Tables.reserve_ok done
    refine ⟨_, rfl, List.mem_singleton_self _, .store (shown ?_)⟩
    rw [← made.id]
    exact stored_insert made.fresh
  | _ => cases reported

theorem GuestStmt.reports_exec {stmt : GuestStmt} {directory after : Guests} {answer : stmt.Answer}
    (done : stmt.exec directory = .ok (answer, after)) {cell : Cell n} {row : Row}
    (reported : (Cmd.guests stmt : Cmd n).reports (.ok answer) = some (cell, row)) :
    ∃ id, cell = .guest id ∧ id ∈ stmt.targets ∧
      Landed (Cmd.guests stmt : Cmd n).erases row ((directory.guests.find? id).map .guest)
        ((after.guests.find? id).map .guest) := by
  cases stmt with
  | create id dto createdAt =>
    cases reported
    simp only [GuestStmt.exec] at done
    split at done
    · next fresh =>
      split at done
      · cases done
        exact ⟨_, rfl, List.mem_singleton_self _,
          .store (shown (stored_insert fresh))⟩
      · cases done
    · cases done
  | update id dto =>
    cases reported
    simp only [GuestStmt.exec] at done
    cases found : directory.guests.find? id with
    | none => simp [found] at done
    | some old =>
      simp only [found, except_bind_ok] at done
      obtain ⟨guest, merged, written⟩ := done
      split at written
      · cases written
        exact ⟨_, rfl, List.mem_singleton_self _,
          .store (shown (stored_put found (UpdateGuestDto.over_id merged)))⟩
      · cases written
  | delete id =>
    cases reported
    simp only [GuestStmt.exec] at done
    split at done
    · next found =>
      cases done
      refine ⟨_, rfl, List.mem_singleton_self _, .erase (shown found) ?_⟩
      exact congrArg (Option.map Row.guest) ((Table.find?_erase _ _).trans (if_pos rfl))
    · cases done
  | _ => cases reported

end Statements

/-- What the databases report is what they have done. -/
theorem World.reports_exec {cmd : Cmd n} {world after : World n} {answer : cmd.Answer}
    (done : World.exec cmd world = (.ok answer, after)) {cell : Cell n} {row : Row}
    (reported : cmd.reports (.ok answer) = some (cell, row)) :
    cell ∈ cmd.targets ∧ Landed cmd.erases row (world.row? cell) (after.row? cell) := by
  cases cmd with
  | shard i stmt =>
    cases result : stmt.exec (world.shards i) with
    | error error =>
      rw [World.exec_shard_error result] at done
      cases done
    | ok pair =>
      obtain ⟨answer, tables⟩ := pair
      rw [World.exec_shard_ok result] at done
      cases done
      obtain ⟨key, rfl, target, committed⟩ := Stmt.reports_exec result reported
      refine ⟨mem_targets target, ?_⟩
      simpa only [World.row?, World.setShard_self] using committed
  | guests stmt =>
    cases result : stmt.exec world.guests with
    | error error =>
      simp only [World.exec, result] at done
      cases done
    | ok pair =>
      obtain ⟨answer, directory⟩ := pair
      simp only [World.exec, result] at done
      cases done
      obtain ⟨id, rfl, target, committed⟩ := GuestStmt.reports_exec result reported
      exact ⟨List.mem_map_of_mem target, committed⟩
  | cache cmd => cases reported

/-- The row that a response shows as written. -/
def Response.row? : Response → Option Row
  | .hotel row => some (.hotel row)
  | .room row => some (.room row)
  | .guest row => some (.guest row)
  | .booking row => some (.booking row)
  | _ => none

/-- The requests that answer the row which they write. -/
def Request.writes : Request → Bool
  | .createHotel _ | .updateHotel .. | .removeHotel _ | .createRoom _ | .updateRoom .. | .removeRoom _
  | .createGuest _ | .updateGuest .. | .removeGuest _ | .createBooking _ | .updateBooking ..
  | .cancelBooking _ | .removeBooking _ => true
  | _ => false

/-- Whatever its replies are, the program returns this value or fails. -/
def Yields (value : α) (program : Async n α) : Prop :=
  ∀ steps other, program.Path steps (.ok other) → other = value

theorem yields_ret (value : α) : Yields value (.ret value : Async n α) := by
  intro steps other path
  cases path
  rfl

theorem yields_bind {value : β} {program : Async n α} {next : α → Async n β}
    (yields : ∀ mid, Yields value (next mid)) : Yields value (program.bind next) := by
  intro steps other path
  obtain ⟨_, mid, rest, _, tail, _⟩ := path.bind_ok
  exact yields mid rest other tail

section Paths
variable {env : Env n} {router : ShardRouter n} {i : Fin n} {stmt : Stmt}
  {steps : List (Exchange (signature n) Err)}

/-- One of the exchanges reports the row, as stored or as removed. -/
def Recounted (steps : List (Exchange (signature n) Err)) (erased : Bool) (row : Row) : Prop :=
  ∃ step ∈ steps, step.cmd.erases = erased ∧ ∃ cell, step.cmd.reports step.reply = some (cell, row)

theorem path_run {body : Async n α} {value : α} (path : (router.run i body).Path steps (.ok value)) :
    body.Path steps (.ok value) := by
  rw [run_eq] at path
  rcases path.recover_cases with ⟨_, _, _, _, tail, _⟩ | ⟨value, head, same⟩
  · cases tail
  · cases same
    exact head

theorem path_write {answer : stmt.Answer} (path : (router.write i stmt).Path steps (.ok answer)) :
    steps = [⟨.shard i stmt, .ok answer⟩] := (path_run path).perform_cases

/-- What a write reports comes back, if the rest returns it. -/
theorem path_written {answer : stmt.Answer} {rest : stmt.Answer → Async n stmt.Answer}
    (path : ((router.write i stmt).bind rest).Path steps (.ok answer))
    (yields : ∀ row, Yields row (rest row)) : ⟨.shard i stmt, .ok answer⟩ ∈ steps := by
  obtain ⟨first, row, last, head, tail, rfl⟩ := path.bind_ok
  obtain rfl := path_write head
  obtain rfl := yields row _ _ tail
  exact List.mem_cons_self

/-- The attempt that succeeds ends the transaction. -/
theorem path_serializable {transaction : Nat → Async n α} {value : α}
    (path : (BookingsService.serializable transaction).Path steps (.ok value)) :
    ∃ attempt first last, steps = first ++ last ∧ (transaction attempt).Path last (.ok value) := by
  have loop : ∀ remaining attempt steps,
      (BookingsService.serializableFrom transaction attempt remaining).Path steps (.ok value) →
      ∃ attempt first last, steps = first ++ last ∧ (transaction attempt).Path last (.ok value) := by
    intro remaining
    induction remaining with
    | zero =>
      intro attempt steps path
      rcases path.recover_cases with ⟨_, error, _, _, tail, _⟩ | ⟨value, head, same⟩
      · split at tail <;> cases tail
      · cases same
        exact ⟨attempt, [], steps, rfl, head⟩
    | succ remaining ih =>
      intro attempt steps path
      rcases path.recover_cases with ⟨first, error, rest, _, tail, rfl⟩ | ⟨value, head, same⟩
      · split at tail
        · cases tail
        · obtain ⟨k, mid, last, rfl, done⟩ := ih _ _ tail
          exact ⟨k, first ++ mid, last, (List.append_assoc ..).symm, done⟩
      · cases same
        exact ⟨attempt, [], steps, rfl, head⟩
  exact loop _ _ _ path

theorem path_globalWrite {stmt : GuestStmt} {answer : stmt.Answer}
    (path : (globalWrite stmt : Async n stmt.Answer).Path steps (.ok answer)) :
    steps = [⟨.guests stmt, .ok answer⟩] := by
  rw [globalWrite, Program.tryCatch_eq] at path
  rcases path.recover_cases with ⟨_, _, _, _, tail, _⟩ | ⟨value, head, same⟩
  · split at tail <;> cases tail
  · cases same
    exact head.perform_cases

theorem mem_right {first last : List (Exchange (signature n) Err)} {step : Exchange (signature n) Err}
    (member : step ∈ last) : step ∈ first ++ last := List.mem_append_right _ member

theorem written_createRoom {dto : CreateRoomDto} {answer : Room}
    (path : (RoomsService.create env entropy dto).Path steps (.ok answer)) :
    ∃ id, ⟨.shard (env.router.forKey dto.hotelId) (.roomCreate id dto (entropy.now 0)), .ok answer⟩ ∈
      steps := by
  obtain ⟨_, hotel, _, _, tail, rfl⟩ := path.bind_ok
  cases hotel with
  | none => cases tail
  | some hotel =>
    obtain ⟨_, existing, _, _, tail, rfl⟩ := tail.bind_ok
    cases existing with
    | some room => cases tail
    | none =>
      exact ⟨_, mem_right (mem_right
        (path_written tail fun _ => yields_bind fun _ => yields_ret _))⟩

theorem written_updateRoom {id : Text} {dto : UpdateRoomDto} {answer : Room}
    (path : (RoomsService.update env id dto).Path steps (.ok answer)) :
    ⟨.shard (env.router.forKey id) (.roomUpdate id dto), .ok answer⟩ ∈ steps := by
  unfold RoomsService.update at path
  split at path
  · cases path
  · obtain ⟨_, _, _, _, tail, rfl⟩ := path.bind_ok
    exact mem_right (path_written tail fun _ => yields_bind fun _ => yields_ret _)

theorem written_createBooking {dto : CreateBookingDto} {answer : Booking}
    (path : (BookingsService.create env entropy dto).Path steps (.ok answer)) :
    ∃ data, ⟨.shard (env.router.forKey dto.roomId) (.reserve data), .ok answer⟩ ∈ steps := by
  unfold BookingsService.create at path
  dsimp only at path
  split at path
  · cases path
  · obtain ⟨_, _, _, _, checked, rfl⟩ := path.bind_ok
    obtain ⟨_, booking, _, head, tail, rfl⟩ := checked.bind_ok
    obtain rfl := yields_bind (fun _ => yields_ret booking) _ _ tail
    obtain ⟨attempt, _, _, rfl, issued⟩ := path_serializable (path_run head)
    obtain rfl := issued.perform_cases
    exact ⟨_, mem_right (List.mem_append_left _ (mem_right List.mem_cons_self))⟩

theorem written_updateBooking {id : Text} {dto : UpdateBookingDto} {answer : Booking}
    (path : (BookingsService.update env id dto).Path steps (.ok answer)) :
    ⟨.shard (env.router.forKey id) (.bookingUpdate id (BookingsService.patchData env.platform dto)),
      .ok answer⟩ ∈ steps := by
  have rest {steps : List (Exchange (signature n) Err)} (path : (do
      let _ ← BookingsService.findLocal env id
      let booking ← env.router.write (env.router.forKey id)
        (.bookingUpdate id (BookingsService.patchData env.platform dto))
      BookingsService.invalidateSearch env
      return booking : Async n Booking).Path steps (.ok answer)) :
      ⟨.shard (env.router.forKey id) (.bookingUpdate id (BookingsService.patchData env.platform dto)),
        .ok answer⟩ ∈ steps := by
    obtain ⟨_, _, _, _, tail, rfl⟩ := path.bind_ok
    exact mem_right (path_written tail fun _ => yields_bind fun _ => yields_ret _)
  unfold BookingsService.update at path
  split at path
  · cases path
  · dsimp only at path
    split at path
    · obtain ⟨_, _, _, _, tail, rfl⟩ := path.bind_ok
      exact mem_right (rest tail)
    · exact rest path

theorem written_cancelBooking {id : Text} {answer : Booking}
    (path : (BookingsService.cancel env id).Path steps (.ok answer)) :
    ⟨.shard (env.router.forKey id) (.bookingUpdate id { status := .value .cancelled }),
      .ok answer⟩ ∈ steps := by
  obtain ⟨_, booking, _, _, tail, rfl⟩ := path.bind_ok
  split at tail
  · cases tail
  · cases tail
  · exact mem_right (path_written tail fun _ => yields_bind fun _ => yields_ret _)

/-- The response only wraps what the service returns. -/
theorem path_answer {program : Async n α} {wrap : α → Response} {response : Response}
    (path : (program.bind fun row => .ret (wrap row)).Path steps (.ok response)) :
    ∃ row, response = wrap row ∧ program.Path steps (.ok row) := by
  obtain ⟨first, row, rest, head, tail, rfl⟩ := path.bind_ok
  cases tail
  exact ⟨row, rfl, by rwa [List.append_nil]⟩

/-- A write request answers the row that one of its own commands reports. -/
theorem reported_program (call : Call n) (writes : call.request.writes = true) {response : Response}
    (path : (call.program env).Path steps (.ok response)) :
    ∃ row, response.row? = some row ∧ Recounted steps call.request.removes row := by
  obtain ⟨request, entropy, schedule⟩ := call
  have shows {steps : List (Exchange (signature n) Err)} {step : Exchange (signature n) Err} {row : Row}
      {cell : Cell n} (member : step ∈ steps) (erases : step.cmd.erases = request.removes)
      (reports : step.cmd.reports step.reply = some (cell, row)) :
      Recounted steps request.removes row := ⟨step, member, erases, cell, reports⟩
  cases request with
  | createHotel dto =>
    obtain ⟨row, rfl, head⟩ := path_answer path
    obtain rfl := path_write head
    exact ⟨.hotel row, rfl, shows List.mem_cons_self rfl rfl⟩
  | updateHotel id dto =>
    obtain ⟨row, rfl, head⟩ := path_answer path
    obtain ⟨_, _, _, _, rest, rfl⟩ := head.bind_ok
    have written := path_written rest fun _ => yields_bind fun _ => yields_bind fun _ => yields_ret _
    exact ⟨.hotel row, rfl, shows (mem_right written) rfl rfl⟩
  | removeHotel id =>
    obtain ⟨row, rfl, head⟩ := path_answer path
    obtain ⟨_, _, _, _, rest, rfl⟩ := head.bind_ok
    have written := path_written rest fun _ => yields_bind fun _ => yields_bind fun _ => yields_ret _
    exact ⟨.hotel row, rfl, shows (mem_right written) rfl rfl⟩
  | createRoom dto =>
    obtain ⟨row, rfl, head⟩ := path_answer path
    obtain ⟨id, written⟩ := written_createRoom head
    exact ⟨.room row, rfl, shows written rfl rfl⟩
  | updateRoom id dto =>
    obtain ⟨row, rfl, head⟩ := path_answer path
    exact ⟨.room row, rfl, shows (written_updateRoom head) rfl rfl⟩
  | removeRoom id =>
    obtain ⟨row, rfl, head⟩ := path_answer path
    obtain ⟨_, _, _, _, rest, rfl⟩ := head.bind_ok
    have written := path_written rest fun _ => yields_bind fun _ => yields_ret _
    exact ⟨.room row, rfl, shows (mem_right written) rfl rfl⟩
  | createGuest dto =>
    obtain ⟨row, rfl, head⟩ := path_answer path
    obtain ⟨_, existing, _, _, rest, rfl⟩ := head.bind_ok
    cases existing with
    | some guest => cases rest
    | none =>
      obtain rfl := path_globalWrite rest
      exact ⟨.guest row, rfl,
        shows (mem_right List.mem_cons_self) rfl rfl⟩
  | updateGuest id dto =>
    obtain ⟨row, rfl, head⟩ := path_answer path
    obtain ⟨_, _, _, _, rest, rfl⟩ := head.bind_ok
    obtain rfl := path_globalWrite rest
    exact ⟨.guest row, rfl, shows (mem_right List.mem_cons_self) rfl rfl⟩
  | removeGuest id =>
    obtain ⟨row, rfl, head⟩ := path_answer path
    obtain ⟨_, _, _, _, rest, rfl⟩ := head.bind_ok
    obtain ⟨_, result, _, _, counted, rfl⟩ := rest.bind_ok
    dsimp only at counted
    split at counted
    · cases counted
    · obtain rfl := path_globalWrite counted
      exact ⟨.guest row, rfl,
        shows (mem_right (mem_right List.mem_cons_self)) rfl rfl⟩
  | createBooking dto =>
    obtain ⟨row, rfl, head⟩ := path_answer path
    obtain ⟨data, written⟩ := written_createBooking head
    exact ⟨.booking row, rfl, shows written rfl rfl⟩
  | updateBooking id dto =>
    obtain ⟨row, rfl, head⟩ := path_answer path
    exact ⟨.booking row, rfl, shows (written_updateBooking head) rfl rfl⟩
  | cancelBooking id =>
    obtain ⟨row, rfl, head⟩ := path_answer path
    exact ⟨.booking row, rfl, shows (written_cancelBooking head) rfl rfl⟩
  | removeBooking id =>
    obtain ⟨row, rfl, head⟩ := path_answer path
    obtain ⟨_, _, _, _, rest, rfl⟩ := head.bind_ok
    have written := path_written rest fun _ => yields_bind fun _ => yields_ret _
    exact ⟨.booking row, rfl, shows (mem_right written) rfl rfl⟩
  | _ => cases writes

end Paths
end HotelBooking
