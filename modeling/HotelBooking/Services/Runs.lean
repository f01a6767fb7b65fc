import HotelBooking.Services.Requests
import HotelBooking.Database.Writes

/-! Requests served while nothing else runs and nothing fails. A statement never
answers then with a connection error or an aborted transaction, so the shard
wrapper is transparent and `serializable` makes one attempt. -/
namespace HotelBooking
open Relational Effect

/-- An error that neither `run` nor `serializable` handles. -/
def Err.Plain (error : Err) : Prop := error.isConnection = false ∧ error.isSerialization = false

/-- A result whose error, if it is one, is plain. -/
def Calm (result : Except Err α) : Prop := ∀ error, result = .error error → error.Plain

theorem calm_ok (value : α) : Calm (.ok value) := by
  intro error failed
  cases failed

theorem calm_error {error : Err} (plain : error.Plain) : Calm (.error error : Except Err α) := by
  intro other failed
  cases failed
  exact plain

theorem calm_bind {value : Except Err α} {next : α → Except Err β} (first : Calm value)
    (rest : ∀ given, Calm (next given)) : Calm (value >>= next) := by
  cases value with
  | error error => exact calm_error (first error rfl)
  | ok given => exact rest given

theorem calm_dite {condition : Prop} [Decidable condition] {yes : condition → Except Err α}
    {no : ¬ condition → Except Err α} (left : ∀ h, Calm (yes h)) (right : ∀ h, Calm (no h)) :
    Calm (if h : condition then yes h else no h) := by
  split
  · exact left _
  · exact right _

theorem calm_overWith {given : Field α} {convert : α → Except Err β} {old : β}
    (converts : ∀ value, Calm (convert value)) : Calm (given.overWith convert old) := by
  cases given with
  | absent => exact calm_ok old
  | null => exact calm_error ⟨rfl, rfl⟩
  | value new => exact converts new

theorem calm_over (given : Field α) (old : α) : Calm (given.over old) := calm_overWith calm_ok

theorem calm_date (given : Option Instant) : Calm (date given) := by
  cases given with
  | none => exact calm_error ⟨rfl, rfl⟩
  | some instant => exact calm_ok instant

theorem calm_decimal (number : Rat) : Calm (decimal number) := by
  unfold decimal
  split
  · exact calm_ok _
  · exact calm_error ⟨rfl, rfl⟩

theorem calm_integer (number : Int) : Calm (integer number) := by
  unfold integer
  split
  · exact calm_ok _
  · exact calm_error ⟨rfl, rfl⟩

theorem CreateHotelDto.calm_row (dto : CreateHotelDto) (id : Text) (createdAt : Instant) :
    Calm (dto.row id createdAt) := calm_bind (calm_over _ _) fun _ => calm_ok _

theorem UpdateHotelDto.calm_over (dto : UpdateHotelDto) (old : Hotel) : Calm (dto.over old) :=
  calm_bind (HotelBooking.calm_over _ _) fun _ => calm_bind (HotelBooking.calm_over _ _) fun _ =>
    calm_bind (HotelBooking.calm_over _ _) fun _ => calm_bind (HotelBooking.calm_over _ _) fun _ =>
      calm_ok _

theorem CreateRoomDto.calm_row (dto : CreateRoomDto) (id : Text) (createdAt : Instant) :
    Calm (dto.row id createdAt) :=
  calm_bind (calm_decimal _) fun _ => calm_bind (calm_integer _) fun _ => calm_ok _

theorem UpdateRoomDto.calm_over (dto : UpdateRoomDto) (old : Room) : Calm (dto.over old) :=
  calm_bind (calm_overWith fun _ => calm_ok _) fun _ =>
    calm_bind (HotelBooking.calm_over _ _) fun _ => calm_bind (HotelBooking.calm_over _ _) fun _ =>
      calm_bind (calm_overWith calm_decimal) fun _ =>
        calm_bind (calm_overWith calm_integer) fun _ => calm_ok _

theorem BookingData.calm_over (data : BookingData) (old : Booking) : Calm (data.over old) :=
  calm_bind (calm_overWith fun _ => calm_ok _) fun _ =>
    calm_bind (calm_overWith fun _ => calm_ok _) fun _ =>
      calm_bind (calm_overWith calm_date) fun _ => calm_bind (calm_overWith calm_date) fun _ =>
        calm_bind (HotelBooking.calm_over _ _) fun _ => calm_ok _

namespace Tables
variable (tables : Tables) (id : Text)

theorem calm_hotelCreate (dto : CreateHotelDto) (createdAt : Instant) :
    Calm (tables.hotelCreate id dto createdAt) :=
  calm_bind (dto.calm_row id createdAt) fun _ =>
    calm_dite (fun _ => calm_ok _) fun _ => calm_error ⟨rfl, rfl⟩

theorem calm_hotelUpdate (dto : UpdateHotelDto) : Calm (tables.hotelUpdate id dto) := by
  unfold hotelUpdate
  split
  · exact calm_bind (dto.calm_over _) fun _ => calm_ok _
  · exact calm_error ⟨rfl, rfl⟩

theorem calm_hotelDelete : Calm (tables.hotelDelete id) := by
  unfold hotelDelete
  split
  · exact calm_dite (fun _ => calm_ok _) fun _ => calm_error ⟨rfl, rfl⟩
  · exact calm_error ⟨rfl, rfl⟩

theorem calm_roomCreate (dto : CreateRoomDto) (createdAt : Instant) :
    Calm (tables.roomCreate id dto createdAt) :=
  calm_bind (dto.calm_row id createdAt) fun _ =>
    calm_dite (fun _ => calm_dite (fun _ => calm_dite (fun _ => calm_ok _)
      fun _ => calm_error ⟨rfl, rfl⟩) fun _ => calm_error ⟨rfl, rfl⟩) fun _ => calm_error ⟨rfl, rfl⟩

theorem calm_roomUpdate (dto : UpdateRoomDto) : Calm (tables.roomUpdate id dto) := by
  unfold roomUpdate
  split
  · refine calm_bind (dto.calm_over _) fun _ => calm_dite (fun _ => ?_) fun _ => calm_error ⟨rfl, rfl⟩
    exact calm_dite (fun _ => calm_ok _) fun _ => calm_error ⟨rfl, rfl⟩
  · exact calm_error ⟨rfl, rfl⟩

theorem calm_roomDelete : Calm (tables.roomDelete id) := by
  unfold roomDelete
  split
  · exact calm_dite (fun _ => calm_ok _) fun _ => calm_error ⟨rfl, rfl⟩
  · exact calm_error ⟨rfl, rfl⟩

theorem calm_parameters (filter : RoomFilter) : Calm filter.parameters := by
  unfold RoomFilter.parameters
  split
  · exact calm_error ⟨rfl, rfl⟩
  · split
    · exact calm_error ⟨rfl, rfl⟩
    · exact calm_ok _

theorem calm_roomSearch (filter : RoomFilter) : Calm (tables.roomSearch filter) :=
  calm_bind (calm_date _) fun _ => calm_bind (calm_date _) fun _ =>
    calm_bind (calm_parameters filter) fun _ => calm_ok _

theorem calm_bookingCreate (roomId guestId : Text) (checkIn checkOut : Instant)
    (totalCents : Int) (status : BookingStatus) (createdAt : Instant) :
    Calm (tables.bookingCreate id roomId guestId checkIn checkOut totalCents status createdAt) := by
  unfold bookingCreate
  split
  · refine calm_dite (fun _ => ?_) fun _ => calm_error ⟨rfl, rfl⟩
    exact calm_dite (fun _ => calm_ok _) fun _ => calm_error ⟨rfl, rfl⟩
  · exact calm_error ⟨rfl, rfl⟩

theorem calm_bookingUpdate (data : BookingData) : Calm (tables.bookingUpdate id data) := by
  unfold bookingUpdate
  split
  · exact calm_bind (data.calm_over _) fun _ =>
      calm_dite (fun _ => calm_ok _) fun _ => calm_error ⟨rfl, rfl⟩
  · exact calm_error ⟨rfl, rfl⟩

theorem calm_bookingDelete : Calm (tables.bookingDelete id) := by
  unfold bookingDelete
  split
  · exact calm_ok _
  · exact calm_error ⟨rfl, rfl⟩

theorem calm_reserve (data : Reservation) (excluded : Option Text) :
    Calm (tables.reserve data excluded) := by
  unfold reserve
  split
  · refine calm_bind (calm_date _) fun _ => calm_bind (calm_date _) fun _ => ?_
    dsimp only
    split
    · exact calm_error ⟨rfl, rfl⟩
    · exact tables.calm_bookingCreate _ _ _ _ _ _ _ _
  · exact calm_error ⟨rfl, rfl⟩

theorem calm_reserveAndCancel (data : Reservation) : Calm (tables.reserveAndCancel data id) :=
  calm_bind (tables.calm_reserve data (some id)) fun reserved =>
    calm_bind (reserved.2.calm_bookingUpdate id _) fun _ => calm_ok _

end Tables

theorem Stmt.calm (stmt : Stmt) (tables : Tables) : Calm (stmt.exec tables) := by
  cases stmt with
  | hotelCreate id dto createdAt => exact tables.calm_hotelCreate id dto createdAt
  | hotelUpdate id dto => exact tables.calm_hotelUpdate id dto
  | hotelDelete id => exact tables.calm_hotelDelete id
  | roomCreate id dto createdAt => exact tables.calm_roomCreate id dto createdAt
  | roomUpdate id dto => exact tables.calm_roomUpdate id dto
  | roomDelete id => exact tables.calm_roomDelete id
  | roomSearch filter => exact calm_bind (tables.calm_roomSearch filter) fun _ => calm_ok _
  | bookingUpdate id data => exact tables.calm_bookingUpdate id data
  | bookingDelete id => exact tables.calm_bookingDelete id
  | reserve data => exact tables.calm_reserve data none
  | reserveAndCancel data id => exact tables.calm_reserveAndCancel id data
  | hotelFindMany | hotelFindUnique | hotelFindCard | roomFindMany | roomFindUnique
  | roomFindByNumber | bookingFindMany | bookingFindByGuest | bookingCount
  | bookingFindUnique | bookingFindView | bookingUpdateMany => exact calm_ok _

theorem UpdateGuestDto.calm_over (dto : UpdateGuestDto) (old : Guest) : Calm (dto.over old) :=
  calm_bind (HotelBooking.calm_over _ _) fun _ => calm_bind (HotelBooking.calm_over _ _) fun _ =>
    calm_ok _

theorem GuestStmt.calm (stmt : GuestStmt) (directory : Guests) : Calm (stmt.exec directory) := by
  cases stmt with
  | findMany | findIn | findUnique | findByEmail => exact calm_ok _
  | create id dto createdAt =>
    exact calm_dite (fun _ => calm_dite (fun _ => calm_ok _) fun _ => calm_error ⟨rfl, rfl⟩)
      fun _ => calm_error ⟨rfl, rfl⟩
  | update id dto =>
    simp only [exec]
    split
    · exact calm_bind (dto.calm_over _) fun _ =>
        calm_dite (fun _ => calm_ok _) fun _ => calm_error ⟨rfl, rfl⟩
    · exact calm_error ⟨rfl, rfl⟩
  | delete id =>
    simp only [exec]
    split
    · exact calm_ok _
    · exact calm_error ⟨rfl, rfl⟩

namespace World
variable {n : Nat}

theorem calm_exec (cmd : Cmd n) (world : World n) : Calm (exec cmd world).1 := by
  cases cmd with
  | shard i stmt =>
    have calm := stmt.calm (world.shards i)
    cases done : stmt.exec (world.shards i) with
    | error error =>
      rw [exec_shard_error done]
      exact calm_error (calm error done)
    | ok result =>
      obtain ⟨answer, tables⟩ := result
      rw [exec_shard_ok done]
      exact calm_ok answer
  | guests stmt =>
    have calm := stmt.calm world.guests
    simp only [exec]
    split
    · exact calm_ok _
    · next error failed => exact calm_error (calm error failed)
  | cache cmd => exact calm_ok _

end World

section Run
variable {n : Nat} {world : World n}

@[simp] theorem run_issue (cmd : Cmd n) : (issue cmd).run World.exec world = World.exec cmd world :=
  Program.run_perform (S := signature n) cmd world

@[simp] theorem run_attempt (program : Async n α) : (attempt program).run World.exec world =
    (.ok (program.run World.exec world).1, (program.run World.exec world).2) := by
  simp only [attempt, Program.tryCatch_eq, Program.bind_eq, Program.run_recover, Program.run_bind]
  rcases program.run World.exec world with ⟨_ | _, _⟩ <;> rfl

/-- A handler that only looks at connection errors sees none. -/
theorem run_calm {program : Async n α} {handler : Err → Async n α}
    (calm : Calm (program.run World.exec world).1)
    (rethrows : ∀ error, error.Plain → handler error = .raise error) :
    (program.recover handler).run World.exec world = program.run World.exec world := by
  rw [Program.run_recover]
  cases done : program.run World.exec world with
  | mk reply after =>
    cases reply with
    | ok value => rfl
    | error error =>
      rw [done] at calm
      simp only [rethrows error (calm error rfl), Program.run_raise]

theorem run_router {router : ShardRouter n} {i : Fin n} {body : Async n α}
    (calm : Calm (body.run World.exec world).1) :
    (router.run i body).run World.exec world = body.run World.exec world := by
  refine run_calm calm fun error plain => ?_
  simp only [plain.1, Bool.false_eq_true, if_false, Program.throw_eq]

@[simp] theorem run_read (router : ShardRouter n) (i : Fin n) (stmt : Stmt) :
    (router.read i stmt).run World.exec world = World.exec (.shard i stmt) world := by
  have calm : Calm ((issue (.shard i stmt)).run World.exec world).1 := by
    rw [run_issue]
    exact World.calm_exec _ world
  rw [ShardRouter.read, run_router calm, run_issue]

@[simp] theorem run_write (router : ShardRouter n) (i : Fin n) (stmt : Stmt) :
    (router.write i stmt).run World.exec world = World.exec (.shard i stmt) world :=
  run_read router i stmt

@[simp] theorem run_globalRead (stmt : GuestStmt) (consistency : Consistency) :
    (globalRead stmt consistency : Async n stmt.Answer).run World.exec world =
      World.exec (.guests stmt) world := by
  unfold globalRead
  rw [Program.tryCatch_eq, run_calm, run_issue]
  · rw [run_issue]
    exact World.calm_exec _ world
  · intro error plain
    simp only [plain.1, Bool.false_eq_true, if_false, Program.throw_eq]

@[simp] theorem run_globalWrite (stmt : GuestStmt) :
    (globalWrite stmt : Async n stmt.Answer).run World.exec world =
      World.exec (.guests stmt) world := by
  unfold globalWrite
  rw [Program.tryCatch_eq, run_calm, run_issue]
  · rw [run_issue]
    exact World.calm_exec _ world
  · intro error plain
    simp only [plain.1, Bool.false_eq_true, if_false, Program.throw_eq]

theorem run_serializable {transaction : Nat → Async n α}
    (calm : Calm ((transaction 1).run World.exec world).1) :
    (BookingsService.serializable transaction).run World.exec world =
      (transaction 1).run World.exec world := by
  refine run_calm calm fun error plain => ?_
  simp only [plain.2, Bool.not_false, if_true, Program.throw_eq]

/-- A transaction behind the shard wrapper, with its retries. -/
theorem run_transaction {router : ShardRouter n} {i : Fin n} (transaction : Nat → Async n α)
    (calm : Calm ((transaction 1).run World.exec world).1) :
    (router.run i (BookingsService.serializable transaction)).run World.exec world =
      (transaction 1).run World.exec world := by
  have once := run_serializable calm
  rw [run_router (once ▸ calm), once]

theorem exec_read_ok {i : Fin n} {stmt : Stmt} {answer : stmt.Answer}
    (done : stmt.exec (world.shards i) = .ok (answer, world.shards i)) :
    World.exec (.shard i stmt) world = (.ok answer, world) := by
  rw [World.exec_shard_ok done, World.setShard_same]

theorem exec_guestRead_ok {stmt : GuestStmt} {answer : stmt.Answer}
    (done : stmt.exec world.guests = .ok (answer, world.guests)) :
    World.exec (.guests stmt) world = (.ok answer, world) := by
  simp only [World.exec, done]

theorem run_assertGuestExists (guestId : Text) :
    (BookingsService.assertGuestExists guestId : Async n Unit).run World.exec world =
      (match world.guests.guests.find? guestId with
        | some _ => .ok ()
        | none => .error (.notFound (text "Guest with id " ++ guestId ++ text " not found")),
      world) := by
  rw [BookingsService.assertGuestExists, Program.bind_eq, Program.run_bind, run_globalRead,
    exec_guestRead_ok rfl]
  cases world.guests.guests.find? guestId <;> rfl

theorem run_findLocal (env : Env n) (id : Text) :
    (BookingsService.findLocal env id).run World.exec world =
      (match (world.shards (env.router.forKey id)).bookings.find? id with
        | some booking => .ok booking
        | none => .error (.notFound (text "Booking with id " ++ id ++ text " not found")),
      world) := by
  rw [BookingsService.findLocal, Program.bind_eq, Program.run_bind, run_read, exec_read_ok rfl]
  cases (world.shards (env.router.forKey id)).bookings.find? id <;> rfl

end Run

/-- The world after `bumpVersion`. -/
def World.bumped {n : Nat} (world : World n) (env : Env n) : World n :=
  if env.redisConfigured then { world with redis := (Redis.exec .incr world.redis).2 } else world

section Bumped
variable {n : Nat} {world : World n} {env : Env n}

@[simp] theorem World.bumped_shards : (world.bumped env).shards = world.shards := by
  unfold World.bumped
  split <;> rfl

@[simp] theorem World.bumped_guests : (world.bumped env).guests = world.guests := by
  unfold World.bumped
  split <;> rfl

@[simp] theorem run_bumpVersion :
    (CacheService.bumpVersion env).run World.exec world = (.ok (), world.bumped env) := by
  unfold CacheService.bumpVersion World.bumped
  cases env.redisConfigured with
  | false => rfl
  | true =>
    simp only [Bool.not_true, Bool.false_eq_true, if_false, if_true, Program.bind_eq,
      Program.run_bind, run_attempt]
    rfl

/-- A write and then the new search version, which only a successful write causes. -/
theorem run_thenInvalidate (program : Async n α) :
    (program.bind fun result => (BookingsService.invalidateSearch env).bind fun _ =>
      Program.ret result).run World.exec world =
      match program.run World.exec world with
      | (.ok result, after) => (.ok result, after.bumped env)
      | (.error error, after) => (.error error, after) := by
  rw [Program.run_bind]
  rcases program.run World.exec world with ⟨_ | result, after⟩
  · rfl
  · simp only [BookingsService.invalidateSearch, Program.run_bind, run_bumpVersion,
      Program.run_ret]

theorem run_thenInvalidate_outcome (program : Async n α) :
    ((program.bind fun result => (BookingsService.invalidateSearch env).bind fun _ =>
      Program.ret result).run World.exec world).1 = (program.run World.exec world).1 ∧
    ((program.bind fun result => (BookingsService.invalidateSearch env).bind fun _ =>
      Program.ret result).run World.exec world).2.shards =
      (program.run World.exec world).2.shards := by
  rw [run_thenInvalidate]
  rcases program.run World.exec world with ⟨_ | result, after⟩
  · exact ⟨rfl, rfl⟩
  · exact ⟨rfl, World.bumped_shards⟩

end Bumped

section Saga
variable {n : Nat} {world : World n} {env : Env n}

theorem run_sagaReserve (entropy : Entropy) (roomId : Text) (original : Booking) :
    (BookingsService.sagaReserve env entropy roomId original).run World.exec world =
      World.exec (.shard (env.router.forKey roomId)
        (.reserve (BookingsService.relocation entropy roomId original .pending 1))) world := by
  refine (run_transaction _ ?_).trans (run_issue _)
  rw [run_issue]
  exact World.calm_exec _ world

theorem run_relocateTransaction (entropy : Entropy) (roomId id : Text) (original : Booking)
    (i : Fin n) :
    (env.router.run i (BookingsService.serializable fun attempt => issue (.shard i
      (.reserveAndCancel (BookingsService.relocation entropy roomId original original.status
        attempt) id)))).run World.exec world =
      World.exec (.shard i (.reserveAndCancel
        (BookingsService.relocation entropy roomId original original.status 1) id)) world := by
  refine (run_transaction _ ?_).trans (run_issue _)
  rw [run_issue]
  exact World.calm_exec _ world

theorem exec_reserve (i : Fin n) (data : Reservation) :
    World.exec (.shard i (.reserve data)) world =
      match (world.shards i).reserve data none with
      | .ok (created, reserved) => (.ok created, world.setShard i reserved)
      | .error error => (.error error, world) := by
  simp only [World.exec, Stmt.exec]
  rcases (world.shards i).reserve data none with error | ⟨created, reserved⟩ <;> rfl

theorem exec_updateMany (i : Fin n) (id : Text) (statuses : List BookingStatus)
    (status : BookingStatus) : World.exec (.shard i (.bookingUpdateMany id statuses status)) world =
      (.ok ((world.shards i).bookingUpdateMany id statuses status).1,
        world.setShard i ((world.shards i).bookingUpdateMany id statuses status).2) := rfl

/-- T2 on the tables of the source shard. -/
theorem run_sagaCancel (id : Text) :
    (BookingsService.sagaCancel env id false).run World.exec world =
      (if ((world.shards (env.router.forKey id)).bookingUpdateMany id activeStatuses
          .cancelled).1 = 0 then
        .error (.conflict (text "Original booking is no longer active")) else .ok (),
      world.setShard (env.router.forKey id) ((world.shards (env.router.forKey id)).bookingUpdateMany
        id activeStatuses .cancelled).2) := by
  rw [BookingsService.sagaCancel, if_neg Bool.false_ne_true, Program.bind_eq, Program.run_bind,
    run_write, exec_updateMany]
  generalize (world.shards (env.router.forKey id)).bookingUpdateMany id activeStatuses
    .cancelled = result
  obtain ⟨count, after⟩ := result
  by_cases none : count = 0
  · simp only [if_pos none]
    rfl
  · simp only [if_neg none]
    rfl

theorem run_compensate (target : Fin n) (createdId : Text) :
    (BookingsService.compensate env target createdId).run World.exec world =
      (.ok ⟨text "C1 cancel reservation (compensation)", env.router.name target, .compensated,
        some createdId⟩,
      world.setShard target ((world.shards target).bookingUpdateMany createdId [.pending]
        .cancelled).2) := by
  rw [BookingsService.compensate, Program.bind_eq, Program.run_bind, run_attempt, run_write,
    exec_updateMany]
  rfl

/-- T1 on the tables of the target shard, and then the rest of the saga. -/
theorem run_relocateSaga (entropy : Entropy) (roomId id : Text) (original : Booking)
    (simulateFailure : Bool) :
    (BookingsService.relocateSaga env entropy roomId id original simulateFailure).run
        World.exec world =
      match (world.shards (env.router.forKey roomId)).reserve
        (BookingsService.relocation entropy roomId original .pending 1) none with
      | .ok (created, reserved) =>
        (BookingsService.relocateReserved env id original simulateFailure (env.router.forKey id)
          (env.router.forKey roomId) created).run World.exec
          (world.setShard (env.router.forKey roomId) reserved)
      | .error error =>
        (.error (BookingsService.sagaAborted [⟨text "T1 reserve new room (PENDING)",
          env.router.name (env.router.forKey roomId), .failed, some error.message⟩] error
          (env.router.name (env.router.forKey id)) (env.router.name (env.router.forKey roomId))),
        world) := by
  rw [BookingsService.relocateSaga, Program.bind_eq, Program.run_bind, Program.tryCatch_eq,
    Program.run_recover, run_sagaReserve, exec_reserve]
  rcases (world.shards (env.router.forKey roomId)).reserve
    (BookingsService.relocation entropy roomId original .pending 1) none with
    error | ⟨created, reserved⟩
  · rfl
  · rfl

end Saga
end HotelBooking
