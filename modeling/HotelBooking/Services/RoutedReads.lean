import HotelBooking.Services.Footprint
import HotelBooking.Topology.Lockstep

/-! Where the requests read and write. A request asks the shards of its keys and no others. A read
of given keys goes to the shard of these keys, and only the statements that list rows go to other
shards. -/
namespace HotelBooking
open Effect
variable {n : Nat}

/-- The statements that list rows of many keys. -/
def Stmt.lists : Stmt → Bool
  | .hotelFindMany | .roomFindMany | .roomSearch _ | .bookingFindMany | .bookingFindByGuest _
  | .bookingCount _ => true
  | _ => false

/-- A read of the command, if it is one, lists rows or is about keys of its shard. -/
def ReadsRouted (router : ShardRouter n) : Cmd n → Prop
  | .shard i stmt =>
    stmt.isRead = true → stmt.lists = true ∨ stmt.LocalTo router.forKey i
  | _ => True

/-- The shards of the keys that a request is about; all of them for one that asks them all. -/
def Request.shards (env : Env n) (entropy : Entropy) : Request → List (Fin n)
  | .createHotel dto =>
    [env.router.forKey (env.router.newHotelId env.platform dto.city (entropy.uuid 0))]
  | .createRoom dto => [env.router.forKey dto.hotelId]
  | .createBooking dto => [env.router.forKey dto.roomId]
  | .findHotel id | .updateHotel id _ | .removeHotel id | .findRoom id | .updateRoom id _
  | .removeRoom id | .findBooking id | .updateBooking id _ | .cancelBooking id
  | .removeBooking id => [env.router.forKey id]
  | .relocateBooking id dto => [env.router.forKey id, env.router.forKey dto.roomId]
  | .createGuest _ | .findGuests | .findGuest _ | .updateGuest .. => []
  | .searchRooms dto =>
    match (dto.city.filter fun city => !city.isEmpty).bind
        (env.router.shardForCity env.platform) with
    | some shard => [shard]
    | none => List.finRange n
  | .findHotels | .findRooms | .findGuestBookings _ | .removeGuest _ | .findBookings =>
    List.finRange n

/-- A command to one of the shards, to the global node or to Redis. -/
def Reaches (shards : List (Fin n)) : Cmd n → Prop
  | .shard i _ => i ∈ shards
  | _ => True

/-- A command for one of these shards, where its reads are routed. -/
structure AsksOnly (router : ShardRouter n) (shards : List (Fin n)) (cmd : Cmd n) : Prop where
  reaches : Reaches shards cmd
  routed : ReadsRouted router cmd

section Services
variable {env : Env n} {shards : List (Fin n)}

theorem asksOnly_list {stmt : Stmt} (lists : stmt.lists = true) {i : Fin n} (here : i ∈ shards) :
    AsksOnly env.router shards (.shard i stmt) := ⟨here, fun _ => Or.inl lists⟩

theorem asksOnly_all {stmt : Stmt} (lists : stmt.lists = true) (i : Fin n) :
    AsksOnly env.router (List.finRange n) (.shard i stmt) :=
  asksOnly_list lists (List.mem_finRange i)

theorem asksOnly_key {stmt : Stmt} {i : Fin n} (keyed : stmt.LocalTo env.router.forKey i)
    (here : i ∈ shards) : AsksOnly env.router shards (.shard i stmt) :=
  ⟨here, fun _ => Or.inr keyed⟩

theorem asksOnly_write {stmt : Stmt} (write : stmt.isRead = false) {i : Fin n} (here : i ∈ shards) :
    AsksOnly env.router shards (.shard i stmt) := by
  refine ⟨here, fun read => ?_⟩
  cases write.symm.trans read

theorem asksOnly_guests (stmt : GuestStmt) : AsksOnly env.router shards (.guests stmt) :=
  ⟨trivial, trivial⟩

theorem asksOnly_cache (cmd : CacheCmd) : AsksOnly env.router shards (.cache cmd) :=
  ⟨trivial, trivial⟩

section Keyed
variable {id : Text} (here : env.router.forKey id ∈ shards)
include here

theorem asksOnly_findLocal : (BookingsService.findLocal env id).Uses (AsksOnly env.router shards) :=
  uses_findLocal (asksOnly_key rfl here)

theorem asksOnly_findHotel : (HotelsService.findOne env id).Uses (AsksOnly env.router shards) :=
  uses_findHotel (asksOnly_key rfl here)

theorem asksOnly_findRoom : (RoomsService.findOne env id).Uses (AsksOnly env.router shards) :=
  uses_findRoom (asksOnly_key rfl here)

theorem asksOnly_updateHotel (dto : UpdateHotelDto) :
    (HotelsService.update env id dto).Uses (AsksOnly env.router shards) :=
  Program.uses_bind (asksOnly_findHotel here) fun _ =>
    Program.uses_bind (uses_write (asksOnly_write rfl here)) fun _ =>
      uses_invalidateForHotel (asksOnly_cache _) (asksOnly_cache _)

theorem asksOnly_removeHotel : (HotelsService.remove env id).Uses (AsksOnly env.router shards) :=
  Program.uses_bind (asksOnly_findHotel here) fun _ =>
    Program.uses_bind (uses_write (asksOnly_write rfl here)) fun _ =>
      uses_invalidateForHotel (asksOnly_cache _) (asksOnly_cache _)

theorem asksOnly_updateRoom (dto : UpdateRoomDto) :
    (RoomsService.update env id dto).Uses (AsksOnly env.router shards) := by
  unfold RoomsService.update
  split
  · trivial
  · refine Program.uses_bind (asksOnly_findRoom here) fun _ => ?_
    refine Program.uses_bind (uses_write (asksOnly_write rfl here)) fun _ => ?_
    exact Program.uses_bind
      (uses_invalidateForRooms _ (fun _ => asksOnly_cache _) (asksOnly_cache _)) fun _ => trivial

theorem asksOnly_removeRoom : (RoomsService.remove env id).Uses (AsksOnly env.router shards) := by
  refine Program.uses_bind (asksOnly_findRoom here) fun _ => ?_
  refine Program.uses_bind (uses_write (asksOnly_write rfl here)) fun _ => ?_
  exact Program.uses_bind
    (uses_invalidateForRooms _ (fun _ => asksOnly_cache _) (asksOnly_cache _)) fun _ => trivial

theorem asksOnly_updateBooking (dto : UpdateBookingDto) :
    (BookingsService.update env id dto).Uses (AsksOnly env.router shards) := by
  have rest : (do
      let _ ← BookingsService.findLocal env id
      let booking ← env.router.write (env.router.forKey id)
        (.bookingUpdate id (BookingsService.patchData env.platform dto))
      BookingsService.invalidateSearch env
      return booking : Async n Booking).Uses (AsksOnly env.router shards) :=
    Program.uses_bind (asksOnly_findLocal here) fun _ =>
      uses_thenInvalidate (uses_write (asksOnly_write rfl here)) (asksOnly_cache _)
  unfold BookingsService.update
  split
  · trivial
  · dsimp only
    split
    · exact Program.uses_bind (uses_assertGuestExists (asksOnly_guests _)) fun _ => rest
    · exact rest

theorem asksOnly_cancelBooking :
    (BookingsService.cancel env id).Uses (AsksOnly env.router shards) := by
  refine Program.uses_bind (asksOnly_findLocal here) fun booking => ?_
  split
  · trivial
  · trivial
  · exact uses_thenInvalidate (uses_write (asksOnly_write rfl here)) (asksOnly_cache _)

theorem asksOnly_removeBooking :
    (BookingsService.remove env id).Uses (AsksOnly env.router shards) :=
  Program.uses_bind (asksOnly_findLocal here) fun _ =>
    uses_thenInvalidate (uses_write (asksOnly_write rfl here)) (asksOnly_cache _)

theorem asksOnly_relocate (entropy : Entropy) {dto : RelocateBookingDto}
    (there : env.router.forKey dto.roomId ∈ shards) :
    (BookingsService.relocate env entropy id dto).Uses (AsksOnly env.router shards) := by
  unfold BookingsService.relocate
  split
  · trivial
  · refine Program.uses_bind (asksOnly_findLocal here) fun original => ?_
    split
    · trivial
    · split
      · trivial
      · split
        · exact uses_relocateLocally (fun _ => asksOnly_write rfl here) (asksOnly_cache _)
        · exact uses_relocateSaga (fun _ => asksOnly_write rfl there) (asksOnly_write rfl here)
            (fun _ => asksOnly_write rfl there) (fun _ => asksOnly_write rfl there) (asksOnly_cache _)

end Keyed

theorem asksOnly_createRoom (entropy : Entropy) {dto : CreateRoomDto}
    (here : env.router.forKey dto.hotelId ∈ shards) :
    (RoomsService.create env entropy dto).Uses (AsksOnly env.router shards) := by
  refine Program.uses_bind (uses_read (asksOnly_key rfl here)) fun hotel => ?_
  cases hotel with
  | none => trivial
  | some hotel =>
    refine Program.uses_bind (uses_read (asksOnly_key rfl here)) fun existing => ?_
    cases existing with
    | some room => trivial
    | none =>
      refine Program.uses_bind (uses_write (asksOnly_write rfl here)) fun _ => ?_
      exact Program.uses_bind
        (uses_invalidateForRooms _ (fun _ => asksOnly_cache _) (asksOnly_cache _)) fun _ => trivial

theorem asksOnly_createBooking (entropy : Entropy) {dto : CreateBookingDto}
    (here : env.router.forKey dto.roomId ∈ shards) :
    (BookingsService.create env entropy dto).Uses (AsksOnly env.router shards) := by
  unfold BookingsService.create
  dsimp only
  split
  · trivial
  · refine Program.uses_bind (uses_assertGuestExists (asksOnly_guests _)) fun _ =>
      uses_thenInvalidate ?_ (asksOnly_cache _)
    exact uses_run (uses_serializable fun attempt => uses_issue (asksOnly_write rfl here))

theorem asksOnly_search (entropy : Entropy) (schedule : Schedule n) (dto : SearchRoomDto) :
    (RoomsService.search env schedule dto).Uses
      (AsksOnly env.router ((Request.searchRooms dto).shards env entropy)) := by
  unfold RoomsService.search
  dsimp only [Request.shards]
  cases (dto.city.filter fun city => !city.isEmpty).bind (env.router.shardForCity env.platform) with
  | some shard => exact uses_read (asksOnly_list rfl (List.mem_singleton_self shard))
  | none => exact uses_fanOutList (asksOnly_all rfl)

end Services

/-- Every request asks the shards of its keys, and every read of it is routed by its keys. -/
theorem asksOnly_program (env : Env n) (call : Call n) :
    (call.program env).Uses (AsksOnly env.router (call.request.shards env call.entropy)) := by
  have alone (i : Fin n) : i ∈ [i] := List.mem_singleton_self i
  obtain ⟨request, entropy, schedule⟩ := call
  cases request with
  | createHotel dto =>
    exact Program.uses_bind (uses_write (asksOnly_write rfl (alone _))) fun _ => trivial
  | findHotels => exact Program.uses_bind (uses_fanOutList (asksOnly_all rfl)) fun _ => trivial
  | findHotel id =>
    have found := asksOnly_findHotel (alone (env.router.forKey id))
    exact Program.uses_bind
      (uses_getOrSet (asksOnly_cache _) (fun _ _ => asksOnly_cache _) found found) fun _ => trivial
  | updateHotel id dto => exact Program.uses_bind (asksOnly_updateHotel (alone _) dto) fun _ => trivial
  | removeHotel id => exact Program.uses_bind (asksOnly_removeHotel (alone _)) fun _ => trivial
  | createRoom dto => exact Program.uses_bind (asksOnly_createRoom entropy (alone _)) fun _ => trivial
  | findRooms => exact Program.uses_bind (uses_fanOutList (asksOnly_all rfl)) fun _ => trivial
  | findRoom id => exact Program.uses_bind (asksOnly_findRoom (alone _)) fun _ => trivial
  | searchRooms dto =>
    have found : (RoomsService.search env schedule dto).Uses
        (AsksOnly env.router ((Request.searchRooms dto).shards env entropy)) :=
      asksOnly_search entropy schedule dto
    refine Program.uses_bind (Program.uses_bind (uses_getVersion env (asksOnly_cache _))
      fun _ => Program.uses_bind (Program.uses_ofExcept _) fun _ => ?_) fun _ => trivial
    exact Program.uses_bind
      (uses_getOrSet (asksOnly_cache _) (fun _ _ => asksOnly_cache _) found found) fun _ => trivial
  | updateRoom id dto => exact Program.uses_bind (asksOnly_updateRoom (alone _) dto) fun _ => trivial
  | removeRoom id => exact Program.uses_bind (asksOnly_removeRoom (alone _)) fun _ => trivial
  | createGuest dto =>
    refine Program.uses_bind (Program.uses_bind (uses_globalRead (asksOnly_guests _))
      fun found => ?_) fun _ => trivial
    cases found with
    | some guest => trivial
    | none => exact uses_globalWrite (asksOnly_guests _)
  | findGuests => exact Program.uses_bind (uses_globalRead (asksOnly_guests _)) fun _ => trivial
  | findGuest id => exact Program.uses_bind (uses_findGuest (asksOnly_guests _)) fun _ => trivial
  | findGuestBookings id =>
    refine Program.uses_bind (Program.uses_bind (uses_findGuest (asksOnly_guests _))
      fun _ => ?_) fun _ => trivial
    exact Program.uses_bind (uses_fanOutList (asksOnly_all rfl)) fun _ => trivial
  | updateGuest id dto =>
    exact Program.uses_bind (Program.uses_bind (uses_findGuest (asksOnly_guests _)) fun _ =>
      uses_globalWrite (asksOnly_guests _)) fun _ => trivial
  | removeGuest id =>
    refine Program.uses_bind (Program.uses_bind (uses_findGuest (asksOnly_guests _))
      fun _ => ?_) fun _ => trivial
    refine Program.uses_bind (uses_fanOut (asksOnly_all rfl)) fun result => ?_
    dsimp only
    split
    · trivial
    · exact uses_globalWrite (asksOnly_guests _)
  | createBooking dto =>
    exact Program.uses_bind (asksOnly_createBooking entropy (alone _)) fun _ => trivial
  | findBookings =>
    exact Program.uses_bind (Program.uses_bind (uses_fanOutList (asksOnly_all rfl))
      fun _ => uses_attachGuests fun _ => asksOnly_guests _) fun _ => trivial
  | findBooking id =>
    refine Program.uses_bind (Program.uses_bind (uses_read (asksOnly_key rfl (alone _)))
      fun found => ?_) fun _ => trivial
    cases found with
    | none => trivial
    | some view =>
      exact Program.uses_bind (uses_attachGuests fun _ => asksOnly_guests _) fun _ => trivial
  | updateBooking id dto =>
    exact Program.uses_bind (asksOnly_updateBooking (alone _) dto) fun _ => trivial
  | cancelBooking id => exact Program.uses_bind (asksOnly_cancelBooking (alone _)) fun _ => trivial
  | removeBooking id => exact Program.uses_bind (asksOnly_removeBooking (alone _)) fun _ => trivial
  | relocateBooking id dto =>
    refine Program.uses_bind (asksOnly_relocate ?_ entropy ?_) fun _ => trivial
    · exact List.mem_cons_self
    · exact List.mem_cons_of_mem _ (alone _)

/-- Every read of every request is routed by its keys. -/
theorem reads_program (env : Env n) (call : Call n) :
    (call.program env).Uses (ReadsRouted env.router) :=
  (asksOnly_program env call).mono fun _ asked => asked.routed

/-- A request asks no other shards than those of its keys. -/
theorem reaches_program (env : Env n) (call : Call n) :
    (call.program env).Uses (Reaches (call.request.shards env call.entropy)) :=
  (asksOnly_program env call).mono fun _ asked => asked.reaches

end HotelBooking
