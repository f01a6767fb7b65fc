import HotelBooking.Topology.Mirror
import HotelBooking.Invariants.QueryLocality

/-! Each service over several shards beside the same service over the single node, with the
strategy hash and without Redis. -/
namespace HotelBooking
open Relational Effect
variable {n : Nat} {env : Env n}

section Disabled

theorem bumpVersion_disabled (env : Env n) (disabled : env.redisConfigured = false) :
    CacheService.bumpVersion env = .ret () := by
  simp only [CacheService.bumpVersion, disabled, Bool.not_false, if_true, Program.pure_eq]

theorem invalidate_disabled (env : Env n) (disabled : env.redisConfigured = false)
    (keys : List CacheKey) : CacheService.invalidate env keys = .ret () := by
  simp only [CacheService.invalidate, disabled, Bool.not_false, Bool.true_or, if_true,
    Program.pure_eq]

theorem getVersion_disabled (env : Env n) (disabled : env.redisConfigured = false) :
    CacheService.getVersion env = .ret 0 := by
  simp only [CacheService.getVersion, disabled, Bool.not_false, if_true, Program.pure_eq]

theorem getOrSet_disabled (env : Env n) (disabled : env.redisConfigured = false) (key : CacheKey)
    (ttl : CacheTtl) (jitter : Nat) (loader bypassLoader : Async n key.Value) :
    CacheService.getOrSet env key ttl jitter loader bypassLoader =
      CacheService.bypass key bypassLoader := by
  simp only [CacheService.getOrSet, disabled, Bool.not_false, if_true]

variable (disabled : env.redisConfigured = false)
include disabled

theorem alike_bumpVersion : Alike env.router Eq (CacheService.bumpVersion env)
    (CacheService.bumpVersion env.single) := by
  rw [bumpVersion_disabled env disabled, bumpVersion_disabled env.single disabled]
  exact Program.simulates_ret rfl

theorem alike_invalidate (keys others : List CacheKey) :
    Alike env.router Eq (CacheService.invalidate env keys)
      (CacheService.invalidate env.single others) := by
  rw [invalidate_disabled env disabled, invalidate_disabled env.single disabled]
  exact Program.simulates_ret rfl

theorem alike_invalidateForRooms (ids others : List Text) :
    Alike env.router Eq (RoomsService.invalidateForRooms env ids)
      (RoomsService.invalidateForRooms env.single others) :=
  Program.simulates_bind (alike_invalidate disabled _ _) fun _ _ _ => alike_bumpVersion disabled

/-- A write, and the new search version after it. -/
theorem alike_thenInvalidate {program : Async n α} {image : Async 1 α}
    (writes : Alike env.router Eq program image) :
    Alike env.router Eq
      (program.bind fun result =>
        (BookingsService.invalidateSearch env).bind fun _ => .ret result)
      (image.bind fun result =>
        (BookingsService.invalidateSearch env.single).bind fun _ => .ret result) := by
  refine Program.simulates_bind writes fun result image same => ?_
  subst same
  exact Program.simulates_bind (alike_bumpVersion disabled) fun _ _ _ => Program.simulates_ret rfl

end Disabled

/-- The keys that PATCH may write stay on the shard of the row. -/
theorem forKey_given {given : Field Uuid} {id : Text}
    (guard : BookingsService.foreignBucket given id = false) (parent : Uuid)
    (same : given = .value parent) : env.router.forKey parent = env.router.forKey id := by
  subst same
  exact env.router.forKey_congr (bne_eq_false_iff_eq.mp guard)

section Hotels

theorem alike_createHotel (entropy : Entropy) (dto : CreateHotelDto) :
    Alike env.router Eq (HotelsService.create env entropy dto)
      (HotelsService.create env.single entropy dto) :=
  alike_write env.router (.hotelCreate _ dto _) rfl _

theorem alike_findHotels (schedule : Schedule n) (other : Schedule 1) :
    Alike env.router List.Perm (HotelsService.findAll env schedule)
      (HotelsService.findAll env.single other) :=
  alike_fanOutList env.router .hotelFindMany rfl schedule other id (fun tables => tables.hotels.rows) (fun _ => rfl)
    fun _ _ mirrors => mirrors.perm_hotels

theorem alike_findHotel (id : Text) :
    Alike env.router Eq (HotelsService.findOne env id) (HotelsService.findOne env.single id) := by
  refine Program.simulates_bind (alike_read env.router (.hotelFindCard id) rfl _) fun found image same => ?_
  subst same
  cases found with
  | none => exact Program.simulates_raise _ _
  | some card => exact Program.simulates_ret rfl

variable (disabled : env.redisConfigured = false)
include disabled

theorem alike_findOneCached (entropy : Entropy) (id : Text) :
    Alike env.router Eq (HotelsService.findOneCached env entropy id)
      (HotelsService.findOneCached env.single entropy id) := by
  unfold HotelsService.findOneCached
  rw [getOrSet_disabled env disabled, getOrSet_disabled env.single disabled]
  refine Program.simulates_bind (alike_findHotel id) fun card image same => ?_
  subst same
  exact Program.simulates_ret rfl

/-- What follows the write of a hotel. -/
theorem alike_hotelWritten {id : Text} {program : Async n Hotel} {image : Async 1 Hotel}
    (writes : Alike env.router Eq program image) :
    Alike env.router Eq
      (do let _ ← HotelsService.findOne env id
          let hotel ← program
          CacheService.invalidate env [.hotel id]
          CacheService.bumpVersion env
          return hotel)
      (do let _ ← HotelsService.findOne env.single id
          let hotel ← image
          CacheService.invalidate env.single [.hotel id]
          CacheService.bumpVersion env.single
          return hotel) := by
  refine Program.simulates_bind (alike_findHotel id) fun _ _ _ => ?_
  refine Program.simulates_bind writes fun hotel image same => ?_
  subst same
  refine Program.simulates_bind (alike_invalidate disabled _ _) fun _ _ _ => ?_
  exact Program.simulates_bind (alike_bumpVersion disabled) fun _ _ _ => Program.simulates_ret rfl

theorem alike_updateHotel (id : Text) (dto : UpdateHotelDto) :
    Alike env.router Eq (HotelsService.update env id dto)
      (HotelsService.update env.single id dto) :=
  alike_hotelWritten disabled (alike_write env.router (.hotelUpdate id dto) rfl _)

theorem alike_removeHotel (id : Text) :
    Alike env.router Eq (HotelsService.remove env id) (HotelsService.remove env.single id) :=
  alike_hotelWritten disabled (alike_write env.router (.hotelDelete id) rfl _)

end Hotels

section Rooms

theorem alike_findRooms (schedule : Schedule n) (other : Schedule 1) :
    Alike env.router List.Perm (RoomsService.findAll env schedule)
      (RoomsService.findAll env.single other) :=
  alike_fanOutList env.router .roomFindMany rfl schedule other id
    (fun tables => tables.rooms.rows.filterMap tables.roomView?) (fun _ => rfl) fun _ _ mirrors => mirrors.perm_rooms Tables.roomView? fun _ _ member =>
      mirrors.roomView? member

theorem alike_findRoom (id : Text) :
    Alike env.router Eq (RoomsService.findOne env id) (RoomsService.findOne env.single id) := by
  refine Program.simulates_bind (alike_read env.router (.roomFindUnique id) rfl _) fun found image same => ?_
  subst same
  cases found with
  | none => exact Program.simulates_raise _ _
  | some room => exact Program.simulates_ret rfl

/-- The rooms that a shard offers, row by row. -/
theorem Tables.offers_eq (tables : Tables) (filter : RoomFilter) (checkIn checkOut : Instant) :
    tables.offers filter checkIn checkOut = tables.rooms.rows.filterMap fun room =>
      (tables.roomView? room).filter (tables.matchesFilter filter checkIn checkOut) := by
  rw [offers, List.filter_filterMap]

theorem alike_searchAll (schedule : Schedule n) (other : Schedule 1) {dto : SearchRoomDto}
    {checkIn checkOut : Instant} (readIn : env.platform.newDate dto.checkIn = some checkIn)
    (readOut : env.platform.newDate dto.checkOut = some checkOut) :
    Alike env.router List.Perm (RoomsService.searchAll env schedule dto)
      (RoomsService.searchAll env.single other dto) := by
  cases given : (RoomsService.searchFilter env.platform dto).parameters with
  | error error =>
    -- every shard refuses the query, and so does the node
    intro world node mirrors
    have shards : ∀ i, ∃ raised, world.answer
        (.roomSearch (RoomsService.searchFilter env.platform dto)) i = .error raised :=
      fun i => ⟨error, answer_roomSearch_refused readIn readOut given i⟩
    have single : ∀ i, ∃ raised, node.answer
        (.roomSearch (RoomsService.searchFilter env.single.platform dto)) i = .error raised :=
      fun i => ⟨error, answer_roomSearch_refused readIn readOut given i⟩
    rw [RoomsService.searchAll, run_fanOutList_failed rfl schedule id shards,
      RoomsService.searchAll, run_fanOutList_failed rfl other id single]
    exact ⟨List.Perm.refl [], mirrors⟩
  | ok accepted =>
    refine alike_fanOutList env.router (.roomSearch (RoomsService.searchFilter env.platform dto)) rfl
      schedule other id (fun tables => tables.offers (RoomsService.searchFilter env.platform dto)
        checkIn checkOut) ?_ ?_
    · intro tables
      simp only [Stmt.exec, Tables.roomSearch, given]
      simp only [RoomsService.searchFilter, readIn, readOut, date, except_ok_bind, except_pure,
        Tables.offers]
    · intro world node mirrors
      simp only [id_eq, Tables.offers_eq]
      refine mirrors.perm_rooms (fun tables room => (tables.roomView? room).filter
        (tables.matchesFilter (RoomsService.searchFilter env.platform dto) checkIn checkOut)) ?_
      intro i room member
      rw [mirrors.roomView? member]
      cases viewed : (node.shards 0).roomView? room with
      | none => rfl
      | some view =>
        have same : view.room = room := by
          simp only [Tables.roomView?, Option.pure_def, Option.bind_eq_bind, Option.bind_eq_some_iff,
            Option.some.injEq] at viewed
          obtain ⟨hotel, _, rfl⟩ := viewed
          rfl
        have found : view.room ∈ (world.shards i).rooms := same ▸ member
        simp only [Option.filter, mirrors.matchesFilter found]

theorem search_hash (env : Env n) (hash : env.router.strategy = .hash) (schedule : Schedule n)
    (dto : SearchRoomDto) :
    RoomsService.search env schedule dto = RoomsService.searchAll env schedule dto := by
  unfold RoomsService.search ShardRouter.shardForCity
  rw [hash]
  cases dto.city.filter fun city => !city.isEmpty <;> rfl

variable (disabled : env.redisConfigured = false)
include disabled

/-- The same status and the same rooms, up to order. -/
theorem alike_searchCached (hash : env.router.strategy = .hash) (entropy : Entropy)
    (schedule : Schedule n) (other : Schedule 1) (dto : SearchRoomDto) :
    Alike env.router (fun found image => found.1 = image.1 ∧ found.2.Perm image.2)
      (RoomsService.searchCached env entropy schedule dto)
      (RoomsService.searchCached env.single entropy other dto) := by
  unfold RoomsService.searchCached
  rw [getVersion_disabled env disabled, getVersion_disabled env.single disabled]
  simp only [Program.bind_eq, Program.ret_bind]
  cases normalized : normalizeSearchParams env.platform dto with
  | error error =>
    rw [show normalizeSearchParams env.single.platform dto = .error error from normalized]
    exact Program.simulates_raise _ _
  | ok params =>
    rw [show normalizeSearchParams env.single.platform dto = .ok params from normalized]
    obtain ⟨readIn, readOut, _⟩ := normalized_ok normalized
    simp only [Program.ofExcept_ok, Program.ret_bind, getOrSet_disabled env disabled,
      getOrSet_disabled env.single disabled, search_hash env hash, search_hash env.single hash]
    refine Program.simulates_bind ?_ fun found image
      (same : found.cache = image.cache ∧ found.data.Perm image.data) => Program.simulates_ret same
    refine Program.simulates_bind (alike_searchAll schedule other readIn readOut) ?_
    exact fun found image perm => Program.simulates_ret ⟨rfl, perm⟩

theorem alike_createRoom (entropy : Entropy) (dto : CreateRoomDto) :
    Alike env.router Eq (RoomsService.create env entropy dto)
      (RoomsService.create env.single entropy dto) := by
  refine Program.simulates_bind (alike_read env.router (.hotelFindUnique dto.hotelId) rfl _)
    fun hotel image same => ?_
  subst same
  cases hotel with
  | none => exact Program.simulates_raise _ _
  | some hotel =>
    refine Program.simulates_bind (alike_read env.router
      (.roomFindByNumber dto.hotelId dto.roomNumber) rfl _) fun taken image same => ?_
    subst same
    cases taken with
    | some room => exact Program.simulates_raise _ _
    | none =>
      refine Program.simulates_bind (alike_write env.router (.roomCreate _ dto _)
        ⟨env.router.forKey_childId _ _, rfl⟩ _) ?_
      rintro room _ rfl
      refine Program.simulates_bind (alike_invalidateForRooms disabled _ _) fun _ _ _ => ?_
      exact Program.simulates_ret rfl

theorem alike_updateRoom (id : Text) (dto : UpdateRoomDto) :
    Alike env.router Eq (RoomsService.update env id dto)
      (RoomsService.update env.single id dto) := by
  unfold RoomsService.update
  cases guard : BookingsService.foreignBucket dto.hotelId id with
  | true => exact Program.simulates_raise _ _
  | false =>
    simp only [Bool.false_eq_true, if_false]
    refine Program.simulates_bind (alike_findRoom id) fun before image same => ?_
    subst same
    refine Program.simulates_bind (alike_write env.router (.roomUpdate id dto)
      ⟨rfl, fun hotelId given => ?_⟩ _) ?_
    · exact forKey_given guard hotelId given
    · rintro room _ rfl
      refine Program.simulates_bind (alike_invalidateForRooms disabled _ _) fun _ _ _ => ?_
      exact Program.simulates_ret rfl

theorem alike_removeRoom (id : Text) :
    Alike env.router Eq (RoomsService.remove env id) (RoomsService.remove env.single id) := by
  refine Program.simulates_bind (alike_findRoom id) fun _ _ _ => ?_
  refine Program.simulates_bind (alike_write env.router (.roomDelete id) rfl _) ?_
  rintro room _ rfl
  refine Program.simulates_bind (alike_invalidateForRooms disabled _ _) fun _ _ _ => ?_
  exact Program.simulates_ret rfl

end Rooms

section Guests

theorem alike_createGuest (entropy : Entropy) (dto : CreateGuestDto) :
    Alike env.router Eq (GuestsService.create entropy dto) (GuestsService.create entropy dto) := by
  refine Program.simulates_bind (alike_globalRead env.router (.findByEmail dto.email) .strong) ?_
  rintro taken _ rfl
  cases taken with
  | some guest => exact Program.simulates_raise _ _
  | none => exact alike_globalWrite env.router (.create _ dto _)

theorem alike_findGuest (id : Text) (consistency : Consistency) :
    Alike env.router Eq (GuestsService.findOne id consistency)
      (GuestsService.findOne id consistency) := by
  refine Program.simulates_bind (alike_globalRead env.router (.findUnique id) consistency) ?_
  rintro found _ rfl
  cases found with
  | none => exact Program.simulates_raise _ _
  | some guest => exact Program.simulates_ret rfl

theorem alike_updateGuest (id : Text) (dto : UpdateGuestDto) :
    Alike env.router Eq (GuestsService.update id dto) (GuestsService.update id dto) :=
  Program.simulates_bind (alike_findGuest id .strong) fun _ _ _ =>
    alike_globalWrite env.router (.update id dto)

/-- The counts of the shards add up to the count of the node. -/
theorem alike_bookingCount (schedule : Schedule n) (other : Schedule 1) (id : Text) :
    Alike env.router (fun result image =>
        result.parts.foldl (fun total part => total + part.2) 0 =
          image.parts.foldl (fun total part => total + part.2) 0)
      (env.router.fanOut schedule (.bookingCount id) false)
      (env.single.router.fanOut other (.bookingCount id) false) := by
  let count (tables : Tables) : Nat :=
    (tables.bookings.rows.filter fun booking => booking.guestId = id).length
  have replies {k : Nat} (world : World k) (i : Fin k) :
      world.answer (.bookingCount id) i = .ok (count (world.shards i)) := by
    have answered : (Stmt.bookingCount id).exec (world.shards i) =
        .ok (count (world.shards i), world.shards i) := rfl
    rw [World.answer, World.exec_shard_ok answered]
  have total (k : Nat) (counts : Fin k → Nat) :
      ((List.finRange k).map fun i => (i, counts i)).foldl (fun total part => total + part.2) 0 =
        ((List.finRange k).map counts).sum := by
    rw [List.foldl_map, List.sum_eq_foldl, List.foldl_map]
  intro world node mirrors
  rw [run_fanOut rfl schedule false (replies world), run_fanOut rfl other false (replies node)]
  refine ⟨(total n fun i => count (world.shards i)).trans (Eq.trans ?_
    (total 1 fun i => count (node.shards i)).symm), mirrors⟩
  have perm := mirrors.perm_bookings
    (fun _ => Option.guard fun booking => booking.guestId = id) fun _ _ _ => rfl
  have lengths := perm.length_eq
  simp only [List.filterMap_eq_filter, List.length_flatMap] at lengths
  simpa [List.finRange_succ] using lengths

theorem alike_removeGuest (schedule : Schedule n) (other : Schedule 1) (id : Text) :
    Alike env.router Eq (GuestsService.remove env schedule id)
      (GuestsService.remove env.single other id) := by
  refine Program.simulates_bind (alike_findGuest id .strong) fun _ _ _ => ?_
  refine Program.simulates_bind (alike_bookingCount schedule other id) fun result image same => ?_
  simp only [same]
  split
  · exact Program.simulates_raise _ _
  · exact alike_globalWrite env.router (.delete id)

theorem alike_findGuestBookings (schedule : Schedule n) (other : Schedule 1) (id : Text) :
    Alike env.router List.Perm (GuestsService.findBookings env schedule id)
      (GuestsService.findBookings env.single other id) := by
  refine Program.simulates_bind (alike_findGuest id .eventual) fun _ _ _ => ?_
  refine Program.simulates_bind ?_ fun bookings image (perm : bookings.Perm image) => ?_
  · refine alike_fanOutList env.router (.bookingFindByGuest id) rfl schedule other (fun rows => rows)
      (fun tables => (tables.bookings.rows.filter fun booking =>
        booking.guestId = id).filterMap tables.bookingView?) (fun _ => rfl) ?_
    intro world node mirrors
    simp only [List.filterMap_filter]
    refine mirrors.perm_bookings (fun tables booking =>
      if decide (booking.guestId = id) = true then tables.bookingView? booking else none) ?_
    intro i booking member
    simp only [mirrors.bookingView? member]
  · apply Program.simulates_ret
    exact (List.mergeSort_perm _ _).trans (perm.trans (List.mergeSort_perm _ _).symm)

end Guests

section Bookings

/-- Every booking with its guest, as the directory has it. -/
theorem run_attachGuests {world : World n} (bookings : List BookingView)
    (consistency : Consistency) :
    (BookingsService.attachGuests bookings consistency : Async n _).run World.exec world =
      (.ok (bookings.map fun view =>
        ⟨view, world.guests.guests.find? view.booking.guestId⟩), world) := by
  unfold BookingsService.attachGuests
  by_cases none : (bookings.map fun view => view.booking.guestId).eraseDups.isEmpty
  · have empty : bookings = [] := by
      cases bookings with
      | nil => rfl
      | cons view rest => simp [List.eraseDups_cons] at none
    subst empty
    rfl
  · simp only [none, Bool.false_eq_true, if_false, Program.bind_eq, Program.pure_eq]
    rw [Program.run_bind, run_globalRead, exec_guestRead_ok rfl]
    refine Prod.ext (congrArg Except.ok ?_) rfl
    refine List.map_congr_left fun view member => ?_
    have listed : view.booking.guestId ∈
        (bookings.map fun view => view.booking.guestId).eraseDups :=
      List.mem_eraseDups.mpr (List.mem_map_of_mem member)
    congr 1
    rw [List.find?_filter]
    unfold Table.find?
    congr 1
    funext guest
    by_cases same : guest.id = view.booking.guestId
    · simp [same, listed]
    · simp [same]

theorem alike_attachGuests {bookings others : List BookingView} (perm : bookings.Perm others)
    (consistency : Consistency) :
    Alike env.router List.Perm (BookingsService.attachGuests bookings consistency)
      (BookingsService.attachGuests others consistency) := by
  intro world node mirrors
  rw [run_attachGuests, run_attachGuests, mirrors.guests]
  exact ⟨perm.map _, mirrors⟩

theorem alike_findBookings (schedule : Schedule n) (other : Schedule 1) :
    Alike env.router List.Perm (BookingsService.findAll env schedule)
      (BookingsService.findAll env.single other) := by
  refine Program.simulates_bind ?_ fun bookings image (perm : bookings.Perm image) =>
    alike_attachGuests perm .eventual
  exact alike_fanOutList env.router .bookingFindMany rfl schedule other id
    (fun tables => tables.bookings.rows.filterMap tables.bookingView?) (fun _ => rfl)
    fun _ _ mirrors => mirrors.perm_bookings Tables.bookingView? fun _ _ member =>
      mirrors.bookingView? member

theorem alike_findBooking (id : Text) :
    Alike env.router Eq (BookingsService.findOne env id)
      (BookingsService.findOne env.single id) := by
  refine Program.simulates_bind (alike_read env.router (.bookingFindView id) rfl _) ?_
  rintro found _ rfl
  cases found with
  | none => exact Program.simulates_raise _ _
  | some view =>
    intro world node mirrors
    simp only [Program.bind_eq, Program.run_bind, run_attachGuests, Program.pure_eq,
      Program.run_ret, mirrors.guests]
    exact ⟨rfl, mirrors⟩

theorem alike_findLocal (id : Text) :
    Alike env.router Eq (BookingsService.findLocal env id)
      (BookingsService.findLocal env.single id) := by
  refine Program.simulates_bind (alike_read env.router (.bookingFindUnique id) rfl _) ?_
  rintro found _ rfl
  cases found with
  | none => exact Program.simulates_raise _ _
  | some booking => exact Program.simulates_ret rfl

theorem alike_assertGuestExists (guestId : Text) :
    Alike env.router Eq (BookingsService.assertGuestExists guestId)
      (BookingsService.assertGuestExists guestId) := by
  refine Program.simulates_bind (alike_globalRead env.router (.findUnique guestId) .strong) ?_
  rintro found _ rfl
  cases found with
  | none => exact Program.simulates_raise _ _
  | some guest => exact Program.simulates_ret rfl

variable (disabled : env.redisConfigured = false)
include disabled

theorem alike_createBooking (entropy : Entropy) (dto : CreateBookingDto) :
    Alike env.router Eq (BookingsService.create env entropy dto)
      (BookingsService.create env.single entropy dto) := by
  unfold BookingsService.create
  change Alike env.router Eq (ite _ _ _) (ite (notAfter (env.platform.newDate dto.checkOutDate)
    (env.platform.newDate dto.checkInDate) = true) _ _)
  split
  · exact Program.simulates_raise _ _
  · refine Program.simulates_bind (alike_assertGuestExists dto.guestId) fun _ _ _ => ?_
    exact alike_thenInvalidate disabled (alike_reserve env.router (fun attempt => {
      id := ShardRouter.childId dto.roomId (entropy.uuid attempt)
      roomId := dto.roomId
      guestId := dto.guestId
      checkIn := env.platform.newDate dto.checkInDate
      checkOut := env.platform.newDate dto.checkOutDate
      status := .pending
      createdAt := entropy.now attempt }) ⟨env.router.forKey_childId _ _, rfl⟩ _)

theorem alike_updateBooking (id : Text) (dto : UpdateBookingDto) :
    Alike env.router Eq (BookingsService.update env id dto)
      (BookingsService.update env.single id dto) := by
  have patches (guard : BookingsService.foreignBucket dto.roomId id = false) : Alike env.router Eq
      (do let _ ← BookingsService.findLocal env id
          let booking ← env.router.write (env.router.forKey id)
            (.bookingUpdate id (BookingsService.patchData env.platform dto))
          BookingsService.invalidateSearch env
          return booking)
      (do let _ ← BookingsService.findLocal env.single id
          let booking ← env.single.router.write (env.single.router.forKey id)
            (.bookingUpdate id (BookingsService.patchData env.platform dto))
          BookingsService.invalidateSearch env.single
          return booking) := by
    refine Program.simulates_bind (alike_findLocal id) fun _ _ _ => ?_
    refine alike_thenInvalidate disabled (alike_write env.router
      (.bookingUpdate id (BookingsService.patchData env.platform dto)) ⟨rfl, ?_⟩ _)
    exact fun roomId given => forKey_given guard roomId given
  unfold BookingsService.update
  cases guard : BookingsService.foreignBucket dto.roomId id with
  | true => exact Program.simulates_raise _ _
  | false =>
    simp only [Bool.false_eq_true, if_false]
    cases dto.guestId with
    | absent => exact patches guard
    | null => exact patches guard
    | value guestId =>
      exact Program.simulates_bind (alike_assertGuestExists guestId) fun _ _ _ => patches guard

theorem alike_removeBooking (id : Text) :
    Alike env.router Eq (BookingsService.remove env id) (BookingsService.remove env.single id) :=
  Program.simulates_bind (alike_findLocal id) fun _ _ _ =>
    alike_thenInvalidate disabled (alike_write env.router (.bookingDelete id) rfl _)

theorem alike_cancelBooking (id : Text) :
    Alike env.router Eq (BookingsService.cancel env id) (BookingsService.cancel env.single id) := by
  have cancels : Alike env.router Eq
      (env.router.write (env.router.forKey id) (.bookingUpdate id { status := .value .cancelled }))
      (env.single.router.write (env.single.router.forKey id)
        (.bookingUpdate id { status := .value .cancelled })) := by
    refine alike_write env.router (.bookingUpdate id { status := .value .cancelled }) ⟨rfl, ?_⟩ _
    intro roomId given
    cases given
  refine Program.simulates_bind (alike_findLocal id) ?_
  rintro booking _ rfl
  cases booking.status with
  | cancelled => exact Program.simulates_raise _ _
  | completed => exact Program.simulates_raise _ _
  | pending => exact alike_thenInvalidate disabled cancels
  | confirmed => exact alike_thenInvalidate disabled cancels

end Bookings
end HotelBooking
