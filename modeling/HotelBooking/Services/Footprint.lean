import HotelBooking.Services.Requests
import HotelBooking.Database.Writes

/-! Which commands each request can issue, under every reply it may get. All later
invariants look at these commands only and never unfold a service again. -/
namespace HotelBooking
open Effect

inductive Issued (env : Env n) (entropy : Entropy) : Request → Cmd n → Prop where
  | cacheVersion : Issued env entropy request (.cache (.get .searchVersion))
  | cacheLookCard {id : Text} : Issued env entropy (.findHotel id) (.cache (.get (.hotel id)))
  | cacheLookSearch :
      Issued env entropy (.searchRooms dto) (.cache (.get (.roomsSearch version params)))
  | cacheDel : Issued env entropy request (.cache (.del keys))
  | cacheIncr : Issued env entropy request (.cache .incr)
  | cacheCard {id : Text} {card : HotelCard} :
      Issued env entropy (.findHotel id) (.cache (.set (.hotel id) card ttlSec))
  | cacheSearch {views : List RoomView} :
      Issued env entropy (.searchRooms dto) (.cache (.set (.roomsSearch version params) views ttlSec))
  | shardRead : stmt.isRead = true → Issued env entropy request (.shard i stmt)
  | guestRead : stmt.isRead = true → Issued env entropy request (.guests stmt)
  | createHotel {id : Text} : id = env.router.newHotelId env.platform dto.city (entropy.uuid 0) →
      Issued env entropy (.createHotel dto)
        (.shard (env.router.forKey id) (.hotelCreate id dto (entropy.now 0)))
  | updateHotel {id : Text} : Issued env entropy (.updateHotel id dto)
      (.shard (env.router.forKey id) (.hotelUpdate id dto))
  | removeHotel {id : Text} : Issued env entropy (.removeHotel id)
      (.shard (env.router.forKey id) (.hotelDelete id))
  | createRoom {id : Text} : id = ShardRouter.childId dto.hotelId (entropy.uuid 0) →
      Issued env entropy (.createRoom dto)
        (.shard (env.router.forKey dto.hotelId) (.roomCreate id dto (entropy.now 0)))
  | updateRoom {id : Text} : BookingsService.foreignBucket dto.hotelId id = false →
      Issued env entropy (.updateRoom id dto)
        (.shard (env.router.forKey id) (.roomUpdate id dto))
  | removeRoom {id : Text} : Issued env entropy (.removeRoom id)
      (.shard (env.router.forKey id) (.roomDelete id))
  | createGuest : Issued env entropy (.createGuest dto)
      (.guests (.create (entropy.uuid 0) dto (entropy.now 0)))
  | updateGuest {id : Text} : Issued env entropy (.updateGuest id dto) (.guests (.update id dto))
  | removeGuest {id : Text} : Issued env entropy (.removeGuest id) (.guests (.delete id))
  | createBooking :
      data.id = ShardRouter.childId dto.roomId (entropy.uuid k) →
      data.roomId = dto.roomId.text → data.guestId = dto.guestId.text →
      data.checkIn = env.platform.newDate dto.checkInDate →
      data.checkOut = env.platform.newDate dto.checkOutDate →
      notAfter data.checkOut data.checkIn = false → data.status = .pending →
      Issued env entropy (.createBooking dto)
        (.shard (env.router.forKey dto.roomId) (.reserve data))
  | updateBooking {id : Text} : BookingsService.foreignBucket dto.roomId id = false →
      Issued env entropy (.updateBooking id dto) (.shard (env.router.forKey id)
        (.bookingUpdate id (BookingsService.patchData env.platform dto)))
  | cancelBooking {id : Text} : Issued env entropy (.cancelBooking id)
      (.shard (env.router.forKey id) (.bookingUpdate id { status := .value .cancelled }))
  | removeBooking {id : Text} : Issued env entropy (.removeBooking id)
      (.shard (env.router.forKey id) (.bookingDelete id))
  | relocateLocally {id : Text} : original.Active → env.router.forKey id = env.router.forKey dto.roomId →
      Issued env entropy (.relocateBooking id dto) (.shard (env.router.forKey id)
        (.reserveAndCancel
          (BookingsService.relocation entropy dto.roomId original original.status k) id))
  | sagaReserve {id : Text} : original.Active →
      Issued env entropy (.relocateBooking id dto) (.shard (env.router.forKey dto.roomId)
        (.reserve (BookingsService.relocation entropy dto.roomId original .pending k)))
  | sagaCancel {id : Text} : Issued env entropy (.relocateBooking id dto)
      (.shard (env.router.forKey id) (.bookingUpdateMany id activeStatuses .cancelled))
  | compensate {id : Text} : Issued env entropy (.relocateBooking id dto)
      (.shard (env.router.forKey dto.roomId) (.bookingUpdateMany createdId [.pending] .cancelled))
  | sagaConfirm {id : Text} : status ∈ activeStatuses → env.router.forKey id ≠ env.router.forKey dto.roomId →
      Issued env entropy (.relocateBooking id dto) (.shard (env.router.forKey dto.roomId)
        (.bookingUpdate createdId { status := .value status }))

section Combinators
variable {n : Nat} {allowed : Cmd n → Prop}

theorem uses_issue {cmd : Cmd n} (permitted : allowed cmd) : (issue cmd).Uses allowed :=
  Program.uses_perform permitted

theorem uses_attempt {program : Async n α} (uses : program.Uses allowed) :
    (attempt program).Uses allowed := by
  refine Program.uses_recover (Program.uses_bind uses fun value => ?_) fun error => ?_
  all_goals trivial

theorem uses_run {router : ShardRouter n} {i : Fin n} {body : Async n α}
    (uses : body.Uses allowed) : (router.run i body).Uses allowed := by
  refine Program.uses_recover uses fun error => ?_
  split <;> trivial

theorem uses_read {router : ShardRouter n} {i : Fin n} {stmt : Stmt}
    (permitted : allowed (.shard i stmt)) : (router.read i stmt).Uses allowed :=
  uses_run (uses_issue permitted)

theorem uses_write {router : ShardRouter n} {i : Fin n} {stmt : Stmt}
    (permitted : allowed (.shard i stmt)) : (router.write i stmt).Uses allowed :=
  uses_run (uses_issue permitted)

theorem uses_globalRead {stmt : GuestStmt} {consistency : Consistency}
    (permitted : allowed (.guests stmt)) :
    (globalRead stmt consistency : Async n stmt.Answer).Uses allowed := by
  refine Program.uses_recover (uses_issue permitted) fun error => ?_
  split <;> trivial

theorem uses_globalWrite {stmt : GuestStmt} (permitted : allowed (.guests stmt)) :
    (globalWrite stmt : Async n stmt.Answer).Uses allowed := by
  refine Program.uses_recover (uses_issue permitted) fun error => ?_
  split <;> trivial

theorem uses_settle {router : ShardRouter n} {stmt : Stmt} {order : List (Fin n)}
    (permitted : ∀ i, allowed (.shard i stmt)) : (router.settle stmt order).Uses allowed := by
  induction order with
  | nil => trivial
  | cons i rest ih =>
    exact Program.uses_bind (uses_attempt (uses_read (permitted i))) fun _ =>
      Program.uses_bind ih fun _ => trivial

theorem uses_fanOut {router : ShardRouter n} {schedule : Schedule n} {stmt : Stmt}
    {allowPartial : Bool} (permitted : ∀ i, allowed (.shard i stmt)) :
    (router.fanOut schedule stmt allowPartial).Uses allowed :=
  Program.uses_bind (uses_settle permitted) fun _ => Program.uses_ofExcept _

theorem uses_fanOutList {router : ShardRouter n} {schedule : Schedule n} {stmt : Stmt}
    {rows : stmt.Answer → List α} {allowPartial : Bool} (permitted : ∀ i, allowed (.shard i stmt)) :
    (router.fanOutList schedule stmt rows allowPartial).Uses allowed :=
  Program.uses_bind (uses_fanOut permitted) fun _ => trivial

theorem uses_serializable {transaction : Nat → Async n α}
    (uses : ∀ attempt, (transaction attempt).Uses allowed) :
    (BookingsService.serializable transaction).Uses allowed := by
  have loop : ∀ remaining attempt,
      (BookingsService.serializableFrom transaction attempt remaining).Uses allowed := by
    intro remaining
    induction remaining with
    | zero =>
      intro attempt
      refine Program.uses_recover (uses attempt) fun error => ?_
      split <;> trivial
    | succ remaining ih =>
      intro attempt
      refine Program.uses_recover (uses attempt) fun error => ?_
      split
      · trivial
      · exact ih (attempt + 1)
  exact loop _ _

theorem uses_bumpVersion (env : Env n) (incr : allowed (.cache .incr)) :
    (CacheService.bumpVersion env).Uses allowed := by
  unfold CacheService.bumpVersion
  split
  · trivial
  · exact Program.uses_bind (uses_attempt (uses_issue incr)) fun _ => trivial

theorem uses_invalidate (env : Env n) (keys : List CacheKey) (del : allowed (.cache (.del keys))) :
    (CacheService.invalidate env keys).Uses allowed := by
  unfold CacheService.invalidate
  split
  · trivial
  · exact Program.uses_bind (uses_attempt (uses_issue del)) fun _ => trivial

theorem uses_getVersion (env : Env n) (get : allowed (.cache (.get .searchVersion))) :
    (CacheService.getVersion env).Uses allowed := by
  unfold CacheService.getVersion
  split
  · trivial
  · refine Program.uses_bind (uses_attempt (uses_issue get)) fun reply => ?_
    split <;> trivial

theorem uses_getOrSet {env : Env n} {key : CacheKey} {ttl : CacheTtl} {jitter : Nat}
    {loader bypassLoader : Async n key.Value} (get : allowed (.cache (.get key)))
    (set : ∀ data ttlSec, allowed (.cache (.set key data ttlSec))) (load : loader.Uses allowed)
    (bypass : bypassLoader.Uses allowed) :
    (CacheService.getOrSet env key ttl jitter loader bypassLoader).Uses allowed := by
  unfold CacheService.getOrSet
  have bypassing : (CacheService.bypass key bypassLoader).Uses allowed :=
    Program.uses_bind bypass fun _ => trivial
  split
  · exact bypassing
  · refine Program.uses_bind (uses_attempt (uses_issue get)) fun reply => ?_
    split
    · exact bypassing
    · trivial
    · exact Program.uses_bind load fun _ =>
        Program.uses_bind (uses_attempt (uses_issue (set _ _))) fun _ => trivial

theorem uses_assertGuestExists {guestId : Text} (permitted : allowed (.guests (.findUnique guestId))) :
    (BookingsService.assertGuestExists guestId : Async n Unit).Uses allowed := by
  refine Program.uses_bind (uses_globalRead permitted) fun found => ?_
  cases found <;> trivial

theorem uses_attachGuests {bookings : List BookingView} {consistency : Consistency}
    (permitted : ∀ ids, allowed (.guests (.findIn ids))) :
    (BookingsService.attachGuests bookings consistency : Async n _).Uses allowed := by
  unfold BookingsService.attachGuests
  dsimp only
  split
  · trivial
  · exact Program.uses_bind (uses_globalRead (permitted _)) fun _ => trivial

theorem uses_findLocal {env : Env n} {id : Text}
    (permitted : allowed (.shard (env.router.forKey id) (.bookingFindUnique id))) :
    (BookingsService.findLocal env id).Uses allowed := by
  refine Program.uses_bind (uses_read permitted) fun found => ?_
  cases found <;> trivial

theorem uses_findHotel {env : Env n} {id : Text}
    (permitted : allowed (.shard (env.router.forKey id) (.hotelFindCard id))) :
    (HotelsService.findOne env id).Uses allowed := by
  refine Program.uses_bind (uses_read permitted) fun found => ?_
  cases found <;> trivial

theorem uses_findRoom {env : Env n} {id : Text}
    (permitted : allowed (.shard (env.router.forKey id) (.roomFindUnique id))) :
    (RoomsService.findOne env id).Uses allowed := by
  refine Program.uses_bind (uses_read permitted) fun found => ?_
  cases found <;> trivial

theorem uses_findGuest {id : Text} {consistency : Consistency}
    (permitted : allowed (.guests (.findUnique id))) :
    (GuestsService.findOne id consistency : Async n Guest).Uses allowed := by
  refine Program.uses_bind (uses_globalRead permitted) fun found => ?_
  cases found <;> trivial

/-- A write followed by the invalidation of the search results. -/
theorem uses_thenInvalidate {env : Env n} {program : Async n α} (uses : program.Uses allowed)
    (incr : allowed (.cache .incr)) :
    (do let result ← program
        BookingsService.invalidateSearch env
        return result : Async n α).Uses allowed :=
  Program.uses_bind uses fun _ => Program.uses_bind (uses_bumpVersion env incr) fun _ => trivial

/-- What follows a write to a hotel. -/
theorem uses_invalidateForHotel {env : Env n} {keys : List CacheKey} {value : α}
    (del : allowed (.cache (.del keys))) (incr : allowed (.cache .incr)) :
    (do CacheService.invalidate env keys
        CacheService.bumpVersion env
        return value : Async n α).Uses allowed :=
  Program.uses_bind (uses_invalidate env _ del) fun _ =>
    Program.uses_bind (uses_bumpVersion env incr) fun _ => trivial

theorem uses_invalidateForRooms {env : Env n} (hotelIds : List Text)
    (del : ∀ keys, allowed (.cache (.del keys))) (incr : allowed (.cache .incr)) :
    (RoomsService.invalidateForRooms env hotelIds).Uses allowed :=
  Program.uses_bind (uses_invalidate env _ (del _)) fun _ => uses_bumpVersion env incr

/-- A relocation within one shard. -/
theorem uses_relocateLocally {env : Env n} {entropy : Entropy} {roomId id : Text} {original : Booking}
    (transaction : ∀ k, allowed (.shard (env.router.forKey id) (.reserveAndCancel
      (BookingsService.relocation entropy roomId original original.status k) id)))
    (incr : allowed (.cache .incr)) :
    (BookingsService.relocateLocally env entropy roomId id original).Uses allowed := by
  refine Program.uses_bind ?_ fun _ => Program.uses_bind (uses_bumpVersion env incr) fun _ => trivial
  exact uses_run (uses_serializable fun attempt => uses_issue (transaction attempt))

/-- The steps of the saga: T1, T2, C1 and T3. -/
theorem uses_relocateSaga {env : Env n} {entropy : Entropy} {roomId id : Text} {original : Booking}
    {simulateFailure : Bool}
    (reserve : ∀ k, allowed (.shard (env.router.forKey roomId)
      (.reserve (BookingsService.relocation entropy roomId original .pending k))))
    (cancel : allowed (.shard (env.router.forKey id)
      (.bookingUpdateMany id activeStatuses .cancelled)))
    (compensate : ∀ createdId, allowed (.shard (env.router.forKey roomId)
      (.bookingUpdateMany createdId [.pending] .cancelled)))
    (confirm : ∀ createdId, allowed (.shard (env.router.forKey roomId)
      (.bookingUpdate createdId { status := .value original.status })))
    (incr : allowed (.cache .incr)) :
    (BookingsService.relocateSaga env entropy roomId id original simulateFailure).Uses allowed := by
  have reserving : (BookingsService.sagaReserve env entropy roomId original).Uses allowed :=
    uses_run (uses_serializable fun attempt => uses_issue (reserve attempt))
  have cancelling : (BookingsService.sagaCancel env id simulateFailure).Uses allowed := by
    unfold BookingsService.sagaCancel
    split
    · trivial
    · refine Program.uses_bind (uses_write cancel) fun count => ?_
      split <;> trivial
  refine Program.uses_bind (Program.uses_recover reserving fun _ => trivial) fun created => ?_
  refine Program.uses_bind (uses_attempt cancelling) fun outcome => ?_
  cases outcome with
  | error error =>
    refine Program.uses_bind ?_ fun _ => Program.uses_bind (uses_bumpVersion env incr) fun _ => trivial
    refine Program.uses_bind (uses_attempt (uses_write (compensate _))) fun reply => ?_
    cases reply <;> trivial
  | ok _ =>
    refine Program.uses_bind (uses_write (confirm _)) fun _ => ?_
    exact Program.uses_bind (uses_bumpVersion env incr) fun _ => trivial

end Combinators

namespace Issued
variable {n : Nat} {env : Env n} {entropy : Entropy} {request : Request}

theorem uses_assertGuestExists (guestId : Text) :
    (BookingsService.assertGuestExists guestId : Async n Unit).Uses (Issued env entropy request) :=
  HotelBooking.uses_assertGuestExists (.guestRead rfl)

theorem uses_attachGuests (bookings : List BookingView) (consistency : Consistency) :
    (BookingsService.attachGuests bookings consistency : Async n _).Uses
      (Issued env entropy request) :=
  HotelBooking.uses_attachGuests fun _ => .guestRead rfl

theorem uses_findLocal (id : Text) :
    (BookingsService.findLocal env id).Uses (Issued env entropy request) :=
  HotelBooking.uses_findLocal (.shardRead rfl)

theorem uses_findHotel (id : Text) :
    (HotelsService.findOne env id).Uses (Issued env entropy request) :=
  HotelBooking.uses_findHotel (.shardRead rfl)

theorem uses_findRoom (id : Text) :
    (RoomsService.findOne env id).Uses (Issued env entropy request) :=
  HotelBooking.uses_findRoom (.shardRead rfl)

theorem uses_findGuest (id : Text) (consistency : Consistency) :
    (GuestsService.findOne id consistency : Async n Guest).Uses (Issued env entropy request) :=
  HotelBooking.uses_findGuest (.guestRead rfl)

/-- A write followed by the invalidation of the search results. -/
theorem uses_thenInvalidate {program : Async n α}
    (uses : program.Uses (Issued env entropy request)) :
    (do let result ← program
        BookingsService.invalidateSearch env
        return result : Async n α).Uses (Issued env entropy request) :=
  HotelBooking.uses_thenInvalidate uses .cacheIncr

theorem uses_createBooking (dto : CreateBookingDto) :
    (BookingsService.create env entropy dto).Uses (Issued env entropy (.createBooking dto)) := by
  unfold BookingsService.create
  dsimp only
  split
  · trivial
  · next ordered =>
    refine Program.uses_bind (uses_assertGuestExists _) fun _ => uses_thenInvalidate ?_
    refine uses_run (uses_serializable fun attempt => uses_issue ?_)
    exact .createBooking rfl rfl rfl rfl rfl (by simpa using ordered) rfl

theorem uses_updateBooking (id : Text) (dto : UpdateBookingDto) :
    (BookingsService.update env id dto).Uses (Issued env entropy (.updateBooking id dto)) := by
  unfold BookingsService.update
  split
  · trivial
  · next sameBucket =>
    have rest : (do
        let _ ← BookingsService.findLocal env id
        let booking ← env.router.write (env.router.forKey id)
          (.bookingUpdate id (BookingsService.patchData env.platform dto))
        BookingsService.invalidateSearch env
        return booking : Async n Booking).Uses (Issued env entropy (.updateBooking id dto)) :=
      Program.uses_bind (uses_findLocal id) fun _ =>
        uses_thenInvalidate (uses_write (.updateBooking (by simpa using sameBucket)))
    dsimp only
    split
    · exact Program.uses_bind (uses_assertGuestExists _) fun _ => rest
    · exact rest

theorem uses_removeBooking (id : Text) :
    (BookingsService.remove env id).Uses (Issued env entropy (.removeBooking id)) :=
  Program.uses_bind (uses_findLocal id) fun _ => uses_thenInvalidate (uses_write .removeBooking)

theorem uses_cancelBooking (id : Text) :
    (BookingsService.cancel env id).Uses (Issued env entropy (.cancelBooking id)) := by
  refine Program.uses_bind (uses_findLocal id) fun booking => ?_
  split
  · trivial
  · trivial
  · exact uses_thenInvalidate (uses_write .cancelBooking)

theorem uses_relocateLocally {id : Text} {dto : RelocateBookingDto} {original : Booking}
    (active : original.Active) (sameShard : env.router.forKey id = env.router.forKey dto.roomId) :
    (BookingsService.relocateLocally env entropy dto.roomId id original).Uses
      (Issued env entropy (.relocateBooking id dto)) :=
  HotelBooking.uses_relocateLocally (fun _ => .relocateLocally active sameShard) .cacheIncr

theorem uses_relocateSaga {id : Text} {dto : RelocateBookingDto} {original : Booking}
    (active : original.Active) (otherShard : env.router.forKey id ≠ env.router.forKey dto.roomId) :
    (BookingsService.relocateSaga env entropy dto.roomId id original dto.simulateFailure).Uses
      (Issued env entropy (.relocateBooking id dto)) :=
  HotelBooking.uses_relocateSaga (fun _ => .sagaReserve active) .sagaCancel (fun _ => .compensate)
    (fun _ => .sagaConfirm active otherShard) .cacheIncr

theorem uses_relocateBooking (id : Text) (dto : RelocateBookingDto) :
    (BookingsService.relocate env entropy id dto).Uses
      (Issued env entropy (.relocateBooking id dto)) := by
  unfold BookingsService.relocate
  split
  · trivial
  · refine Program.uses_bind (uses_findLocal id) fun original => ?_
    split
    · trivial
    · next active =>
      split
      · trivial
      · split
        · next sameShard => exact uses_relocateLocally (not_not.mp active) sameShard
        · next otherShard => exact uses_relocateSaga (not_not.mp active) otherShard

/-- What follows a write to a hotel. -/
theorem uses_invalidateForHotel {keys : List CacheKey} {value : α} :
    (do CacheService.invalidate env keys
        CacheService.bumpVersion env
        return value : Async n α).Uses (Issued env entropy request) :=
  HotelBooking.uses_invalidateForHotel .cacheDel .cacheIncr

theorem uses_invalidateForRooms (hotelIds : List Text) :
    (RoomsService.invalidateForRooms env hotelIds).Uses (Issued env entropy request) :=
  HotelBooking.uses_invalidateForRooms hotelIds (fun _ => .cacheDel) .cacheIncr

theorem uses_createRoom (dto : CreateRoomDto) :
    (RoomsService.create env entropy dto).Uses (Issued env entropy (.createRoom dto)) := by
  refine Program.uses_bind (uses_read (.shardRead rfl)) fun hotel => ?_
  cases hotel with
  | none => trivial
  | some hotel =>
    refine Program.uses_bind (uses_read (.shardRead rfl)) fun existing => ?_
    cases existing with
    | some room => trivial
    | none =>
      exact Program.uses_bind (uses_write (.createRoom rfl)) fun _ =>
        Program.uses_bind (uses_invalidateForRooms _) fun _ => trivial

theorem uses_updateRoom (id : Text) (dto : UpdateRoomDto) :
    (RoomsService.update env id dto).Uses (Issued env entropy (.updateRoom id dto)) := by
  unfold RoomsService.update
  split
  · trivial
  · next sameBucket =>
    refine Program.uses_bind (uses_findRoom id) fun _ => ?_
    exact Program.uses_bind (uses_write (.updateRoom (by simpa using sameBucket))) fun _ =>
      Program.uses_bind (uses_invalidateForRooms _) fun _ => trivial

theorem uses_search (schedule : Schedule n) (dto : SearchRoomDto) :
    (RoomsService.search env schedule dto).Uses (Issued env entropy request) := by
  unfold RoomsService.search
  split
  · exact uses_read (.shardRead rfl)
  · exact uses_fanOutList fun _ => .shardRead rfl

/-- The only commands a served call can issue are those of its request. -/
theorem uses_program (env : Env n) (call : Call n) :
    (call.program env).Uses (Issued env call.entropy call.request) := by
  obtain ⟨request, entropy, schedule⟩ := call
  cases request with
  | createHotel dto => exact Program.uses_bind (uses_write (.createHotel rfl)) fun _ => trivial
  | findHotels => exact Program.uses_bind (uses_fanOutList fun _ => .shardRead rfl) fun _ => trivial
  | findHotel id =>
    exact Program.uses_bind (uses_getOrSet .cacheLookCard (fun _ _ => .cacheCard) (uses_findHotel id)
      (uses_findHotel id)) fun _ => trivial
  | updateHotel id dto =>
    refine Program.uses_bind (Program.uses_bind (uses_findHotel id) fun _ => ?_) fun _ => trivial
    exact Program.uses_bind (uses_write .updateHotel) fun _ => uses_invalidateForHotel
  | removeHotel id =>
    refine Program.uses_bind (Program.uses_bind (uses_findHotel id) fun _ => ?_) fun _ => trivial
    exact Program.uses_bind (uses_write .removeHotel) fun _ => uses_invalidateForHotel
  | createRoom dto => exact Program.uses_bind (uses_createRoom dto) fun _ => trivial
  | findRooms => exact Program.uses_bind (uses_fanOutList fun _ => .shardRead rfl) fun _ => trivial
  | findRoom id => exact Program.uses_bind (uses_findRoom id) fun _ => trivial
  | searchRooms dto =>
    refine Program.uses_bind (Program.uses_bind (uses_getVersion env .cacheVersion)
      fun _ => Program.uses_bind (Program.uses_ofExcept _) fun _ => ?_) fun _ => trivial
    exact Program.uses_bind (uses_getOrSet .cacheLookSearch (fun _ _ => .cacheSearch)
      (uses_search schedule dto) (uses_search schedule dto)) fun _ => trivial
  | updateRoom id dto => exact Program.uses_bind (uses_updateRoom id dto) fun _ => trivial
  | removeRoom id =>
    refine Program.uses_bind (Program.uses_bind (uses_findRoom id) fun _ => ?_) fun _ => trivial
    exact Program.uses_bind (uses_write .removeRoom) fun _ =>
      Program.uses_bind (uses_invalidateForRooms _) fun _ => trivial
  | createGuest dto =>
    refine Program.uses_bind (Program.uses_bind (uses_globalRead (.guestRead rfl))
      fun found => ?_) fun _ => trivial
    cases found with
    | some guest => trivial
    | none => exact uses_globalWrite .createGuest
  | findGuests => exact Program.uses_bind (uses_globalRead (.guestRead rfl)) fun _ => trivial
  | findGuest id => exact Program.uses_bind (uses_findGuest id _) fun _ => trivial
  | findGuestBookings id =>
    refine Program.uses_bind (Program.uses_bind (uses_findGuest id _) fun _ => ?_) fun _ => trivial
    exact Program.uses_bind (uses_fanOutList fun _ => .shardRead rfl) fun _ => trivial
  | updateGuest id dto =>
    exact Program.uses_bind (Program.uses_bind (uses_findGuest id _) fun _ =>
      uses_globalWrite .updateGuest) fun _ => trivial
  | removeGuest id =>
    refine Program.uses_bind (Program.uses_bind (uses_findGuest id _) fun _ => ?_) fun _ => trivial
    refine Program.uses_bind (uses_fanOut fun _ => .shardRead rfl) fun result => ?_
    dsimp only
    split
    · trivial
    · exact uses_globalWrite .removeGuest
  | createBooking dto => exact Program.uses_bind (uses_createBooking dto) fun _ => trivial
  | findBookings =>
    exact Program.uses_bind (Program.uses_bind (uses_fanOutList fun _ => .shardRead rfl)
      fun _ => uses_attachGuests _ _) fun _ => trivial
  | findBooking id =>
    refine Program.uses_bind (Program.uses_bind (uses_read (.shardRead rfl))
      fun found => ?_) fun _ => trivial
    cases found with
    | none => trivial
    | some view => exact Program.uses_bind (uses_attachGuests _ _) fun _ => trivial
  | updateBooking id dto => exact Program.uses_bind (uses_updateBooking id dto) fun _ => trivial
  | cancelBooking id => exact Program.uses_bind (uses_cancelBooking id) fun _ => trivial
  | removeBooking id => exact Program.uses_bind (uses_removeBooking id) fun _ => trivial
  | relocateBooking id dto => exact Program.uses_bind (uses_relocateBooking id dto) fun _ => trivial

end Issued
end HotelBooking
