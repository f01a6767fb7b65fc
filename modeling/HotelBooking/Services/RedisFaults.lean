import HotelBooking.Services.Clients
import HotelBooking.Effect.Erasure

/-! Every request follows the one that an API without Redis would serve: it issues the same
commands to the databases, whatever Redis replies to the commands beside them. -/
namespace HotelBooking
open Effect
variable {n : Nat} {env : Env n} {early : Prop}

def Cmd.isCache : Cmd n → Bool
  | .cache _ => true
  | _ => false

def Env.withoutRedis (env : Env n) : Env n := { env with redisConfigured := false }

/-- The requests that look for their answer in Redis. -/
def Request.isCached : Request → Bool
  | .findHotel _ | .searchRooms _ => true
  | _ => false

abbrev Covers (early : Prop) (program core : Async n α) : Prop := program.Covers Cmd.isCache early core

abbrev Plain (program : Async n α) : Prop := program.Uses fun cmd : Cmd n => cmd.isCache = false

namespace Covers

theorem attempted {cmd : CacheCmd} {next : Except Err cmd.Answer → Async n β} {core : Async n β}
    (rest : ∀ outcome, Covers early (next outcome) core) :
    Covers early ((attempt (issue (.cache cmd))).bind next) core := by
  refine .skip rfl fun reply => ?_
  cases reply with
  | ok answer => exact rest (.ok answer)
  | error error => exact rest (.error error)

theorem bumped {next core : Async n β} (rest : Covers early next core) :
    Covers early ((CacheService.bumpVersion env).bind fun _ => next) core := by
  unfold CacheService.bumpVersion
  split
  · exact rest
  · rw [Program.bind_eq, Program.bind_assoc]
    exact attempted fun _ => rest

theorem invalidated {keys : List CacheKey} {next core : Async n β}
    (rest : Covers early next core) :
    Covers early ((CacheService.invalidate env keys).bind fun _ => next) core := by
  unfold CacheService.invalidate
  split
  · exact rest
  · rw [Program.bind_eq, Program.bind_assoc]
    exact attempted fun _ => rest

theorem getVersion (next : Nat → Async n β) (core : Async n β)
    (rest : ∀ version, Covers early (next version) core) :
    Covers early ((CacheService.getVersion env).bind next) core := by
  unfold CacheService.getVersion
  split
  · exact rest 0
  · refine .skip rfl fun reply => ?_
    match reply with
    | .ok (some version) => exact rest version
    | .ok none => exact rest 0
    | .error _ => exact rest 0

theorem getOrSet_withoutRedis (env : Env n) (key : CacheKey) (ttl : CacheTtl) (jitter : Nat)
    (loader : Async n key.Value) (respond : CacheResult key → β) :
    ((CacheService.getOrSet env.withoutRedis key ttl jitter loader loader).bind fun result =>
      .ret (respond result)) = loader.bind fun data => .ret (respond ⟨data, .bypass⟩) :=
  Program.bind_assoc loader _ _

/-- A read through the cache. Without Redis it is the bypass, by the loader alone. -/
theorem getOrSet (env : Env n) (key : CacheKey) (ttl : CacheTtl) (jitter : Nat)
    {loader : Async n key.Value} (allowed : early) (plain : Plain loader) (respond : CacheResult key → β) :
    Covers early
      ((CacheService.getOrSet env key ttl jitter loader loader).bind fun result =>
        .ret (respond result))
      (loader.bind fun data => .ret (respond ⟨data, .bypass⟩)) := by
  have bypassed : Covers early
      ((CacheService.bypass key loader).bind fun result => .ret (respond result))
      (loader.bind fun data => .ret (respond ⟨data, .bypass⟩)) := by
    rw [CacheService.bypass, Program.bind_eq, Program.bind_assoc]
    exact Program.covers_after plain fun _ => .ret
  unfold CacheService.getOrSet
  split
  · exact bypassed
  · rw [Program.bind_eq, Program.bind_assoc]
    refine attempted fun outcome => ?_
    match outcome with
    | .error _ => exact bypassed
    | .ok (some data) => exact .stop allowed
    | .ok none =>
      dsimp only
      rw [Program.bind_eq, Program.bind_assoc]
      refine Program.covers_after plain fun data => ?_
      rw [Program.bind_eq, Program.bind_assoc]
      exact attempted fun _ => .stop allowed

theorem cleared {hotelIds : List Text} {next core : Async n β} (rest : Covers early next core) :
    Covers early ((RoomsService.invalidateForRooms env hotelIds).bind fun _ => next) core := by
  unfold RoomsService.invalidateForRooms
  rw [Program.bind_eq, Program.bind_assoc]
  exact invalidated (bumped rest)

theorem updateHotel (id : Text) (dto : UpdateHotelDto) :
    Covers early (HotelsService.update env id dto) (HotelsService.update env.withoutRedis id dto) := by
  refine Program.covers_after (uses_findHotel rfl) fun _ => ?_
  exact Program.covers_after (uses_write rfl) fun _ => invalidated (bumped .ret)

theorem removeHotel (id : Text) :
    Covers early (HotelsService.remove env id) (HotelsService.remove env.withoutRedis id) := by
  refine Program.covers_after (uses_findHotel rfl) fun _ => ?_
  exact Program.covers_after (uses_write rfl) fun _ => invalidated (bumped .ret)

theorem createRoom (entropy : Entropy) (dto : CreateRoomDto) :
    Covers early (RoomsService.create env entropy dto)
      (RoomsService.create env.withoutRedis entropy dto) := by
  refine Program.covers_after (uses_read rfl) fun hotel => ?_
  cases hotel with
  | none => exact .raise
  | some hotel =>
    refine Program.covers_after (uses_read rfl) fun existing => ?_
    cases existing with
    | some room => exact .raise
    | none => exact Program.covers_after (uses_write rfl) fun _ => cleared .ret

theorem updateRoom (id : Text) (dto : UpdateRoomDto) :
    Covers early (RoomsService.update env id dto) (RoomsService.update env.withoutRedis id dto) := by
  unfold RoomsService.update
  split
  · exact .raise
  · refine Program.covers_after (uses_findRoom rfl) fun _ => ?_
    exact Program.covers_after (uses_write rfl) fun _ => cleared .ret

theorem removeRoom (id : Text) :
    Covers early (RoomsService.remove env id) (RoomsService.remove env.withoutRedis id) := by
  refine Program.covers_after (uses_findRoom rfl) fun _ => ?_
  exact Program.covers_after (uses_write rfl) fun _ => cleared .ret

theorem createBooking (entropy : Entropy) (dto : CreateBookingDto) :
    Covers early (BookingsService.create env entropy dto)
      (BookingsService.create env.withoutRedis entropy dto) := by
  refine Program.covers_ite (fun _ => .raise) fun _ => ?_
  refine Program.covers_after (uses_assertGuestExists rfl) fun _ => ?_
  refine Program.covers_after ?_ fun _ => bumped .ret
  exact uses_run (uses_serializable fun attempt => uses_issue rfl)

theorem updateBooking (id : Text) (dto : UpdateBookingDto) :
    Covers early (BookingsService.update env id dto)
      (BookingsService.update env.withoutRedis id dto) := by
  have rest : ∀ data, Covers early
      ((BookingsService.findLocal env id).bind fun _ =>
        (env.router.write (env.router.forKey id) (.bookingUpdate id data)).bind fun booking =>
          (BookingsService.invalidateSearch env).bind fun _ => .ret booking)
      ((BookingsService.findLocal env id).bind fun _ =>
        (env.router.write (env.router.forKey id) (.bookingUpdate id data)).bind .ret) := by
    intro data
    refine Program.covers_after (uses_findLocal rfl) fun _ => ?_
    exact Program.covers_after (uses_write rfl) fun _ => bumped .ret
  unfold BookingsService.update
  split
  · exact .raise
  · dsimp only
    split
    · exact Program.covers_after (uses_assertGuestExists rfl) fun _ => rest _
    · exact rest _

theorem cancelBooking (id : Text) :
    Covers early (BookingsService.cancel env id) (BookingsService.cancel env.withoutRedis id) := by
  refine Program.covers_after (uses_findLocal rfl) fun booking => ?_
  split
  · exact .raise
  · exact .raise
  · exact Program.covers_after (uses_write rfl) fun _ => bumped .ret

theorem removeBooking (id : Text) :
    Covers early (BookingsService.remove env id) (BookingsService.remove env.withoutRedis id) := by
  refine Program.covers_after (uses_findLocal rfl) fun _ => ?_
  exact Program.covers_after (uses_write rfl) fun _ => bumped .ret

theorem relocateLocally (entropy : Entropy) (roomId id : Text) (original : Booking) :
    Covers early (BookingsService.relocateLocally env entropy roomId id original)
      (BookingsService.relocateLocally env.withoutRedis entropy roomId id original) := by
  have reserving : Plain (env.router.run (env.router.forKey id)
      (BookingsService.serializable fun attempt => issue (.shard (env.router.forKey id)
        (.reserveAndCancel (BookingsService.relocation entropy roomId original original.status
          attempt) id)))) :=
    uses_run (uses_serializable fun attempt => uses_issue rfl)
  exact Program.covers_after reserving fun _ => bumped .ret

theorem relocateReserved (id : Text) (original : Booking) (simulateFailure : Bool)
    (source target : Fin n) (created : Booking) :
    Covers early
      (BookingsService.relocateReserved env id original simulateFailure source target created)
      (BookingsService.relocateReserved env.withoutRedis id original simulateFailure source target
        created) := by
  have cancelling : Plain (BookingsService.sagaCancel env id simulateFailure) := by
    unfold BookingsService.sagaCancel
    split
    · trivial
    · refine Program.uses_bind (uses_write rfl) fun count => ?_
      split <;> trivial
  refine Program.covers_after (uses_attempt cancelling) fun outcome => ?_
  cases outcome with
  | error error =>
    refine Program.covers_after ?_ fun _ => bumped .raise
    refine Program.uses_bind (uses_attempt (uses_write rfl)) fun reply => ?_
    cases reply <;> trivial
  | ok _ => exact Program.covers_after (uses_write rfl) fun _ => bumped .ret

theorem relocateSaga (entropy : Entropy) (roomId id : Text) (original : Booking)
    (simulateFailure : Bool) :
    Covers early (BookingsService.relocateSaga env entropy roomId id original simulateFailure)
      (BookingsService.relocateSaga env.withoutRedis entropy roomId id original simulateFailure) := by
  have reserving : Plain (BookingsService.sagaReserve env entropy roomId original) :=
    uses_run (uses_serializable fun attempt => uses_issue rfl)
  refine Program.covers_after ?_ fun created => ?_
  · exact Program.uses_recover reserving fun _ => trivial
  · exact relocateReserved id original simulateFailure _ _ created

theorem relocateBooking (entropy : Entropy) (id : Text) (dto : RelocateBookingDto) :
    Covers early (BookingsService.relocate env entropy id dto)
      (BookingsService.relocate env.withoutRedis entropy id dto) := by
  refine Program.covers_ite (fun _ => .raise) fun _ => ?_
  refine Program.covers_after (uses_findLocal rfl) fun original => ?_
  refine Program.covers_ite (fun _ => .raise) fun _ => ?_
  refine Program.covers_ite (fun _ => .raise) fun _ => ?_
  refine Program.covers_ite (fun _ => ?_) fun _ => ?_
  · exact relocateLocally entropy _ id original
  · exact relocateSaga entropy _ id original _

theorem responded {program core : Async n α} (respond : α → Response)
    (follows : Covers early program core) :
    Covers early (program.bind fun value => .ret (respond value))
      (core.bind fun value => .ret (respond value)) :=
  Program.covers_bind follows (fun _ => .ret) fun _ value => ⟨respond value, rfl⟩

theorem found {program : Async n α} {respond : α → Response} (plain : Plain program) :
    Covers early (program.bind fun value => .ret (respond value))
      (program.bind fun value => .ret (respond value)) :=
  Program.covers_after plain fun _ => .ret

theorem search (env : Env n) (schedule : Schedule n) (dto : SearchRoomDto) :
    Plain (RoomsService.search env schedule dto) := by
  unfold RoomsService.search
  split
  · exact uses_read rfl
  · exact uses_fanOutList fun _ => rfl

theorem findHotel (allowed : early) (entropy : Entropy) (id : Text) :
    Covers early
      ((HotelsService.findOneCached env entropy id).bind fun result =>
        .ret (Response.card result.cache result.data))
      ((HotelsService.findOneCached env.withoutRedis entropy id).bind fun result =>
        .ret (Response.card result.cache result.data)) := by
  have plain : Plain (HotelsService.findOne env id) := uses_findHotel rfl
  have core := getOrSet_withoutRedis env (.hotel id) .hotel entropy.jitter
    (HotelsService.findOne env id) fun result => Response.card result.cache result.data
  exact core ▸ getOrSet env (.hotel id) .hotel entropy.jitter allowed plain fun result =>
    Response.card result.cache result.data

theorem searchRooms (allowed : early) (entropy : Entropy) (schedule : Schedule n)
    (dto : SearchRoomDto) :
    Covers early (RoomsService.searchCached env entropy schedule dto)
      (RoomsService.searchCached env.withoutRedis entropy schedule dto) := by
  refine getVersion _ _ fun version => ?_
  refine Program.covers_after (Program.uses_ofExcept _) fun params => ?_
  have core := getOrSet_withoutRedis env (.roomsSearch 0 params) .roomsSearch entropy.jitter
    (RoomsService.search env schedule dto) fun result => (result.cache, result.data)
  have follows := getOrSet env (.roomsSearch version params) .roomsSearch entropy.jitter allowed
    (search env schedule dto) fun result => (result.cache, result.data)
  exact core.symm.subst follows

/-- Every request; only a cached one may answer before its database commands are issued. -/
theorem program (env : Env n) (call : Call n) :
    Covers (call.request.isCached = true) (call.program env) (call.program env.withoutRedis) := by
  obtain ⟨request, entropy, schedule⟩ := call
  cases request with
  | createHotel dto => exact found (uses_write rfl)
  | findHotels => exact found (uses_fanOutList fun _ => rfl)
  | findHotel id => exact findHotel rfl entropy id
  | updateHotel id dto => exact responded .hotel (updateHotel id dto)
  | removeHotel id => exact responded .hotel (removeHotel id)
  | createRoom dto => exact responded .room (createRoom entropy dto)
  | findRooms => exact found (uses_fanOutList fun _ => rfl)
  | findRoom id => exact found (uses_findRoom rfl)
  | searchRooms dto =>
    exact Program.covers_bind (searchRooms rfl entropy schedule dto) (fun _ => .ret)
      fun _ value => ⟨_, rfl⟩
  | updateRoom id dto => exact responded .room (updateRoom id dto)
  | removeRoom id => exact responded .room (removeRoom id)
  | createGuest dto =>
    refine found (Program.uses_bind (uses_globalRead rfl) fun existing => ?_)
    cases existing with
    | none => exact uses_globalWrite rfl
    | some guest => trivial
  | findGuests => exact found (uses_globalRead rfl)
  | findGuest id => exact found (uses_findGuest rfl)
  | findGuestBookings id =>
    refine found (Program.uses_bind (uses_findGuest rfl) fun _ => ?_)
    exact Program.uses_bind (uses_fanOutList fun _ => rfl) fun _ => trivial
  | updateGuest id dto =>
    exact found (Program.uses_bind (uses_findGuest rfl) fun _ => uses_globalWrite rfl)
  | removeGuest id =>
    refine found (Program.uses_bind (uses_findGuest rfl) fun _ => ?_)
    refine Program.uses_bind (uses_fanOut fun _ => rfl) fun result => ?_
    dsimp only
    split
    · trivial
    · exact uses_globalWrite rfl
  | createBooking dto => exact responded .booking (createBooking entropy dto)
  | findBookings =>
    refine found (Program.uses_bind (uses_fanOutList fun _ => rfl) fun _ => ?_)
    exact uses_attachGuests fun _ => rfl
  | findBooking id =>
    refine found (Program.uses_bind (uses_read rfl) fun view => ?_)
    cases view with
    | none => trivial
    | some view => exact Program.uses_bind (uses_attachGuests fun _ => rfl) fun _ => trivial
  | updateBooking id dto => exact responded .booking (updateBooking id dto)
  | cancelBooking id => exact responded .booking (cancelBooking id)
  | removeBooking id => exact responded .booking (removeBooking id)
  | relocateBooking id dto => exact responded .relocation (relocateBooking entropy id dto)

end Covers

/-- The databases of two worlds are equal. -/
def World.SameData (world other : World n) : Prop :=
  world.shards = other.shards ∧ world.guests = other.guests

theorem exec_hidden : Hidden World.exec (Cmd.isCache (n := n)) World.SameData where
  kept {cmd world other} side same := by
    cases cmd with
    | cache cmd => exact same
    | shard i stmt => cases side
    | guests stmt => cases side
  agree {cmd world other} plain same := by
    obtain ⟨shards, guests, redis⟩ := world
    obtain ⟨_, _, cached⟩ := other
    obtain ⟨rfl, rfl⟩ := same
    cases cmd with
    | cache cmd => cases plain
    | shard i stmt =>
      simp only [World.exec]
      cases stmt.exec (shards i) with
      | ok result => exact ⟨rfl, rfl, rfl⟩
      | error error => exact ⟨rfl, rfl, rfl⟩
    | guests stmt =>
      simp only [World.exec]
      cases stmt.exec guests with
      | ok result => exact ⟨rfl, rfl, rfl⟩
      | error error => exact ⟨rfl, rfl, rfl⟩

/-- Whether a client of the pool may answer from Redis. -/
def answersEarly (calls : List (Call n)) (i : Nat) : Prop :=
  ∀ call, calls[i]? = some call → call.request.isCached = true

theorem lapsing_covers (env : Env n) (world : World n) (calls : List (Call n))
    (keys : List CacheKey) : (lapsing env world calls keys).Covers Cmd.isCache World.SameData
      (answersEarly calls) (clients env.withoutRedis world calls) := by
  refine ⟨⟨rfl, rfl⟩, fun {i} {program} found => ?_⟩
  rw [clients, List.getElem?_map]
  rcases lapsing_cases found with ⟨call, here, rfl⟩ | ⟨beyond, key, _, rfl⟩
  · have same : (call.request.isCached = true) = answersEarly calls i :=
      propext ⟨fun cached other listed => Option.some.inj (here.symm.trans listed) ▸ cached,
        fun early => early call here⟩
    rw [here]
    exact Or.inl ⟨_, rfl, same ▸ Covers.program env call⟩
  · rw [beyond]
    exact Or.inr ⟨rfl, Program.uses_bind (uses_issue rfl) fun _ => trivial⟩

end HotelBooking
