import HotelBooking.Services.Bookings

/-! The hotels, rooms and guests services. -/
namespace HotelBooking
open Effect

namespace HotelsService
variable {n : Nat}

def create (env : Env n) (entropy : Entropy) (dto : CreateHotelDto) : Async n Hotel :=
  let id := env.router.newHotelId env.platform dto.city (entropy.uuid 0)
  env.router.write (env.router.forKey id) (.hotelCreate id dto (entropy.now 0))

def findAll (env : Env n) (schedule : Schedule n) : Async n (List Hotel) :=
  env.router.fanOutList schedule .hotelFindMany id true

def findOne (env : Env n) (id : Text) : Async n HotelCard := do
  match ← env.router.read (env.router.forKey id) (.hotelFindCard id) with
  | some hotel => return hotel
  | none => throw (.notFound (text "Hotel with id " ++ id ++ text " not found"))

def findOneCached (env : Env n) (entropy : Entropy) (id : Text) :
    Async n (CacheResult (.hotel id)) :=
  CacheService.getOrSet env (.hotel id) .hotel entropy.jitter (findOne env id) (findOne env id)

def update (env : Env n) (id : Text) (dto : UpdateHotelDto) : Async n Hotel := do
  let _ ← findOne env id
  let hotel ← env.router.write (env.router.forKey id) (.hotelUpdate id dto)
  CacheService.invalidate env [.hotel id]
  CacheService.bumpVersion env
  return hotel

def remove (env : Env n) (id : Text) : Async n Hotel := do
  let _ ← findOne env id
  let hotel ← env.router.write (env.router.forKey id) (.hotelDelete id)
  CacheService.invalidate env [.hotel id]
  CacheService.bumpVersion env
  return hotel

end HotelsService

namespace RoomsService
variable {n : Nat}

def invalidateForRooms (env : Env n) (hotelIds : List Text) : Async n Unit := do
  let unique := (hotelIds.filter fun id => !id.isEmpty).eraseDups
  CacheService.invalidate env (unique.map CacheKey.hotel)
  CacheService.bumpVersion env

def create (env : Env n) (entropy : Entropy) (dto : CreateRoomDto) : Async n Room := do
  let shard := env.router.forKey dto.hotelId
  match ← env.router.read shard (.hotelFindUnique dto.hotelId) with
  | none => throw (.notFound (text "Hotel with id " ++ dto.hotelId ++ text " not found"))
  | some _ =>
    match ← env.router.read shard (.roomFindByNumber dto.hotelId dto.roomNumber) with
    | some _ =>
      throw (.conflict (text "Room " ++ dto.roomNumber ++ text " already exists in this hotel"))
    | none =>
      let id := ShardRouter.childId dto.hotelId (entropy.uuid 0)
      let room ← env.router.write shard (.roomCreate id dto (entropy.now 0))
      invalidateForRooms env [room.hotelId]
      return room

def findAll (env : Env n) (schedule : Schedule n) : Async n (List RoomView) :=
  env.router.fanOutList schedule .roomFindMany id true

def findOne (env : Env n) (id : Text) : Async n RoomView := do
  match ← env.router.read (env.router.forKey id) (.roomFindUnique id) with
  | some room => return room
  | none => throw (.notFound (text "Room with id " ++ id ++ text " not found"))

/-- The query of `search`. Zero guests and an empty city are falsy: no filter. -/
def searchFilter (platform : Platform) (dto : SearchRoomDto) : RoomFilter where
  capacity := dto.guests.filter fun guests => guests != 0
  city := dto.city.filter fun city => !city.isEmpty
  checkIn := platform.newDate dto.checkIn
  checkOut := platform.newDate dto.checkOut

/-- The fan-out over all shards, with the rooms of the shards that answered. -/
def searchAll (env : Env n) (schedule : Schedule n) (dto : SearchRoomDto) :
    Async n (List RoomView) :=
  env.router.fanOutList schedule (.roomSearch (searchFilter env.platform dto)) id true

/-- With the strategy city, a search for a city asks the shard of that city only. -/
def search (env : Env n) (schedule : Schedule n) (dto : SearchRoomDto) :
    Async n (List RoomView) :=
  match (dto.city.filter fun city => !city.isEmpty).bind
      (env.router.shardForCity env.platform) with
  | some shard => env.router.read shard (.roomSearch (searchFilter env.platform dto))
  | none => searchAll env schedule dto

def searchCached (env : Env n) (entropy : Entropy) (schedule : Schedule n) (dto : SearchRoomDto) :
    Async n (CacheStatus × List RoomView) := do
  let version ← CacheService.getVersion env
  let params ← Program.ofExcept (normalizeSearchParams env.platform dto)
  let result ← CacheService.getOrSet env (.roomsSearch version params) .roomsSearch entropy.jitter
    (search env schedule dto) (search env schedule dto)
  return (result.cache, result.data)

def update (env : Env n) (id : Text) (dto : UpdateRoomDto) : Async n Room := do
  if BookingsService.foreignBucket dto.hotelId id then
    throw (.badRequest (text "Room cannot be moved to a hotel in another shard bucket"))
  else
    let before ← findOne env id
    let room ← env.router.write (env.router.forKey id) (.roomUpdate id dto)
    invalidateForRooms env [before.room.hotelId, room.hotelId]
    return room

def remove (env : Env n) (id : Text) : Async n Room := do
  let _ ← findOne env id
  let room ← env.router.write (env.router.forKey id) (.roomDelete id)
  invalidateForRooms env [room.hotelId]
  return room

end RoomsService

namespace GuestsService
variable {n : Nat}

def create (entropy : Entropy) (dto : CreateGuestDto) : Async n Guest := do
  match ← globalRead (.findByEmail dto.email) .strong with
  | some _ =>
    throw (.conflict (text "Guest with email " ++ dto.email ++ text " already exists"))
  | none => globalWrite (.create (entropy.uuid 0) dto (entropy.now 0))

def findAll : Async n (List Guest) := globalRead .findMany .eventual

def findOne (id : Text) (consistency : Consistency) : Async n Guest := do
  match ← globalRead (.findUnique id) consistency with
  | some guest => return guest
  | none => throw (.notFound (text "Guest with id " ++ id ++ text " not found"))

def update (id : Text) (dto : UpdateGuestDto) : Async n Guest := do
  let _ ← findOne id .strong
  globalWrite (.update id dto)

/-- Every shard has to answer: one that does not must not count as "no bookings". -/
def remove (env : Env n) (schedule : Schedule n) (id : Text) : Async n Guest := do
  let _ ← findOne id .strong
  let result ← env.router.fanOut schedule (.bookingCount id) false
  let bookings := result.parts.foldl (fun total part => total + part.2) 0
  if bookings > 0 then
    throw (.conflict (text "Guest has " ++ text (toString bookings) ++
      text " booking(s) and cannot be deleted"))
  else globalWrite (.delete id)

def findBookings (env : Env n) (schedule : Schedule n) (id : Text) :
    Async n (List BookingView) := do
  let _ ← findOne id .eventual
  let bookings ← env.router.fanOutList schedule (.bookingFindByGuest id) (fun rows => rows) true
  return bookings.mergeSort fun first second =>
    second.booking.createdAt ≤ first.booking.createdAt

end GuestsService
end HotelBooking
