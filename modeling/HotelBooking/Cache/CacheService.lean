import HotelBooking.Sharding.ShardRouter

/-! The cache service: cache-aside reads, the search version and invalidation.
A client that is not ready and a command that fails are both replies to the
command, since the sources await nothing between the check and the command. -/
namespace HotelBooking
open Effect

inductive CacheStatus where
  | hit
  | miss
  | bypass
  deriving DecidableEq

structure CacheResult (key : CacheKey) where
  data : key.Value
  cache : CacheStatus

structure CacheTtl where
  base : Nat
  jitter : Nat

def CacheTtl.hotel : CacheTtl := ⟨600, 60⟩
def CacheTtl.roomsSearch : CacheTtl := ⟨60, 10⟩

/-- `new Date(text).toISOString()`, a RangeError for an Invalid Date. -/
def isoDate (platform : Platform) (input : Text) : Except Err Instant :=
  match platform.newDate input with
  | some instant => .ok instant
  | none => .error (.plain (text "Invalid time value"))

def normalizeSearchParams (platform : Platform) (dto : SearchRoomDto) :
    Except Err SearchParams := do
  return {
    city := match dto.city with
      | some city => if city = [] then [] else platform.toLowerCase (trim city)
      | none => []
    checkIn := ← isoDate platform dto.checkIn
    checkOut := ← isoDate platform dto.checkOut
    guests := dto.guests.getD 0 }

/-- What the key of a search says of it. -/
theorem normalized_ok {platform : Platform} {dto : SearchRoomDto} {params : SearchParams}
    (normalized : normalizeSearchParams platform dto = .ok params) :
    platform.newDate dto.checkIn = some params.checkIn ∧
      platform.newDate dto.checkOut = some params.checkOut ∧ dto.guests.getD 0 = params.guests := by
  unfold normalizeSearchParams isoDate at normalized
  cases readIn : platform.newDate dto.checkIn with
  | none => simp [readIn] at normalized
  | some checkIn =>
    cases readOut : platform.newDate dto.checkOut with
    | none => simp [readIn, readOut] at normalized
    | some checkOut =>
      simp only [readIn, readOut, except_ok_bind, except_pure] at normalized
      obtain rfl := Except.ok.inj normalized
      exact ⟨rfl, rfl, rfl⟩

namespace CacheService
variable {n : Nat}

def bypass (key : CacheKey) (loader : Async n key.Value) : Async n (CacheResult key) := do
  return ⟨← loader, .bypass⟩

/-- The loader fills the cache; the bypass loader reads when Redis is unavailable. -/
def getOrSet (env : Env n) (key : CacheKey) (ttl : CacheTtl) (jitter : Nat)
    (loader bypassLoader : Async n key.Value) : Async n (CacheResult key) := do
  if !env.redisConfigured then bypass key bypassLoader
  else
    match ← attempt (issue (.cache (.get key))) with
    | .error _ => bypass key bypassLoader
    | .ok (some data) => return ⟨data, .hit⟩
    | .ok none =>
      let data ← loader
      let ttlSec := ttl.base + jitter % (ttl.jitter + 1)
      let _ ← attempt (issue (.cache (.set key data ttlSec)))
      return ⟨data, .miss⟩

/-- The current search version; 0 when it is not set or Redis is unavailable. -/
def getVersion (env : Env n) : Async n Nat := do
  if !env.redisConfigured then return 0
  else
    match ← attempt (issue (.cache (.get .searchVersion))) with
    | .ok (some version) => return version
    | .ok none => return 0
    | .error _ => return 0

def invalidate (env : Env n) (keys : List CacheKey) : Async n Unit := do
  if !env.redisConfigured || keys.isEmpty then return ()
  else
    let _ ← attempt (issue (.cache (.del keys)))
    return ()

/-- Incrementing the version makes every result stored under an older one unreachable. -/
def bumpVersion (env : Env n) : Async n Unit := do
  if !env.redisConfigured then return ()
  else
    let _ ← attempt (issue (.cache .incr))
    return ()

end CacheService
end HotelBooking
