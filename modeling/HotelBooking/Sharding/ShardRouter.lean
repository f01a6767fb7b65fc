import HotelBooking.Database.World

/-! The shard router: key to bucket to shard, calls on one shard, and the fan-out
over all of them. A physical shard and the single global node answer a call the
same way here: the routing between primary and replica, and the texts of its errors,
are behind the node. -/
namespace HotelBooking
open Effect

/-- A router over `n` shards. The bucket map has an entry below `n` for each of
the 64 buckets; without SHARD_URLS there is one shard, named global. -/
structure ShardRouter (n : Nat) where
  sharded : Bool
  strategy : ShardStrategy
  bucketMap : Fin BUCKETS → Fin n

/-- What the services are configured with. -/
structure Env (n : Nat) where
  router : ShardRouter n
  platform : Platform
  redisConfigured : Bool
  sagaFaultInjection : Bool

/-- The default of `buildBucketMap`: bucket modulo the number of shards. -/
def ShardRouter.roundRobin {n : Nat} (positive : 0 < n) (sharded : Bool)
    (strategy : ShardStrategy) : ShardRouter n where
  sharded
  strategy
  bucketMap bucket := ⟨bucket % n, Nat.mod_lt _ positive⟩

/-- Shards without Redis, for the examples. -/
def Env.sample (n : Nat) (strategy : ShardStrategy) (positive : 0 < n := by decide) : Env n where
  router := .roundRobin positive (1 < n) strategy
  platform := .sample
  redisConfigured := false
  sagaFaultInjection := false

/-- The random values and clock readings of one request, by attempt. -/
structure Entropy where
  uuid : Nat → Text
  now : Nat → Instant
  jitter : Nat
  deriving Inhabited

/-- The request whose UUID ends in the given byte. -/
def Entropy.sample (byte : Nat) : Entropy := ⟨fun _ => sampleUuid byte, fun _ => byte, 0⟩

/-- The order in which the parallel reads of a fan-out take effect. -/
structure Schedule (n : Nat) where
  order : List (Fin n)
  complete : order.Perm (List.finRange n)

def Schedule.inOrder (n : Nat) : Schedule n := ⟨List.finRange n, .refl _⟩

namespace ShardRouter
variable {n : Nat}

def name (router : ShardRouter n) (i : Fin n) : Text :=
  if router.sharded then shardName i else text "global"

def forBucket (router : ShardRouter n) (bucket : Nat) (bound : bucket < BUCKETS) : Fin n :=
  router.bucketMap ⟨bucket, bound⟩

def forKey (router : ShardRouter n) (id : Text) : Fin n :=
  router.forBucket (bucketOf id) (bucketOf_lt id)

/-- Known for the strategy city only: `fnv1a(normalizeCity(city)) % BUCKETS`. -/
def shardForCity (router : ShardRouter n) (platform : Platform) (city : Text) : Option (Fin n) :=
  match router.strategy with
  | .hash => none
  | .city =>
    some (router.forBucket (fnv1a (normalizeCity platform city) % BUCKETS) (Nat.mod_lt _ (by decide)))

def newHotelId (router : ShardRouter n) (platform : Platform) (city uuid : Text) : Text :=
  idInBucket (bucketForNewHotel platform router.strategy uuid city) uuid

def childId (parentId uuid : Text) : Text := idInBucket (bucketOf parentId) uuid

theorem forKey_congr (router : ShardRouter n) {first second : Text}
    (same : bucketOf first = bucketOf second) : router.forKey first = router.forKey second := by
  simp only [forKey, same]

@[simp] theorem bucketOf_childId (parentId uuid : Text) :
    bucketOf (childId parentId uuid) = bucketOf parentId :=
  bucketOf_idInBucket (bucketOf_lt parentId) uuid

@[simp] theorem forKey_childId (router : ShardRouter n) (parentId uuid : Text) :
    router.forKey (childId parentId uuid) = router.forKey parentId :=
  router.forKey_congr (bucketOf_childId parentId uuid)

/-- `run`: a connection error becomes a 503 for the keys of this shard only. -/
def run (router : ShardRouter n) (i : Fin n) (body : Async n α) : Async n α :=
  try body
  catch error =>
    if error.isConnection then
      throw (.serviceUnavailable (text "Шард " ++ router.name i ++
        text " недоступний: дані інших шардів продовжують обслуговуватися"))
    else throw error

/-- `shard.read`, for a query that is one statement. -/
def read (router : ShardRouter n) (i : Fin n) (stmt : Stmt) : Async n stmt.Answer :=
  router.run i (issue (.shard i stmt))

/-- `shard.write`, for a mutation that is one statement. -/
def write (router : ShardRouter n) (i : Fin n) (stmt : Stmt) : Async n stmt.Answer :=
  router.run i (issue (.shard i stmt))

end ShardRouter

/-- `await` inside `try`, with the error as a value. -/
def attempt (program : Async n α) : Async n (Except Err α) :=
  tryCatch (do return .ok (← program)) fun error => return .error error

structure FanOutResult (n : Nat) (α : Type) where
  parts : List (Fin n × α)
  failed : List (Fin n)

namespace ShardRouter
variable {n : Nat}

/-- `Promise.allSettled` over the shards: every read is awaited, none cancels another. -/
def settle (router : ShardRouter n) (stmt : Stmt) :
    List (Fin n) → Async n (List (Fin n × Except Err stmt.Answer))
  | [] => return []
  | i :: rest => do
    let outcome ← attempt (router.read i stmt)
    return (i, outcome) :: (← router.settle stmt rest)

/-- Sorts the settled outcomes, in the order of the shards. Without `allowPartial`
the first rejected read rejects the whole call. -/
def gather (allowPartial : Bool) (settled : List (Fin n × Except Err α)) :
    List (Fin n) → Except Err (FanOutResult n α)
  | [] => .ok ⟨[], []⟩
  | i :: rest => do
    match settled.find? fun outcome => outcome.1 = i with
    | some (_, .ok result) =>
      let others ← gather allowPartial settled rest
      return { others with parts := (i, result) :: others.parts }
    | some (_, .error error) =>
      if !allowPartial then throw error
      let others ← gather allowPartial settled rest
      return { others with failed := i :: others.failed }
    | none => gather allowPartial settled rest

def fanOut (router : ShardRouter n) (schedule : Schedule n) (stmt : Stmt) (allowPartial : Bool) :
    Async n (FanOutResult n stmt.Answer) := do
  let settled ← router.settle stmt schedule.order
  Program.ofExcept (gather allowPartial settled (List.finRange n))

def fanOutList (router : ShardRouter n) (schedule : Schedule n) (stmt : Stmt)
    (rows : stmt.Answer → List α) (allowPartial : Bool) : Async n (List α) := do
  let result ← router.fanOut schedule stmt allowPartial
  return result.parts.flatMap fun part => rows part.2

end ShardRouter

inductive Consistency where
  | eventual
  | strong
  | primaryPreferred
  deriving DecidableEq

/-- `DbRouter.read` on the guest directory, on the primary. Its health flag is in
`primaryHealth`: a query that it turns away fails like one that is refused. Where there is a replica,
the EVENTUAL reads that it answers are in `Replicated.Step`. -/
def globalRead (stmt : GuestStmt) (consistency : Consistency) : Async n stmt.Answer :=
  try issue (.guests stmt)
  catch error =>
    if error.isConnection then
      throw (.serviceUnavailable (text (if consistency = .strong then
        "Primary Node недоступний: строго узгоджене читання неможливе"
        else "Жоден вузол БД недоступний")))
    else throw error

/-- `DbRouter.write` on the guest directory. -/
def globalWrite (stmt : GuestStmt) : Async n stmt.Answer :=
  try issue (.guests stmt)
  catch error =>
    if error.isConnection then
      throw (.serviceUnavailable (text
        "Primary Node недоступний: операції запису тимчасово заблоковані, читання каталогу доступне"))
    else throw error

end HotelBooking
