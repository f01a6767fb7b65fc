import HotelBooking.Database.Statements
import HotelBooking.Effect.Ensures

/-! Everything a request can touch: the tables of each shard, the guest directory
of the global node and Redis. Each awaited call of the sources is one command,
executed atomically against this state. -/
namespace HotelBooking
open Relational

def CreateGuestDto.row (dto : CreateGuestDto) (id : Text) (createdAt : Instant) : Guest :=
  ⟨id, dto.fullName, dto.email, dto.phone.overNullable none, createdAt⟩

def UpdateGuestDto.over (dto : UpdateGuestDto) (old : Guest) : Except Err Guest := do
  return { old with
    fullName := ← dto.fullName.over old.fullName
    email := ← dto.email.over old.email
    phone := dto.phone.overNullable old.phone }

inductive GuestStmt where
  | findMany
  | findIn (ids : List Text)
  | findUnique (id : Text)
  | findByEmail (email : Text)
  | create (id : Text) (dto : CreateGuestDto) (createdAt : Instant)
  | update (id : Text) (dto : UpdateGuestDto)
  | delete (id : Text)

namespace GuestStmt

abbrev Answer : GuestStmt → Type
  | findMany | findIn _ => List Guest
  | findUnique _ | findByEmail _ => Option Guest
  | create .. | update .. | delete .. => Guest

def exec : (stmt : GuestStmt) → Guests → Except Err (stmt.Answer × Guests)
  | findMany, directory => .ok (directory.guests.rows, directory)
  | findIn ids, directory =>
    .ok (directory.guests.rows.filter fun guest => guest.id ∈ ids, directory)
  | findUnique id, directory => .ok (directory.guests.find? id, directory)
  | findByEmail email, directory =>
    .ok (directory.guests.rows.find? fun guest => guest.email = email, directory)
  | create id dto createdAt, directory =>
    let guest := dto.row id createdAt
    if fresh : directory.guests.find? guest.id = none then
      if email : directory.EmailFree guest then .ok (guest, directory.insert guest fresh email)
      else .error (.db .uniqueConstraint)
    else .error (.db .uniqueConstraint)
  | update id dto, directory => do
    let some old := directory.guests.find? id | throw (.db .recordNotFound)
    let guest ← dto.over old
    if email : directory.EmailFree guest then return (guest, directory.put guest email)
    else throw (.db .uniqueConstraint)
  | delete id, directory =>
    match directory.guests.find? id with
    | some guest => .ok (guest, directory.erase id)
    | none => .error (.db .recordNotFound)

end GuestStmt

/-- `normalizeSearchParams`. A date stands for its ISO string. -/
structure SearchParams where
  city : Text
  checkIn : Instant
  checkOut : Instant
  guests : Nat
  deriving DecidableEq

/-- The key scheme of cache-keys.ts. The three families have different prefixes,
and SHA-1 of the parameters is taken to be injective. -/
inductive CacheKey where
  | hotel (id : Text)
  | searchVersion
  | roomsSearch (version : Nat) (params : SearchParams)
  deriving DecidableEq

/-- What the application stores under a key. -/
abbrev CacheKey.Value : CacheKey → Type
  | hotel _ => HotelCard
  | searchVersion => Nat
  | roomsSearch .. => List RoomView

inductive CacheCmd where
  | get (key : CacheKey)
  | set (key : CacheKey) (value : key.Value) (ttlSec : Nat)
  | del (keys : List CacheKey)
  | incr

abbrev CacheCmd.Answer : CacheCmd → Type
  | get key => Option key.Value
  | set .. | del _ => Unit
  | incr => Nat

structure Redis where
  entries : (key : CacheKey) → Option key.Value

namespace Redis

def empty : Redis := ⟨fun _ => none⟩

def exec : (cmd : CacheCmd) → Redis → cmd.Answer × Redis
  | .get key, redis => (redis.entries key, redis)
  | .set key value _, redis => ((), ⟨Function.update redis.entries key (some value)⟩)
  | .del keys, redis => ((), ⟨fun key => if key ∈ keys then none else redis.entries key⟩)
  | .incr, redis =>
    let version := (redis.entries .searchVersion).getD 0 + 1
    (version, ⟨Function.update redis.entries .searchVersion (some version)⟩)

end Redis

inductive Cmd (n : Nat) where
  | shard (i : Fin n) (stmt : Stmt)
  | guests (stmt : GuestStmt)
  | cache (cmd : CacheCmd)

abbrev Cmd.Answer : Cmd n → Type
  | .shard _ stmt => stmt.Answer
  | .guests stmt => stmt.Answer
  | .cache cmd => cmd.Answer

abbrev signature (n : Nat) : Effect.Signature := ⟨Cmd n, Cmd.Answer⟩

/-- An async function of the services over `n` shards. -/
abbrev Async (n : Nat) (α : Type) : Type := Effect.Program (signature n) Err α

/-- One awaited command. -/
def issue (cmd : Cmd n) : Async n cmd.Answer := Effect.Program.perform (S := signature n) cmd

theorem ensures_issue {σ : Type} {exec : Effect.Executor (signature n) Err σ}
    {policy : Effect.Policy (signature n) Err σ} {state : σ} (cmd : Cmd n)
    (post : List (Effect.Attempt (signature n) Err σ) → Except Err cmd.Answer → σ → Prop)
    (holds : ∀ fault, policy state cmd fault → post [⟨state, cmd, fault⟩]
      (fault.apply exec cmd state).1 (fault.apply exec cmd state).2) :
    (issue cmd).Ensures exec policy post state :=
  Effect.Program.ensures_perform holds

structure World (n : Nat) where
  shards : Fin n → Tables
  guests : Guests
  redis : Redis

namespace World

def empty (n : Nat) : World n := ⟨fun _ => .empty, .empty, .empty⟩

def setShard (world : World n) (i : Fin n) (tables : Tables) : World n :=
  { world with shards := Function.update world.shards i tables }

@[simp] theorem setShard_guests (world : World n) (i : Fin n) (tables : Tables) :
    (world.setShard i tables).guests = world.guests := rfl

@[simp] theorem setShard_redis (world : World n) (i : Fin n) (tables : Tables) :
    (world.setShard i tables).redis = world.redis := rfl

@[simp] theorem setShard_self (world : World n) (i : Fin n) (tables : Tables) :
    (world.setShard i tables).shards i = tables := by
  simp only [setShard, Function.update_self]

theorem setShard_of_ne (world : World n) {i j : Fin n} (other : j ≠ i) (tables : Tables) :
    (world.setShard i tables).shards j = world.shards j := by
  simp only [setShard, Function.update_of_ne other]

@[simp] theorem setShard_same (world : World n) (i : Fin n) :
    world.setShard i (world.shards i) = world := by
  simp only [setShard, Function.update_eq_self]

theorem setShard_setShard (world : World n) (i : Fin n) (first second : Tables) :
    (world.setShard i first).setShard i second = world.setShard i second := by
  simp only [setShard, Function.update_idem]

def exec : Effect.Executor (signature n) Err (World n)
  | .shard i stmt, world =>
    match stmt.exec (world.shards i) with
    | .ok (answer, tables) => (.ok answer, world.setShard i tables)
    | .error error => (.error error, world)
  | .guests stmt, world =>
    match stmt.exec world.guests with
    | .ok (answer, guests) => (.ok answer, { world with guests })
    | .error error => (.error error, world)
  | .cache cmd, world =>
    (.ok (Redis.exec cmd world.redis).1, { world with redis := (Redis.exec cmd world.redis).2 })

theorem exec_shard_ok {world : World n} {i : Fin n} {stmt : Stmt} {answer : stmt.Answer}
    {tables : Tables} (done : stmt.exec (world.shards i) = .ok (answer, tables)) :
    exec (.shard i stmt) world = (.ok answer, world.setShard i tables) := by
  simp only [exec, done]

theorem exec_shard_error {world : World n} {i : Fin n} {stmt : Stmt} {error : Err}
    (failed : stmt.exec (world.shards i) = .error error) :
    exec (.shard i stmt) world = (.error error, world) := by
  simp only [exec, failed]

end World
end HotelBooking
