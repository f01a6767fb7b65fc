import HotelBooking.Services.RedisFaults
import HotelBooking.Services.RoutedReads
import HotelBooking.Effect.Noninterference

/-! Groups of shards. Some requests ask the shards of a group only, others write to none of them and
not to the guest directory. What these issue is told apart here, command by command. -/
namespace HotelBooking
open Effect
variable {n : Nat} {env : Env n}

def Request.writesShards : Request → Bool
  | .createHotel _ | .updateHotel .. | .removeHotel _ | .createRoom _ | .updateRoom .. | .removeRoom _
  | .createBooking _ | .updateBooking .. | .cancelBooking _ | .removeBooking _ | .relocateBooking .. =>
    true
  | _ => false

def Request.writesGuests : Request → Bool
  | .createGuest _ | .updateGuest .. | .removeGuest _ => true
  | _ => false

theorem Issued.writesShards {entropy : Entropy} {request : Request} {i : Fin n} {stmt : Stmt}
    (issued : Issued env entropy request (.shard i stmt)) :
    stmt.isRead = true ∨ request.writesShards = true := by
  cases issued with
  | shardRead read => exact Or.inl read
  | _ => exact Or.inr rfl

theorem Issued.writesGuests {entropy : Entropy} {request : Request} {stmt : GuestStmt}
    (issued : Issued env entropy request (.guests stmt)) :
    stmt.isRead = true ∨ request.writesGuests = true := by
  cases issued with
  | guestRead read => exact Or.inl read
  | _ => exact Or.inr rfl

theorem getOrSet_plain {key : CacheKey} {ttl : CacheTtl} {jitter : Nat}
    {loader : Async n key.Value} (plain : Plain loader) :
    Plain (CacheService.getOrSet env.withoutRedis key ttl jitter loader loader) :=
  Program.uses_bind plain fun _ => trivial

/-- Without Redis no request issues a command to Redis. -/
theorem plain_program (env : Env n) (call : Call n) : Plain (call.program env.withoutRedis) := by
  have follows := Covers.program env call
  obtain ⟨request, entropy, schedule⟩ := call
  cases request with
  | findHotel id => exact Program.uses_bind (getOrSet_plain (uses_findHotel rfl)) fun _ => trivial
  | searchRooms dto =>
    have version : Plain (CacheService.getVersion env.withoutRedis) := trivial
    refine Program.uses_bind (Program.uses_bind version fun _ =>
      Program.uses_bind (Program.uses_ofExcept _) fun _ => ?_) fun _ => trivial
    exact Program.uses_bind (getOrSet_plain (Covers.search _ schedule dto)) fun _ => trivial
  | _ => exact follows.core_uses nofun (.plain [])

section Groups
variable (env : Env n) (part : Fin n → Bool)

/-- The request is about keys of these shards only. -/
def Call.within (call : Call n) : Bool := (call.request.shards env call.entropy).all part

/-- The request writes to none of these shards, and not to the guest directory. -/
def Call.spares (call : Call n) : Bool :=
  !call.request.writesGuests &&
    (!call.request.writesShards || (call.request.shards env call.entropy).all fun i => !part i)

/-- A command to the databases that stays within these shards. -/
def Confined : Cmd n → Prop
  | .shard i _ => part i = true
  | .guests _ => True
  | .cache _ => False

/-- A command that changes neither these shards nor the guest directory. -/
def Unnoticed : Cmd n → Prop
  | .shard i stmt => stmt.isRead = true ∨ part i = false
  | .guests stmt => stmt.isRead = true
  | .cache _ => True

end Groups

variable {part : Fin n → Bool}

theorem confined_program {call : Call n} (within : call.within env part = true) :
    (call.program env.withoutRedis).Uses (Confined part) := by
  have reaches := (reaches_program env.withoutRedis call).and (plain_program env call)
  refine reaches.mono fun cmd issued => ?_
  cases cmd with
  | shard i stmt => exact List.all_eq_true.mp within i issued.1
  | guests stmt => trivial
  | cache cmd => cases issued.2

theorem unnoticed_program {call : Call n} (spares : call.spares env part = true) :
    (call.program env.withoutRedis).Uses (Unnoticed part) := by
  obtain ⟨guests, shards⟩ := Bool.and_eq_true_iff.mp spares
  have uses := (reaches_program env.withoutRedis call).and (Issued.uses_program env.withoutRedis call)
  refine uses.mono fun cmd issued => ?_
  cases cmd with
  | shard i stmt =>
    rcases issued.2.writesShards with read | writes
    · exact Or.inl read
    · rw [writes, Bool.not_true, Bool.false_or] at shards
      have foreign := List.all_eq_true.mp shards i issued.1
      exact Or.inr (by simpa using foreign)
  | guests stmt =>
    rcases issued.2.writesGuests with read | writes
    · exact read
    · rw [writes] at guests
      cases guests
  | cache cmd => trivial

end HotelBooking
