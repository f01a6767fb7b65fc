import HotelBooking.Services.Footprint

/-! Co-location. A row lies on the shard of its own key and shares its bucket with
its parent, so that no bucket map can separate an aggregate. -/
namespace HotelBooking
open Relational Effect
variable {n : Nat} {env : Env n} {entropy : Entropy} {request : Request}
  {i : Fin n} {tables after : Tables}

/-- The part of co-location that the booking requests rely on. -/
def BookingsPlaced (router : ShardRouter n) (i : Fin n) (tables : Tables) : Prop :=
  ∀ booking ∈ tables.bookings,
    router.forKey booking.id = i ∧ bucketOf booking.id = bucketOf booking.roomId

instance (router : ShardRouter n) (i : Fin n) (tables : Tables) :
    Decidable (BookingsPlaced router i tables) :=
  inferInstanceAs (Decidable (∀ booking ∈ tables.bookings.rows, _))

structure Colocated (router : ShardRouter n) (i : Fin n) (tables : Tables) : Prop where
  hotels : ∀ hotel ∈ tables.hotels, router.forKey hotel.id = i
  rooms : ∀ room ∈ tables.rooms,
    router.forKey room.id = i ∧ bucketOf room.id = bucketOf room.hotelId
  bookings : BookingsPlaced router i tables

theorem BookingsPlaced.room {router : ShardRouter n} {booking : Booking}
    (placed : BookingsPlaced router i tables) (member : booking ∈ tables.bookings) :
    router.forKey booking.roomId = i :=
  (router.forKey_congr (placed booking member).2).symm.trans (placed booking member).1

theorem colocated_empty (router : ShardRouter n) (i : Fin n) : Colocated router i .empty where
  hotels hotel member := absurd member (Table.not_mem_empty hotel)
  rooms room member := absurd member (Table.not_mem_empty room)
  bookings booking member := absurd member (Table.not_mem_empty booking)

/-- A foreign key written by PATCH stays in the bucket that its guard admits. -/
theorem overWith_bucket {given : Field Uuid} {id old new : Text}
    (guard : BookingsService.foreignBucket given id = false)
    (merged : given.overWith (fun id => .ok id.text) old = .ok new)
    (same : bucketOf id = bucketOf old) : bucketOf id = bucketOf new := by
  cases given with
  | absent =>
    cases merged
    exact same
  | null => cases merged
  | value other =>
    cases merged
    exact (bne_eq_false_iff_eq.mp guard).symm

namespace Issued

/-- Both transactions insert on the shard of the new room, under a key of its bucket. -/
theorem reserve_placed {data : Reservation}
    (issued : Issued env entropy request (.shard i (.reserve data))) :
    env.router.forKey data.id = i ∧ bucketOf data.id = bucketOf data.roomId := by
  cases issued with
  | shardRead read => cases read
  | createBooking id roomId =>
    rw [id, roomId]
    exact ⟨ShardRouter.forKey_childId _ _ _, ShardRouter.bucketOf_childId _ _⟩
  | sagaReserve => exact ⟨ShardRouter.forKey_childId _ _ _, ShardRouter.bucketOf_childId _ _⟩

theorem reserveAndCancel_placed {data : Reservation} {id : Text}
    (issued : Issued env entropy request (.shard i (.reserveAndCancel data id))) :
    env.router.forKey data.id = i ∧ bucketOf data.id = bucketOf data.roomId := by
  cases issued with
  | shardRead read => cases read
  | relocateLocally active sameShard =>
    exact ⟨(ShardRouter.forKey_childId _ _ _).trans sameShard.symm, ShardRouter.bucketOf_childId _ _⟩

/-- Of the room, a booking update writes at most one in the same bucket. -/
theorem bookingUpdate_bucket {id : Text} {data : BookingData} {old new : Booking}
    (issued : Issued env entropy request (.shard i (.bookingUpdate id data)))
    (merged : data.over old = .ok new) (key : old.id = id)
    (same : bucketOf old.id = bucketOf old.roomId) : bucketOf new.id = bucketOf new.roomId := by
  obtain ⟨sameId, roomId, _⟩ := BookingData.over_ok merged
  rw [sameId]
  cases issued with
  | shardRead read => cases read
  | updateBooking guard => exact overWith_bucket (key ▸ guard) roomId same
  | cancelBooking =>
    cases merged
    exact same
  | sagaConfirm =>
    cases merged
    exact same

end Issued

/-- Inserting a booking on the shard of its room keeps the bookings placed. -/
theorem BookingsPlaced.insert {router : ShardRouter n} {booking : Booking}
    (placed : BookingsPlaced router i tables) (fresh : tables.bookings.find? booking.id = none)
    (room : (tables.rooms.find? booking.roomId).isSome)
    (here : router.forKey booking.id = i ∧ bucketOf booking.id = bucketOf booking.roomId) :
    BookingsPlaced router i (tables.insertBooking booking fresh room) := by
  intro other member
  rcases Tables.mem_insertBooking.mp member with rfl | old
  · exact here
  · exact placed other old

theorem BookingsPlaced.put {router : ShardRouter n} {booking old : Booking}
    {room : (tables.rooms.find? booking.roomId).isSome} (placed : BookingsPlaced router i tables)
    (stored : old ∈ tables.bookings) (key : booking.id = old.id)
    (bucket : bucketOf booking.id = bucketOf booking.roomId) :
    BookingsPlaced router i (tables.putBooking booking room) := by
  intro other member
  rcases Table.mem_put.mp member with ⟨rfl, _⟩ | ⟨kept, _⟩
  · exact ⟨key ▸ (placed old stored).1, bucket⟩
  · exact placed other kept

theorem bookingsPlaced_wrote {stmt : Stmt} (issued : Issued env entropy request (.shard i stmt))
    (wrote : stmt.Wrote tables after) (placed : BookingsPlaced env.router i tables) :
    BookingsPlaced env.router i after := by
  cases wrote with
  | bookingUpdate found merged =>
    obtain ⟨stored, key⟩ := Table.find?_eq_some.mp found
    refine placed.put stored (BookingData.over_ok merged).1 ?_
    exact issued.bookingUpdate_bucket merged key (placed _ stored).2
  | bookingUpdateMany found =>
    have stored := (Table.find?_eq_some.mp found).1
    exact placed.put stored rfl (placed _ stored).2
  | bookingDelete =>
    intro booking member
    exact placed booking (Table.mem_erase.mp member).1
  | reserve made =>
    refine placed.insert made.fresh made.room ?_
    rw [made.id, made.roomId]
    exact issued.reserve_placed
  | reserveAndCancel made room found =>
    have here := issued.reserveAndCancel_placed
    rw [← made.id, ← made.roomId] at here
    have reserved := placed.insert made.fresh made.room here
    have stored := (Table.find?_eq_some.mp found).1
    exact reserved.put stored rfl (reserved _ stored).2
  | _ => exact placed

theorem colocated_wrote {stmt : Stmt} (issued : Issued env entropy request (.shard i stmt))
    (wrote : stmt.Wrote tables after) (held : Colocated env.router i tables) :
    Colocated env.router i after := by
  have bookings := bookingsPlaced_wrote issued wrote held.bookings
  cases wrote with
  | hotelCreate row fresh =>
    refine ⟨?_, held.rooms, bookings⟩
    intro hotel member
    rcases Tables.mem_insertHotel.mp member with rfl | old
    · rw [(CreateHotelDto.row_ok row).1]
      cases issued with
      | shardRead read => cases read
      | createHotel => rfl
    · exact held.hotels hotel old
  | hotelUpdate found merged =>
    refine ⟨?_, held.rooms, bookings⟩
    intro hotel member
    rcases Table.mem_put.mp member with ⟨rfl, _⟩ | ⟨old, _⟩
    · rw [(UpdateHotelDto.over_ok merged).1]
      exact held.hotels _ (Table.find?_eq_some.mp found).1
    · exact held.hotels hotel old
  | hotelDelete unused =>
    exact ⟨fun hotel member => held.hotels hotel (Table.mem_erase.mp member).1, held.rooms, bookings⟩
  | roomCreate row fresh hotel number =>
    refine ⟨held.hotels, ?_, bookings⟩
    intro room member
    rcases Tables.mem_insertRoom.mp member with rfl | old
    · obtain ⟨key, parent⟩ := CreateRoomDto.row_ok row
      cases issued with
      | shardRead read => cases read
      | createRoom id =>
        rw [key, parent, id]
        exact ⟨ShardRouter.forKey_childId _ _ _, ShardRouter.bucketOf_childId _ _⟩
    · exact held.rooms room old
  | roomUpdate found merged hotel number =>
    refine ⟨held.hotels, ?_, bookings⟩
    intro room member
    rcases Table.mem_put.mp member with ⟨rfl, _⟩ | ⟨old, _⟩
    · obtain ⟨stored, key⟩ := Table.find?_eq_some.mp found
      obtain ⟨sameId, hotelId⟩ := UpdateRoomDto.over_ok merged
      obtain ⟨here, bucket⟩ := held.rooms _ stored
      rw [sameId]
      refine ⟨here, ?_⟩
      cases issued with
      | shardRead read => cases read
      | updateRoom guard => exact overWith_bucket (key ▸ guard) hotelId bucket
    · exact held.rooms room old
  | roomDelete unused =>
    exact ⟨held.hotels, fun room member => held.rooms room (Table.mem_erase.mp member).1, bookings⟩
  | _ => exact ⟨held.hotels, held.rooms, bookings⟩

/-- Any command of any request keeps all shards co-located. -/
theorem colocated_exec {world : World n} {cmd : Cmd n} (issued : Issued env entropy request cmd)
    (held : world.Everywhere (Colocated env.router)) :
    (World.exec cmd world).2.Everywhere (Colocated env.router) := by
  refine World.everywhere_exec ?_ held
  rintro j stmt after rfl wrote colocated
  exact colocated_wrote issued wrote colocated

theorem colocated_served {before : World n} {call : Call n} {later : World n}
    (held : before.Everywhere (Colocated env.router)) (served : call.Served env before later) :
    later.Everywhere (Colocated env.router) := by
  rw [served]
  exact Program.run_preserves (fun _ _ issued holds => colocated_exec issued holds)
    (Issued.uses_program env call) held

/-- The sequence of calls since the databases were empty. -/
abbrev History (env : Env n) (trace : List (Transition (World n) (Call n))) (last : World n) : Prop :=
  Run (Call.Served env) (World.empty n) trace last

theorem History.colocated {trace : List (Transition (World n) (Call n))} {last : World n}
    (history : History env trace last) : last.Everywhere (Colocated env.router) :=
  history.invariant colocated_served fun i => colocated_empty env.router i

/-- An aggregate lies on one shard: every booking is stored beside its room and its hotel, all
three under the key of that shard, and every other bucket map keeps them together. -/
theorem aggregates_colocated {trace : List (Transition (World n) (Call n))} {last : World n}
    (history : History env trace last) (i : Fin n) :
    (∀ hotel ∈ (last.shards i).hotels, env.router.forKey hotel.id = i) ∧
    (∀ room ∈ (last.shards i).rooms, env.router.forKey room.id = i ∧
      bucketOf room.id = bucketOf room.hotelId ∧
      (∃ hotel ∈ (last.shards i).hotels, hotel.id = room.hotelId) ∧
      ∀ m (other : ShardRouter m), other.forKey room.id = other.forKey room.hotelId) ∧
    (∀ booking ∈ (last.shards i).bookings, env.router.forKey booking.id = i ∧
      bucketOf booking.id = bucketOf booking.roomId ∧
      (∃ room ∈ (last.shards i).rooms, room.id = booking.roomId) ∧
      ∀ m (other : ShardRouter m), other.forKey booking.id = other.forKey booking.roomId) := by
  obtain ⟨hotels, rooms, bookings⟩ := history.colocated i
  refine ⟨hotels, ?_, ?_⟩
  · intro room member
    obtain ⟨here, bucket⟩ := rooms room member
    refine ⟨here, bucket, Table.find?_isSome.mp ((last.shards i).rooms_hotel room member), ?_⟩
    exact fun m other => other.forKey_congr bucket
  · intro booking member
    obtain ⟨here, bucket⟩ := bookings booking member
    refine ⟨here, bucket, Table.find?_isSome.mp ((last.shards i).bookings_room booking member), ?_⟩
    exact fun m other => other.forKey_congr bucket

theorem aggregates_colocated_furnished : ((furnished 2).shards 1).rooms.rows.length = 1 ∧
    ∀ room ∈ ((furnished 2).shards 1).rooms, twoShards.router.forKey room.id = 1 ∧
      bucketOf room.id = bucketOf room.hotelId := by
  obtain ⟨trace, history⟩ := run_furnished (n := 2) (by decide)
  obtain ⟨_, rooms, _⟩ := aggregates_colocated history 1
  refine ⟨by decide +kernel, fun room member => ?_⟩
  obtain ⟨here, bucket, _⟩ := rooms room member
  exact ⟨here, bucket⟩

end HotelBooking
