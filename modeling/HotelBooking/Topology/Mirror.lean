import HotelBooking.Topology.Lockstep
import HotelBooking.Services.FanOut

/-! A system of several shards beside the same system on a single node. Each shard holds the rows
of the node that the router places on it, so that statements, fan-outs and commands of the guest
directory answer alike. -/
namespace HotelBooking
open Relational Effect
variable {n : Nat} {α β : Type}

/-- The router without SHARD_URLS: one shard, named global, for all buckets. -/
def ShardRouter.single (router : ShardRouter n) : ShardRouter 1 where
  sharded := false
  strategy := router.strategy
  bucketMap _ := ⟨0, Nat.one_pos⟩

def Env.single (env : Env n) : Env 1 where
  router := env.router.single
  platform := env.platform
  redisConfigured := env.redisConfigured
  sagaFaultInjection := env.sagaFaultInjection

/-- The shards hold together what the node holds, each its own part. -/
structure Mirrors (router : ShardRouter n) (world : World n) (node : World 1) : Prop where
  split : ∀ i, Tables.Split router.forKey i (world.shards i) (node.shards 0)
  housed : Tables.Housed router.forKey (node.shards 0)
  guests : world.guests = node.guests

theorem mirrors_empty (router : ShardRouter n) : Mirrors router (.empty n) (.empty 1) :=
  ⟨fun i => Tables.split_empty _ i, Tables.housed_empty _, rfl⟩

/-- Run on mirrored worlds, both programs succeed, with related values, or both fail. -/
abbrev Alike (router : ShardRouter n) (values : α → β → Prop) (program : Async n α)
    (image : Async 1 β) : Prop :=
  Program.Simulates World.exec World.exec (Mirrors router) values program image

section Statements
variable {router : ShardRouter n} {world : World n} {node : World 1} {stmt : Stmt} {i : Fin n}

/-- A write on the shard of its keys, made on the node too. -/
theorem Mirrors.write (mirrors : Mirrors router world node) {part whole : Tables}
    (follows : Tables.Follows router.forKey i (node.shards 0) part whole) :
    Mirrors router (world.setShard i part) (node.setShard 0 whole) where
  split k := by
    rw [World.setShard_self]
    by_cases here : k = i
    · subst here
      rw [World.setShard_self]
      exact follows.here
    · rw [World.setShard_of_ne world here]
      exact follows.elsewhere k _ here (mirrors.split k)
  housed := by
    rw [World.setShard_self]
    exact follows.housed
  guests := mirrors.guests

theorem mirrors_exec (mirrors : Mirrors router world node) (here : stmt.LocalTo router.forKey i)
    (j : Fin 1) :
    Matches Eq (World.exec (.shard i stmt) world).1 (World.exec (.shard j stmt) node).1 ∧
      Mirrors router (World.exec (.shard i stmt) world).2 (World.exec (.shard j stmt) node).2 := by
  obtain rfl : j = 0 := Subsingleton.elim j 0
  have step := Stmt.lockstep (mirrors.split i) mirrors.housed here
  obtain ⟨⟨answer, part⟩, ⟨_, whole⟩, left, right, rfl, follows⟩ | ⟨error, _, left, right, rfl⟩ :=
    step.cases
  · rw [World.exec_shard_ok left, World.exec_shard_ok right]
    exact ⟨rfl, mirrors.write follows⟩
  · rw [World.exec_shard_error left, World.exec_shard_error right]
    exact ⟨rfl, mirrors⟩

theorem alike_read (router : ShardRouter n) (stmt : Stmt) (here : stmt.LocalTo router.forKey i)
    (j : Fin 1) :
    Alike router Eq (router.read i stmt) (router.single.read j stmt) := by
  intro world node mirrors
  rw [run_read, run_read]
  exact (mirrors_exec mirrors here j).imp_left Matches.agree

theorem alike_write (router : ShardRouter n) (stmt : Stmt) (here : stmt.LocalTo router.forKey i)
    (j : Fin 1) :
    Alike router Eq (router.write i stmt) (router.single.write j stmt) :=
  alike_read router stmt here j

/-- A transaction of one statement, with its retries. -/
theorem alike_transaction {attempt : Nat → Async n α} {image : Nat → Async 1 α}
    (once : Alike router Eq (attempt 1) (image 1))
    (calm : ∀ world, Calm ((attempt 1).run World.exec world).1)
    (calmImage : ∀ node, Calm ((image 1).run World.exec node).1) (j : Fin 1) :
    Alike router Eq (router.run i (BookingsService.serializable attempt))
      (router.single.run j (BookingsService.serializable image)) := by
  intro world node mirrors
  rw [run_transaction _ (calm world), run_transaction _ (calmImage node)]
  exact once world node mirrors

theorem alike_issue (here : stmt.LocalTo router.forKey i) (j : Fin 1) :
    Alike router Eq (issue (.shard i stmt)) (issue (.shard j stmt)) := by
  intro world node mirrors
  rw [run_issue, run_issue]
  exact (mirrors_exec mirrors here j).imp_left Matches.agree

theorem calm_issue {k : Nat} (cmd : Cmd k) (world : World k) :
    Calm ((issue cmd).run World.exec world).1 := by
  rw [run_issue]
  exact World.calm_exec cmd world

theorem alike_reserve (router : ShardRouter n) (data : Nat → Reservation)
    (here : Stmt.LocalTo router.forKey i (.reserve (data 1))) (j : Fin 1) :
    Alike router Eq
      (router.run i (BookingsService.serializable fun attempt =>
        issue (.shard i (.reserve (data attempt)))))
      (router.single.run j (BookingsService.serializable fun attempt =>
        issue (.shard j (.reserve (data attempt))))) :=
  alike_transaction (alike_issue here j) (calm_issue _) (calm_issue _) j

theorem alike_reserveAndCancel (router : ShardRouter n) (data : Nat → Reservation) (id : Text)
    (here : Stmt.LocalTo router.forKey i (.reserveAndCancel (data 1) id)) (j : Fin 1) :
    Alike router Eq
      (router.run i (BookingsService.serializable fun attempt =>
        issue (.shard i (.reserveAndCancel (data attempt) id))))
      (router.single.run j (BookingsService.serializable fun attempt =>
        issue (.shard j (.reserveAndCancel (data attempt) id)))) :=
  alike_transaction (alike_issue here j) (calm_issue _) (calm_issue _) j

theorem alike_attempt {values : α → β → Prop} {program : Async n α} {image : Async 1 β}
    (alike : Alike router values program image) :
    Alike router (Agree values) (attempt program) (attempt image) := by
  intro world node mirrors
  rw [run_attempt, run_attempt]
  exact alike world node mirrors

theorem mirrors_guests (mirrors : Mirrors router world node) (stmt : GuestStmt) :
    Matches Eq (World.exec (.guests stmt) world).1 (World.exec (.guests stmt) node).1 ∧
      Mirrors router (World.exec (.guests stmt) world).2 (World.exec (.guests stmt) node).2 := by
  simp only [World.exec, mirrors.guests]
  rcases stmt.exec node.guests with error | ⟨answer, guests⟩
  · exact ⟨rfl, mirrors⟩
  · exact ⟨rfl, mirrors.split, mirrors.housed, rfl⟩

theorem alike_globalRead (router : ShardRouter n) (stmt : GuestStmt) (consistency : Consistency) :
    Alike router Eq (globalRead stmt consistency) (globalRead stmt consistency) := by
  intro world node mirrors
  rw [run_globalRead, run_globalRead]
  exact (mirrors_guests mirrors stmt).imp_left Matches.agree

theorem alike_globalWrite (router : ShardRouter n) (stmt : GuestStmt) :
    Alike router Eq (globalWrite stmt) (globalWrite stmt) := by
  intro world node mirrors
  rw [run_globalWrite, run_globalWrite]
  exact (mirrors_guests mirrors stmt).imp_left Matches.agree

end Statements

section FanOut

/-- A fan-out that lists on each shard a part of what it lists on the node. -/
theorem alike_fanOutList (router : ShardRouter n) (stmt : Stmt) (read : stmt.isRead = true) (schedule : Schedule n) (other : Schedule 1)
    (rows : stmt.Answer → List α) (answers : (tables : Tables) → stmt.Answer)
    (answered : ∀ tables, stmt.exec tables = .ok (answers tables, tables))
    (parts : ∀ world node, Mirrors router world node →
      ((List.finRange n).flatMap fun i => rows (answers (world.shards i))).Perm
        (rows (answers (node.shards 0)))) :
    Alike router List.Perm (router.fanOutList schedule stmt rows true)
      (router.single.fanOutList other stmt rows true) := by
  have replies {k : Nat} (world : World k) (i : Fin k) :
      world.answer stmt i = .ok (answers (world.shards i)) := by
    rw [World.answer, World.exec_shard_ok (answered (world.shards i))]
  intro world node mirrors
  rw [run_fanOutList read schedule true rows (replies world),
    run_fanOutList read other true rows (replies node)]
  refine ⟨?_, mirrors⟩
  have whole : ((List.finRange 1).flatMap fun i => rows (answers (node.shards i))) =
      rows (answers (node.shards 0)) := by
    simp [List.finRange_succ]
  exact whole ▸ parts world node mirrors

end FanOut

section Rows
variable {router : ShardRouter n} {world : World n} {node : World 1}

theorem Mirrors.room_home (mirrors : Mirrors router world node) {i : Fin n} {room : Room}
    (member : room ∈ (world.shards i).rooms) : router.forKey room.hotelId = i := by
  obtain ⟨stored, here⟩ := (mirrors.split i).rooms.mem_iff.mp member
  exact (mirrors.housed.rooms room stored).trans here

theorem Mirrors.booking_home (mirrors : Mirrors router world node) {i : Fin n} {booking : Booking}
    (member : booking ∈ (world.shards i).bookings) : router.forKey booking.roomId = i := by
  obtain ⟨stored, here⟩ := (mirrors.split i).bookings.mem_iff.mp member
  exact (mirrors.housed.bookings booking stored).trans here

theorem Mirrors.perm_hotels (mirrors : Mirrors router world node) :
    ((List.finRange n).flatMap fun i => (world.shards i).hotels.rows).Perm
      (node.shards 0).hotels.rows := by
  have parts := fun i => (mirrors.split i).hotels
  simpa only [List.filterMap_some] using
    Table.perm_flatMap_parts parts fun _ _ _ => (rfl : some _ = some _)

/-- What the shards list of their rooms is what the node lists of all. -/
theorem Mirrors.perm_rooms (mirrors : Mirrors router world node)
    (view : Tables → Room → Option β)
    (same : ∀ i, ∀ room ∈ (world.shards i).rooms,
      view (world.shards i) room = view (node.shards 0) room) :
    ((List.finRange n).flatMap fun i => (world.shards i).rooms.rows.filterMap
      (view (world.shards i))).Perm
      ((node.shards 0).rooms.rows.filterMap (view (node.shards 0))) :=
  Table.perm_flatMap_parts (fun i => (mirrors.split i).rooms) same

theorem Mirrors.perm_bookings (mirrors : Mirrors router world node)
    (view : Tables → Booking → Option β)
    (same : ∀ i, ∀ booking ∈ (world.shards i).bookings,
      view (world.shards i) booking = view (node.shards 0) booking) :
    ((List.finRange n).flatMap fun i => (world.shards i).bookings.rows.filterMap
      (view (world.shards i))).Perm
      ((node.shards 0).bookings.rows.filterMap (view (node.shards 0))) :=
  Table.perm_flatMap_parts (fun i => (mirrors.split i).bookings) same

theorem Mirrors.roomView? (mirrors : Mirrors router world node) {i : Fin n} {room : Room}
    (member : room ∈ (world.shards i).rooms) :
    (world.shards i).roomView? room = (node.shards 0).roomView? room :=
  Tables.roomView?_split (mirrors.split i) (mirrors.room_home member)

theorem Mirrors.bookingView? (mirrors : Mirrors router world node) {i : Fin n} {booking : Booking}
    (member : booking ∈ (world.shards i).bookings) :
    (world.shards i).bookingView? booking = (node.shards 0).bookingView? booking :=
  Tables.bookingView?_split (mirrors.split i) mirrors.housed (mirrors.booking_home member)

/-- A room is searched alike on its shard and on the node. -/
theorem Mirrors.matchesFilter (mirrors : Mirrors router world node) {i : Fin n} {view : RoomView}
    (member : view.room ∈ (world.shards i).rooms) (filter : RoomFilter)
    (checkIn checkOut : Instant) :
    (world.shards i).matchesFilter filter checkIn checkOut view =
      (node.shards 0).matchesFilter filter checkIn checkOut view := by
  have here := ((mirrors.split i).rooms.mem_iff.mp member).2
  have free : (world.shards i).bookings.rows.all (fun booking =>
      booking.roomId != view.room.id || !Tables.occupies checkIn checkOut booking) =
      (node.shards 0).bookings.rows.all fun booking =>
        booking.roomId != view.room.id || !Tables.occupies checkIn checkOut booking := by
    rw [Bool.eq_iff_iff, List.all_eq_true, List.all_eq_true]
    refine (mirrors.split i).bookings.forall_iff fun booking stored elsewhere => ?_
    have other : booking.roomId ≠ view.room.id := fun same =>
      elsewhere (mirrors.housed.booking_home stored (same ▸ here))
    simp [other]
  simp only [Tables.matchesFilter, free]

end Rows
end HotelBooking
