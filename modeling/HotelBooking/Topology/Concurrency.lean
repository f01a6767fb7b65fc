import HotelBooking.Effect.Refinement
import HotelBooking.Services.Relocations
import HotelBooking.Services.RoutedReads
import HotelBooking.Topology.Mirror
import HotelBooking.Invariants.BookingCalendar

/-! The shards as one node, while requests interleave and commands fail. Each command of a
client has on its shard the reply, and the effect, that it would have on a single node with
the rows of all shards. A fan-out reads on each shard the rows of that shard. -/
namespace HotelBooking
open Relational Effect
variable {n : Nat} {env : Env n} {entropy : Entropy} {request : Request}

/-- The command as the single node gets it. -/
def Cmd.onNode : Cmd n → Cmd 1
  | .shard _ stmt => .shard ⟨0, Nat.one_pos⟩ stmt
  | .guests stmt => .guests stmt
  | .cache cmd => .cache cmd

def nodeEvent (event : Event (signature n) Err) : Event (signature 1) Err :=
  ⟨event.client, event.cmd.onNode, event.fault⟩

/-- The single node executes what it gets, or meets the fault. -/
def Executes (node : World 1) (event : Event (signature 1) Err) (after : World 1) : Prop :=
  after = (event.fault.apply World.exec event.cmd node).2

structure Shadows (router : ShardRouter n) (world : World n) (node : World 1) : Prop where
  mirrors : Mirrors router world node
  redis : world.redis = node.redis

/-- The answer of a shard beside the answer of the node: a list is the part with its keys. The
count of the bookings of a guest is at most the node's. -/
def Stmt.Slice (home : Text → Fin n) (i : Fin n) : (stmt : Stmt) → stmt.Answer → stmt.Answer → Prop
  | .hotelFindMany, part, whole => part = whole.filter fun hotel => home hotel.id = i
  | .roomFindMany, part, whole => part = whole.filter fun view => home view.room.id = i
  | .roomSearch _, part, whole => part = whole.filter fun view => home view.room.id = i
  | .bookingFindMany, part, whole => part = whole.filter fun view => home view.booking.id = i
  | .bookingFindByGuest _, part, whole =>
    part = whole.filter fun view => home view.booking.id = i
  | .bookingCount _, part, whole => part ≤ whole
  | _, part, whole => part = whole

/-- The reply is the one of the node, an error being the same error. -/
def Cmd.Echo (router : ShardRouter n) :
    (cmd : Cmd n) → Except Err cmd.Answer → Except Err cmd.onNode.Answer → Prop
  | .shard i stmt, reply, image => Matches (stmt.Slice router.forKey i) reply image
  | .guests _, reply, image => Matches Eq reply image
  | .cache _, reply, image => reply = image

section Slices
variable {router : ShardRouter n} {world : World n} {node : World 1} {i : Fin n}

theorem filterMap_filter_of {view : α → Option β} {p : α → Bool} {q : β → Bool}
    (same : ∀ row seen, view row = some seen → q seen = p row) (rows : List α) :
    (rows.filter p).filterMap view = (rows.filterMap view).filter q := by
  rw [List.filterMap_filter, List.filter_filterMap]
  refine List.filterMap_congr fun row _ => ?_
  cases seen : view row with
  | none => simp
  | some value => simp [Option.filter, same row value seen]

theorem roomView?_room {tables : Tables} {room : Room} {view : RoomView}
    (seen : tables.roomView? room = some view) : view.room = room := by
  simp only [Tables.roomView?, Option.bind_eq_bind, Option.bind_eq_some_iff] at seen
  obtain ⟨_, _, same⟩ := seen
  cases same
  rfl

theorem bookingView?_booking {tables : Tables} {booking : Booking} {view : BookingView}
    (seen : tables.bookingView? booking = some view) : view.booking = booking := by
  simp only [Tables.bookingView?, Option.bind_eq_bind, Option.bind_eq_some_iff] at seen
  obtain ⟨_, _, _, _, same⟩ := seen
  cases same
  rfl

theorem Mirrors.slice_rooms (mirrors : Mirrors router world node) (i : Fin n) :
    (world.shards i).rooms.rows.filterMap (world.shards i).roomView? =
      ((node.shards 0).rooms.rows.filterMap (node.shards 0).roomView?).filter
        fun view => router.forKey view.room.id = i := by
  rw [List.filterMap_congr fun room member => mirrors.roomView? member,
    (mirrors.split i).rooms]
  refine filterMap_filter_of (fun room view seen => ?_) _
  rw [roomView?_room seen]

theorem Mirrors.slice_bookings (mirrors : Mirrors router world node) (i : Fin n)
    (admits : Booking → Bool) :
    ((world.shards i).bookings.rows.filter admits).filterMap (world.shards i).bookingView? =
      (((node.shards 0).bookings.rows.filter admits).filterMap (node.shards 0).bookingView?).filter
        fun view => router.forKey view.booking.id = i := by
  have views : ∀ booking ∈ (world.shards i).bookings.rows.filter admits,
      (world.shards i).bookingView? booking = (node.shards 0).bookingView? booking :=
    fun booking member => mirrors.bookingView? (List.mem_filter.mp member).1
  rw [List.filterMap_congr views, (mirrors.split i).bookings, List.filter_comm]
  refine filterMap_filter_of (fun booking view seen => ?_) _
  rw [bookingView?_booking seen]

theorem Mirrors.slice_search (mirrors : Mirrors router world node) (i : Fin n)
    (filter : RoomFilter) (checkIn checkOut : Instant) :
    ((world.shards i).rooms.rows.filterMap (world.shards i).roomView?).filter
        ((world.shards i).matchesFilter filter checkIn checkOut) =
      (((node.shards 0).rooms.rows.filterMap (node.shards 0).roomView?).filter
        ((node.shards 0).matchesFilter filter checkIn checkOut)).filter
        fun view => router.forKey view.room.id = i := by
  have alike : ∀ view ∈ (world.shards i).rooms.rows.filterMap (world.shards i).roomView?,
      (world.shards i).matchesFilter filter checkIn checkOut view =
        (node.shards 0).matchesFilter filter checkIn checkOut view := by
    intro view member
    obtain ⟨room, stored, seen⟩ := List.mem_filterMap.mp member
    exact mirrors.matchesFilter (roomView?_room seen ▸ stored) filter checkIn checkOut
  rw [List.filter_congr alike, mirrors.slice_rooms, List.filter_comm]

/-- What a list statement answers on the shard is the part of what it answers on the node. -/
theorem Mirrors.slice (mirrors : Mirrors router world node) {stmt : Stmt}
    (lists : stmt.lists = true) (i : Fin n) :
    Matches (stmt.Slice router.forKey i) (World.exec (.shard i stmt) world).1
      (World.exec (.shard 0 stmt) node).1 := by
  cases stmt with
  | hotelFindMany => exact (mirrors.split i).hotels
  | roomFindMany => exact mirrors.slice_rooms i
  | bookingFindMany =>
    have slice := mirrors.slice_bookings i fun _ => true
    rwa [List.filter_true, List.filter_true] at slice
  | bookingFindByGuest guestId => exact mirrors.slice_bookings i _
  | bookingCount guestId =>
    show (List.filter _ _).length ≤ (List.filter _ _).length
    rw [(mirrors.split i).bookings]
    exact (List.filter_sublist.filter _).length_le
  | roomSearch filter =>
    simp only [World.exec, Stmt.exec, Tables.roomSearch]
    cases date filter.checkIn with
    | error error => exact rfl
    | ok checkIn =>
      cases date filter.checkOut with
      | error error => exact rfl
      | ok checkOut =>
        cases filter.parameters with
        | error error => exact rfl
        | ok accepted => exact mirrors.slice_search i filter checkIn checkOut
  | _ => cases lists

end Slices

section Steps
variable {router : ShardRouter n} {world : World n} {node : World 1} {i : Fin n}

theorem World.exec_shard_redis (world : World n) (i : Fin n) (stmt : Stmt) :
    (World.exec (.shard i stmt) world).2.redis = world.redis := by
  cases done : stmt.exec (world.shards i) with
  | error error => rw [World.exec_shard_error done]
  | ok result =>
    obtain ⟨answer, tables⟩ := result
    rw [World.exec_shard_ok done, World.setShard_redis]

theorem World.exec_guests_redis (world : World n) (stmt : GuestStmt) :
    (World.exec (.guests stmt) world).2.redis = world.redis := by
  simp only [World.exec]
  split <;> rfl

theorem isRead_of_lists {stmt : Stmt} (lists : stmt.lists = true) : stmt.isRead = true := by
  cases stmt <;> first | rfl | cases lists

/-- A statement on the shard of its keys, with the rows that the node has for them. -/
theorem slice_local {stmt : Stmt} {part whole : Except Err stmt.Answer}
    (plain : stmt.lists = false) (same : Matches Eq part whole) :
    Matches (stmt.Slice router.forKey i) part whole := by
  cases stmt with
  | hotelFindMany | roomFindMany | roomSearch | bookingFindMany | bookingFindByGuest
  | bookingCount => cases plain
  | _ => exact same

theorem Shadows.exec_shard (shadows : Shadows router world node) {stmt : Stmt}
    (routed : stmt.lists = true ∨ stmt.LocalTo router.forKey i) :
    Cmd.Echo router (.shard i stmt) (World.exec (.shard i stmt) world).1
        (World.exec (.shard 0 stmt) node).1 ∧
      Shadows router (World.exec (.shard i stmt) world).2 (World.exec (.shard 0 stmt) node).2 := by
  cases lists : stmt.lists with
  | true =>
    refine ⟨shadows.mirrors.slice lists i, ?_⟩
    have read := isRead_of_lists lists
    rw [exec_isRead read world i, exec_isRead read node 0]
    exact shadows
  | false =>
    have here := routed.resolve_left (by rw [lists]; exact Bool.false_ne_true)
    obtain ⟨same, mirrors⟩ := mirrors_exec shadows.mirrors here 0
    refine ⟨slice_local lists same, mirrors, ?_⟩
    rw [World.exec_shard_redis, World.exec_shard_redis]
    exact shadows.redis

/-- What holds of the commands that the clients issue. -/
def Routed (router : ShardRouter n) : Cmd n → Prop
  | .shard i stmt => stmt.lists = true ∨ stmt.LocalTo router.forKey i
  | _ => True

theorem Shadows.exec {cmd : Cmd n} (shadows : Shadows router world node) (routed : Routed router cmd) :
    cmd.Echo router (World.exec cmd world).1 (World.exec cmd.onNode node).1 ∧
      Shadows router (World.exec cmd world).2 (World.exec cmd.onNode node).2 := by
  cases cmd with
  | shard i stmt => exact shadows.exec_shard routed
  | guests stmt =>
    obtain ⟨same, mirrors⟩ := mirrors_guests shadows.mirrors stmt
    refine ⟨same, mirrors, ?_⟩
    rw [World.exec_guests_redis, Cmd.onNode, World.exec_guests_redis]
    exact shadows.redis
  | cache cmd =>
    obtain ⟨⟨split, housed, guests⟩, redis⟩ := shadows
    have same : Redis.exec cmd world.redis = Redis.exec cmd node.redis := by rw [redis]
    refine ⟨?_, ⟨split, housed, guests⟩, congrArg Prod.snd same⟩
    exact congrArg (fun result : cmd.Answer × Redis => (Except.ok result.1 : Except Err _)) same

theorem echo_error {cmd : Cmd n} (error : Err) :
    cmd.Echo router (.error error) (.error error) := by
  cases cmd with
  | shard i stmt => exact rfl
  | guests stmt => exact rfl
  | cache cmd => exact rfl

/-- A fault strikes the command on the shard and on the node alike. -/
theorem Shadows.apply {cmd : Cmd n} (shadows : Shadows router world node)
    (routed : Routed router cmd) (fault : Fault Err) :
    cmd.Echo router (fault.apply World.exec cmd world).1
        (fault.apply World.exec cmd.onNode node).1 ∧
      Shadows router (fault.apply World.exec cmd world).2
        (fault.apply World.exec cmd.onNode node).2 := by
  cases fault with
  | none => exact shadows.exec routed
  | refused error => exact ⟨echo_error error, shadows⟩
  | lost error => exact ⟨echo_error error, (shadows.exec routed).2⟩

end Steps

section Routing
variable {i : Fin n} {stmt : Stmt}

/-- The writes of a request go to the shard of the keys that they write and refer to. -/
theorem Grounded.localTo {good : BookingStatus → Prop}
    (grounded : Grounded good env entropy request (.shard i stmt)) (write : stmt.isRead = false) :
    stmt.LocalTo env.router.forKey i := by
  have issued := grounded.issued
  cases stmt with
  | hotelCreate id dto createdAt =>
    cases issued with
    | shardRead read => cases read
    | createHotel => exact rfl
  | hotelUpdate id dto =>
    cases issued with
    | shardRead read => cases read
    | updateHotel => exact rfl
  | hotelDelete id =>
    cases issued with
    | shardRead read => cases read
    | removeHotel => exact rfl
  | roomCreate id dto createdAt =>
    cases issued with
    | shardRead read => cases read
    | createRoom same =>
      subst same
      exact ⟨ShardRouter.forKey_childId _ _ _, rfl⟩
  | roomUpdate id dto =>
    cases issued with
    | shardRead read => cases read
    | updateRoom guard =>
      refine ⟨rfl, fun hotelId given => ?_⟩
      rw [given] at guard
      exact env.router.forKey_congr (bne_eq_false_iff_eq.mp guard)
  | roomDelete id =>
    cases issued with
    | shardRead read => cases read
    | removeRoom => exact rfl
  | bookingUpdate id data =>
    cases issued with
    | shardRead read => cases read
    | updateBooking guard =>
      refine ⟨rfl, fun roomId given => ?_⟩
      simp only [BookingsService.patchData] at given
      rw [given] at guard
      exact env.router.forKey_congr (bne_eq_false_iff_eq.mp guard)
    | cancelBooking => exact ⟨rfl, by rintro _ ⟨⟩⟩
    | sagaConfirm => exact ⟨(grounded.update _ _ _ rfl).1, by rintro _ ⟨⟩⟩
  | bookingUpdateMany id statuses status => exact grounded.updateMany _ _ _ _ rfl
  | bookingDelete id =>
    cases issued with
    | shardRead read => cases read
    | removeBooking => exact rfl
  | reserve data => exact ⟨issued.reserve_placed.1, issued.reserve_room⟩
  | reserveAndCancel data id =>
    refine ⟨issued.reserveAndCancel_placed.1, issued.reserveAndCancel_room, ?_⟩
    cases issued with
    | shardRead read => cases read
    | relocateLocally => exact rfl
  | _ => cases write

/-- The databases answer every reservation with the identifier that was asked for. -/
theorem sustains_any {guarantee : Cmd n → Prop} :
    Sustains World.exec (Told fun _ => True) guarantee fun _ => True where
  answers _ cmd _ _ := told_exec (fun _ _ _ => trivial) cmd
  errors := told_error _
  keeps _ _ _ _ := trivial

theorem routed_commands {policy : Policy (signature n) Err (World n)} {calls : List (Call n)}
    {world : World n} {trace : List (Move n)} {last : Clients n}
    (run : Run (Pool.Step World.exec policy) (clients env world calls) trace last) :
    ∀ move ∈ trace, Routed env.router move.event.cmd := by
  have honours : (clients env world calls).Honours (Told fun _ => True)
      (fun i cmd => GroundedBy (fun _ => True) env calls i cmd ∧ ReadsRouted env.router cmd)
      fun _ => True := by
    refine ⟨trivial, fun i program found => ?_⟩
    rw [clients, List.getElem?_map] at found
    obtain ⟨call, listed, rfl⟩ := Option.map_eq_some_iff.mp found
    have grounded := (warrants_program (fun _ => True) env call).weaken fun cmd issued =>
      (⟨call, listed, issued⟩ : GroundedBy (fun _ => True) env calls i cmd)
    exact grounded.and_uses (reads_program env call)
  obtain ⟨guaranteed, _⟩ := honours.run sustains_any run
  intro move member
  obtain ⟨_, ⟨call, _, grounded⟩, reads⟩ := guaranteed move member
  generalize move.event.cmd = cmd at grounded reads
  cases cmd with
  | shard i stmt =>
    cases read : stmt.isRead with
    | true => exact reads read
    | false => exact Or.inr (grounded.localTo read)
  | guests stmt => trivial
  | cache cmd => trivial

end Routing

/-- A move of the clients beside the same command on the node. -/
structure Echoes (router : ShardRouter n) (move : Move n)
    (image : Transition (World 1) (Event (signature 1) Err)) : Prop where
  event : image.event = nodeEvent move.event
  before : Shadows router move.before.state image.before
  after : Shadows router move.after.state image.after
  reply : move.event.cmd.Echo router (Pool.reply World.exec move)
    (move.event.fault.apply World.exec move.event.cmd.onNode image.before).1

/-- The shards act as one database. Whatever requests interleave and whatever commands fail, a
single node that executes the same commands in the same order, under the same faults, holds
throughout the rows of all shards, and answers each command as its shard does. -/
theorem shards_act_as_one (env : Env n) (calls : List (Call n)) (world : World n) (node : World 1)
    (shadows : Shadows env.router world node) {trace : List (Move n)} {last : Clients n}
    (run : Run (Pool.Step World.exec AnyFault) (clients env world calls) trace last) :
    ∃ images final, Run Executes node images final ∧ Shadows env.router last.state final ∧
      List.Forall₂ (Echoes env.router) trace images := by
  have routed := routed_commands run
  refine run.simulates (fun pool node => Shadows env.router pool.state node) (Echoes env.router)
    shadows fun move member image before => ?_
  obtain ⟨reply, after⟩ := before.apply (routed move member) move.event.fault
  rw [← (run.steps move member).state_eq.2] at after
  exact ⟨nodeEvent move.event, _, rfl, after, rfl, before, after, reply⟩

theorem shards_act_as_one_opened :
    (opened.state.shards 0).rooms.rows.length = 2 ∧ (opened.state.shards 1).rooms.rows.length = 1 ∧
    ∃ images final, Run Executes (.empty 1) images final ∧
      Shadows twoShards.router opened.state final := by
  obtain ⟨trace, run⟩ := run_opened
  obtain ⟨images, final, executed, shadows, _⟩ := shards_act_as_one twoShards (furnishing 2)
    (.empty 2) (.empty 1) ⟨mirrors_empty _, rfl⟩ run
  exact ⟨by decide +kernel, by decide +kernel, images, final, executed, shadows⟩

end HotelBooking
