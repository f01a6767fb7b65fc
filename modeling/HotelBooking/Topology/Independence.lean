import HotelBooking.Topology.Relocation
import Mathlib.Data.Multiset.MapFold

/-! Whole runs of the API on two topologies. The same requests, with the same generated
identifiers and timestamps, succeed alike, return the same rows and leave the same rows behind. -/
namespace HotelBooking
open Relational Effect
variable {n m : Nat}

/-- The rows of a response. Lists are taken up to order, a relocation without its mode, the names of
the shards and its steps. -/
inductive ReplyRows where
  | hotel (hotel : Hotel)
  | hotels (hotels : Multiset Hotel)
  | card (cache : CacheStatus) (card : HotelCard)
  | room (room : Room)
  | roomView (view : RoomView)
  | roomViews (views : Multiset RoomView)
  | search (cache : CacheStatus) (views : Multiset RoomView)
  | guest (guest : Guest)
  | guests (guests : Multiset Guest)
  | booking (booking : Booking)
  | bookingViews (views : Multiset BookingView)
  | bookingWithGuest (booking : BookingWithGuest)
  | bookings (bookings : Multiset BookingWithGuest)
  | relocation (booking previous : Booking)

def Response.answered : Response → ReplyRows
  | .hotel row => .hotel row
  | .hotels rows => .hotels rows
  | .card status row => .card status row
  | .room row => .room row
  | .roomView row => .roomView row
  | .roomViews rows => .roomViews rows
  | .search status rows => .search status rows
  | .guest row => .guest row
  | .guests rows => .guests rows
  | .booking row => .booking row
  | .bookingViews rows => .bookingViews rows
  | .bookingWithGuest row => .bookingWithGuest row
  | .bookings rows => .bookings rows
  | .relocation moved => .relocation moved.booking moved.previous

/-- What a client sees of a reply: the rows, or that the call failed. -/
def rowsOf (reply : Except Err Response) : Option ReplyRows := reply.toOption.map Response.answered

/-- The replies to calls served one after another. -/
def repliesTo (env : Env n) : List (Call n) → World n → List (Except Err Response)
  | [], _ => []
  | call :: rest, world =>
    (call.serve env world).1 :: repliesTo env rest (call.serve env world).2

/-- The rows of all shards together, and the guest directory. -/
structure Contents where
  hotels : Multiset Hotel
  rooms : Multiset Room
  bookings : Multiset Booking
  guests : Guests

def World.contents (world : World n) : Contents where
  hotels := ((List.finRange n).flatMap fun i => (world.shards i).hotels.rows : List Hotel)
  rooms := ((List.finRange n).flatMap fun i => (world.shards i).rooms.rows : List Room)
  bookings := ((List.finRange n).flatMap fun i => (world.shards i).bookings.rows : List Booking)
  guests := world.guests

/-- One request with the same identifiers and timestamps; the order in which the shards answer its
fan-outs may differ. -/
def Call.Same (call : Call n) (image : Call m) : Prop :=
  call.request = image.request ∧ call.entropy = image.entropy

/-- The call as the single node receives it. -/
def Call.onNode (call : Call n) : Call 1 := ⟨call.request, call.entropy, .inOrder 1⟩

/-- No request asks for the failure that an instance with SAGA_FAULT_INJECTION injects. -/
def Request.Faultless (env : Env n) : Request → Prop
  | .relocateBooking _ dto => dto.simulateFailure = true → env.sagaFaultInjection = false
  | _ => True

theorem Mirrors.contents {router : ShardRouter n} {world : World n} {node : World 1}
    (mirrors : Mirrors router world node) : world.contents = node.contents := by
  have single {α : Type} (rows : Fin 1 → List α) : (List.finRange 1).flatMap rows = rows 0 := by
    simp [List.finRange_succ]
  have rooms := mirrors.perm_rooms (fun _ => some) fun _ _ _ => rfl
  have bookings := mirrors.perm_bookings (fun _ => some) fun _ _ _ => rfl
  simp only [List.filterMap_some] at rooms bookings
  simp only [World.contents, single, mirrors.guests, Multiset.coe_eq_coe.mpr mirrors.perm_hotels,
    Multiset.coe_eq_coe.mpr rooms, Multiset.coe_eq_coe.mpr bookings]

theorem rowsOf_agree {left right : Except Err Response}
    (agree : Agree (fun first second => first.answered = second.answered) left right) :
    rowsOf left = rowsOf right := by
  obtain ⟨value, image, rfl, rfl, same⟩ | ⟨error, other, rfl, rfl⟩ := agree.cases
  · exact congrArg some same
  · rfl

section Calls
variable {env : Env n}

/-- A program whose result is the response, beside its image. -/
theorem alike_respond {α β : Type} {router : ShardRouter n} {values : α → β → Prop}
    {program : Async n α} {image : Async 1 β} {respond : α → Response} {answer : β → Response}
    (alike : Alike router values program image)
    (shown : ∀ left right, values left right →
      (respond left).answered = (answer right).answered) :
    Alike router (fun first second => first.answered = second.answered)
      (do return respond (← program)) (do return answer (← image)) :=
  Program.simulates_bind alike fun left right related =>
    Program.simulates_ret (shown left right related)

variable (disabled : env.redisConfigured = false) (hash : env.router.strategy = .hash)
include disabled hash

theorem alike_program (call : Call n) (faultless : call.request.Faultless env) :
    Alike env.router (fun first second => first.answered = second.answered) (call.program env)
      (call.onNode.program env.single) := by
  have row {α : Type} {respond : α → Response} (left right : α) (same : left = right) :
      (respond left).answered = (respond right).answered :=
    congrArg (fun value => (respond value).answered) same
  obtain ⟨request, entropy, schedule⟩ := call
  cases request with
  | createHotel dto => exact alike_respond (alike_createHotel entropy dto) row
  | findHotels =>
    refine alike_respond (alike_findHotels schedule _) fun _ _ perm => ?_
    exact congrArg ReplyRows.hotels (Multiset.coe_eq_coe.mpr perm)
  | findHotel id => exact alike_respond (alike_findOneCached disabled entropy id) row
  | updateHotel id dto => exact alike_respond (alike_updateHotel disabled id dto) row
  | removeHotel id => exact alike_respond (alike_removeHotel disabled id) row
  | createRoom dto => exact alike_respond (alike_createRoom disabled entropy dto) row
  | findRooms =>
    refine alike_respond (alike_findRooms schedule _) fun _ _ perm => ?_
    exact congrArg ReplyRows.roomViews (Multiset.coe_eq_coe.mpr perm)
  | findRoom id => exact alike_respond (alike_findRoom id) row
  | searchRooms dto =>
    refine alike_respond (alike_searchCached disabled hash entropy schedule _ dto) ?_
    rintro ⟨status, views⟩ ⟨_, others⟩ ⟨rfl, perm⟩
    exact congrArg (ReplyRows.search status) (Multiset.coe_eq_coe.mpr perm)
  | updateRoom id dto => exact alike_respond (alike_updateRoom disabled id dto) row
  | removeRoom id => exact alike_respond (alike_removeRoom disabled id) row
  | createGuest dto => exact alike_respond (alike_createGuest entropy dto) row
  | findGuests => exact alike_respond (alike_globalRead env.router .findMany .eventual) row
  | findGuest id => exact alike_respond (alike_findGuest id .eventual) row
  | findGuestBookings id =>
    refine alike_respond (alike_findGuestBookings schedule _ id) fun _ _ perm => ?_
    exact congrArg ReplyRows.bookingViews (Multiset.coe_eq_coe.mpr perm)
  | updateGuest id dto => exact alike_respond (alike_updateGuest id dto) row
  | removeGuest id => exact alike_respond (alike_removeGuest schedule _ id) row
  | createBooking dto => exact alike_respond (alike_createBooking disabled entropy dto) row
  | findBookings =>
    refine alike_respond (alike_findBookings schedule _) fun _ _ perm => ?_
    exact congrArg ReplyRows.bookings (Multiset.coe_eq_coe.mpr perm)
  | findBooking id => exact alike_respond (alike_findBooking id) row
  | updateBooking id dto => exact alike_respond (alike_updateBooking disabled id dto) row
  | cancelBooking id => exact alike_respond (alike_cancelBooking disabled id) row
  | removeBooking id => exact alike_respond (alike_removeBooking disabled id) row
  | relocateBooking id dto =>
    refine alike_respond (alike_relocate disabled entropy id dto faultless) ?_
    rintro moved image ⟨booking, previous⟩
    exact congrArg₂ ReplyRows.relocation booking previous

/-- One call on mirrored worlds. -/
theorem mirrors_serve {world : World n} {node : World 1} (mirrors : Mirrors env.router world node)
    (call : Call n) (faultless : call.request.Faultless env) :
    rowsOf (call.serve env world).1 = rowsOf (call.onNode.serve env.single node).1 ∧
      Mirrors env.router (call.serve env world).2 (call.onNode.serve env.single node).2 := by
  obtain ⟨agree, after⟩ := alike_program disabled hash call faultless world node mirrors
  exact ⟨rowsOf_agree agree, after⟩

/-- A run over the shards, and the run of the same calls on the single node. -/
theorem mirrors_run {calls : List (Call n)}
    (faultless : ∀ call ∈ calls, call.request.Faultless env) {world : World n} {node : World 1}
    (mirrors : Mirrors env.router world node) :
    (repliesTo env calls world).map rowsOf =
        (repliesTo env.single (calls.map Call.onNode) node).map rowsOf ∧
      Mirrors env.router (serveAll env calls world)
        (serveAll env.single (calls.map Call.onNode) node) := by
  induction calls generalizing world node with
  | nil => exact ⟨rfl, mirrors⟩
  | cons call rest ih =>
    obtain ⟨now, later⟩ := List.forall_mem_cons.mp faultless
    obtain ⟨reply, after⟩ := mirrors_serve disabled hash mirrors call now
    obtain ⟨replies, last⟩ := ih later after
    refine ⟨?_, last⟩
    simp only [repliesTo, List.map_cons, reply, replies]

end Calls

/-- Two deployments with the strategy hash and one configuration have one single node. -/
theorem single_eq {env : Env n} {other : Env m} (platform : other.platform = env.platform)
    (injection : other.sagaFaultInjection = env.sagaFaultInjection)
    (hash : env.router.strategy = .hash) (hash' : other.router.strategy = .hash)
    (disabled : env.redisConfigured = false) (disabled' : other.redisConfigured = false) :
    other.single = env.single := by
  simp only [Env.single, ShardRouter.single, platform, injection, hash, hash', disabled, disabled']

theorem onNode_eq {calls : List (Call n)} {others : List (Call m)}
    (same : List.Forall₂ Call.Same calls others) :
    others.map Call.onNode = calls.map Call.onNode := by
  induction same with
  | nil => rfl
  | cons first rest ih =>
    simp only [List.map_cons, ih, Call.onNode, first.1, first.2]

/-- Sharding is transparent: any number of shards with any bucket map, and so the single global
node too, give the same outcomes, the same rows in reply and the same rows behind. -/
theorem topology_independent (env : Env n) (other : Env m) (platform : other.platform = env.platform)
    (injection : other.sagaFaultInjection = env.sagaFaultInjection)
    (hash : env.router.strategy = .hash) (hash' : other.router.strategy = .hash)
    (disabled : env.redisConfigured = false) (disabled' : other.redisConfigured = false)
    {calls : List (Call n)} {others : List (Call m)}
    (same : List.Forall₂ Call.Same calls others)
    (faultless : ∀ call ∈ calls, call.request.Faultless env) :
    (repliesTo env calls (.empty n)).map rowsOf = (repliesTo other others (.empty m)).map rowsOf ∧
      (serveAll env calls (.empty n)).contents = (serveAll other others (.empty m)).contents := by
  have faultless' : ∀ call ∈ others, call.request.Faultless other := by
    intro call member
    obtain ⟨image, listed, alike⟩ : ∃ image ∈ calls, image.Same call := by
      obtain ⟨i, bound, rfl⟩ := List.mem_iff_getElem.mp member
      have here : i < calls.length := same.length_eq ▸ bound
      exact ⟨calls[i], List.getElem_mem here, same.get here bound⟩
    have safe := faultless image listed
    rw [alike.1] at safe
    unfold Request.Faultless at safe ⊢
    rw [injection]
    exact safe
  obtain ⟨replies, rows⟩ := mirrors_run disabled hash faultless (mirrors_empty env.router)
  obtain ⟨replies', rows'⟩ := mirrors_run disabled' hash' faultless' (mirrors_empty other.router)
  rw [single_eq platform injection hash hash' disabled disabled', onNode_eq same] at replies' rows'
  exact ⟨replies.trans replies'.symm, rows.contents.trans rows'.contents.symm⟩

/-- A booking that moves from the bucket 34 to the bucket 53: between two shards, or on one node. -/
def movingBooking (n : Nat) : List (Call n) :=
  furnishing n ++ [.sample (sampleBooking room101 1 5) 6,
    .sample (.relocateBooking (sampleKey 34 6) ⟨room201, false⟩) 7, .sample .findBookings 8]

theorem topology_independent_moving :
    (repliesTo (.sample 2 .hash) (movingBooking 2) (.empty 2)).map rowsOf =
        (repliesTo (.sample 1 .hash) (movingBooking 1) (.empty 1)).map rowsOf ∧
      (serveAll (.sample 2 .hash) (movingBooking 2) (.empty 2)).contents =
        (serveAll (.sample 1 .hash) (movingBooking 1) (.empty 1)).contents := by
  have same : List.Forall₂ Call.Same (movingBooking 2) (movingBooking 1) := by
    simp [movingBooking, furnishing, Call.Same, Call.sample]
  have faultless : ∀ call ∈ movingBooking 2, call.request.Faultless (.sample 2 .hash) := by
    simp [movingBooking, furnishing, Call.sample, Request.Faultless, sampleBooking]
  exact topology_independent (.sample 2 .hash) (.sample 1 .hash) rfl rfl rfl rfl rfl rfl same faultless

end HotelBooking
