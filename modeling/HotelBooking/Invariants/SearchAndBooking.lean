import HotelBooking.Invariants.DoubleBooking
import HotelBooking.Invariants.SearchKeys

/-! The two availability checks, the relation filter of `search` and the overlap query of
`reserve`, admit the same rooms. -/
namespace HotelBooking
open Relational Effect
variable {n : Nat} {world : World n} {tables : Tables}

/-- Every room is on the shard of its key, its bookings are there with it. -/
def RoomsPlaced (router : ShardRouter n) (i : Fin n) (tables : Tables) : Prop :=
  ∀ room ∈ tables.rooms, router.forKey room.id = i

theorem RoomsPlaced.booking {router : ShardRouter n} {i : Fin n} {booking : Booking}
    (placed : RoomsPlaced router i tables) (member : booking ∈ tables.bookings) :
    router.forKey booking.roomId = i := by
  obtain ⟨room, found⟩ := Option.isSome_iff_exists.mp (tables.bookings_room booking member)
  obtain ⟨stored, same⟩ := Table.find?_eq_some.mp found
  rw [← same]
  exact placed room stored

/-- The two spellings of an active booking that meets the dates. -/
theorem overlaps_eq_occupies (roomId : Text) (checkIn checkOut : Instant) (booking : Booking) :
    Tables.overlaps roomId checkIn checkOut none booking =
      (booking.roomId == roomId && Tables.occupies checkIn checkOut booking) := by
  have active : decide (booking.status ∈ activeStatuses) =
      (booking.status == .pending || booking.status == .confirmed) := by
    cases booking.status <;> rfl
  simp only [Tables.overlaps, Tables.occupies, active, Option.all_none, Bool.and_true, Bool.and_assoc]

theorem overlaps_iff {roomId : Text} {checkIn checkOut : Instant} {booking : Booking} :
    Tables.overlaps roomId checkIn checkOut none booking = true ↔ booking.roomId = roomId ∧
      booking.Active ∧ booking.checkInDate < checkOut ∧ booking.checkOutDate > checkIn := by
  simp [Tables.overlaps, Booking.Active, and_assoc]

/-- No booking keeps the room from these dates. -/
def Tables.Free (tables : Tables) (roomId : Text) (checkIn checkOut : Instant) : Prop :=
  ∀ booking ∈ tables.bookings, Tables.overlaps roomId checkIn checkOut none booking = false

theorem not_free_iff {roomId : Text} {checkIn checkOut : Instant} :
    ¬ tables.Free roomId checkIn checkOut ↔
      (tables.bookings.rows.find? (Tables.overlaps roomId checkIn checkOut none)).isSome = true := by
  unfold Tables.Free
  rw [List.find?_isSome]
  push Not
  simp only [Bool.not_eq_false, Table.mem_rows]

theorem matchesFilter_free {checkIn checkOut : Instant} {view : RoomView} {filter : RoomFilter}
    (noCapacity : filter.capacity = none) (noCity : filter.city = none) :
    tables.matchesFilter filter checkIn checkOut view = true ↔
      tables.Free view.room.id checkIn checkOut := by
  have filtered : tables.matchesFilter filter checkIn checkOut view =
      tables.bookings.rows.all fun booking =>
        booking.roomId != view.room.id || !Tables.occupies checkIn checkOut booking := by
    unfold Tables.matchesFilter
    rw [noCapacity, noCity]
    rfl
  rw [filtered, List.all_eq_true]
  refine forall₂_congr fun booking _ => ?_
  rw [overlaps_eq_occupies]
  cases same : booking.roomId == view.room.id <;> simp [bne, same]

theorem bookingCreate_ne_conflict {id roomId guestId : Text} {checkIn checkOut : Instant} {cents : Int}
    {status : BookingStatus} {createdAt : Instant} (message : Text) :
    tables.bookingCreate id roomId guestId checkIn checkOut cents status createdAt ≠
      .error (.conflict message) := by
  unfold Tables.bookingCreate
  intro same
  cases priced : Decimal.ofCents? cents with
  | none =>
    rw [priced] at same
    cases same
  | some price =>
    simp only [priced] at same
    split at same
    · split at same <;> cases same
    · cases same

/-- `reserve` rejects with a ConflictException for an overlap, and for nothing else. -/
theorem reserve_conflict_iff {room : Room} {data : Reservation} {checkIn checkOut : Instant}
    (stored : tables.rooms.find? data.roomId = some room) (readIn : data.checkIn = some checkIn)
    (readOut : data.checkOut = some checkOut) :
    (∃ message, tables.reserve data none = .error (.conflict message)) ↔
      ¬ tables.Free data.roomId checkIn checkOut := by
  rw [not_free_iff]
  unfold Tables.reserve
  simp only [stored, readIn, readOut, date, except_ok_bind]
  split
  · exact ⟨fun _ => ‹_›, fun _ => ⟨_, rfl⟩⟩
  · next free =>
    refine ⟨?_, fun overlap => absurd overlap free⟩
    rintro ⟨message, failed⟩
    exact absurd failed (bookingCreate_ne_conflict message)

theorem disjoint_stay_iff {booking : Booking} {checkIn checkOut : Instant}
    (stay : booking.checkInDate < booking.checkOutDate) (ordered : checkIn < checkOut) :
    Disjoint booking.stay (Set.Ico checkIn checkOut) ↔
      ¬ (booking.checkInDate < checkOut ∧ booking.checkOutDate > checkIn) := by
  rw [Booking.stay, Set.Ico_disjoint_Ico, min_le_iff, le_max_iff, le_max_iff, not_and_or, gt_iff_lt,
    not_lt, not_lt]
  constructor
  · rintro ((past | later) | (earlier | past))
    · exact absurd stay (not_lt.mpr past)
    · exact Or.inr later
    · exact Or.inl earlier
    · exact absurd ordered (not_lt.mpr past)
  · rintro (earlier | later)
    · exact Or.inr (Or.inl earlier)
    · exact Or.inl (Or.inr later)

theorem mem_found {env : Env n} {filter : RoomFilter} {checkIn checkOut : Instant}
    (noCity : filter.city = none) {view : RoomView} :
    view ∈ world.found env filter checkIn checkOut ↔
      ∃ i, view ∈ (world.shards i).offers filter checkIn checkOut := by
  unfold World.found
  rw [noCity]
  simp [List.mem_flatMap]

/-- The rooms of a search without filters are the stored rooms that are free. -/
theorem found_iff_free {env : Env n} {filter : RoomFilter} {checkIn checkOut : Instant}
    (placed : world.Everywhere (RoomsPlaced env.router)) (noCapacity : filter.capacity = none)
    (noCity : filter.city = none) {i : Fin n} {room : Room} (stored : room ∈ (world.shards i).rooms) :
    (∃ view ∈ world.found env filter checkIn checkOut, view.room = room) ↔
      (world.shards i).Free room.id checkIn checkOut := by
  constructor
  · rintro ⟨view, member, rfl⟩
    obtain ⟨j, offered⟩ := (mem_found noCity).mp member
    obtain ⟨there, _, admitted⟩ := mem_offers.mp offered
    obtain rfl : j = i := (placed j _ there).symm.trans (placed i _ stored)
    exact (matchesFilter_free noCapacity noCity).mp admitted
  · intro free
    obtain ⟨hotel, found⟩ := Option.isSome_iff_exists.mp ((world.shards i).rooms_hotel room stored)
    refine ⟨⟨room, hotel⟩, (mem_found noCity).mpr ⟨i, mem_offers.mpr ⟨stored, found, ?_⟩⟩, rfl⟩
    exact (matchesFilter_free noCapacity noCity).mpr free

/-- A room is found by a search exactly when a reservation for the same dates meets no conflict,
and, as stays go forward in time, exactly when no active stay meets the dates. -/
theorem search_agrees_with_reserve (env : Env n) {i : Fin n} {room : Room} {checkIn checkOut : Instant}
    (placed : world.Everywhere (RoomsPlaced env.router)) (stored : room ∈ (world.shards i).rooms)
    (ordered : checkIn < checkOut) (schedule : Schedule n) (dto : SearchRoomDto)
    (asked : RoomsService.searchFilter env.platform dto = ⟨none, none, some checkIn, some checkOut⟩)
    (id guestId : Text) (status : BookingStatus) (createdAt : Instant) :
    ∃ views, (RoomsService.search env schedule dto).run World.exec world = (.ok views, world) ∧
      ((∃ view ∈ views, view.room = room) ↔ ¬ ∃ message,
        world.answer (.reserve ⟨id, room.id, guestId, some checkIn, some checkOut, status, createdAt⟩)
          (env.router.forKey room.id) = .error (.conflict message)) ∧
      ((∀ j, ∀ booking ∈ (world.shards j).bookings, booking.checkInDate < booking.checkOutDate) →
        ((∃ view ∈ views, view.room = room) ↔ ∀ j, ∀ booking ∈ (world.shards j).bookings,
          booking.roomId = room.id → booking.Active →
            Disjoint booking.stay (Set.Ico checkIn checkOut))) := by
  obtain rfl := placed i room stored
  have readIn : env.platform.newDate dto.checkIn = some checkIn := congrArg RoomFilter.checkIn asked
  have readOut : env.platform.newDate dto.checkOut = some checkOut := congrArg RoomFilter.checkOut asked
  have found : (∃ view ∈ world.found env (RoomsService.searchFilter env.platform dto) checkIn checkOut,
      view.room = room) ↔ _ :=
    found_iff_free placed (congrArg RoomFilter.capacity asked) (congrArg RoomFilter.city asked) stored
  have accepted : (RoomsService.searchFilter env.platform dto).parameters = .ok () := by
    rw [asked]
    rfl
  refine ⟨_, run_search readIn readOut accepted schedule, ?_, fun stays => ?_⟩
  · have conflict := @reserve_conflict_iff (world.shards (env.router.forKey room.id)) room
      ⟨id, room.id, guestId, some checkIn, some checkOut, status, createdAt⟩ checkIn checkOut
      (Table.find?_self stored) rfl rfl
    rw [found, ← not_iff_not, not_not, ← conflict]
    refine exists_congr fun message => ?_
    unfold World.answer World.exec
    simp only [Stmt.exec]
    split
    · next done => simp [done]
    · next failed => simp [failed]
  · rw [found]
    constructor
    · intro free j booking member same active
      obtain rfl := (placed j).booking member
      rw [disjoint_stay_iff (stays _ booking member) ordered]
      intro crossing
      have overlap := overlaps_iff.mpr ⟨same, active, crossing⟩
      rw [free booking (same ▸ member)] at overlap
      cases overlap
    · intro apart booking member
      by_contra overlap
      obtain ⟨same, active, crossing⟩ := overlaps_iff.mp (Bool.eq_true_of_not_eq_false overlap)
      exact (disjoint_stay_iff (stays _ booking member) ordered).mp (apart _ booking member same active)
        crossing

/-- In a world with one free room the search finds it, and a reservation meets no conflict. -/
theorem search_agrees_offering :
    ∃ views, (RoomsService.search twoShards (.inOrder 2) ⟨none, january 1, january 5, none⟩).run World.exec
        (.offering twoShards (text "Lviv") 2) = (.ok views, .offering twoShards (text "Lviv") 2) ∧
      ((∃ view ∈ views, view.room = offeredRoom twoShards (text "Lviv") 2) ↔ ¬ ∃ message,
        (World.offering twoShards (text "Lviv") 2).answer
          (.reserve ⟨sampleUuid 1, (offeredRoom twoShards (text "Lviv") 2).id, sampleUuid 2,
            some 1767225600000, some 1767571200000, .pending, 0⟩)
          (twoShards.router.forKey (offeredRoom twoShards (text "Lviv") 2).id) =
            .error (.conflict message)) := by
  have placed : (World.offering twoShards (text "Lviv") 2).Everywhere (RoomsPlaced twoShards.router) := by
    intro i room member
    rw [offering_shard] at member
    split at member
    · next here =>
      obtain rfl := List.mem_singleton.mp member
      rw [here]
      exact twoShards.router.forKey_childId _ _
    · exact absurd member List.not_mem_nil
  have stored : offeredRoom twoShards (text "Lviv") 2 ∈
      ((World.offering twoShards (text "Lviv") 2).shards
        (twoShards.router.forKey (offeredHotel twoShards (text "Lviv")).id)).rooms := by
    rw [offering_shard, if_pos rfl]
    exact List.mem_singleton_self _
  obtain ⟨views, found, agrees, _⟩ := search_agrees_with_reserve twoShards placed stored
    (show (1767225600000 : Instant) < 1767571200000 by decide) (.inOrder 2)
    ⟨none, january 1, january 5, none⟩ rfl (sampleUuid 1) (sampleUuid 2) .pending 0
  exact ⟨views, found, agrees⟩

end HotelBooking
