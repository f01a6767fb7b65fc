import HotelBooking.Invariants.QueryLocality

/-! The key of a cached search and the query behind it. The key has the city trimmed and in lower
case, the query compares it as it was given. -/
namespace HotelBooking
open Relational Effect
variable {n : Nat} {env : Env n} {world : World n}

/-- The rooms that a search finds, on the shard of the city or on all shards. -/
def World.found (env : Env n) (world : World n) (filter : RoomFilter) (checkIn checkOut : Instant) :
    List RoomView :=
  match filter.city.bind (env.router.shardForCity env.platform) with
  | some i => (world.shards i).offers filter checkIn checkOut
  | none => (List.finRange n).flatMap fun i => (world.shards i).offers filter checkIn checkOut

/-- The search asks the shard of its city only. -/
def RoomFilter.isLocal (env : Env n) (filter : RoomFilter) : Bool :=
  (filter.city.bind (env.router.shardForCity env.platform)).isSome

section Runs
variable {dto : SearchRoomDto} {checkIn checkOut : Instant}
  (readIn : env.platform.newDate dto.checkIn = some checkIn)
  (readOut : env.platform.newDate dto.checkOut = some checkOut)
include readIn readOut

theorem run_search (accepted : (RoomsService.searchFilter env.platform dto).parameters = .ok ())
    (schedule : Schedule n) :
    (RoomsService.search env schedule dto).run World.exec world =
      (.ok (world.found env (RoomsService.searchFilter env.platform dto) checkIn checkOut), world) := by
  have answers : ∀ i, world.answer (.roomSearch (RoomsService.searchFilter env.platform dto)) i = _ :=
    answer_roomSearch readIn readOut accepted
  unfold RoomsService.search World.found
  rw [show (RoomsService.searchFilter env.platform dto).city =
    dto.city.filter fun city => !city.isEmpty from rfl]
  cases (dto.city.filter fun city => !city.isEmpty).bind (env.router.shardForCity env.platform) with
  | none =>
    dsimp only
    rw [RoomsService.searchAll, run_fanOutList rfl schedule true id answers]
    rfl
  | some i =>
    dsimp only
    rw [run_read, exec_isRead rfl, answers]

/-- One shard rejects the query, a fan-out is without rooms when all of them do. -/
theorem run_search_refused {error : Err}
    (refused : (RoomsService.searchFilter env.platform dto).parameters = .error error)
    (schedule : Schedule n) :
    (RoomsService.search env schedule dto).run World.exec world =
      (if (RoomsService.searchFilter env.platform dto).isLocal env then .error error else .ok [],
        world) := by
  have answers : ∀ i, world.answer (.roomSearch (RoomsService.searchFilter env.platform dto)) i =
      .error error := answer_roomSearch_refused readIn readOut refused
  unfold RoomsService.search RoomFilter.isLocal
  rw [show (RoomsService.searchFilter env.platform dto).city =
    dto.city.filter fun city => !city.isEmpty from rfl]
  cases (dto.city.filter fun city => !city.isEmpty).bind (env.router.shardForCity env.platform) with
  | none =>
    dsimp only
    rw [RoomsService.searchAll, run_fanOutList_failed rfl schedule id fun i => ⟨error, answers i⟩]
    rfl
  | some i =>
    dsimp only
    rw [run_read, exec_isRead rfl, answers]
    rfl

end Runs

/-- The rows are values of their columns: INTEGER capacities, texts without U+0000. -/
structure World.Storable (world : World n) : Prop where
  capacities : ∀ i, ∀ room ∈ (world.shards i).rooms, room.capacity ≤ 2147483647
  cities : ∀ i, ∀ hotel ∈ (world.shards i).hotels, 0 ∉ hotel.city

theorem mem_offers {tables : Tables} {filter : RoomFilter} {checkIn checkOut : Instant}
    {view : RoomView} : view ∈ tables.offers filter checkIn checkOut ↔
      view.room ∈ tables.rooms ∧ tables.hotels.find? view.room.hotelId = some view.hotel ∧
        tables.matchesFilter filter checkIn checkOut view = true := by
  rw [Tables.offers, List.mem_filter, List.mem_filterMap, ← and_assoc]
  refine and_congr_left fun _ => ?_
  simp only [Tables.roomView?, Option.pure_def, Option.bind_eq_bind, Option.bind_eq_some_iff,
    Option.some.injEq]
  constructor
  · rintro ⟨room, stored, hotel, found, rfl⟩
    exact ⟨stored, found⟩
  · rintro ⟨stored, found⟩
    exact ⟨view.room, stored, view.hotel, found, rfl⟩

section Offering
variable {city : Text} {capacity : Int}

def offeredHotel (env : Env n) (city : Text) : Hotel :=
  ⟨env.router.newHotelId env.platform city [], [], [], city, 0, 0⟩

def offeredRoom (env : Env n) (city : Text) (capacity : Int) : Room :=
  ⟨ShardRouter.childId (offeredHotel env city).id [], (offeredHotel env city).id, [], .single,
    ⟨0, by decide⟩, capacity, 0⟩

/-- One hotel in the city, with one room. -/
def Tables.offering (env : Env n) (city : Text) (capacity : Int) : Tables :=
  (Tables.empty.insertHotel (offeredHotel env city) rfl).insertRoom (offeredRoom env city capacity) rfl
    (by
      have stored : (Tables.empty.insertHotel (offeredHotel env city) rfl).hotels.find?
          (offeredHotel env city).id = some (offeredHotel env city) :=
        Table.find?_self ((Table.mem_insert rfl).mpr (Or.inl rfl))
      exact Option.isSome_of_eq_some stored)
    fun other member => absurd member List.not_mem_nil

/-- The hotel is where `create` puts it, the other shards are empty. -/
def World.offering (env : Env n) (city : Text) (capacity : Int) : World n :=
  (World.empty n).setShard (env.router.forKey (offeredHotel env city).id)
    (Tables.offering env city capacity)

theorem offering_shard (i : Fin n) : (World.offering env city capacity).shards i =
    if i = env.router.forKey (offeredHotel env city).id then Tables.offering env city capacity
    else .empty := by
  unfold World.offering World.setShard
  dsimp only
  rw [Function.update_apply]
  rfl

theorem offering_storable (bound : capacity ≤ 2147483647) (storable : 0 ∉ city) :
    (World.offering env city capacity).Storable := by
  constructor
  · intro i room member
    rw [offering_shard] at member
    split at member
    · obtain rfl := List.mem_singleton.mp member
      exact bound
    · exact absurd member List.not_mem_nil
  · intro i hotel member
    rw [offering_shard] at member
    split at member
    · obtain rfl := List.mem_singleton.mp member
      exact storable
    · exact absurd member List.not_mem_nil

theorem offers_offering {filter : RoomFilter} {checkIn checkOut : Instant}
    (enough : ∀ guests ∈ filter.capacity, (guests : Int) ≤ capacity) :
    (Tables.offering env city capacity).offers filter checkIn checkOut =
      if filter.city.all (city == ·) then [⟨offeredRoom env city capacity, offeredHotel env city⟩]
      else [] := by
  have hotel : (Tables.offering env city capacity).hotels.find? (offeredHotel env city).id =
      some (offeredHotel env city) := Table.find?_self (List.mem_singleton_self _)
  have listed : (Tables.offering env city capacity).rooms.rows.filterMap
      (Tables.offering env city capacity).roomView? =
        [⟨offeredRoom env city capacity, offeredHotel env city⟩] := by
    have viewed : (Tables.offering env city capacity).roomView? (offeredRoom env city capacity) =
        some ⟨offeredRoom env city capacity, offeredHotel env city⟩ := by
      unfold Tables.roomView?
      rw [show (offeredRoom env city capacity).hotelId = (offeredHotel env city).id from rfl, hotel]
      rfl
    rw [show (Tables.offering env city capacity).rooms.rows = [offeredRoom env city capacity] from rfl,
      List.filterMap_cons_some viewed, List.filterMap_nil]
  have matched : (Tables.offering env city capacity).matchesFilter filter checkIn checkOut
      ⟨offeredRoom env city capacity, offeredHotel env city⟩ = filter.city.all (city == ·) := by
    unfold Tables.matchesFilter
    rw [show (Tables.offering env city capacity).bookings.rows = [] from rfl, List.all_nil,
      Bool.and_true]
    cases asked : filter.capacity with
    | none => exact Bool.true_and _
    | some guests =>
      have fits : (guests : Int) ≤ (offeredRoom env city capacity).capacity := enough guests asked
      simp [fits, offeredHotel]
  rw [Tables.offers, listed, List.filter_cons, List.filter_nil, matched]

theorem found_offering {filter : RoomFilter} {checkIn checkOut : Instant}
    (enough : ∀ guests ∈ filter.capacity, (guests : Int) ≤ capacity) :
    (World.offering env city capacity).found env filter checkIn checkOut =
      if filter.city.all (city == ·) then [⟨offeredRoom env city capacity, offeredHotel env city⟩]
      else [] := by
  have here := @offers_offering n env city capacity filter checkIn checkOut enough
  have nowhere : (Tables.empty).offers filter checkIn checkOut = [] := rfl
  unfold World.found
  cases asked : filter.city.bind (env.router.shardForCity env.platform) with
  | some i =>
    dsimp only
    obtain ⟨other, given, home⟩ := Option.bind_eq_some_iff.mp asked
    rw [offering_shard]
    split
    · exact here
    · next elsewhere =>
      have differs : city ≠ other := by
        rintro rfl
        have byCity : env.router.strategy = .city := by
          unfold ShardRouter.shardForCity at home
          split at home
          · cases home
          · assumption
        exact elsewhere (Option.some.inj (home.symm.trans (shardForCity_newHotelId byCity city [])))
      rw [nowhere, given, Option.all_some, if_neg (by simpa using differs)]
  | none =>
    dsimp only
    have elsewhere : ∀ j, j ≠ env.router.forKey (offeredHotel env city).id →
        ((World.offering env city capacity).shards j).offers filter checkIn checkOut = [] := by
      intro j other
      rw [offering_shard, if_neg other, nowhere]
    rw [flatMap_finRange_eq elsewhere, offering_shard, if_pos rfl, here]

end Offering

/-- Zero guests and none are one number of guests. -/
theorem searchFilter_capacity (platform : Platform) (dto : SearchRoomDto) :
    (RoomsService.searchFilter platform dto).capacity =
      if dto.guests.getD 0 = 0 then none else some (dto.guests.getD 0) := by
  cases asked : dto.guests with
  | none => simp [RoomsService.searchFilter, asked]
  | some guests => by_cases zero : guests = 0 <;> simp [RoomsService.searchFilter, asked, zero, Option.filter]

/-- A city that one of two cities admits and the other does not. -/
theorem exists_telling {first second : Option Text} (differ : first ≠ second)
    (firstStorable : ∀ city ∈ first, 0 ∉ city) (secondStorable : ∀ city ∈ second, 0 ∉ city) :
    ∃ city, 0 ∉ city ∧ first.all (city == ·) ≠ second.all (city == ·) := by
  rcases first with _ | one <;> rcases second with _ | two
  · exact absurd rfl differ
  · exact ⟨two ++ [1], by simp [secondStorable two rfl], by simp⟩
  · exact ⟨one ++ [1], by simp [firstStorable one rfl], by simp⟩
  · refine ⟨one, firstStorable one rfl, ?_⟩
    have other : one ≠ two := fun same => differ (congrArg some same)
    simp [other]

section Keys
variable {first second : SearchRoomDto} {checkIn checkOut : Instant}

/-- The two requests ask for the same dates and the same number of guests. -/
structure SearchedStay (platform : Platform) (first second : SearchRoomDto) (checkIn checkOut : Instant) :
    Prop where
  firstIn : platform.newDate first.checkIn = some checkIn
  firstOut : platform.newDate first.checkOut = some checkOut
  secondIn : platform.newDate second.checkIn = some checkIn
  secondOut : platform.newDate second.checkOut = some checkOut
  guests : first.guests.getD 0 = second.guests.getD 0

theorem SearchedStay.symm {platform : Platform} (stay : SearchedStay platform first second checkIn checkOut) :
    SearchedStay platform second first checkIn checkOut :=
  ⟨stay.secondIn, stay.secondOut, stay.firstIn, stay.firstOut, stay.guests.symm⟩

theorem SearchedStay.capacity {platform : Platform}
    (stay : SearchedStay platform first second checkIn checkOut) :
    (RoomsService.searchFilter platform first).capacity =
      (RoomsService.searchFilter platform second).capacity := by
  rw [searchFilter_capacity, searchFilter_capacity, stay.guests]

/-- In every state of the databases the two searches end alike. -/
def SameRooms (env : Env n) (first second : SearchRoomDto) : Prop :=
  ∀ world : World n, world.Storable → ∀ firstSchedule secondSchedule,
    ((RoomsService.search env firstSchedule first).run World.exec world).1 =
      ((RoomsService.search env secondSchedule second).run World.exec world).1

theorem SameRooms.symm (same : SameRooms env first second) : SameRooms env second first :=
  fun world storable firstSchedule secondSchedule =>
    (same world storable secondSchedule firstSchedule).symm

theorem enough_guests {platform : Platform} {dto : SearchRoomDto} :
    ∀ guests ∈ (RoomsService.searchFilter platform dto).capacity,
      (guests : Int) ≤ (dto.guests.getD 0 : Nat) := by
  intro guests asked
  rw [searchFilter_capacity] at asked
  split at asked
  · cases asked
  · exact Int.le_of_eq (congrArg _ (Option.some.inj asked).symm)

theorem few_guests {platform : Platform} {dto : SearchRoomDto}
    (accepted : (RoomsService.searchFilter platform dto).parameters = .ok ()) :
    (dto.guests.getD 0 : Int) ≤ 2147483647 := by
  have few := (RoomFilter.parameters_ok.mp accepted).1
  rw [searchFilter_capacity] at few
  split at few
  · omega
  · exact Int.ofNat_le.mpr (few _ rfl)

/-- The one hotel of the databases tells two cities apart that both can be asked for. -/
theorem not_sameRooms_accepted (stay : SearchedStay env.platform first second checkIn checkOut)
    (firstAccepted : (RoomsService.searchFilter env.platform first).parameters = .ok ())
    (secondAccepted : (RoomsService.searchFilter env.platform second).parameters = .ok ())
    (differ : (RoomsService.searchFilter env.platform first).city ≠
      (RoomsService.searchFilter env.platform second).city) : ¬ SameRooms env first second := by
  intro same
  obtain ⟨city, storable, tells⟩ := exists_telling differ
    (RoomFilter.parameters_ok.mp firstAccepted).2 (RoomFilter.parameters_ok.mp secondAccepted).2
  have results := same (.offering env city (first.guests.getD 0 : Nat))
    (offering_storable (few_guests firstAccepted) storable) (.inOrder n) (.inOrder n)
  rw [run_search stay.firstIn stay.firstOut firstAccepted,
    run_search stay.secondIn stay.secondOut secondAccepted, found_offering enough_guests,
    found_offering (stay.guests ▸ enough_guests)] at results
  split at results <;> split at results <;> simp_all

/-- A request that the databases refuse finds no rooms where the other one finds some. -/
theorem not_sameRooms_refused {error : Err} (stay : SearchedStay env.platform first second checkIn checkOut)
    (accepted : (RoomsService.searchFilter env.platform first).parameters = .ok ())
    (refused : (RoomsService.searchFilter env.platform second).parameters = .error error) :
    ¬ SameRooms env first second := by
  intro same
  obtain ⟨city, storable, admitted⟩ : ∃ city, 0 ∉ city ∧
      (RoomsService.searchFilter env.platform first).city.all (city == ·) = true := by
    cases asked : (RoomsService.searchFilter env.platform first).city with
    | none => exact ⟨[], List.not_mem_nil, rfl⟩
    | some city =>
      exact ⟨city, (RoomFilter.parameters_ok.mp accepted).2 city asked, beq_self_eq_true city⟩
  have results := same (.offering env city (first.guests.getD 0 : Nat))
    (offering_storable (few_guests accepted) storable) (.inOrder n) (.inOrder n)
  rw [run_search stay.firstIn stay.firstOut accepted,
    run_search_refused stay.secondIn stay.secondOut refused, found_offering enough_guests,
    if_pos admitted] at results
  split at results
  · cases results
  · cases Except.ok.inj results

end Keys

theorem SearchedStay.filter_eq {platform : Platform}
    (stay : SearchedStay platform first second checkIn checkOut)
    (cities : (RoomsService.searchFilter platform first).city =
      (RoomsService.searchFilter platform second).city) :
    RoomsService.searchFilter platform first = RoomsService.searchFilter platform second := by
  rw [show RoomsService.searchFilter platform first =
      ⟨(RoomsService.searchFilter platform first).capacity,
        (RoomsService.searchFilter platform first).city, platform.newDate first.checkIn,
        platform.newDate first.checkOut⟩ from rfl,
    stay.capacity, cities, stay.firstIn, stay.firstOut, ← stay.secondIn, ← stay.secondOut]
  rfl

/-- One city and one stay make one query. -/
theorem sameRooms_of_city (stay : SearchedStay env.platform first second checkIn checkOut)
    (cities : (RoomsService.searchFilter env.platform first).city =
      (RoomsService.searchFilter env.platform second).city) : SameRooms env first second := by
  intro world storable firstSchedule secondSchedule
  have filters := stay.filter_eq cities
  cases given : (RoomsService.searchFilter env.platform second).parameters with
  | ok accepted =>
    rw [run_search stay.firstIn stay.firstOut (filters ▸ given),
      run_search stay.secondIn stay.secondOut given, filters]
  | error error =>
    rw [run_search_refused stay.firstIn stay.firstOut (filters ▸ given),
      run_search_refused stay.secondIn stay.secondOut given, filters]

/-- Refused parameters reject a search of one shard, and leave nothing of a fan-out. -/
theorem sameRooms_refused_iff (stay : SearchedStay env.platform first second checkIn checkOut)
    {firstError secondError : Err}
    (one : (RoomsService.searchFilter env.platform first).parameters = .error firstError)
    (other : (RoomsService.searchFilter env.platform second).parameters = .error secondError) :
    SameRooms env first second ↔ (RoomsService.searchFilter env.platform first).isLocal env =
      (RoomsService.searchFilter env.platform second).isLocal env := by
  constructor
  · intro agree
    have results := agree (.empty n) ⟨fun _ _ member => absurd member List.not_mem_nil,
      fun _ _ member => absurd member List.not_mem_nil⟩ (.inOrder n) (.inOrder n)
    rw [run_search_refused stay.firstIn stay.firstOut one,
      run_search_refused stay.secondIn stay.secondOut other] at results
    split at results <;> split at results <;> simp_all
  · intro alike world storable firstSchedule secondSchedule
    have same : firstError = secondError := by
      rw [RoomFilter.parameters_error one, RoomFilter.parameters_error other, stay.capacity]
    rw [run_search_refused stay.firstIn stay.firstOut one,
      run_search_refused stay.secondIn stay.secondOut other, alike, same]

/-- Two searches with one key end alike in every state of the databases exactly where their cities
are the same as they were given, or where the databases refuse both and both or neither ask one
shard only. -/
theorem roomsSearch_key_iff (env : Env n) {version : Nat} {first second : SearchRoomDto}
    {firstParams secondParams : SearchParams}
    (firstKey : normalizeSearchParams env.platform first = .ok firstParams)
    (secondKey : normalizeSearchParams env.platform second = .ok secondParams)
    (same : CacheKey.roomsSearch version firstParams = .roomsSearch version secondParams) :
    (∀ world : World n, world.Storable → ∀ firstSchedule secondSchedule,
      ((RoomsService.search env firstSchedule first).run World.exec world).1 =
        ((RoomsService.search env secondSchedule second).run World.exec world).1) ↔
      (RoomsService.searchFilter env.platform first).city =
        (RoomsService.searchFilter env.platform second).city ∨
      ((RoomsService.searchFilter env.platform first).parameters ≠ .ok () ∧
        (RoomsService.searchFilter env.platform second).parameters ≠ .ok () ∧
        (RoomsService.searchFilter env.platform first).isLocal env =
          (RoomsService.searchFilter env.platform second).isLocal env) := by
  obtain rfl := (CacheKey.roomsSearch.inj same).2
  obtain ⟨firstIn, firstOut, firstGuests⟩ := normalized_ok firstKey
  obtain ⟨secondIn, secondOut, secondGuests⟩ := normalized_ok secondKey
  have stay : SearchedStay env.platform first second _ _ :=
    ⟨firstIn, firstOut, secondIn, secondOut, firstGuests.trans secondGuests.symm⟩
  constructor
  · intro agree
    by_cases cities : (RoomsService.searchFilter env.platform first).city =
        (RoomsService.searchFilter env.platform second).city
    · exact Or.inl cities
    · right
      cases one : (RoomsService.searchFilter env.platform first).parameters with
      | ok accepted =>
        cases other : (RoomsService.searchFilter env.platform second).parameters with
        | ok _ => exact absurd agree (not_sameRooms_accepted stay one other cities)
        | error error => exact absurd agree (not_sameRooms_refused stay one other)
      | error error =>
        cases other : (RoomsService.searchFilter env.platform second).parameters with
        | ok _ => exact absurd (SameRooms.symm agree) (not_sameRooms_refused stay.symm other one)
        | error error => exact ⟨nofun, nofun, (sameRooms_refused_iff stay one other).mp agree⟩
  · rintro (cities | ⟨firstRefused, secondRefused, alike⟩)
    · exact sameRooms_of_city stay cities
    · cases one : (RoomsService.searchFilter env.platform first).parameters with
      | ok accepted => exact absurd one firstRefused
      | error error =>
        cases other : (RoomsService.searchFilter env.platform second).parameters with
        | ok accepted => exact absurd other secondRefused
        | error _ => exact (sameRooms_refused_iff stay one other).mpr alike

/-- No city, and an empty one. -/
theorem roomsSearch_key_empty :
    ((RoomsService.search twoShards (.inOrder 2) (inCity [])).run World.exec
      (.offering twoShards (text "Lviv") 2)).1 =
    ((RoomsService.search twoShards (.inOrder 2) ⟨none, january 1, january 5, none⟩).run World.exec
      (.offering twoShards (text "Lviv") 2)).1 := by
  obtain ⟨params, firstKey, secondKey⟩ : ∃ params,
      normalizeSearchParams twoShards.platform (inCity []) = .ok params ∧
        normalizeSearchParams twoShards.platform ⟨none, january 1, january 5, none⟩ = .ok params :=
    ⟨_, rfl, rfl⟩
  have same : CacheKey.roomsSearch 0 params = .roomsSearch 0 params := rfl
  exact (roomsSearch_key_iff twoShards firstKey secondKey same).mpr (Or.inl rfl) _
    (offering_storable (by decide) (by decide)) _ _

/-- The keys of the two spellings are the same, and only one of them finds the hotel. -/
theorem roomsSearch_key_case : ∃ params,
    normalizeSearchParams Platform.sample (inCity (text "Lviv")) = .ok params ∧
    normalizeSearchParams Platform.sample (inCity (text "lviv")) = .ok params ∧
    ((RoomsService.search twoShards (.inOrder 2) (inCity (text "Lviv"))).run World.exec
      (.offering twoShards (text "Lviv") 2)).1.toOption ≠
    ((RoomsService.search twoShards (.inOrder 2) (inCity (text "lviv"))).run World.exec
      (.offering twoShards (text "Lviv") 2)).1.toOption := by
  refine ⟨_, rfl, rfl, by decide +kernel⟩

end HotelBooking
