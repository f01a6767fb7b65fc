import HotelBooking.Invariants.Colocation
import HotelBooking.Services.FanOut

/-! Query locality. With the strategy city a search for a city asks one shard only, which is
right as long as every hotel lies on the shard of its city. Creation puts it there; a PATCH
of the city changes the column and leaves the hotel where it is. -/
namespace HotelBooking
open Relational Effect
variable {n : Nat} {env : Env n} {entropy : Entropy} {request : Request} {world : World n}

/-- Every hotel lies on the shard of its city. -/
def CityLocal (router : ShardRouter n) (platform : Platform) (i : Fin n) (tables : Tables) : Prop :=
  ∀ hotel ∈ tables.hotels, router.shardForCity platform hotel.city = some i

/-- If the call is a PATCH that the hotel's row admits, the hotel is then still on the shard
of its city. -/
def CityKept (env : Env n) (world : World n) (call : Call n) : Prop :=
  ∀ id dto old new, call.request = .updateHotel id dto →
    (world.shards (env.router.forKey id)).hotels.find? id = some old → dto.over old = .ok new →
    env.router.shardForCity env.platform new.city = some (env.router.forKey id)

/-- A new hotel gets the bucket of its city. -/
theorem shardForCity_newHotelId (byCity : env.router.strategy = .city) (city uuid : Text) :
    env.router.shardForCity env.platform city =
      some (env.router.forKey (env.router.newHotelId env.platform city uuid)) := by
  have bucket : bucketOf (env.router.newHotelId env.platform city uuid) =
      fnv1a (normalizeCity env.platform city) % BUCKETS := by
    rw [ShardRouter.newHotelId, bucketOf_idInBucket (bucketForNewHotel_lt _ _ _ _), byCity]
    rfl
  simp only [ShardRouter.shardForCity, byCity, ShardRouter.forKey, bucket]

theorem CityLocal.put {router : ShardRouter n} {platform : Platform} {i : Fin n} {tables : Tables}
    {hotel : Hotel} (held : CityLocal router platform i tables)
    (here : router.shardForCity platform hotel.city = some i) :
    CityLocal router platform i (tables.putHotel hotel) := by
  intro other member
  rcases Table.mem_put.mp member with ⟨rfl, _⟩ | ⟨old, _⟩
  · exact here
  · exact held other old

/-- No command but the PATCH of a hotel can move a hotel away from its city. -/
theorem cityLocal_exec {cmd : Cmd n} (byCity : env.router.strategy = .city)
    (issued : Issued env entropy request cmd) (other : ∀ id dto, request ≠ .updateHotel id dto)
    (held : world.Everywhere (CityLocal env.router env.platform)) :
    (World.exec cmd world).2.Everywhere (CityLocal env.router env.platform) := by
  refine World.everywhere_exec ?_ held
  rintro i stmt after rfl wrote locals
  cases wrote with
  | hotelCreate row fresh =>
    obtain ⟨_, city⟩ := CreateHotelDto.row_ok row
    intro hotel member
    rcases Tables.mem_insertHotel.mp member with rfl | old
    · cases issued with
      | shardRead read => cases read
      | createHotel id =>
        rw [city, id]
        exact shardForCity_newHotelId byCity _ _
    · exact locals hotel old
  | hotelUpdate found merged =>
    cases issued with
    | shardRead read => cases read
    | updateHotel => exact absurd rfl (other _ _)
  | hotelDelete unused => exact fun hotel member => locals hotel (Table.mem_erase.mp member).1
  | _ => exact locals

theorem cityLocal_uses {program : Async n α} (byCity : env.router.strategy = .city)
    (uses : program.Uses (Issued env entropy request))
    (other : ∀ id dto, request ≠ .updateHotel id dto)
    (held : world.Everywhere (CityLocal env.router env.platform)) :
    (program.run World.exec world).2.Everywhere (CityLocal env.router env.platform) :=
  Program.run_preserves (fun _ _ issued holds => cityLocal_exec byCity issued other holds) uses held

theorem run_findHotel (id : Text) :
    ((HotelsService.findOne env id).run World.exec world).2 = world := by
  rw [HotelsService.findOne, Program.bind_eq, Program.run_bind, run_read, exec_read_ok rfl]
  cases (world.shards (env.router.forKey id)).hotelCard? id <;> rfl

/-- The PATCH of a hotel: the read finds the world in which the write is then executed. -/
theorem cityLocal_update {id : Text} {dto : UpdateHotelDto} (byCity : env.router.strategy = .city)
    (kept : ∀ old new, (world.shards (env.router.forKey id)).hotels.find? id = some old →
      dto.over old = .ok new →
      env.router.shardForCity env.platform new.city = some (env.router.forKey id))
    (held : world.Everywhere (CityLocal env.router env.platform)) :
    ((HotelsService.update env id dto).run World.exec world).2.Everywhere
      (CityLocal env.router env.platform) := by
  have written : ((env.router.write (env.router.forKey id) (.hotelUpdate id dto)).run World.exec
      world).2.Everywhere (CityLocal env.router env.platform) := by
    rw [run_write]
    refine World.everywhere_exec ?_ held
    rintro i stmt after same wrote locals
    cases same
    cases wrote with
    | read read => exact locals
    | hotelUpdate found merged => exact locals.put (kept _ _ found merged)
  refine Program.run_bind_rule ?_ fun _ _ => ?_
  · rw [run_findHotel]
    exact held
  · rw [run_findHotel]
    refine Program.run_bind_rule written fun hotel _ => ?_
    have caches : (do CacheService.invalidate env [.hotel id]
                      CacheService.bumpVersion env
                      return hotel : Async n Hotel).Uses (Issued env default .findHotels) :=
      Issued.uses_invalidateForHotel
    exact cityLocal_uses byCity caches (fun _ _ => nofun) written

theorem cityLocal_served {before after : World n} {call : Call n}
    (byCity : env.router.strategy = .city)
    (held : before.Everywhere (CityLocal env.router env.platform))
    (kept : CityKept env before call) (served : call.Served env before after) :
    after.Everywhere (CityLocal env.router env.platform) := by
  rw [served]
  have uses := Issued.uses_program env call
  obtain ⟨request, entropy, schedule⟩ := call
  cases request with
  | updateHotel id dto =>
    have updated := cityLocal_update byCity (fun old new => kept id dto old new rfl) held
    exact Program.run_bind_rule updated fun _ _ => updated
  | _ => exact cityLocal_uses byCity uses (fun _ _ => nofun) held

theorem History.cityLocal {trace : List (Transition (World n) (Call n))} {last : World n}
    (byCity : env.router.strategy = .city) (history : History env trace last)
    (kept : ∀ move ∈ trace, CityKept env move.before move.event) :
    last.Everywhere (CityLocal env.router env.platform) := by
  refine (history.carries (fun world => world.Everywhere (CityLocal env.router env.platform)) ?_ ?_).2
  · exact fun i hotel member => absurd member (Table.not_mem_empty hotel)
  · intro move member held
    exact cityLocal_served byCity held (kept move member) (history.steps move member)

/-- The rooms of a shard that a search finds. -/
def Tables.offers (tables : Tables) (filter : RoomFilter) (checkIn checkOut : Instant) :
    List RoomView :=
  (tables.rooms.rows.filterMap tables.roomView?).filter
    (tables.matchesFilter filter checkIn checkOut)

section Search
variable {filter : RoomFilter} {i : Fin n}

theorem answer_roomSearch {checkIn checkOut : Instant} (readIn : filter.checkIn = some checkIn)
    (readOut : filter.checkOut = some checkOut) (accepted : filter.parameters = .ok ()) (i : Fin n) :
    world.answer (.roomSearch filter) i =
      .ok ((world.shards i).offers filter checkIn checkOut) := by
  simp only [World.answer, World.exec, Stmt.exec, Tables.roomSearch, date_ok.mpr readIn,
    date_ok.mpr readOut, accepted, except_ok_bind, except_pure, Tables.offers]

theorem answer_roomSearch_refused {checkIn checkOut : Instant} {error : Err}
    (readIn : filter.checkIn = some checkIn) (readOut : filter.checkOut = some checkOut)
    (refused : filter.parameters = .error error) (i : Fin n) :
    world.answer (.roomSearch filter) i = .error error := by
  simp only [World.answer, World.exec, Stmt.exec, Tables.roomSearch, date_ok.mpr readIn,
    date_ok.mpr readOut, refused, except_ok_bind, except_error_bind]

theorem answer_roomSearch_unreadable (unreadable : filter.checkIn = none ∨ filter.checkOut = none)
    (i : Fin n) : world.answer (.roomSearch filter) i = .error (.db .validation) := by
  have rejected : (world.shards i).roomSearch filter = .error (.db .validation) := by
    rcases unreadable with unread | unread
    · simp only [Tables.roomSearch, unread, date, except_error_bind]
    · cases readIn : filter.checkIn <;>
        simp only [Tables.roomSearch, readIn, unread, date, except_error_bind, except_ok_bind]
  simp only [World.answer, World.exec, Stmt.exec, rejected, except_error_bind]

/-- A shard that is not the city's has no room to offer there. -/
theorem noRoom_elsewhere (checkIn checkOut : Instant) {city : Text} {j : Fin n}
    (held : world.Everywhere (CityLocal env.router env.platform))
    (asked : filter.city = some city)
    (home : env.router.shardForCity env.platform city = some i) (elsewhere : j ≠ i) :
    (world.shards j).offers filter checkIn checkOut = [] := by
  rw [Tables.offers, List.filter_eq_nil_iff]
  intro view member admitted
  obtain ⟨room, _, viewed⟩ := List.mem_filterMap.mp member
  simp only [Tables.roomView?, Option.pure_def, Option.bind_eq_bind, Option.bind_eq_some_iff,
    Option.some.injEq] at viewed
  obtain ⟨hotel, found, rfl⟩ := viewed
  have inCity : hotel.city = city := by
    simp [Tables.matchesFilter, asked] at admitted
    exact admitted.1.2
  have there := held j hotel (Table.find?_eq_some.mp found).1
  rw [inCity, home] at there
  exact elsewhere (Option.some.inj there).symm

theorem flatMap_finRange_eq {answers : Fin n → List α} (elsewhere : ∀ j, j ≠ i → answers j = []) :
    (List.finRange n).flatMap answers = answers i := by
  obtain ⟨before, after, split⟩ := List.append_of_mem (List.mem_finRange i)
  have distinct := List.nodup_finRange n
  rw [split, List.nodup_middle, List.nodup_cons, List.mem_append, not_or] at distinct
  have empty {part : List (Fin n)} (absent : i ∉ part) : part.flatMap answers = [] := by
    rw [List.flatMap_eq_nil_iff]
    exact fun j member => elsewhere j fun same => absent (same ▸ member)
  rw [split, List.flatMap_append, List.flatMap_cons, empty distinct.1.1, empty distinct.1.2,
    List.nil_append, List.append_nil]

end Search

/-- The databases can read the query of a search: its dates are dates, and they accept its
parameters. -/
structure SearchRoomDto.Readable (platform : Platform) (dto : SearchRoomDto) : Prop where
  checkIn : (platform.newDate dto.checkIn).isSome
  checkOut : (platform.newDate dto.checkOut).isSome
  parameters : (RoomsService.searchFilter platform dto).parameters = .ok ()

theorem answer_unreadable {dto : SearchRoomDto} (unreadable : ¬ dto.Readable env.platform) (i : Fin n) :
    ∃ error, world.answer (.roomSearch (RoomsService.searchFilter env.platform dto)) i =
      .error error := by
  cases readIn : env.platform.newDate dto.checkIn with
  | none => exact ⟨_, answer_roomSearch_unreadable (Or.inl readIn) i⟩
  | some checkIn =>
    cases readOut : env.platform.newDate dto.checkOut with
    | none => exact ⟨_, answer_roomSearch_unreadable (Or.inr readOut) i⟩
    | some checkOut =>
      cases given : (RoomsService.searchFilter env.platform dto).parameters with
      | ok accepted =>
        exact absurd ⟨Option.isSome_of_eq_some readIn, Option.isSome_of_eq_some readOut, given⟩
          unreadable
      | error error => exact ⟨error, answer_roomSearch_refused readIn readOut given i⟩

/-- The rooms that a search returns; one that rejects returns none. -/
def returned (result : Except Err (List RoomView)) : List RoomView := result.toOption.getD []

/-- As long as no PATCH gives a hotel a city of another shard, the search on the shard of the
city returns the rooms of the fan-out over all shards. A query that the databases cannot read (a
date that is none, more guests than an INTEGER, U+0000 in the city) is rejected by the one shard
where the fan-out is empty, and no rooms are returned by either. -/
theorem search_eq_searchAll {trace : List (Transition (World n) (Call n))} {last : World n}
    (byCity : env.router.strategy = .city) (history : History env trace last)
    (kept : ∀ move ∈ trace, CityKept env move.before move.event) (schedule : Schedule n)
    (dto : SearchRoomDto) :
    (dto.Readable env.platform →
      (RoomsService.search env schedule dto).run World.exec last =
        (RoomsService.searchAll env schedule dto).run World.exec last) ∧
    returned ((RoomsService.search env schedule dto).run World.exec last).1 =
      returned ((RoomsService.searchAll env schedule dto).run World.exec last).1 := by
  have held := history.cityLocal byCity kept
  unfold RoomsService.search
  split
  · next shard asked =>
    obtain ⟨city, given, home⟩ := Option.bind_eq_some_iff.mp asked
    have filtered : (RoomsService.searchFilter env.platform dto).city = some city := given
    have readable (dates : dto.Readable env.platform) :
        (env.router.read shard (.roomSearch (RoomsService.searchFilter env.platform dto))).run
          World.exec last = (RoomsService.searchAll env schedule dto).run World.exec last := by
      obtain ⟨checkIn, readIn⟩ := Option.isSome_iff_exists.mp dates.checkIn
      obtain ⟨checkOut, readOut⟩ := Option.isSome_iff_exists.mp dates.checkOut
      have answers : ∀ j, last.answer (.roomSearch (RoomsService.searchFilter env.platform dto)) j = _ :=
        answer_roomSearch readIn readOut dates.parameters
      have elsewhere : ∀ j, j ≠ shard → _ = [] :=
        fun j => noRoom_elsewhere checkIn checkOut held filtered home
      rw [run_read, exec_isRead rfl, answers, RoomsService.searchAll,
        run_fanOutList rfl schedule true id answers]
      simp only [id_eq]
      rw [flatMap_finRange_eq elsewhere]
    refine ⟨readable, ?_⟩
    by_cases dates : dto.Readable env.platform
    · rw [readable dates]
    · have failed : ∀ j, ∃ error, last.answer
          (.roomSearch (RoomsService.searchFilter env.platform dto)) j = .error error :=
        fun j => answer_unreadable dates j
      obtain ⟨error, here⟩ := failed shard
      rw [run_read, exec_isRead rfl, here, RoomsService.searchAll,
        run_fanOutList_failed rfl schedule id failed]
      rfl
  · exact ⟨fun _ => rfl, rfl⟩

def byCity : Env 2 := { twoShards with router := { twoShards.router with strategy := .city } }

def lvivHotel : Uuid := ⟨sampleKey 20 1, by decide⟩

/-- A hotel in Lviv with a room. -/
def lviv : List (Call 2) :=
  [.sample (.createHotel ⟨text "George", text "Svobody 1", text "Lviv", .absent⟩) 1,
    .sample (.createRoom ⟨lvivHotel, text "101", .single, 100, 2⟩) 3]

/-- The hotel gets the city Odesa, whose shard is the other one. -/
def movedToOdesa : List (Call 2) :=
  lviv ++ [.sample (.updateHotel lvivHotel { city := .value (text "Odesa") }) 4]

def inCity (city : Text) : SearchRoomDto := { city, checkIn := january 1, checkOut := january 5 }

theorem search_misses_moved : ∃ trace last, History byCity trace last ∧
    returned ((RoomsService.search byCity (.inOrder 2) (inCity (text "Odesa"))).run
      World.exec last).1 ≠
    returned ((RoomsService.searchAll byCity (.inOrder 2) (inCity (text "Odesa"))).run
      World.exec last).1 := by
  obtain ⟨trace, run, _⟩ := run_serveAll byCity movedToOdesa (.empty 2)
  exact ⟨trace, _, run, by decide +kernel⟩

theorem search_eq_searchAll_lviv : ∃ last,
    (returned ((RoomsService.search byCity (.inOrder 2) (inCity (text "Lviv"))).run
      World.exec last).1).length = 1 ∧
    returned ((RoomsService.search byCity (.inOrder 2) (inCity (text "Lviv"))).run
      World.exec last).1 =
    returned ((RoomsService.searchAll byCity (.inOrder 2) (inCity (text "Lviv"))).run
      World.exec last).1 := by
  obtain ⟨trace, run, events⟩ := run_serveAll byCity lviv (.empty 2)
  have kept : ∀ move ∈ trace, CityKept byCity move.before move.event := by
    intro move member id dto old new patch
    have listed : move.event ∈ lviv := events ▸ List.mem_map_of_mem member
    simp only [lviv, List.mem_cons, List.not_mem_nil, or_false] at listed
    rcases listed with created | created <;> rw [created] at patch <;> cases patch
  exact ⟨_, by decide +kernel, (search_eq_searchAll rfl run kept _ _).2⟩

end HotelBooking
