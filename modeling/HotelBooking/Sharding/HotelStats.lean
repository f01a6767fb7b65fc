import HotelBooking.Invariants.BookingCalendar
import HotelBooking.Sharding.CityAnalytics
import HotelBooking.Relational.Partition

/-! The report of one hotel, read on one shard, beside the report by city, read on all. The
shard of the hotel has all that the report counts, and the cities are sums of hotels. -/
namespace HotelBooking
open Effect Relational
variable {n : Nat}

/-- A row of the answer; `revenue` in cents. -/
structure HotelRow where
  hotelId : Text
  city : Text
  rooms : Nat
  bookings : Nat
  revenue : Int
  deriving DecidableEq

/-- The sum of `totalPrice` over the bookings with a status that counts. -/
def revenueOf (bookings : List Booking) : Int :=
  ((bookings.filter fun b => b.status ∈ revenueStatuses).map fun b => b.totalPrice.cents).sum

/-- `h.city`, `COUNT(DISTINCT r.id)`, `COUNT(b.id)` and the revenue. The group is by the primary
key, so that all its rows have one city. -/
def hotelTotals (group : List ((Hotel × Option Room) × Option Booking)) : Text × Nat × Nat × Int :=
  ((group.head?.map fun row => row.1.1.city).getD [],
    ((group.filterMap fun row => row.1.2).map Room.id).dedup.length,
    (group.filterMap Prod.snd).length,
    revenueOf (group.filterMap Prod.snd))

/-- The query: `WHERE h.id = id GROUP BY h.id` over the joined rows. -/
def HotelRows.ofHotel (rows : HotelRows) (id : Text) : List HotelRow :=
  (groupBy (fun row => row.1.1.id) hotelTotals
      (rows.joined.filter fun row => row.1.1.id = id)).map
    fun (hotelId, city, rooms, bookings, revenue) => ⟨hotelId, city, rooms, bookings, revenue⟩

structure HotelStats where
  row : HotelRow
  shard : Text
  deriving DecidableEq

/-- The query for one hotel at a shard. -/
abbrev statsSignature (n : Nat) : Signature := ⟨Fin n × Text, fun _ => List HotelRow⟩

def hotelStats (router : ShardRouter n) (id : Text) :
    Program (statsSignature n) Err HotelStats := do
  let shard := router.forKey id
  let rows : List HotelRow ← tryCatch (.perform (shard, id)) fun error =>
    if error.isConnection then
      throw (.serviceUnavailable (text "Шард " ++ router.name shard ++
        text " недоступний: дані інших шардів продовжують обслуговуватися"))
    else throw error
  match rows with
  | [] => throw (.notFound (text "Hotel with id " ++ id ++ text " not found"))
  | row :: _ => return ⟨row, router.name shard⟩

/-- The shards answer the query from their tables. -/
def hotelQuery : Executor (statsSignature n) Err (Fin n → Tables) :=
  fun (i, id) shards => (.ok ((shards i).hotelRows.ofHotel id), shards)

namespace HotelRows
variable {rows : HotelRows} {hotel : Hotel} {id : Text}

/-- The rooms of a hotel, and the bookings of these rooms. -/
def roomsOf (rows : HotelRows) (id : Text) : List Room :=
  rows.rooms.filter fun room => room.hotelId = id

def bookingsOf (rows : HotelRows) (id : Text) : List Booking :=
  (rows.roomsOf id).flatMap fun room => rows.bookings.filter fun booking => booking.roomId = room.id

/-- The report of a hotel. -/
def report (rows : HotelRows) (hotel : Hotel) : HotelRow where
  hotelId := hotel.id
  city := hotel.city
  rooms := (rows.roomsOf hotel.id).length
  bookings := (rows.bookingsOf hotel.id).length
  revenue := revenueOf (rows.bookingsOf hotel.id)

def withHotels (rows : HotelRows) (hotels : List Hotel) : HotelRows := { rows with hotels }

/-- A condition on the hotels may be checked before both joins. -/
theorem filter_joined (p : Hotel → Bool) : rows.joined.filter (fun row => p row.1.1) =
    (rows.withHotels (rows.hotels.filter p)).joined := by
  unfold joined withHotels
  rw [filter_leftJoin fun left : Hotel × Option Room => p left.1, filter_leftJoin p]

/-- The bookings in the joined rows of a hotel are those of its rooms. -/
theorem bookings_joined : (rows.withHotels [hotel]).joined.filterMap Prod.snd =
    rows.bookingsOf hotel.id := by
  have partners : ∀ left : Hotel × Option Room,
      rows.bookings.filter (fun b => left.2.any fun r => b.roomId = r.id) =
        left.2.elim [] fun room => rows.bookings.filter fun b => b.roomId = room.id := by
    rintro ⟨owner, none | room⟩
    · exact List.filter_false _
    · rfl
  unfold joined withHotels
  rw [partners_leftJoin, List.flatMap_congr fun left _ => partners left, flatMap_leftJoin,
    List.flatMap_singleton, bookingsOf, roomsOf]

theorem hotels_joined {row : (Hotel × Option Room) × Option Booking}
    (member : row ∈ (rows.withHotels [hotel]).joined) : row.1.1 = hotel :=
  List.mem_singleton.mp (joined_hotel member)

/-- Each room is counted once, however many bookings it has. -/
theorem rooms_joined (distinct : (rows.rooms.map Room.id).Nodup) :
    (((rows.withHotels [hotel]).joined.filterMap fun row => row.1.2).map Room.id).dedup.length =
      (rows.roomsOf hotel.id).length := by
  have ids : (((rows.withHotels [hotel]).joined.filterMap fun row => row.1.2).map Room.id).dedup.Perm
      ((rows.roomsOf hotel.id).map Room.id) := by
    refine (List.perm_ext_iff_of_nodup (List.nodup_dedup _) ?_).mpr fun key => ?_
    · exact distinct.sublist (List.filter_sublist.map _)
    rw [List.mem_dedup, List.mem_map, List.mem_map]
    refine exists_congr fun room => and_congr_left fun _ => ?_
    rw [List.mem_filterMap]
    constructor
    · rintro ⟨⟨⟨owner, partner⟩, booking⟩, listed, found⟩
      have first := (mem_leftJoin listed).1
      obtain ⟨stored, owned⟩ := (mem_leftJoin first).2 room found
      obtain rfl := List.mem_singleton.mp (mem_leftJoin first).1
      exact List.mem_filter.mpr ⟨stored, owned⟩
    · intro listed
      obtain ⟨stored, owned⟩ := List.mem_filter.mp listed
      have matched : (hotel, some room) ∈
          leftJoin [hotel] rows.rooms fun h r => r.hotelId = h.id :=
        matched_leftJoin List.mem_cons_self stored owned
      obtain ⟨booking, joined⟩ := exists_leftJoin matched
      exact ⟨_, joined, rfl⟩
  rw [ids.length_eq, List.length_map]

theorem joined_ne_nil : (rows.withHotels [hotel]).joined ≠ [] := by
  intro empty
  obtain ⟨partner, first⟩ : ∃ partner, (hotel, partner) ∈
      leftJoin [hotel] rows.rooms fun h r => r.hotelId = h.id := exists_leftJoin List.mem_cons_self
  obtain ⟨booking, second⟩ : ∃ booking, ((hotel, partner), booking) ∈
      (rows.withHotels [hotel]).joined := exists_leftJoin first
  rw [empty] at second
  cases second

theorem hotelTotals_joined (distinct : (rows.rooms.map Room.id).Nodup) :
    hotelTotals (rows.withHotels [hotel]).joined = (hotel.city, (rows.roomsOf hotel.id).length,
      (rows.bookingsOf hotel.id).length, revenueOf (rows.bookingsOf hotel.id)) := by
  have city : ((rows.withHotels [hotel]).joined.head?.map fun row => row.1.1.city) =
      some hotel.city := by
    cases listed : (rows.withHotels [hotel]).joined with
    | nil => exact absurd listed joined_ne_nil
    | cons row rest =>
      have member : row ∈ (rows.withHotels [hotel]).joined := listed ▸ List.mem_cons_self
      rw [List.head?_cons, Option.map_some, hotels_joined member]
  rw [hotelTotals, city, rooms_joined distinct, bookings_joined]
  rfl

/-- The query finds one row, or none, and its joins neither lose nor repeat what is counted. -/
theorem ofHotel_eq (hotels : (rows.hotels.map Hotel.id).Nodup)
    (rooms : (rows.rooms.map Room.id).Nodup) (id : Text) :
    rows.ofHotel id = ((rows.hotels.find? fun hotel => hotel.id = id).map rows.report).toList := by
  have joined : rows.joined.filter (fun row => decide (row.1.1.id = id)) = _ :=
    filter_joined fun hotel => hotel.id = id
  unfold ofHotel
  rw [joined]
  cases found : rows.hotels.find? fun hotel => hotel.id = id with
  | none =>
    have none : rows.hotels.filter (fun hotel => hotel.id = id) = [] := by
      rw [List.filter_eq_nil_iff]
      exact List.find?_eq_none.mp found
    rw [none]
    rfl
  | some hotel =>
    have same : hotel.id = id := by simpa using List.find?_some found
    rw [filter_of_find? hotels found, groupBy_single joined_ne_nil
      fun row member => congrArg Hotel.id (hotels_joined member), hotelTotals_joined rooms]
    rfl

/-- The numbers of a group of hotels are the sums of their reports. -/
theorem cityTotals_withHotels (hotels : List Hotel) (distinct : (hotels.map Hotel.id).Nodup) :
    cityTotals (rows.withHotels hotels).joined = ⟨hotels.length,
      (hotels.map fun hotel => (rows.report hotel).bookings).sum,
      (hotels.map fun hotel => (rows.report hotel).revenue).sum⟩ := by
  induction hotels with
  | nil => rfl
  | cons hotel rest ih =>
    obtain ⟨absent, distinct⟩ := List.nodup_cons.mp distinct
    have split : (rows.withHotels (hotel :: rest)).joined =
        (rows.withHotels [hotel]).joined ++ (rows.withHotels rest).joined := by
      unfold joined withHotels
      dsimp only
      rw [leftJoin_cons, leftJoin_append]
    have apart : ∀ row ∈ (rows.withHotels [hotel]).joined,
        ∀ other ∈ (rows.withHotels rest).joined, row.1.1.id ≠ other.1.1.id := by
      intro row listed other stored same
      rw [hotels_joined listed] at same
      exact absent (List.mem_map.mpr ⟨_, joined_hotel stored, same.symm⟩)
    have one : cityTotals (rows.withHotels [hotel]).joined =
        ⟨1, (rows.report hotel).bookings, (rows.report hotel).revenue⟩ := by
      have ids : ((rows.withHotels [hotel]).joined.map fun row => row.1.1.id).dedup = [hotel.id] := by
        have length : (rows.withHotels [hotel]).joined.length ≠ 0 := fun empty =>
          joined_ne_nil (List.length_eq_zero_iff.mp empty)
        rw [List.map_eq_replicate_iff.mpr fun row member => congrArg Hotel.id (hotels_joined member),
          List.replicate_dedup length]
      rw [cityTotals, ids, bookings_joined]
      rfl
    rw [split, cityTotals_append apart, ih distinct, one]
    ext
    · exact Nat.add_comm _ _
    · rfl
    · rfl

end HotelRows

section Shards
variable {router : ShardRouter n} {world : World n}

theorem unionRows_hotels (colocated : world.Everywhere (Colocated router)) :
    ((unionRows world.shards).hotels.map Hotel.id).Nodup :=
  Table.nodup_flatMap_homed fun i => (colocated i).hotels

/-- All of a hotel is on the shard of its key. -/
theorem find?_union (colocated : world.Everywhere (Colocated router)) (id : Text) :
    (world.shards (router.forKey id)).hotels.rows.find? (fun hotel => hotel.id = id) =
      (unionRows world.shards).hotels.find? fun hotel => hotel.id = id := by
  have only := flatMap_only (List.nodup_finRange n) (List.mem_finRange (router.forKey id))
    (f := fun i => (world.shards i).hotels.rows.filter fun hotel => hotel.id = id) ?_
  · rw [← List.head?_filter, ← List.head?_filter, unionRows, List.filter_flatMap, only]
  · intro j different
    rw [List.filter_eq_nil_iff]
    intro hotel member same
    refine different ?_
    rw [← of_decide_eq_true same, (colocated j).hotels hotel member]

theorem roomsOf_union (colocated : world.Everywhere (Colocated router)) (id : Text) :
    (world.shards (router.forKey id)).hotelRows.roomsOf id = (unionRows world.shards).roomsOf id := by
  have only := flatMap_only (List.nodup_finRange n) (List.mem_finRange (router.forKey id))
    (f := fun i => (world.shards i).rooms.rows.filter fun room => room.hotelId = id) ?_
  · rw [HotelRows.roomsOf, HotelRows.roomsOf, unionRows, List.filter_flatMap, only]
    rfl
  · intro j different
    rw [List.filter_eq_nil_iff]
    intro room member same
    obtain ⟨here, bucket⟩ := (colocated j).rooms room member
    refine different ?_
    rw [← here, router.forKey_congr bucket, of_decide_eq_true same]

theorem bookingsOf_union (colocated : world.Everywhere (Colocated router)) (id : Text) :
    (world.shards (router.forKey id)).hotelRows.bookingsOf id =
      (unionRows world.shards).bookingsOf id := by
  unfold HotelRows.bookingsOf
  rw [roomsOf_union colocated]
  refine List.flatMap_congr fun room member => ?_
  rw [← roomsOf_union colocated] at member
  have stored := (List.mem_filter.mp member).1
  have here := ((colocated _).rooms room stored).1
  have only := flatMap_only (List.nodup_finRange n) (List.mem_finRange (router.forKey id))
    (f := fun i => (world.shards i).bookings.rows.filter fun booking => booking.roomId = room.id) ?_
  · rw [unionRows, List.filter_flatMap, only]
    rfl
  · intro j different
    rw [List.filter_eq_nil_iff]
    intro booking member same
    refine different ?_
    rw [← here, ← of_decide_eq_true same, (colocated j).bookings.room member]

theorem report_union (colocated : world.Everywhere (Colocated router)) (hotel : Hotel) :
    (world.shards (router.forKey hotel.id)).hotelRows.report hotel =
      (unionRows world.shards).report hotel := by
  unfold HotelRows.report
  rw [roomsOf_union colocated, bookingsOf_union colocated]

theorem run_hotelStats (colocated : world.Everywhere (Colocated router)) (id : Text) :
    (hotelStats router id).run hotelQuery world.shards =
      (match (unionRows world.shards).hotels.find? fun hotel => hotel.id = id with
        | none => .error (.notFound (text "Hotel with id " ++ id ++ text " not found"))
        | some hotel => .ok
          ⟨(unionRows world.shards).report hotel, router.name (router.forKey id)⟩,
        world.shards) := by
  have hotels : ((world.shards (router.forKey id)).hotelRows.hotels.map Hotel.id).Nodup :=
    (world.shards (router.forKey id)).hotels.distinct
  have rooms : ((world.shards (router.forKey id)).hotelRows.rooms.map Room.id).Nodup :=
    (world.shards (router.forKey id)).rooms.distinct
  have rows := HotelRows.ofHotel_eq hotels rooms id
  have same : (world.shards (router.forKey id)).hotelRows.hotels.find?
      (fun hotel => hotel.id = id) = (unionRows world.shards).hotels.find? fun hotel => hotel.id = id :=
    find?_union colocated id
  rw [same] at rows
  simp only [hotelStats, Program.bind_eq, Program.tryCatch_eq, Program.perform, Program.bind,
    Program.recover, Program.run, hotelQuery, Program.ofExcept_ok, Program.ret_recover,
    Program.ret_bind, rows]
  cases found : (unionRows world.shards).hotels.find? fun hotel => hotel.id = id with
  | none => rfl
  | some hotel =>
    obtain rfl : hotel.id = id := by simpa using List.find?_some found
    simp only [Option.map_some, Option.toList_some, report_union colocated hotel]
    rfl

end Shards

/-- The report by city is the sum of the reports of its hotels: as many hotels as have a report,
their bookings and their revenue. -/
theorem cities_sum_hotels (env : Env n) (calls : List (Call n)) {trace : List (Move n)}
    {last : Clients n}
    (run : Run (Pool.Step World.exec AnyFault) (clients env (.empty n) calls) trace last)
    {exec : Executor (analyticsSignature n) Err (Fin n → Tables)}
    (answer : AllAnswer exec last.state.shards) (schedule : Schedule n) :
    ∃ analytics, (cityAnalytics env.router schedule).run exec last.state.shards =
        (.ok analytics, last.state.shards) ∧
      ∀ city totals, (city, totals) ∈ analytics.cities → ∃ reports : List HotelStats,
        List.Forall₂ (fun hotel report => (hotelStats env.router hotel.id).run hotelQuery
            last.state.shards = (.ok report, last.state.shards))
          ((unionRows last.state.shards).hotels.filter fun hotel => hotel.city = city) reports ∧
        totals.hotels = reports.length ∧
        totals.bookings = (reports.map fun report => report.row.bookings).sum ∧
        totals.revenue = (reports.map fun report => report.row.revenue).sum := by
  have colocated := colocated_reached run
  have whole := wholeHotels_colocated colocated
  choose answers answered grouped using answer
  refine ⟨_, run_cityAnalytics answered schedule, ?_⟩
  intro city totals listed
  have rows : (partsOf fun i => (.ok (answers i) : Except Err _)).parts.flatMap Prod.snd =
      (List.finRange n).flatMap answers := by
    simp [partsOf, Except.toOption, List.flatMap_map]
  rw [mergeCities, rows, (List.mergeSort_perm _ _).mem_iff, (tallies_byCity whole grouped).mem_iff,
    HotelRows.byCity, mem_groupBy, HotelRows.filter_joined fun hotel => hotel.city = city] at listed
  have distinct := unionRows_hotels colocated
  rw [HotelRows.cityTotals_withHotels _ (distinct.sublist (List.filter_sublist.map _))] at listed
  obtain ⟨_, rfl⟩ := listed
  refine ⟨((unionRows last.state.shards).hotels.filter fun hotel => hotel.city = city).map fun hotel =>
    ⟨(unionRows last.state.shards).report hotel, env.router.name (env.router.forKey hotel.id)⟩,
    ?_, ?_, ?_, ?_⟩
  · rw [List.forall₂_map_right_iff, List.forall₂_same]
    intro hotel member
    rw [run_hotelStats colocated, find?_of_mem distinct (List.mem_filter.mp member).1]
  · rw [List.length_map]
  · rw [List.map_map]
    rfl
  · rw [List.map_map]
    rfl

theorem cities_sum_hotels_opened : ∃ analytics,
    (cityAnalytics twoShards.router (.inOrder 2)).run listGroups opened.state.shards =
      (.ok analytics, opened.state.shards) ∧
    ∀ city totals, (city, totals) ∈ analytics.cities → totals.hotels =
      ((unionRows opened.state.shards).hotels.filter fun hotel => hotel.city = city).length := by
  obtain ⟨trace, run⟩ := run_opened
  obtain ⟨analytics, answered, sums⟩ := cities_sum_hotels twoShards (furnishing 2) run
    (allAnswer_listGroups _) (.inOrder 2)
  refine ⟨analytics, answered, fun city totals listed => ?_⟩
  obtain ⟨reports, pairs, hotels, _⟩ := sums city totals listed
  rw [hotels, pairs.length_eq]

end HotelBooking
