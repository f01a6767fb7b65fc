import HotelBooking.Invariants.Colocation
import HotelBooking.Relational.Grouping
import HotelBooking.Sharding.PartialFanOut
import Mathlib.Algebra.Ring.Int.Defs

/-! Revenue and bookings by city over all shards. Each shard answers with the groups of its own
rows and the coordinator sums them; the sums are the groups of all rows together. -/
namespace HotelBooking
open Effect Relational
variable {n : Nat}

/-- `ACTIVE` -/
def revenueStatuses : List BookingStatus := [.pending, .confirmed, .completed]

/-- The numbers of one city; `revenue` in cents. -/
@[ext] structure CityTotals where
  hotels : Nat
  bookings : Nat
  revenue : Int
  deriving DecidableEq

namespace CityTotals

instance : Zero CityTotals := ⟨⟨0, 0, 0⟩⟩

instance : Add CityTotals :=
  ⟨fun acc row => ⟨acc.hotels + row.hotels, acc.bookings + row.bookings, acc.revenue + row.revenue⟩⟩

@[simp] theorem hotels_zero : (0 : CityTotals).hotels = 0 := rfl
@[simp] theorem bookings_zero : (0 : CityTotals).bookings = 0 := rfl
@[simp] theorem revenue_zero : (0 : CityTotals).revenue = 0 := rfl

@[simp] theorem hotels_add (acc row : CityTotals) : (acc + row).hotels = acc.hotels + row.hotels := rfl

@[simp] theorem bookings_add (acc row : CityTotals) :
    (acc + row).bookings = acc.bookings + row.bookings := rfl

@[simp] theorem revenue_add (acc row : CityTotals) :
    (acc + row).revenue = acc.revenue + row.revenue := rfl

instance : AddCommMonoid CityTotals where
  add_assoc first second third := by ext <;> simp <;> omega
  zero_add row := by ext <;> simp
  add_zero row := by ext <;> simp
  add_comm first second := by ext <;> simp <;> omega
  nsmul := nsmulRec

end CityTotals

/-- A row of the answer of a shard: `city` and its numbers. -/
abbrev CityRow : Type := Text × CityTotals

/-- The rows that the query reads. -/
structure HotelRows where
  hotels : List Hotel
  rooms : List Room
  bookings : List Booking

def Tables.hotelRows (tables : Tables) : HotelRows :=
  ⟨tables.hotels.rows, tables.rooms.rows, tables.bookings.rows⟩

/-- `hotels h LEFT JOIN rooms r LEFT JOIN bookings b` -/
def HotelRows.joined (rows : HotelRows) : List ((Hotel × Option Room) × Option Booking) :=
  leftJoin (leftJoin rows.hotels rows.rooms fun h r => r.hotelId = h.id) rows.bookings
    fun left b => left.2.any fun r => b.roomId = r.id

/-- `COUNT(DISTINCT h.id)`, `COUNT(b.id)` and the sum of `totalPrice` over the active bookings. -/
def cityTotals (group : List ((Hotel × Option Room) × Option Booking)) : CityTotals where
  hotels := (group.map fun row => row.1.1.id).dedup.length
  bookings := (group.filterMap Prod.snd).length
  revenue := (((group.filterMap Prod.snd).filter fun b => b.status ∈ revenueStatuses).map
    fun b => b.totalPrice.cents).sum

/-- The query: `GROUP BY h.city` over the joined rows. -/
def HotelRows.byCity (rows : HotelRows) : List CityRow :=
  groupBy (fun row => row.1.1.city) cityTotals rows.joined

structure CityAnalytics (n : Nat) where
  cities : List CityRow
  shards : List (Fin n × Nat)
  partial_ : Bool
  unavailable : List (Fin n)

/-- What is made of the parts: their rows summed by city in a `Map`, by falling revenue. -/
def mergeCities (result : FanOutResult n (List CityRow)) : CityAnalytics n where
  cities := (tallies (result.parts.flatMap Prod.snd)).mergeSort fun a b => b.2.revenue ≤ a.2.revenue
  shards := result.parts.map fun part => (part.1, part.2.length)
  partial_ := 0 < result.failed.length
  unavailable := result.failed

/-- The query at a shard. The order in which a database lists the groups is its own. -/
abbrev analyticsSignature (n : Nat) : Signature := ⟨Fin n, fun _ => List CityRow⟩

/-- `shard.read`, for this query. -/
def readCities (router : ShardRouter n) (i : Fin n) : Program (analyticsSignature n) Err (List CityRow) :=
  tryCatch (.perform i) fun error =>
    if error.isConnection then
      throw (.serviceUnavailable (text "Шард " ++ router.name i ++
        text " недоступний: дані інших шардів продовжують обслуговуватися"))
    else throw error

def cityAnalytics (router : ShardRouter n) (schedule : Schedule n) :
    Program (analyticsSignature n) Err (CityAnalytics n) := do
  return mergeCities (← fanOutReads (readCities router) schedule.order true)

/-- The rows of all shards. -/
def unionRows (shards : Fin n → Tables) : HotelRows where
  hotels := (List.finRange n).flatMap fun i => (shards i).hotels.rows
  rooms := (List.finRange n).flatMap fun i => (shards i).rooms.rows
  bookings := (List.finRange n).flatMap fun i => (shards i).bookings.rows

/-- A hotel lies on one shard, and with it its rooms and their bookings. -/
structure WholeHotels (shards : Fin n → Tables) : Prop where
  hotels : ∀ i j, ∀ hotel ∈ (shards i).hotels, ∀ other ∈ (shards j).hotels, hotel.id = other.id → i = j
  bookings : ∀ i j, ∀ room ∈ (shards i).rooms, ∀ booking ∈ (shards j).bookings,
    booking.roomId = room.id → i = j

/-- Rows on the shards of their keys do not tear a hotel apart. -/
theorem wholeHotels_colocated {router : ShardRouter n} {world : World n}
    (colocated : world.Everywhere (Colocated router)) : WholeHotels world.shards := by
  constructor
  · intro i j hotel listed other stored same
    rw [← (colocated i).hotels hotel listed, ← (colocated j).hotels other stored, same]
  · intro i j room listed booking stored same
    have here := ((colocated i).rooms room listed).1
    have there := (colocated j).bookings.room stored
    rw [← here, ← there, same]

/-- Every world that the requests lead to has whole hotels. -/
theorem History.wholeHotels {env : Env n} {trace : List (Transition (World n) (Call n))}
    {last : World n} (history : History env trace last) : WholeHotels last.shards :=
  wholeHotels_colocated history.colocated

section Merge
variable {shards : Fin n → Tables}

theorem WholeHotels.rooms (whole : WholeHotels shards) {i j : Fin n} {hotel : Hotel}
    (listed : hotel ∈ (shards i).hotels) {room : Room} (stored : room ∈ (shards j).rooms)
    (same : room.hotelId = hotel.id) : i = j := by
  obtain ⟨parent, found⟩ := Option.isSome_iff_exists.mp ((shards j).rooms_hotel room stored)
  obtain ⟨known, keyed⟩ := Table.find?_eq_some.mp found
  exact whole.hotels i j hotel listed parent known (same.symm.trans keyed.symm)

theorem joined_hotel {rows : HotelRows} {row : (Hotel × Option Room) × Option Booking}
    (member : row ∈ rows.joined) : row.1.1 ∈ rows.hotels :=
  (mem_leftJoin (mem_leftJoin member).1).1

/-- The join of all rows is that of each shard. -/
theorem joined_union (whole : WholeHotels shards) : (unionRows shards).joined =
    (List.finRange n).flatMap fun i => (shards i).hotelRows.joined := by
  have rooms : leftJoin (unionRows shards).hotels (unionRows shards).rooms
      (fun h r => r.hotelId = h.id) = (List.finRange n).flatMap fun i =>
        leftJoin (shards i).hotels.rows (shards i).rooms.rows fun h r => r.hotelId = h.id := by
    apply leftJoin_flatMap (List.nodup_finRange n)
    intro i j hotel listed room stored joined
    exact whole.rooms listed stored (of_decide_eq_true joined)
  unfold HotelRows.joined
  rw [rooms]
  apply leftJoin_flatMap (List.nodup_finRange n)
  rintro i j ⟨hotel, partner⟩ listed booking stored joined
  cases partner with
  | none => cases joined
  | some room =>
    exact whole.bookings i j room ((mem_leftJoin listed).2 room rfl).1 booking stored
      (of_decide_eq_true joined)

/-- Groups without a common hotel add up. -/
theorem cityTotals_append {first second : List ((Hotel × Option Room) × Option Booking)}
    (apart : ∀ row ∈ first, ∀ other ∈ second, row.1.1.id ≠ other.1.1.id) :
    cityTotals (first ++ second) = cityTotals first + cityTotals second := by
  have hotels : (first.map fun row => row.1.1.id).Disjoint (second.map fun row => row.1.1.id) := by
    intro id left right
    obtain ⟨row, listed, rfl⟩ := List.mem_map.mp left
    obtain ⟨other, stored, same⟩ := List.mem_map.mp right
    exact apart row listed other stored same.symm
  ext
  · simp only [cityTotals, List.map_append, hotels.dedup_append, List.length_append,
      CityTotals.hotels_add]
  · simp only [cityTotals, List.filterMap_append, List.length_append, CityTotals.bookings_add]
  · simp only [cityTotals, List.filterMap_append, List.filter_append, List.map_append,
      List.sum_append, CityTotals.revenue_add]

/-- The numbers of a city are the sums of its numbers on the shards. -/
theorem cityTotals_union (whole : WholeHotels shards) (city : Text) {order : List (Fin n)}
    (distinct : order.Nodup) :
    cityTotals ((order.flatMap fun i => (shards i).hotelRows.joined).filter
        fun row => row.1.1.city = city) =
      (order.map fun i => cityTotals ((shards i).hotelRows.joined.filter
        fun row => row.1.1.city = city)).sum := by
  induction order with
  | nil => rfl
  | cons i rest ih =>
    obtain ⟨absent, distinct⟩ := List.nodup_cons.mp distinct
    rw [List.flatMap_cons, List.filter_append, cityTotals_append, ih distinct]
    · rfl
    intro row left other right same
    obtain ⟨j, later, stored⟩ := List.mem_flatMap.mp (List.mem_filter.mp right).1
    have shared := whole.hotels i j _ (joined_hotel (List.mem_filter.mp left).1) _
      (joined_hotel stored) same
    exact absent (shared ▸ later)

theorem tallies_byCity (whole : WholeHotels shards) {answers : Fin n → List CityRow}
    (grouped : ∀ i, (answers i).Perm (shards i).hotelRows.byCity) :
    (tallies ((List.finRange n).flatMap answers)).Perm (unionRows shards).byCity := by
  unfold HotelRows.byCity
  rw [joined_union whole]
  exact tallies_groups rfl (fun city => cityTotals_union whole city (List.nodup_finRange n)) grouped

/-- All shards answer, each with the groups of its own rows. -/
def AllAnswer (exec : Executor (analyticsSignature n) Err (Fin n → Tables))
    (shards : Fin n → Tables) : Prop :=
  ∀ i, ∃ rows, exec i shards = (.ok rows, shards) ∧ rows.Perm (shards i).hotelRows.byCity

variable {exec : Executor (analyticsSignature n) Err (Fin n → Tables)} {router : ShardRouter n}
  {answers : Fin n → List CityRow}

theorem run_readCities {i : Fin n} (answered : exec i shards = (.ok (answers i), shards)) :
    (readCities router i).run exec shards = (.ok (answers i), shards) := by
  simp only [readCities, Program.perform, Program.tryCatch_eq, Program.recover, Program.run, answered,
    Program.ofExcept_ok, Program.ret_recover]

theorem run_settleCities (answered : ∀ i, exec i shards = (.ok (answers i), shards))
    (order : List (Fin n)) : (settleReads (readCities router) order).run exec shards =
      (.ok (order.map fun i => (i, .ok (answers i))), shards) := by
  induction order with
  | nil => rfl
  | cons i rest ih =>
    simp only [settleReads, Program.bind_eq, Program.pure_eq, Program.tryCatch_eq, Program.run_bind,
      Program.run_recover, run_readCities (answered i), Program.run_ret, ih, List.map_cons]

theorem run_cityAnalytics (answered : ∀ i, exec i shards = (.ok (answers i), shards))
    (schedule : Schedule n) : (cityAnalytics router schedule).run exec shards =
      (.ok (mergeCities (partsOf fun i => (.ok (answers i) : Except Err _))), shards) := by
  simp only [cityAnalytics, fanOutReads, Program.bind_eq, Program.pure_eq, Program.run_bind,
    run_settleCities answered, Program.run_ofExcept]
  rw [gatherReads_tolerant (fun i => (.ok (answers i) : Except Err _)) _
    fun i _ => schedule.listed i]
  rfl

/-- With every shard answering, each city is listed once with what one query over all rows gives. -/
theorem cityAnalytics_exact (whole : WholeHotels shards) (answer : AllAnswer exec shards)
    (router : ShardRouter n) (schedule : Schedule n) :
    ∃ analytics, (cityAnalytics router schedule).run exec shards = (.ok analytics, shards) ∧
      analytics.cities.Perm (unionRows shards).byCity ∧
      (analytics.cities.map Prod.fst).Nodup ∧
      analytics.cities.Pairwise fun a b => b.2.revenue ≤ a.2.revenue := by
  choose answers answered grouped using answer
  refine ⟨_, run_cityAnalytics answered schedule, ?_⟩
  have rows : (partsOf fun i => (.ok (answers i) : Except Err _)).parts.flatMap Prod.snd =
      (List.finRange n).flatMap answers := by
    simp [partsOf, Except.toOption, List.flatMap_map]
  have merged := tallies_byCity whole grouped
  have sorted : (mergeCities (partsOf fun i => (.ok (answers i) : Except Err _))).cities.Perm
      (unionRows shards).byCity := by
    refine (List.mergeSort_perm _ _).trans ?_
    rw [rows]
    exact merged
  refine ⟨sorted, ?_, ?_⟩
  · rw [(sorted.map Prod.fst).nodup_iff, HotelRows.byCity, keys_groupBy]
    exact List.nodup_dedup _
  · have falling : (mergeCities (partsOf fun i => (.ok (answers i) : Except Err _))).cities.Pairwise
        fun a b => decide (b.2.revenue ≤ a.2.revenue) = true := by
      apply List.pairwise_mergeSort
      · intro a b c first second
        rw [decide_eq_true_eq] at first second ⊢
        exact Int.le_trans second first
      · intro a b
        rw [Bool.or_eq_true, decide_eq_true_eq, decide_eq_true_eq]
        exact Int.le_total _ _
    exact falling.imp of_decide_eq_true

/-- A hotel of the city with a room and a confirmed booking for 100. -/
def Tables.booked (id city : Text) : Tables :=
  let hotel : Hotel := ⟨id, [], [], city, 0, 0⟩
  let room : Room := ⟨id, id, [], .single, ⟨10000, by decide⟩, 2, 0⟩
  ((Tables.empty.insertHotel hotel rfl).insertRoom room rfl
    (Option.isSome_of_eq_some (Table.find?_self ((Table.mem_insert rfl).mpr (Or.inl rfl))))
    fun other member => absurd member List.not_mem_nil).insertBooking
    ⟨id, id, [], 0, 1, .confirmed, ⟨10000, by decide⟩, 0⟩ rfl
    (Option.isSome_of_eq_some (Table.find?_self ((Table.mem_insert rfl).mpr (Or.inl rfl))))

theorem wholeHotels_booked {ids : Fin n → Text} (distinct : Function.Injective ids)
    (cities : Fin n → Text) : WholeHotels fun i => Tables.booked (ids i) (cities i) := by
  constructor
  · intro i j hotel listed other stored same
    obtain rfl := List.mem_singleton.mp listed
    obtain rfl := List.mem_singleton.mp stored
    exact distinct same
  · intro i j room listed booking stored same
    obtain rfl := List.mem_singleton.mp listed
    obtain rfl := List.mem_singleton.mp stored
    exact distinct same.symm

/-- Two shards with hotels of one city, a third one with a hotel of another. -/
def threeHotels (i : Fin 3) : Tables :=
  Tables.booked (List.replicate i 48) (if i.val = 2 then text "Lviv" else text "Kyiv")

theorem wholeHotels_threeHotels : WholeHotels threeHotels := by
  apply wholeHotels_booked
  intro i j same
  have lengths := congrArg List.length same
  simp only [List.length_replicate] at lengths
  exact Fin.ext lengths

/-- Databases that list the groups in the order of the model. -/
def listGroups : Executor (analyticsSignature n) Err (Fin n → Tables) :=
  fun i shards => (.ok (shards i).hotelRows.byCity, shards)

theorem allAnswer_listGroups (shards : Fin n → Tables) : AllAnswer listGroups shards :=
  fun _ => ⟨_, rfl, .refl _⟩

theorem cityAnalytics_exact_threeHotels : ∃ analytics,
    (cityAnalytics (.roundRobin (by decide) true .hash) (.inOrder 3)).run listGroups threeHotels =
        (.ok analytics, threeHotels) ∧
      analytics.cities.Perm (unionRows threeHotels).byCity ∧
      (analytics.cities.map Prod.fst).Nodup ∧
      analytics.cities.Pairwise fun a b => b.2.revenue ≤ a.2.revenue :=
  cityAnalytics_exact wholeHotels_threeHotels (allAnswer_listGroups _) _ _

example : (unionRows threeHotels).byCity =
    [(text "Kyiv", ⟨2, 2, 20000⟩), (text "Lviv", ⟨1, 1, 10000⟩)] := by decide +kernel

end Merge
end HotelBooking
