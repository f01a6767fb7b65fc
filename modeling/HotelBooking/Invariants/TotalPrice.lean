import HotelBooking.Invariants.PricedStays
import Mathlib.Order.Bounds.Defs

/-! The total of a booking against the width of its column. Room prices and stays are checked
apart from each other, so their product may be too large. -/
namespace HotelBooking

/-- What the validation pipe checks of the body, beyond the types of its properties. -/
structure CreateRoomDto.Valid (dto : CreateRoomDto) : Prop where
  roomNumber : dto.roomNumber ≠ []
  pricePerNight : 0 ≤ dto.pricePerNight
  capacity : 1 ≤ dto.capacity

/-- `PartialType`: the same checks for the properties that are given. -/
structure UpdateRoomDto.Valid (dto : UpdateRoomDto) : Prop where
  roomNumber : ∀ roomNumber, dto.roomNumber = .value roomNumber → roomNumber ≠ []
  pricePerNight : ∀ price, dto.pricePerNight = .value price → 0 ≤ price
  capacity : ∀ capacity, dto.capacity = .value capacity → 1 ≤ capacity

/-- The rows that `rooms.create` and `rooms.update` can store. -/
inductive Room.Accepted : Room → Prop where
  | created {dto : CreateRoomDto} {id : Text} {createdAt : Instant} {room : Room} :
      dto.Valid → dto.row id createdAt = .ok room → Accepted room
  | updated {dto : UpdateRoomDto} {old room : Room} :
      Accepted old → dto.Valid → dto.over old = .ok room → Accepted room

theorem decimal_nonneg {number : Rat} {price : Decimal} (positive : 0 ≤ number)
    (stored : decimal number = .ok price) : 0 ≤ price.cents := by
  unfold decimal at stored
  cases rounded : Decimal.ofNumber? number with
  | none => simp [rounded] at stored
  | some given =>
    simp only [rounded, Except.ok.injEq] at stored
    subst stored
    unfold Decimal.ofNumber? at rounded
    dsimp only at rounded
    rw [if_neg (not_lt.mpr positive)] at rounded
    rw [Decimal.cents_of_ofCents? rounded]
    rw [Rat.le_floor_iff]
    have magnitude := @Rat.abs_nonneg number
    push_cast
    linarith

theorem Room.Accepted.nonneg {room : Room} (accepted : room.Accepted) :
    0 ≤ room.pricePerNight.cents := by
  induction accepted with
  | created valid stored =>
    simp only [CreateRoomDto.row, except_bind_ok, except_pure] at stored
    obtain ⟨price, read, capacity, _, stored⟩ := stored
    cases stored
    exact decimal_nonneg valid.pricePerNight read
  | @updated dto old room _ valid stored ih =>
    simp only [UpdateRoomDto.over, except_bind_ok, except_pure] at stored
    obtain ⟨_, _, _, _, _, _, price, read, _, _, stored⟩ := stored
    cases stored
    cases given : dto.pricePerNight with
    | absent =>
      rw [given] at read
      cases read
      exact ih
    | null =>
      rw [given] at read
      cases read
    | value number =>
      rw [given] at read
      exact decimal_nonneg (valid.pricePerNight number given) read

/-- The largest total that the column takes, in cents. -/
def largestTotal : Int := 9999999999

/-- The stay has no more days than the price goes into the largest total. -/
def StayFits (room : Room) (checkIn checkOut : Instant) : Prop :=
  room.pricePerNight.cents = 0 ∨
    checkOut - checkIn ≤ largestTotal / room.pricePerNight.cents * Tables.millisPerDay

section Fits
variable {room : Room} {checkIn checkOut : Instant}

theorem nights_le_iff (days : Int) : Tables.nights checkIn checkOut ≤ days ↔
    checkOut - checkIn ≤ days * Tables.millisPerDay := by
  have rounded : ∀ stay : Int, -(-stay / 86400000) ≤ days ↔ stay ≤ days * 86400000 := by
    intro stay
    omega
  exact rounded (checkOut - checkIn)

theorem nights_pos (ordered : checkIn < checkOut) : 1 ≤ Tables.nights checkIn checkOut := by
  have rounded : ∀ stay : Int, 0 < stay → 1 ≤ -(-stay / 86400000) := by
    intro stay positive
    omega
  exact rounded (checkOut - checkIn) (Int.sub_pos.mpr ordered)

/-- The nights of a stay are the fewest days that cover it. -/
theorem nights_least (ordered : checkIn < checkOut) :
    IsLeast {days : Int | 1 ≤ days ∧ checkOut - checkIn ≤ days * Tables.millisPerDay}
      (Tables.nights checkIn checkOut) := by
  constructor
  · exact ⟨nights_pos ordered, (nights_le_iff _).mp le_rfl⟩
  · rintro days ⟨_, covered⟩
    exact (nights_le_iff days).mpr covered

theorem stayFits_iff (accepted : room.Accepted) : StayFits room checkIn checkOut ↔
    room.pricePerNight.cents * Tables.nights checkIn checkOut ≤ largestTotal := by
  have nonneg := accepted.nonneg
  unfold StayFits
  rw [← nights_le_iff]
  rcases nonneg.eq_or_lt with free | priced
  · rw [← free]
    simp [largestTotal]
  · rw [Int.le_ediv_iff_mul_le priced, Int.mul_comm]
    constructor
    · rintro (free | fits)
      · omega
      · exact fits
    · exact Or.inr

theorem ofCents?_isSome {cents : Int} (nonneg : 0 ≤ cents) :
    (Decimal.ofCents? cents).isSome ↔ cents ≤ largestTotal := by
  unfold Decimal.ofCents? largestTotal
  split
  · simp only [Option.isSome_some, true_iff]
    omega
  · simp only [Option.isSome_none, Bool.false_eq_true, false_iff]
    omega

/-- A reservation is refused for its total only when that has no place in its column. -/
theorem reserve_outOfRange {tables : Tables} {data : Reservation} {excluded : Option Text}
    (found : tables.rooms.find? data.roomId = some room) (arrives : data.checkIn = some checkIn)
    (leaves : data.checkOut = some checkOut)
    (refused : tables.reserve data excluded = .error (.db .outOfRange)) :
    Decimal.ofCents? (room.pricePerNight.cents * Tables.nights checkIn checkOut) = none := by
  unfold Tables.reserve at refused
  simp only [found, arrives, leaves, date, except_ok_bind] at refused
  split at refused
  · cases refused
  · unfold Tables.bookingCreate at refused
    cases price : Decimal.ofCents? (room.pricePerNight.cents * Tables.nights checkIn checkOut) with
    | none => rfl
    | some total =>
      simp only [price] at refused
      split at refused
      · split at refused
        · cases refused
        · cases refused
      · cases refused

end Fits

/-- The nights are the fewest days that cover the stay, and the total fits its column, so that no
reservation is refused for it, exactly when the stay is not too long for the price. -/
theorem totalPrice_fits_iff {room : Room} (accepted : room.Accepted) {checkIn checkOut : Instant}
    (ordered : checkIn < checkOut) :
    IsLeast {days : Int | 1 ≤ days ∧ checkOut - checkIn ≤ days * Tables.millisPerDay}
      (Tables.nights checkIn checkOut) ∧
    ((room.pricePerNight.value * Tables.nights checkIn checkOut < 10 ^ 8 ∧
        ∀ (tables : Tables) (data : Reservation) (excluded : Option Text),
          tables.rooms.find? data.roomId = some room → data.checkIn = some checkIn →
            data.checkOut = some checkOut →
              tables.reserve data excluded ≠ .error (.db .outOfRange)) ↔
      StayFits room checkIn checkOut) := by
  have least := nights_least ordered
  refine ⟨least, ?_⟩
  rw [stayFits_iff accepted]
  have total : 0 ≤ room.pricePerNight.cents * Tables.nights checkIn checkOut :=
    Int.mul_nonneg accepted.nonneg (Int.le_of_lt (nights_pos ordered))
  have value : room.pricePerNight.value * Tables.nights checkIn checkOut < 10 ^ 8 ↔
      room.pricePerNight.cents * Tables.nights checkIn checkOut ≤ largestTotal := by
    have cents : room.pricePerNight.value * Tables.nights checkIn checkOut =
        (room.pricePerNight.cents * Tables.nights checkIn checkOut : Int) / 100 := by
      unfold Decimal.value
      push_cast
      ring
    rw [cents, div_lt_iff₀ (by norm_num), ← Int.lt_add_one_iff]
    norm_num [largestTotal]
    exact_mod_cast Iff.rfl
  rw [value]
  constructor
  · exact fun both => both.1
  · intro fits
    refine ⟨fits, fun tables data excluded found arrives leaves refused => ?_⟩
    have none_ := reserve_outOfRange found arrives leaves refused
    have some_ := (ofCents?_isSome total).mpr fits
    rw [none_] at some_
    cases some_

/-- A room at half of what the column no longer takes. -/
def costlyDto : CreateRoomDto := ⟨dnipro, text "101", .single, 50000000, 2⟩

def costlyRoom : Room :=
  ⟨room101, dnipro, text "101", .single, ⟨5000000000, by decide⟩, 2, 0⟩

def costlyTables : Tables :=
  (Tables.empty.insertHotel ⟨dnipro, text "Dnipro", text "Street", text "Kyiv", 0, 0⟩ rfl).insertRoom
    costlyRoom rfl rfl (fun _ member => absurd member List.not_mem_nil)

/-- Two days in that room. -/
def costlyStay : Reservation :=
  ⟨sampleUuid 9, room101, olena, some 0, some (2 * Tables.millisPerDay), .pending, 0⟩

theorem costlyRoom_accepted : costlyRoom.Accepted := by
  have valid : costlyDto.Valid := ⟨by decide, by decide +kernel, by decide⟩
  refine .created valid (?_ : costlyDto.row room101 0 = .ok costlyRoom)
  decide +kernel

/-- One night fits. -/
theorem totalPrice_fits_costly : (costlyRoom.Accepted ∧ (0 : Int) < Tables.millisPerDay) ∧
    IsLeast {days : Int | 1 ≤ days ∧ Tables.millisPerDay - 0 ≤ days * Tables.millisPerDay}
      (Tables.nights 0 Tables.millisPerDay) ∧
    ((costlyRoom.pricePerNight.value * Tables.nights 0 Tables.millisPerDay < 10 ^ 8 ∧
        ∀ (tables : Tables) (data : Reservation) (excluded : Option Text),
          tables.rooms.find? data.roomId = some costlyRoom → data.checkIn = some 0 →
            data.checkOut = some Tables.millisPerDay →
              tables.reserve data excluded ≠ .error (.db .outOfRange)) ↔
      StayFits costlyRoom 0 Tables.millisPerDay) :=
  ⟨⟨costlyRoom_accepted, by decide⟩, totalPrice_fits_iff costlyRoom_accepted (by decide)⟩

/-- Two nights do not: the reservation of the free room is refused by the database. -/
theorem totalPrice_overflows : costlyRoom.Accepted ∧ (0 : Int) < 2 * Tables.millisPerDay ∧
    ¬ costlyRoom.pricePerNight.value * Tables.nights 0 (2 * Tables.millisPerDay) < 10 ^ 8 ∧
    costlyTables.rooms.find? costlyStay.roomId = some costlyRoom ∧
    costlyTables.reserve costlyStay none = .error (.db .outOfRange) := by
  refine ⟨costlyRoom_accepted, by decide, by decide +kernel, by decide +kernel, ?_⟩
  rfl

end HotelBooking
