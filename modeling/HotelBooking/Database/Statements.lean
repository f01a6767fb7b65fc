import HotelBooking.Database.Tables

/-! The statements that the services send to a node, with their effect on its
tables. A statement either succeeds with new tables or fails without effect.
The two transactions are the bodies that the bookings service passes to
`$transaction` at isolation level Serializable; they are atomic. -/
namespace HotelBooking
open Relational

theorem except_bind_ok {value : Except ε α} {next : α → Except ε β} {result : β} :
    (value >>= next) = .ok result ↔ ∃ given, value = .ok given ∧ next given = .ok result := by
  cases value with
  | error error => simp [bind, Except.bind]
  | ok given => simp [bind, Except.bind]

@[simp] theorem except_throw (error : ε) : (throw error : Except ε α) = .error error := rfl

@[simp] theorem except_error_bind (error : ε) (next : α → Except ε β) :
    (Except.error error >>= next) = .error error := rfl

@[simp] theorem except_ok_bind (value : α) (next : α → Except ε β) :
    (Except.ok value >>= next) = next value := rfl

@[simp] theorem except_pure (value : α) : (pure value : Except ε α) = .ok value := rfl

/-- A property written over a required column: `undefined` keeps it, Prisma rejects
`null`, and a given value still has to be one of the column's. -/
def Field.overWith (given : Field α) (convert : α → Except Err β) (old : β) : Except Err β :=
  match given with
  | .absent => .ok old
  | .null => .error (.db .validation)
  | .value new => convert new

def Field.over (given : Field α) (old : α) : Except Err α := given.overWith .ok old

/-- A property written over a nullable column. -/
def Field.overNullable (given : Field α) (old : Option α) : Option α :=
  match given with
  | .absent => old
  | .null => none
  | .value new => some new

def Field.map (convert : α → β) : Field α → Field β
  | .absent => .absent
  | .null => .null
  | .value given => .value (convert given)

def decimal (number : Rat) : Except Err Decimal :=
  match Decimal.ofNumber? number with
  | some price => .ok price
  | none => .error (.db .outOfRange)

/-- A four-byte INTEGER column. -/
def integer (number : Int) : Except Err Int :=
  if -2147483648 ≤ number ∧ number < 2147483648 then .ok number else .error (.db .outOfRange)

def CreateHotelDto.row (dto : CreateHotelDto) (id : Text) (createdAt : Instant) :
    Except Err Hotel := do
  return ⟨id, dto.name, dto.address, dto.city, ← dto.rating.over 0, createdAt⟩

def UpdateHotelDto.over (dto : UpdateHotelDto) (old : Hotel) : Except Err Hotel := do
  return { old with
    name := ← dto.name.over old.name
    address := ← dto.address.over old.address
    city := ← dto.city.over old.city
    rating := ← dto.rating.over old.rating }

def CreateRoomDto.row (dto : CreateRoomDto) (id : Text) (createdAt : Instant) :
    Except Err Room := do
  return ⟨id, dto.hotelId, dto.roomNumber, dto.type, ← decimal dto.pricePerNight,
    ← integer dto.capacity, createdAt⟩

def UpdateRoomDto.over (dto : UpdateRoomDto) (old : Room) : Except Err Room := do
  return { old with
    hotelId := ← dto.hotelId.overWith (fun id => .ok id.text) old.hotelId
    roomNumber := ← dto.roomNumber.over old.roomNumber
    type := ← dto.type.over old.type
    pricePerNight := ← dto.pricePerNight.overWith decimal old.pricePerNight
    capacity := ← dto.capacity.overWith integer old.capacity }

/-- The `data` of a booking update. A date is `none` when Prisma cannot read the
string that was given for it. -/
structure BookingData where
  roomId : Field Uuid := .absent
  guestId : Field Uuid := .absent
  checkInDate : Field (Option Instant) := .absent
  checkOutDate : Field (Option Instant) := .absent
  status : Field BookingStatus := .absent

/-- A date given to Prisma, once it is read. -/
def date (given : Option Instant) : Except Err Instant :=
  match given with
  | some instant => .ok instant
  | none => .error (.db .validation)

def BookingData.over (data : BookingData) (old : Booking) : Except Err Booking := do
  return { old with
    roomId := ← data.roomId.overWith (fun id => .ok id.text) old.roomId
    guestId := ← data.guestId.overWith (fun id => .ok id.text) old.guestId
    checkInDate := ← data.checkInDate.overWith date old.checkInDate
    checkOutDate := ← data.checkOutDate.overWith date old.checkOutDate
    status := ← data.status.over old.status }

/-- The argument of `reserve`. A date is `none` when it is an Invalid Date. -/
structure Reservation where
  id : Text
  roomId : Text
  guestId : Text
  checkIn : Option Instant
  checkOut : Option Instant
  status : BookingStatus
  createdAt : Instant

/-- The `where` of `RoomsService.search`. -/
structure RoomFilter where
  capacity : Option Nat
  city : Option Text
  checkIn : Option Instant
  checkOut : Option Instant

/-- What the database refuses as a parameter: an INTEGER column is compared with 32-bit numbers
only, and no text has U+0000. -/
def RoomFilter.parameters (filter : RoomFilter) : Except Err Unit :=
  if filter.capacity.any fun guests => 2147483647 < guests then .error (.db .outOfRange)
  else if filter.city.any fun city => city.contains 0 then .error (.db .other)
  else .ok ()

theorem RoomFilter.parameters_ok {filter : RoomFilter} : filter.parameters = .ok () ↔
    (∀ guests ∈ filter.capacity, guests ≤ 2147483647) ∧ ∀ city ∈ filter.city, 0 ∉ city := by
  unfold parameters
  cases filter.capacity <;> cases filter.city <;> simp
  all_goals grind

/-- The number of guests is looked at first. -/
theorem RoomFilter.parameters_error {filter : RoomFilter} {error : Err}
    (refused : filter.parameters = .error error) :
    error = if filter.capacity.any fun guests => 2147483647 < guests then .db .outOfRange
      else .db .other := by
  unfold parameters at refused
  split at refused
  · next tooMany => rw [if_pos tooMany, ← Except.error.inj refused]
  · next few =>
    split at refused
    · rw [if_neg few, ← Except.error.inj refused]
    · cases refused

namespace Tables

def roomView? (tables : Tables) (room : Room) : Option RoomView := do
  return ⟨room, ← tables.hotels.find? room.hotelId⟩

def bookingView? (tables : Tables) (booking : Booking) : Option BookingView := do
  let room ← tables.rooms.find? booking.roomId
  return ⟨booking, room, ← tables.hotels.find? room.hotelId⟩

def hotelCard? (tables : Tables) (id : Text) : Option HotelCard := do
  return ⟨← tables.hotels.find? id, tables.rooms.rows.filter fun room => room.hotelId = id⟩

def hotelCreate (tables : Tables) (id : Text) (dto : CreateHotelDto) (createdAt : Instant) :
    Except Err (Hotel × Tables) := do
  let hotel ← dto.row id createdAt
  if fresh : tables.hotels.find? hotel.id = none then
    return (hotel, tables.insertHotel hotel fresh)
  else throw (.db .uniqueConstraint)

def hotelUpdate (tables : Tables) (id : Text) (dto : UpdateHotelDto) :
    Except Err (Hotel × Tables) := do
  let some old := tables.hotels.find? id | throw (.db .recordNotFound)
  let hotel ← dto.over old
  return (hotel, tables.putHotel hotel)

def hotelDelete (tables : Tables) (id : Text) : Except Err (Hotel × Tables) := do
  let some hotel := tables.hotels.find? id | throw (.db .recordNotFound)
  if unused : ∀ room ∈ tables.rooms.rows, room.hotelId ≠ id then
    return (hotel, tables.eraseHotel id unused)
  else throw (.db .foreignKey)

def roomCreate (tables : Tables) (id : Text) (dto : CreateRoomDto) (createdAt : Instant) :
    Except Err (Room × Tables) := do
  let room ← dto.row id createdAt
  if fresh : tables.rooms.find? room.id = none then
    if number : tables.NumberFree room then
      if hotel : (tables.hotels.find? room.hotelId).isSome then
        return (room, tables.insertRoom room fresh hotel number)
      else throw (.db .foreignKey)
    else throw (.db .uniqueConstraint)
  else throw (.db .uniqueConstraint)

def roomUpdate (tables : Tables) (id : Text) (dto : UpdateRoomDto) :
    Except Err (Room × Tables) := do
  let some old := tables.rooms.find? id | throw (.db .recordNotFound)
  let room ← dto.over old
  if number : tables.NumberFree room then
    if hotel : (tables.hotels.find? room.hotelId).isSome then
      return (room, tables.putRoom room hotel number)
    else throw (.db .foreignKey)
  else throw (.db .uniqueConstraint)

def roomDelete (tables : Tables) (id : Text) : Except Err (Room × Tables) := do
  let some room := tables.rooms.find? id | throw (.db .recordNotFound)
  if unused : ∀ booking ∈ tables.bookings.rows, booking.roomId ≠ id then
    return (room, tables.eraseRoom id unused)
  else throw (.db .foreignKey)

/-- A booking that keeps the room out of the results for these dates. -/
def occupies (checkIn checkOut : Instant) (booking : Booking) : Bool :=
  (booking.status == .pending || booking.status == .confirmed) &&
    (booking.checkInDate < checkOut && booking.checkOutDate > checkIn)

def matchesFilter (tables : Tables) (filter : RoomFilter) (checkIn checkOut : Instant)
    (view : RoomView) : Bool :=
  filter.capacity.all (fun guests => (guests : Int) ≤ view.room.capacity) &&
    filter.city.all (fun city => view.hotel.city == city) &&
    tables.bookings.rows.all fun booking =>
      booking.roomId != view.room.id || !occupies checkIn checkOut booking

def roomSearch (tables : Tables) (filter : RoomFilter) : Except Err (List RoomView) := do
  let checkIn ← date filter.checkIn
  let checkOut ← date filter.checkOut
  filter.parameters
  return (tables.rooms.rows.filterMap tables.roomView?).filter
    (tables.matchesFilter filter checkIn checkOut)

def bookingCreate (tables : Tables) (id roomId guestId : Text) (checkIn checkOut : Instant)
    (totalCents : Int) (status : BookingStatus) (createdAt : Instant) :
    Except Err (Booking × Tables) := do
  let some totalPrice := Decimal.ofCents? totalCents | throw (.db .outOfRange)
  let booking : Booking := ⟨id, roomId, guestId, checkIn, checkOut, status, totalPrice, createdAt⟩
  if fresh : tables.bookings.find? booking.id = none then
    if room : (tables.rooms.find? booking.roomId).isSome then
      return (booking, tables.insertBooking booking fresh room)
    else throw (.db .foreignKey)
  else throw (.db .uniqueConstraint)

def bookingUpdate (tables : Tables) (id : Text) (data : BookingData) :
    Except Err (Booking × Tables) := do
  let some old := tables.bookings.find? id | throw (.db .recordNotFound)
  let booking ← data.over old
  if room : (tables.rooms.find? booking.roomId).isSome then
    return (booking, tables.putBooking booking room)
  else throw (.db .foreignKey)

/-- `updateMany` where the key is `id` and the status one of `statuses`: the
number of rows it changed. -/
def bookingUpdateMany (tables : Tables) (id : Text) (statuses : List BookingStatus)
    (status : BookingStatus) : Nat × Tables :=
  match found : tables.bookings.find? id with
  | none => (0, tables)
  | some old =>
    if old.status ∈ statuses then
      (1, tables.putBooking { old with status }
        (tables.bookings_room old (Table.find?_eq_some.mp found).1))
    else (0, tables)

def bookingDelete (tables : Tables) (id : Text) : Except Err (Booking × Tables) := do
  let some booking := tables.bookings.find? id | throw (.db .recordNotFound)
  return (booking, tables.eraseBooking id)

/-- The `where` of the overlap check in `reserve`. An empty identifier to exclude
is falsy and excludes nothing. -/
def overlaps (roomId : Text) (checkIn checkOut : Instant) (excludeBookingId : Option Text)
    (booking : Booking) : Bool :=
  booking.roomId == roomId &&
    excludeBookingId.all (fun excluded => excluded == [] || booking.id != excluded) &&
    decide (booking.status ∈ activeStatuses) &&
    decide (booking.checkInDate < checkOut) && decide (booking.checkOutDate > checkIn)

def millisPerDay : Int := 1000 * 60 * 60 * 24

/-- `Math.ceil` of the stay in days. -/
def nights (checkIn checkOut : Instant) : Int := -(-(checkOut - checkIn) / millisPerDay)

/-- `BookingsService.reserve`: availability check and insert. -/
def reserve (tables : Tables) (data : Reservation) (excludeBookingId : Option Text) :
    Except Err (Booking × Tables) := do
  let some room := tables.rooms.find? data.roomId
    | throw (.notFound (text "Room with id " ++ data.roomId ++ text " not found"))
  let checkIn ← date data.checkIn
  let checkOut ← date data.checkOut
  let overlapping := tables.bookings.rows.find?
    (overlaps data.roomId checkIn checkOut excludeBookingId)
  if overlapping.isSome then
    throw (.conflict (text "Room is already booked for the selected dates"))
  let totalPrice := room.pricePerNight.cents * nights checkIn checkOut
  tables.bookingCreate data.id data.roomId data.guestId checkIn checkOut totalPrice data.status
    data.createdAt

/-- The transaction of a relocation within one shard: reserve, then cancel `id`. -/
def reserveAndCancel (tables : Tables) (data : Reservation) (id : Text) :
    Except Err ((Booking × Booking) × Tables) := do
  let (created, reserved) ← tables.reserve data (some id)
  let (previous, after) ← reserved.bookingUpdate id { status := .value .cancelled }
  return ((created, previous), after)

end Tables

inductive Stmt where
  | hotelCreate (id : Text) (dto : CreateHotelDto) (createdAt : Instant)
  | hotelFindMany
  | hotelFindUnique (id : Text)
  | hotelFindCard (id : Text)
  | hotelUpdate (id : Text) (dto : UpdateHotelDto)
  | hotelDelete (id : Text)
  | roomCreate (id : Text) (dto : CreateRoomDto) (createdAt : Instant)
  | roomFindMany
  | roomFindUnique (id : Text)
  | roomFindByNumber (hotelId roomNumber : Text)
  | roomSearch (filter : RoomFilter)
  | roomUpdate (id : Text) (dto : UpdateRoomDto)
  | roomDelete (id : Text)
  | bookingFindMany
  | bookingFindByGuest (guestId : Text)
  | bookingCount (guestId : Text)
  | bookingFindUnique (id : Text)
  | bookingFindView (id : Text)
  | bookingUpdate (id : Text) (data : BookingData)
  | bookingUpdateMany (id : Text) (statuses : List BookingStatus) (status : BookingStatus)
  | bookingDelete (id : Text)
  | reserve (data : Reservation)
  | reserveAndCancel (data : Reservation) (id : Text)

namespace Stmt

abbrev Answer : Stmt → Type
  | hotelCreate .. | hotelUpdate .. | hotelDelete .. => Hotel
  | hotelFindMany => List Hotel
  | hotelFindUnique _ => Option Hotel
  | hotelFindCard _ => Option HotelCard
  | roomCreate .. | roomUpdate .. | roomDelete .. => Room
  | roomFindMany | roomSearch _ => List RoomView
  | roomFindUnique _ => Option RoomView
  | roomFindByNumber .. => Option Room
  | bookingFindMany | bookingFindByGuest _ => List BookingView
  | bookingCount _ | bookingUpdateMany .. => Nat
  | bookingFindUnique _ => Option Booking
  | bookingFindView _ => Option BookingView
  | bookingUpdate .. | bookingDelete .. | reserve .. => Booking
  | reserveAndCancel .. => Booking × Booking

def exec : (stmt : Stmt) → Tables → Except Err (stmt.Answer × Tables)
  | hotelCreate id dto createdAt, tables => tables.hotelCreate id dto createdAt
  | hotelFindMany, tables => .ok (tables.hotels.rows, tables)
  | hotelFindUnique id, tables => .ok (tables.hotels.find? id, tables)
  | hotelFindCard id, tables => .ok (tables.hotelCard? id, tables)
  | hotelUpdate id dto, tables => tables.hotelUpdate id dto
  | hotelDelete id, tables => tables.hotelDelete id
  | roomCreate id dto createdAt, tables => tables.roomCreate id dto createdAt
  | roomFindMany, tables => .ok (tables.rooms.rows.filterMap tables.roomView?, tables)
  | roomFindUnique id, tables => .ok ((tables.rooms.find? id).bind tables.roomView?, tables)
  | roomFindByNumber hotelId roomNumber, tables =>
    .ok (tables.rooms.rows.find? fun room =>
      room.hotelId = hotelId ∧ room.roomNumber = roomNumber, tables)
  | roomSearch filter, tables => do return (← tables.roomSearch filter, tables)
  | roomUpdate id dto, tables => tables.roomUpdate id dto
  | roomDelete id, tables => tables.roomDelete id
  | bookingFindMany, tables => .ok (tables.bookings.rows.filterMap tables.bookingView?, tables)
  | bookingFindByGuest guestId, tables =>
    .ok ((tables.bookings.rows.filter fun booking => booking.guestId = guestId).filterMap
      tables.bookingView?, tables)
  | bookingCount guestId, tables =>
    .ok ((tables.bookings.rows.filter fun booking => booking.guestId = guestId).length, tables)
  | bookingFindUnique id, tables => .ok (tables.bookings.find? id, tables)
  | bookingFindView id, tables => .ok ((tables.bookings.find? id).bind tables.bookingView?, tables)
  | bookingUpdate id data, tables => tables.bookingUpdate id data
  | bookingUpdateMany id statuses status, tables =>
    .ok (tables.bookingUpdateMany id statuses status)
  | bookingDelete id, tables => tables.bookingDelete id
  | reserve data, tables => tables.reserve data none
  | reserveAndCancel data id, tables => tables.reserveAndCancel data id

end Stmt
end HotelBooking
