import HotelBooking.Database.World

/-! What a successful statement did. Each write has one form; the invariants are
proved by cases on it and never run the statements again. -/
namespace HotelBooking
open Relational Effect

/-- Statements without effect on the tables. -/
def Stmt.isRead : Stmt → Bool
  | .hotelFindMany | .hotelFindUnique _ | .hotelFindCard _ | .roomFindMany | .roomFindUnique _
  | .roomFindByNumber .. | .roomSearch _ | .bookingFindMany | .bookingFindByGuest _
  | .bookingCount _ | .bookingFindUnique _ | .bookingFindView _ => true
  | _ => false

def GuestStmt.isRead : GuestStmt → Bool
  | .findMany | .findIn _ | .findUnique _ | .findByEmail _ => true
  | _ => false

theorem date_ok : date given = .ok instant ↔ given = some instant := by
  cases given <;> simp [date]

theorem CreateHotelDto.row_ok {dto : CreateHotelDto} {id : Text} {hotel : Hotel}
    (row : dto.row id createdAt = .ok hotel) : hotel.id = id ∧ hotel.city = dto.city := by
  simp only [CreateHotelDto.row, except_bind_ok, except_pure, Except.ok.injEq] at row
  obtain ⟨_, _, rfl⟩ := row
  exact ⟨rfl, rfl⟩

theorem UpdateHotelDto.over_ok {dto : UpdateHotelDto} {old new : Hotel}
    (merged : dto.over old = .ok new) :
    new.id = old.id ∧ dto.city.over old.city = .ok new.city := by
  simp only [UpdateHotelDto.over, except_bind_ok, except_pure, Except.ok.injEq] at merged
  obtain ⟨_, _, _, _, _, city, _, _, rfl⟩ := merged
  exact ⟨rfl, city⟩

theorem CreateRoomDto.row_ok {dto : CreateRoomDto} {id : Text} {room : Room}
    (row : dto.row id createdAt = .ok room) : room.id = id ∧ room.hotelId = dto.hotelId := by
  simp only [CreateRoomDto.row, except_bind_ok, except_pure, Except.ok.injEq] at row
  obtain ⟨_, _, _, _, rfl⟩ := row
  exact ⟨rfl, rfl⟩

theorem UpdateRoomDto.over_ok {dto : UpdateRoomDto} {old new : Room}
    (merged : dto.over old = .ok new) : new.id = old.id ∧
      dto.hotelId.overWith (fun id => .ok id.text) old.hotelId = .ok new.hotelId := by
  simp only [UpdateRoomDto.over, except_bind_ok, except_pure, Except.ok.injEq] at merged
  obtain ⟨_, hotelId, _, _, _, _, _, _, _, _, rfl⟩ := merged
  exact ⟨rfl, hotelId⟩

theorem BookingData.over_ok {data : BookingData} {old new : Booking}
    (merged : data.over old = .ok new) : new.id = old.id ∧
      data.roomId.overWith (fun id => .ok id.text) old.roomId = .ok new.roomId ∧
      data.status.over old.status = .ok new.status := by
  simp only [BookingData.over, except_bind_ok, except_pure, Except.ok.injEq] at merged
  obtain ⟨_, roomId, _, _, _, _, _, _, _, status, rfl⟩ := merged
  exact ⟨rfl, roomId, status⟩

theorem BookingData.over_guest {data : BookingData} {old new : Booking}
    (merged : data.over old = .ok new) :
    data.guestId.overWith (fun id => .ok id.text) old.guestId = .ok new.guestId := by
  simp only [BookingData.over, except_bind_ok, except_pure, Except.ok.injEq] at merged
  obtain ⟨_, _, _, guestId, _, _, _, _, _, _, rfl⟩ := merged
  exact guestId

/-- The write of cancel and of T3. -/
@[simp] theorem BookingData.over_status (old : Booking) (status : BookingStatus) :
    ({ status := .value status } : BookingData).over old = .ok { old with status } := rfl

namespace Tables

theorem hotelCreate_ok {tables after : Tables} {id : Text} {dto : CreateHotelDto}
    {createdAt : Instant} {hotel : Hotel}
    (done : tables.hotelCreate id dto createdAt = .ok (hotel, after)) :
    dto.row id createdAt = .ok hotel ∧ ∃ fresh, after = tables.insertHotel hotel fresh := by
  simp only [hotelCreate, except_bind_ok] at done
  obtain ⟨hotel, row, done⟩ := done
  split at done
  · next fresh =>
    cases done
    exact ⟨row, fresh, rfl⟩
  · cases done

theorem hotelUpdate_ok {tables after : Tables} {id : Text} {dto : UpdateHotelDto} {hotel : Hotel}
    (done : tables.hotelUpdate id dto = .ok (hotel, after)) :
    ∃ old, tables.hotels.find? id = some old ∧ dto.over old = .ok hotel ∧
      after = tables.putHotel hotel := by
  unfold hotelUpdate at done
  cases found : tables.hotels.find? id with
  | none => simp [found] at done
  | some old =>
    simp only [found, except_bind_ok] at done
    obtain ⟨hotel, merged, done⟩ := done
    cases done
    exact ⟨old, rfl, merged, rfl⟩

theorem hotelDelete_ok {tables after : Tables} {id : Text} {hotel : Hotel}
    (done : tables.hotelDelete id = .ok (hotel, after)) :
    tables.hotels.find? id = some hotel ∧ ∃ unused, after = tables.eraseHotel id unused := by
  unfold hotelDelete at done
  cases found : tables.hotels.find? id with
  | none => simp [found] at done
  | some old =>
    simp only [found] at done
    split at done
    · next unused =>
      cases done
      exact ⟨rfl, unused, rfl⟩
    · cases done

theorem roomCreate_ok {tables after : Tables} {id : Text} {dto : CreateRoomDto}
    {createdAt : Instant} {room : Room}
    (done : tables.roomCreate id dto createdAt = .ok (room, after)) :
    dto.row id createdAt = .ok room ∧
      ∃ fresh hotel number, after = tables.insertRoom room fresh hotel number := by
  simp only [roomCreate, except_bind_ok] at done
  obtain ⟨room, row, done⟩ := done
  split at done
  · next fresh =>
    split at done
    · next number =>
      split at done
      · next hotel =>
        cases done
        exact ⟨row, fresh, hotel, number, rfl⟩
      · cases done
    · cases done
  · cases done

theorem roomUpdate_ok {tables after : Tables} {id : Text} {dto : UpdateRoomDto} {room : Room}
    (done : tables.roomUpdate id dto = .ok (room, after)) :
    ∃ old, tables.rooms.find? id = some old ∧ dto.over old = .ok room ∧
      ∃ hotel number, after = tables.putRoom room hotel number := by
  unfold roomUpdate at done
  cases found : tables.rooms.find? id with
  | none => simp [found] at done
  | some old =>
    simp only [found, except_bind_ok] at done
    obtain ⟨room, merged, done⟩ := done
    split at done
    · next number =>
      split at done
      · next hotel =>
        cases done
        exact ⟨old, rfl, merged, hotel, number, rfl⟩
      · cases done
    · cases done

theorem roomDelete_ok {tables after : Tables} {id : Text} {room : Room}
    (done : tables.roomDelete id = .ok (room, after)) :
    tables.rooms.find? id = some room ∧ ∃ unused, after = tables.eraseRoom id unused := by
  unfold roomDelete at done
  cases found : tables.rooms.find? id with
  | none => simp [found] at done
  | some old =>
    simp only [found] at done
    split at done
    · next unused =>
      cases done
      exact ⟨rfl, unused, rfl⟩
    · cases done

end Tables

/-- A new row that the availability check let through. -/
structure Reserves (tables : Tables) (data : Reservation) (excludeBookingId : Option Text)
    (created : Booking) : Prop where
  room : (tables.rooms.find? created.roomId).isSome
  fresh : tables.bookings.find? created.id = none
  id : created.id = data.id
  roomId : created.roomId = data.roomId
  guestId : created.guestId = data.guestId
  checkIn : data.checkIn = some created.checkInDate
  checkOut : data.checkOut = some created.checkOutDate
  status : created.status = data.status
  createdAt : created.createdAt = data.createdAt
  free : ∀ booking ∈ tables.bookings, Tables.overlaps created.roomId created.checkInDate
    created.checkOutDate excludeBookingId booking = false

/-- The identifier of the new row is not one that is stored. -/
theorem Reserves.id_ne {tables : Tables} {data : Reservation} {excluded : Option Text}
    {created old : Booking} {id : Text} (made : Reserves tables data excluded created)
    (found : tables.bookings.find? id = some old) : created.id ≠ id := by
  intro same
  have absent := made.fresh
  rw [same, found] at absent
  cases absent

namespace Tables

theorem reserve_ok {tables after : Tables} {data : Reservation} {excluded : Option Text}
    {created : Booking} (done : tables.reserve data excluded = .ok (created, after)) :
    ∃ made : Reserves tables data excluded created,
      after = tables.insertBooking created made.fresh made.room := by
  unfold reserve at done
  cases foundRoom : tables.rooms.find? data.roomId with
  | none => simp [foundRoom] at done
  | some room =>
    simp only [foundRoom, except_bind_ok, date_ok] at done
    obtain ⟨checkIn, readIn, checkOut, readOut, done⟩ := done
    split at done
    · simp at done
    · next noOverlap =>
      unfold bookingCreate at done
      cases price : Decimal.ofCents? (room.pricePerNight.cents * nights checkIn checkOut) with
      | none => simp [price] at done
      | some totalPrice =>
        simp only [price] at done
        split at done
        · next fresh =>
          split at done
          · next stored =>
            cases done
            refine ⟨⟨stored, fresh, rfl, rfl, rfl, readIn, readOut, rfl, rfl, ?_⟩, rfl⟩
            intro booking member
            simpa using List.find?_eq_none.mp (Option.not_isSome_iff_eq_none.mp noOverlap)
              booking member
          · cases done
        · cases done

theorem bookingUpdate_ok {tables after : Tables} {id : Text} {data : BookingData} {new : Booking}
    (done : tables.bookingUpdate id data = .ok (new, after)) :
    ∃ old room, tables.bookings.find? id = some old ∧ data.over old = .ok new ∧
      after = tables.putBooking new room := by
  unfold bookingUpdate at done
  cases found : tables.bookings.find? id with
  | none => simp [found] at done
  | some old =>
    simp only [found, except_bind_ok] at done
    obtain ⟨booking, merged, done⟩ := done
    split at done
    · next room =>
      cases done
      exact ⟨old, room, rfl, merged, rfl⟩
    · cases done

theorem bookingDelete_ok {tables after : Tables} {id : Text} {booking : Booking}
    (done : tables.bookingDelete id = .ok (booking, after)) :
    tables.bookings.find? id = some booking ∧ after = tables.eraseBooking id := by
  unfold bookingDelete at done
  cases found : tables.bookings.find? id with
  | none => simp [found] at done
  | some old =>
    simp only [found] at done
    cases done
    exact ⟨rfl, rfl⟩

theorem bookingUpdate_stored {tables : Tables} {id : Text} {data : BookingData} {old new : Booking}
    (found : tables.bookings.find? id = some old) (merged : data.over old = .ok new)
    (room : (tables.rooms.find? new.roomId).isSome) :
    tables.bookingUpdate id data = .ok (new, tables.putBooking new room) := by
  simp only [bookingUpdate, found, merged, except_ok_bind, dif_pos room, except_pure]

theorem bookingUpdateMany_changed {tables : Tables} {id : Text} {statuses : List BookingStatus}
    {old : Booking} (found : tables.bookings.find? id = some old) (listed : old.status ∈ statuses)
    (status : BookingStatus) : ∃ room, tables.bookingUpdateMany id statuses status =
      (1, tables.putBooking { old with status } room) := by
  unfold bookingUpdateMany
  split
  · next missing =>
    rw [found] at missing
    cases missing
  · next other found' =>
    obtain rfl := Option.some.inj (found.symm.trans found')
    rw [if_pos listed]
    exact ⟨tables.bookings_room old (Table.find?_eq_some.mp found').1, rfl⟩

theorem bookingUpdateMany_unchanged {tables : Tables} {id : Text} {statuses : List BookingStatus}
    (unlisted : ∀ old, tables.bookings.find? id = some old → old.status ∉ statuses)
    (status : BookingStatus) : tables.bookingUpdateMany id statuses status = (0, tables) := by
  unfold bookingUpdateMany
  split
  · rfl
  · next old found => rw [if_neg (unlisted old found)]

theorem overlaps_room {roomId : Text} {checkIn checkOut : Instant} {excluded : Option Text}
    {booking : Booking} (overlap : overlaps roomId checkIn checkOut excluded booking = true) :
    booking.roomId = roomId := by
  simp only [overlaps, Bool.and_eq_true, beq_iff_eq] at overlap
  exact overlap.1.1.1.1

theorem reserveAndCancel_ok {tables after : Tables} {data : Reservation} {id : Text}
    {created previous : Booking}
    (done : tables.reserveAndCancel data id = .ok ((created, previous), after)) :
    ∃ reserved, tables.reserve data (some id) = .ok (created, reserved) ∧
      reserved.bookingUpdate id { status := .value .cancelled } = .ok (previous, after) := by
  simp only [reserveAndCancel, except_bind_ok, Prod.exists] at done
  obtain ⟨_, reserved, reserving, _, _, cancelling, same⟩ := done
  cases same
  exact ⟨reserved, reserving, cancelling⟩

end Tables

/-- The tables that a statement leaves when it succeeds. -/
inductive Stmt.Wrote (tables : Tables) : Stmt → Tables → Prop where
  | read {stmt : Stmt} : stmt.isRead = true → Wrote tables stmt tables
  | hotelCreate {id : Text} {dto : CreateHotelDto} {createdAt : Instant} {hotel : Hotel} :
      dto.row id createdAt = .ok hotel → (fresh : tables.hotels.find? hotel.id = none) →
      Wrote tables (.hotelCreate id dto createdAt) (tables.insertHotel hotel fresh)
  | hotelUpdate {id : Text} {dto : UpdateHotelDto} {old hotel : Hotel} :
      tables.hotels.find? id = some old → dto.over old = .ok hotel →
      Wrote tables (.hotelUpdate id dto) (tables.putHotel hotel)
  | hotelDelete {id : Text} (unused : ∀ room ∈ tables.rooms.rows, room.hotelId ≠ id) :
      Wrote tables (.hotelDelete id) (tables.eraseHotel id unused)
  | roomCreate {id : Text} {dto : CreateRoomDto} {createdAt : Instant} {room : Room} :
      dto.row id createdAt = .ok room → (fresh : tables.rooms.find? room.id = none) →
      (hotel : (tables.hotels.find? room.hotelId).isSome) → (number : tables.NumberFree room) →
      Wrote tables (.roomCreate id dto createdAt) (tables.insertRoom room fresh hotel number)
  | roomUpdate {id : Text} {dto : UpdateRoomDto} {old room : Room} :
      tables.rooms.find? id = some old → dto.over old = .ok room →
      (hotel : (tables.hotels.find? room.hotelId).isSome) → (number : tables.NumberFree room) →
      Wrote tables (.roomUpdate id dto) (tables.putRoom room hotel number)
  | roomDelete {id : Text} (unused : ∀ booking ∈ tables.bookings.rows, booking.roomId ≠ id) :
      Wrote tables (.roomDelete id) (tables.eraseRoom id unused)
  | bookingUpdate {id : Text} {data : BookingData} {old booking : Booking} :
      tables.bookings.find? id = some old → data.over old = .ok booking →
      (room : (tables.rooms.find? booking.roomId).isSome) →
      Wrote tables (.bookingUpdate id data) (tables.putBooking booking room)
  | bookingUnchanged {id : Text} {statuses : List BookingStatus} {status : BookingStatus} :
      (∀ old, tables.bookings.find? id = some old → old.status ∉ statuses) →
      Wrote tables (.bookingUpdateMany id statuses status) tables
  | bookingUpdateMany {id : Text} {statuses : List BookingStatus} {status : BookingStatus}
      {old : Booking} : tables.bookings.find? id = some old → old.status ∈ statuses →
      (room : (tables.rooms.find? old.roomId).isSome) →
      Wrote tables (.bookingUpdateMany id statuses status)
        (tables.putBooking { old with status } room)
  | bookingDelete {id : Text} : Wrote tables (.bookingDelete id) (tables.eraseBooking id)
  | reserve {data : Reservation} {created : Booking} (made : Reserves tables data none created) :
      Wrote tables (.reserve data) (tables.insertBooking created made.fresh made.room)
  | reserveAndCancel {data : Reservation} {id : Text} {created old : Booking}
      (made : Reserves tables data (some id) created)
      (room : ((tables.insertBooking created made.fresh made.room).rooms.find? old.roomId).isSome) :
      (tables.insertBooking created made.fresh made.room).bookings.find? id = some old →
      Wrote tables (.reserveAndCancel data id)
        ((tables.insertBooking created made.fresh made.room).putBooking
          { old with status := .cancelled } room)

theorem Stmt.wrote {tables after : Tables} {stmt : Stmt} {answer : stmt.Answer}
    (done : stmt.exec tables = .ok (answer, after)) : Stmt.Wrote tables stmt after := by
  cases stmt with
  | hotelFindMany | hotelFindUnique | hotelFindCard | roomFindMany | roomFindUnique
  | roomFindByNumber | bookingFindMany | bookingFindByGuest | bookingCount
  | bookingFindUnique | bookingFindView =>
    cases done
    exact .read rfl
  | roomSearch filter =>
    simp only [exec, except_bind_ok, except_pure, Except.ok.injEq, Prod.mk.injEq] at done
    obtain ⟨_, _, _, rfl⟩ := done
    exact .read rfl
  | hotelCreate id dto createdAt =>
    obtain ⟨row, fresh, rfl⟩ := Tables.hotelCreate_ok done
    exact .hotelCreate row fresh
  | hotelUpdate id dto =>
    obtain ⟨old, found, merged, rfl⟩ := Tables.hotelUpdate_ok done
    exact .hotelUpdate found merged
  | hotelDelete id =>
    obtain ⟨_, unused, rfl⟩ := Tables.hotelDelete_ok done
    exact .hotelDelete unused
  | roomCreate id dto createdAt =>
    obtain ⟨row, fresh, hotel, number, rfl⟩ := Tables.roomCreate_ok done
    exact .roomCreate row fresh hotel number
  | roomUpdate id dto =>
    obtain ⟨old, found, merged, hotel, number, rfl⟩ := Tables.roomUpdate_ok done
    exact .roomUpdate found merged hotel number
  | roomDelete id =>
    obtain ⟨_, unused, rfl⟩ := Tables.roomDelete_ok done
    exact .roomDelete unused
  | bookingUpdate id data =>
    obtain ⟨old, room, found, merged, rfl⟩ := Tables.bookingUpdate_ok done
    exact .bookingUpdate found merged room
  | bookingUpdateMany id statuses status =>
    have same := congrArg Prod.snd (Except.ok.inj done)
    by_cases listed : ∃ old, tables.bookings.find? id = some old ∧ old.status ∈ statuses
    · obtain ⟨old, found, listed⟩ := listed
      obtain ⟨room, changed⟩ := Tables.bookingUpdateMany_changed found listed status
      rw [changed] at same
      subst same
      exact .bookingUpdateMany found listed room
    · have unlisted : ∀ old, tables.bookings.find? id = some old → old.status ∉ statuses :=
        fun old found member => listed ⟨old, found, member⟩
      rw [Tables.bookingUpdateMany_unchanged unlisted] at same
      subst same
      exact .bookingUnchanged unlisted
  | bookingDelete id =>
    obtain ⟨_, rfl⟩ := Tables.bookingDelete_ok done
    exact .bookingDelete
  | reserve data =>
    obtain ⟨made, rfl⟩ := Tables.reserve_ok done
    exact .reserve made
  | reserveAndCancel data id =>
    obtain ⟨created, previous⟩ := answer
    obtain ⟨reserved, reserving, cancelling⟩ := Tables.reserveAndCancel_ok done
    obtain ⟨made, rfl⟩ := Tables.reserve_ok reserving
    obtain ⟨old, room, found, merged, rfl⟩ := Tables.bookingUpdate_ok cancelling
    cases merged
    exact @Stmt.Wrote.reserveAndCancel tables data id created old made room found

namespace World
variable {n : Nat}

/-- A property of each shard's tables on their own. -/
def Everywhere (holds : Fin n → Tables → Prop) (world : World n) : Prop :=
  ∀ i, holds i (world.shards i)

/-- A shard-wise property survives a command when it survives the command's write. -/
theorem everywhere_exec {holds : Fin n → Tables → Prop} {world : World n} {cmd : Cmd n}
    (keeps : ∀ i stmt after, cmd = .shard i stmt → stmt.Wrote (world.shards i) after →
      holds i (world.shards i) → holds i after)
    (initial : world.Everywhere holds) : (exec cmd world).2.Everywhere holds := by
  cases cmd with
  | shard i stmt =>
    cases done : stmt.exec (world.shards i) with
    | error error => simpa only [exec_shard_error done] using initial
    | ok result =>
      obtain ⟨answer, tables⟩ := result
      simp only [exec_shard_ok done]
      intro j
      by_cases same : j = i
      · subst same
        simpa only [setShard_self] using keeps j stmt tables rfl (Stmt.wrote done) (initial j)
      · simpa only [setShard_of_ne world same] using initial j
  | guests stmt =>
    simp only [exec]
    split <;> exact initial
  | cache cmd => exact initial

end World
end HotelBooking
