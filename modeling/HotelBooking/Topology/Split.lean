import HotelBooking.Database.Writes
import HotelBooking.Relational.Partition

/-! The tables of one shard as a part of the tables that a single node would have. A write of a
row follows on the shard of its key and leaves the other shards what they are. -/
namespace HotelBooking
open Relational
variable {ι : Type} {home : Text → ι} {i : ι}

namespace Tables

/-- Every row has the home of its parent. -/
structure Housed (home : Text → ι) (whole : Tables) : Prop where
  rooms : ∀ room ∈ whole.rooms, home room.hotelId = home room.id
  bookings : ∀ booking ∈ whole.bookings, home booking.roomId = home booking.id

/-- The rooms of a hotel have its home. -/
theorem Housed.room_home {whole : Tables} (housed : Housed home whole) {room : Room}
    (member : room ∈ whole.rooms) (here : home room.hotelId = i) : home room.id = i :=
  (housed.rooms room member).symm.trans here

/-- The bookings of a room have its home. -/
theorem Housed.booking_home {whole : Tables} (housed : Housed home whole) {booking : Booking}
    (member : booking ∈ whole.bookings) (here : home booking.roomId = i) : home booking.id = i :=
  (housed.bookings booking member).symm.trans here

theorem housed_empty (home : Text → ι) : Housed home empty where
  rooms room member := absurd member (Table.not_mem_empty room)
  bookings booking member := absurd member (Table.not_mem_empty booking)

variable [DecidableEq ι]

structure Split (home : Text → ι) (i : ι) (part whole : Tables) : Prop where
  hotels : Table.Part home i part.hotels whole.hotels
  rooms : Table.Part home i part.rooms whole.rooms
  bookings : Table.Part home i part.bookings whole.bookings

/-- The shard `i` after a write, beside the single node after it. -/
structure Follows (home : Text → ι) (i : ι) (before part whole : Tables) : Prop where
  here : Split home i part whole
  elsewhere : ∀ j other, j ≠ i → Split home j other before → Split home j other whole
  housed : Housed home whole

variable {part whole : Tables}

theorem split_empty (home : Text → ι) (i : ι) : Split home i empty empty :=
  ⟨Table.part_empty home i, Table.part_empty home i, Table.part_empty home i⟩

theorem follows_refl (split : Split home i part whole) (housed : Housed home whole) :
    Follows home i whole part whole :=
  ⟨split, fun _ _ _ other => other, housed⟩

theorem Follows.trans {first second later final : Tables}
    (follows : Follows home i whole first second) (next : Follows home i second later final) :
    Follows home i whole later final :=
  ⟨next.here, fun j other different split =>
    next.elsewhere j other different (follows.elsewhere j other different split), next.housed⟩

section Writes
variable (split : Split home i part whole) (housed : Housed home whole)
include split housed

theorem follows_insertHotel {hotel : Hotel} {fresh : part.hotels.find? hotel.id = none}
    {fresh' : whole.hotels.find? hotel.id = none} (here : home hotel.id = i) :
    Follows home i whole (part.insertHotel hotel fresh) (whole.insertHotel hotel fresh') where
  here := ⟨split.hotels.insert fresh fresh' here, split.rooms, split.bookings⟩
  elsewhere _ _ different other :=
    ⟨other.hotels.insert_elsewhere fresh' fun same => different (same.symm.trans here),
      other.rooms, other.bookings⟩
  housed := ⟨housed.rooms, housed.bookings⟩

theorem follows_putHotel {hotel : Hotel} (here : home hotel.id = i) :
    Follows home i whole (part.putHotel hotel) (whole.putHotel hotel) where
  here := ⟨split.hotels.put hotel, split.rooms, split.bookings⟩
  elsewhere _ _ different other :=
    ⟨other.hotels.put_elsewhere fun same => different (same.symm.trans here),
      other.rooms, other.bookings⟩
  housed := ⟨housed.rooms, housed.bookings⟩

theorem follows_eraseHotel {id : Text} (unused : ∀ room ∈ part.rooms.rows, room.hotelId ≠ id)
    (unused' : ∀ room ∈ whole.rooms.rows, room.hotelId ≠ id) (here : home id = i) :
    Follows home i whole (part.eraseHotel id unused) (whole.eraseHotel id unused') where
  here := ⟨split.hotels.erase id, split.rooms, split.bookings⟩
  elsewhere _ _ different other :=
    ⟨other.hotels.erase_elsewhere fun same => different (same.symm.trans here),
      other.rooms, other.bookings⟩
  housed := ⟨housed.rooms, housed.bookings⟩

theorem follows_insertRoom {room : Room} (fresh : part.rooms.find? room.id = none)
    (fresh' : whole.rooms.find? room.id = none)
    (hotel : (part.hotels.find? room.hotelId).isSome)
    (hotel' : (whole.hotels.find? room.hotelId).isSome)
    (number : part.NumberFree room) (number' : whole.NumberFree room)
    (here : home room.id = i) (parent : home room.hotelId = i) :
    Follows home i whole (part.insertRoom room fresh hotel number)
      (whole.insertRoom room fresh' hotel' number') where
  here := ⟨split.hotels, split.rooms.insert fresh fresh' here, split.bookings⟩
  elsewhere _ _ different other :=
    ⟨other.hotels, other.rooms.insert_elsewhere fresh' fun same => different (same.symm.trans here),
      other.bookings⟩
  housed := by
    refine ⟨?_, housed.bookings⟩
    intro other member
    rcases mem_insertRoom.mp member with rfl | stored
    · exact parent.trans here.symm
    · exact housed.rooms other stored

theorem follows_putRoom {room : Room} (hotel : (part.hotels.find? room.hotelId).isSome)
    (hotel' : (whole.hotels.find? room.hotelId).isSome)
    (number : part.NumberFree room) (number' : whole.NumberFree room)
    (here : home room.id = i) (parent : home room.hotelId = i) :
    Follows home i whole (part.putRoom room hotel number) (whole.putRoom room hotel' number') where
  here := ⟨split.hotels, split.rooms.put room, split.bookings⟩
  elsewhere _ _ different other :=
    ⟨other.hotels, other.rooms.put_elsewhere fun same => different (same.symm.trans here),
      other.bookings⟩
  housed := by
    refine ⟨?_, housed.bookings⟩
    intro other member
    rcases Table.mem_put.mp member with ⟨rfl, _⟩ | ⟨stored, _⟩
    · exact parent.trans here.symm
    · exact housed.rooms other stored

theorem follows_eraseRoom {id : Text} (unused : ∀ booking ∈ part.bookings.rows, booking.roomId ≠ id)
    (unused' : ∀ booking ∈ whole.bookings.rows, booking.roomId ≠ id) (here : home id = i) :
    Follows home i whole (part.eraseRoom id unused) (whole.eraseRoom id unused') where
  here := ⟨split.hotels, split.rooms.erase id, split.bookings⟩
  elsewhere _ _ different other :=
    ⟨other.hotels, other.rooms.erase_elsewhere fun same => different (same.symm.trans here),
      other.bookings⟩
  housed := ⟨fun room member => housed.rooms room (Table.mem_erase.mp member).1, housed.bookings⟩

theorem follows_insertBooking {booking : Booking} (fresh : part.bookings.find? booking.id = none)
    (fresh' : whole.bookings.find? booking.id = none)
    (room : (part.rooms.find? booking.roomId).isSome)
    (room' : (whole.rooms.find? booking.roomId).isSome)
    (here : home booking.id = i) (parent : home booking.roomId = i) :
    Follows home i whole (part.insertBooking booking fresh room)
      (whole.insertBooking booking fresh' room') where
  here := ⟨split.hotels, split.rooms, split.bookings.insert fresh fresh' here⟩
  elsewhere _ _ different other :=
    ⟨other.hotels, other.rooms,
      other.bookings.insert_elsewhere fresh' fun same => different (same.symm.trans here)⟩
  housed := by
    refine ⟨housed.rooms, ?_⟩
    intro other member
    rcases mem_insertBooking.mp member with rfl | stored
    · exact parent.trans here.symm
    · exact housed.bookings other stored

theorem follows_putBooking {booking : Booking} (room : (part.rooms.find? booking.roomId).isSome)
    (room' : (whole.rooms.find? booking.roomId).isSome)
    (here : home booking.id = i) (parent : home booking.roomId = i) :
    Follows home i whole (part.putBooking booking room) (whole.putBooking booking room') where
  here := ⟨split.hotels, split.rooms, split.bookings.put booking⟩
  elsewhere _ _ different other :=
    ⟨other.hotels, other.rooms,
      other.bookings.put_elsewhere fun same => different (same.symm.trans here)⟩
  housed := by
    refine ⟨housed.rooms, ?_⟩
    intro other member
    rcases Table.mem_put.mp member with ⟨rfl, _⟩ | ⟨stored, _⟩
    · exact parent.trans here.symm
    · exact housed.bookings other stored

theorem follows_eraseBooking {id : Text} (here : home id = i) :
    Follows home i whole (part.eraseBooking id) (whole.eraseBooking id) where
  here := ⟨split.hotels, split.rooms, split.bookings.erase id⟩
  elsewhere _ _ different other :=
    ⟨other.hotels, other.rooms,
      other.bookings.erase_elsewhere fun same => different (same.symm.trans here)⟩
  housed := ⟨housed.rooms, fun booking member =>
    housed.bookings booking (Table.mem_erase.mp member).1⟩

end Writes
end Tables
end HotelBooking
