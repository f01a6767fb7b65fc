import HotelBooking.Database.Schema
import HotelBooking.Relational.Table

/-! The tables of one node with the constraints of the migrations as fields:
primary keys, unique indexes and foreign keys with ON DELETE RESTRICT. A write
is available only with the proof that its constraints hold, so every value of
these types is a state the database can be in. -/
namespace HotelBooking
open Relational

structure Tables where
  hotels : Table Hotel.id
  rooms : Table Room.id
  bookings : Table Booking.id
  rooms_hotel : ∀ room ∈ rooms, (hotels.find? room.hotelId).isSome
  rooms_number : ∀ first ∈ rooms, ∀ second ∈ rooms,
    first.hotelId = second.hotelId → first.roomNumber = second.roomNumber → first = second
  bookings_room : ∀ booking ∈ bookings, (rooms.find? booking.roomId).isSome

namespace Tables

def empty : Tables where
  hotels := .empty
  rooms := .empty
  bookings := .empty
  rooms_hotel room member := absurd member (Table.not_mem_empty room)
  rooms_number first member := absurd member (Table.not_mem_empty first)
  bookings_room booking member := absurd member (Table.not_mem_empty booking)

/-- No other room of this hotel has this number. -/
def NumberFree (tables : Tables) (room : Room) : Prop :=
  ∀ other ∈ tables.rooms.rows, other.hotelId = room.hotelId →
    other.roomNumber = room.roomNumber → other.id = room.id

instance (tables : Tables) (room : Room) : Decidable (tables.NumberFree room) :=
  inferInstanceAs (Decidable (∀ other ∈ tables.rooms.rows, _))

def insertHotel (tables : Tables) (hotel : Hotel)
    (fresh : tables.hotels.find? hotel.id = none) : Tables where
  hotels := tables.hotels.insert hotel fresh
  rooms := tables.rooms
  bookings := tables.bookings
  rooms_hotel room member := by
    rw [Table.find?_insert]
    split
    · rfl
    · exact tables.rooms_hotel room member
  rooms_number := tables.rooms_number
  bookings_room := tables.bookings_room

def putHotel (tables : Tables) (hotel : Hotel) : Tables where
  hotels := tables.hotels.put hotel
  rooms := tables.rooms
  bookings := tables.bookings
  rooms_hotel room member := by
    rw [Table.find?_put_isSome]
    exact tables.rooms_hotel room member
  rooms_number := tables.rooms_number
  bookings_room := tables.bookings_room

def eraseHotel (tables : Tables) (id : Text)
    (unused : ∀ room ∈ tables.rooms.rows, room.hotelId ≠ id) : Tables where
  hotels := tables.hotels.erase id
  rooms := tables.rooms
  bookings := tables.bookings
  rooms_hotel room member := by
    rw [Table.find?_erase, if_neg (unused room member)]
    exact tables.rooms_hotel room member
  rooms_number := tables.rooms_number
  bookings_room := tables.bookings_room

def insertRoom (tables : Tables) (room : Room) (fresh : tables.rooms.find? room.id = none)
    (hotel : (tables.hotels.find? room.hotelId).isSome) (number : tables.NumberFree room) :
    Tables where
  hotels := tables.hotels
  rooms := tables.rooms.insert room fresh
  bookings := tables.bookings
  rooms_hotel other member := by
    rcases (Table.mem_insert _).mp member with rfl | old
    · exact hotel
    · exact tables.rooms_hotel other old
  rooms_number first left second right sameHotel sameNumber := by
    have clash : ∀ other ∈ tables.rooms, other.hotelId = room.hotelId →
        other.roomNumber = room.roomNumber → False := fun other stored h n =>
      Table.find?_eq_none.mp fresh other stored (number other stored h n)
    rcases (Table.mem_insert _).mp left with rfl | oldLeft <;>
      rcases (Table.mem_insert _).mp right with rfl | oldRight
    · rfl
    · exact (clash second oldRight sameHotel.symm sameNumber.symm).elim
    · exact (clash first oldLeft sameHotel sameNumber).elim
    · exact tables.rooms_number first oldLeft second oldRight sameHotel sameNumber
  bookings_room booking member := by
    rw [Table.find?_insert]
    split
    · rfl
    · exact tables.bookings_room booking member

def putRoom (tables : Tables) (room : Room)
    (hotel : (tables.hotels.find? room.hotelId).isSome) (number : tables.NumberFree room) :
    Tables where
  hotels := tables.hotels
  rooms := tables.rooms.put room
  bookings := tables.bookings
  rooms_hotel other member := by
    rcases Table.mem_put.mp member with ⟨rfl, _⟩ | ⟨old, _⟩
    · exact hotel
    · exact tables.rooms_hotel other old
  rooms_number first left second right sameHotel sameNumber := by
    rcases Table.mem_put.mp left with ⟨rfl, _⟩ | ⟨oldLeft, leftKey⟩ <;>
      rcases Table.mem_put.mp right with ⟨rfl, _⟩ | ⟨oldRight, rightKey⟩
    · rfl
    · exact absurd (number second oldRight sameHotel.symm sameNumber.symm) rightKey
    · exact absurd (number first oldLeft sameHotel sameNumber) leftKey
    · exact tables.rooms_number first oldLeft second oldRight sameHotel sameNumber
  bookings_room booking member := by
    rw [Table.find?_put_isSome]
    exact tables.bookings_room booking member

def eraseRoom (tables : Tables) (id : Text)
    (unused : ∀ booking ∈ tables.bookings.rows, booking.roomId ≠ id) : Tables where
  hotels := tables.hotels
  rooms := tables.rooms.erase id
  bookings := tables.bookings
  rooms_hotel room member := tables.rooms_hotel room (Table.mem_erase.mp member).1
  rooms_number first left second right :=
    tables.rooms_number first (Table.mem_erase.mp left).1 second (Table.mem_erase.mp right).1
  bookings_room booking member := by
    rw [Table.find?_erase, if_neg (unused booking member)]
    exact tables.bookings_room booking member

def insertBooking (tables : Tables) (booking : Booking)
    (fresh : tables.bookings.find? booking.id = none)
    (room : (tables.rooms.find? booking.roomId).isSome) : Tables where
  hotels := tables.hotels
  rooms := tables.rooms
  bookings := tables.bookings.insert booking fresh
  rooms_hotel := tables.rooms_hotel
  rooms_number := tables.rooms_number
  bookings_room other member := by
    rcases (Table.mem_insert _).mp member with rfl | old
    · exact room
    · exact tables.bookings_room other old

def putBooking (tables : Tables) (booking : Booking)
    (room : (tables.rooms.find? booking.roomId).isSome) : Tables where
  hotels := tables.hotels
  rooms := tables.rooms
  bookings := tables.bookings.put booking
  rooms_hotel := tables.rooms_hotel
  rooms_number := tables.rooms_number
  bookings_room other member := by
    rcases Table.mem_put.mp member with ⟨rfl, _⟩ | ⟨old, _⟩
    · exact room
    · exact tables.bookings_room other old

def eraseBooking (tables : Tables) (id : Text) : Tables where
  hotels := tables.hotels
  rooms := tables.rooms
  bookings := tables.bookings.erase id
  rooms_hotel := tables.rooms_hotel
  rooms_number := tables.rooms_number
  bookings_room booking member :=
    tables.bookings_room booking (Table.mem_erase.mp member).1

theorem mem_insertHotel {tables : Tables} {hotel other : Hotel}
    {fresh : tables.hotels.find? hotel.id = none} :
    other ∈ (tables.insertHotel hotel fresh).hotels ↔ other = hotel ∨ other ∈ tables.hotels :=
  Table.mem_insert fresh

theorem mem_insertRoom {tables : Tables} {room other : Room}
    {fresh : tables.rooms.find? room.id = none}
    {hotel : (tables.hotels.find? room.hotelId).isSome} {number : tables.NumberFree room} :
    other ∈ (tables.insertRoom room fresh hotel number).rooms ↔
      other = room ∨ other ∈ tables.rooms :=
  Table.mem_insert fresh

theorem mem_insertBooking {tables : Tables} {booking other : Booking}
    {fresh : tables.bookings.find? booking.id = none}
    {room : (tables.rooms.find? booking.roomId).isSome} :
    other ∈ (tables.insertBooking booking fresh room).bookings ↔
      other = booking ∨ other ∈ tables.bookings :=
  Table.mem_insert fresh

theorem find?_insertBooking {tables : Tables} {booking : Booking}
    {fresh : tables.bookings.find? booking.id = none}
    {room : (tables.rooms.find? booking.roomId).isSome} (id : Text) :
    (tables.insertBooking booking fresh room).bookings.find? id =
      if booking.id = id then some booking else tables.bookings.find? id :=
  Table.find?_insert fresh id

theorem mem_putBooking {tables : Tables} {booking old other : Booking} {key : Text}
    {room : (tables.rooms.find? booking.roomId).isSome}
    (found : tables.bookings.find? key = some old) (same : booking.id = key) :
    other ∈ (tables.putBooking booking room).bookings ↔
      other = booking ∨ other ∈ tables.bookings ∧ other.id ≠ key := by
  subst same
  exact Table.mem_put_of_find found

theorem find?_putBooking {tables : Tables} {booking old : Booking} {key : Text}
    {room : (tables.rooms.find? booking.roomId).isSome}
    (found : tables.bookings.find? key = some old) (same : booking.id = key) (id : Text) :
    (tables.putBooking booking room).bookings.find? id =
      if booking.id = id then some booking else tables.bookings.find? id := by
  subst same
  exact Table.find?_put found id

theorem find?_eraseBooking {tables : Tables} (removed id : Text) :
    (tables.eraseBooking removed).bookings.find? id =
      if id = removed then none else tables.bookings.find? id :=
  Table.find?_erase removed id

end Tables

/-- The guest directory of the global node. -/
structure Guests where
  guests : Table Guest.id
  guests_email : ∀ first ∈ guests, ∀ second ∈ guests, first.email = second.email → first = second

namespace Guests

def empty : Guests where
  guests := .empty
  guests_email first member := absurd member (Table.not_mem_empty first)

def EmailFree (directory : Guests) (guest : Guest) : Prop :=
  ∀ other ∈ directory.guests.rows, other.email = guest.email → other.id = guest.id

instance (directory : Guests) (guest : Guest) : Decidable (directory.EmailFree guest) :=
  inferInstanceAs (Decidable (∀ other ∈ directory.guests.rows, _))

def insert (directory : Guests) (guest : Guest)
    (fresh : directory.guests.find? guest.id = none) (email : directory.EmailFree guest) :
    Guests where
  guests := directory.guests.insert guest fresh
  guests_email first left second right same := by
    have clash : ∀ other ∈ directory.guests, other.email = guest.email → False :=
      fun other stored e => Table.find?_eq_none.mp fresh other stored (email other stored e)
    rcases (Table.mem_insert _).mp left with rfl | oldLeft <;>
      rcases (Table.mem_insert _).mp right with rfl | oldRight
    · rfl
    · exact (clash second oldRight same.symm).elim
    · exact (clash first oldLeft same).elim
    · exact directory.guests_email first oldLeft second oldRight same

def put (directory : Guests) (guest : Guest) (email : directory.EmailFree guest) : Guests where
  guests := directory.guests.put guest
  guests_email first left second right same := by
    rcases Table.mem_put.mp left with ⟨rfl, _⟩ | ⟨oldLeft, leftKey⟩ <;>
      rcases Table.mem_put.mp right with ⟨rfl, _⟩ | ⟨oldRight, rightKey⟩
    · rfl
    · exact absurd (email second oldRight same.symm) rightKey
    · exact absurd (email first oldLeft same) leftKey
    · exact directory.guests_email first oldLeft second oldRight same

def erase (directory : Guests) (id : Text) : Guests where
  guests := directory.guests.erase id
  guests_email first left second right :=
    directory.guests_email first (Table.mem_erase.mp left).1 second (Table.mem_erase.mp right).1

end Guests
end HotelBooking
