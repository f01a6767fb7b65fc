import HotelBooking.Topology.Split
import HotelBooking.Effect.Simulation

/-! A statement about keys of one home, run on the shard of that home and on the single node.
It finds the same rows, checks the same constraints and makes the same write. -/
namespace HotelBooking
open Relational Effect
variable {ι α : Type} {home : Text → ι} {i : ι}

/-- Every key that a statement reads or writes has the home `i`. The statements that list rows
of all shards are local to none. -/
def Stmt.LocalTo (home : Text → ι) (i : ι) : Stmt → Prop
  | .hotelCreate id _ _ | .hotelFindUnique id | .hotelFindCard id | .hotelUpdate id _
  | .hotelDelete id | .roomFindUnique id | .roomDelete id | .bookingFindUnique id
  | .bookingFindView id | .bookingUpdateMany id _ _ | .bookingDelete id => home id = i
  | .roomCreate id dto _ => home id = i ∧ home dto.hotelId = i
  | .roomFindByNumber hotelId _ => home hotelId = i
  | .roomUpdate id dto => home id = i ∧ ∀ hotelId, dto.hotelId = .value hotelId → home hotelId = i
  | .bookingUpdate id data => home id = i ∧ ∀ roomId, data.roomId = .value roomId → home roomId = i
  | .reserve data => home data.id = i ∧ home data.roomId = i
  | .reserveAndCancel data id => home data.id = i ∧ home data.roomId = i ∧ home id = i
  | .hotelFindMany | .roomFindMany | .roomSearch _ | .bookingFindMany | .bookingFindByGuest _
  | .bookingCount _ => False

namespace Tables
variable [DecidableEq ι]

/-- Equal answers, and tables that stay a shard and the whole. -/
def Lockstep (home : Text → ι) (i : ι) (whole : Tables) (left right : α × Tables) : Prop :=
  left.1 = right.1 ∧ Follows home i whole left.2 right.2

variable {part whole : Tables} (split : Split home i part whole) (housed : Housed home whole)
include split housed

theorem lockstep_read {first second : α} (same : first = second) :
    Matches (ε := Err) (Lockstep home i whole) (.ok (first, part)) (.ok (second, whole)) :=
  ⟨same, follows_refl split housed⟩

omit housed in
theorem roomView?_split {room : Room} (here : home room.hotelId = i) :
    part.roomView? room = whole.roomView? room := by
  simp only [roomView?, split.hotels.find? here]

theorem bookingView?_split {booking : Booking} (here : home booking.roomId = i) :
    part.bookingView? booking = whole.bookingView? booking := by
  simp only [bookingView?, split.rooms.find? here]
  cases found : whole.rooms.find? booking.roomId with
  | none => rfl
  | some room =>
    obtain ⟨stored, same⟩ := Table.find?_eq_some.mp found
    have parent : home room.hotelId = i := (housed.rooms room stored).trans (same ▸ here)
    simp only [Option.bind_eq_bind, Option.bind_some, split.hotels.find? parent]

theorem numberFree_split {room : Room} (here : home room.hotelId = i) :
    part.NumberFree room ↔ whole.NumberFree room := by
  refine split.rooms.forall_iff fun other member elsewhere same => ?_
  exact absurd (housed.room_home member (same ▸ here)) elsewhere

section Hotels
variable {id : Text}

theorem hotelCard?_split (here : home id = i) : part.hotelCard? id = whole.hotelCard? id := by
  have rooms : (part.rooms.rows.filter fun room => room.hotelId = id) =
      whole.rooms.rows.filter fun room => room.hotelId = id := by
    refine split.rooms.filter_rows fun room member same => housed.room_home member ?_
    rw [of_decide_eq_true same, here]
  simp only [hotelCard?, split.hotels.find? here, rooms]

theorem lockstep_hotelCreate {dto : CreateHotelDto} {createdAt : Instant} (here : home id = i) :
    Matches (Lockstep home i whole) (part.hotelCreate id dto createdAt)
      (whole.hotelCreate id dto createdAt) := by
  refine matches_bind_same fun hotel row => ?_
  have key : home hotel.id = i := by rw [(CreateHotelDto.row_ok row).1, here]
  refine related_dite (by rw [split.hotels.find? key]) (fun fresh fresh' => ?_) fun _ _ => rfl
  exact ⟨rfl, follows_insertHotel split housed key⟩

theorem lockstep_hotelUpdate {dto : UpdateHotelDto} (here : home id = i) :
    Matches (Lockstep home i whole) (part.hotelUpdate id dto) (whole.hotelUpdate id dto) := by
  simp only [hotelUpdate, split.hotels.find? here]
  cases found : whole.hotels.find? id with
  | none => rfl
  | some old =>
    refine matches_bind_same fun hotel merged => ?_
    have key : home hotel.id = i := by
      rw [(UpdateHotelDto.over_ok merged).1, (Table.find?_eq_some.mp found).2, here]
    exact ⟨rfl, follows_putHotel split housed key⟩

theorem lockstep_hotelDelete (here : home id = i) :
    Matches (Lockstep home i whole) (part.hotelDelete id) (whole.hotelDelete id) := by
  simp only [hotelDelete, split.hotels.find? here]
  cases whole.hotels.find? id with
  | none => rfl
  | some hotel =>
    have unused : (∀ room ∈ part.rooms.rows, room.hotelId ≠ id) ↔
        ∀ room ∈ whole.rooms.rows, room.hotelId ≠ id := by
      refine split.rooms.forall_iff fun room member elsewhere same => ?_
      exact elsewhere (housed.room_home member (same ▸ here))
    exact related_dite unused (fun unused unused' =>
      ⟨rfl, follows_eraseHotel split housed unused unused' here⟩) fun _ _ => rfl

end Hotels

section Rooms
variable {id : Text}

theorem lockstep_roomCreate {dto : CreateRoomDto} {createdAt : Instant} (here : home id = i)
    (parent : home dto.hotelId = i) :
    Matches (Lockstep home i whole) (part.roomCreate id dto createdAt)
      (whole.roomCreate id dto createdAt) := by
  refine matches_bind_same fun room row => ?_
  obtain ⟨sameId, sameHotel⟩ := CreateRoomDto.row_ok row
  have key : home room.id = i := by rw [sameId, here]
  have hotelKey : home room.hotelId = i := by rw [sameHotel, parent]
  refine related_dite (by rw [split.rooms.find? key]) (fun fresh fresh' => ?_) fun _ _ => rfl
  refine related_dite (numberFree_split split housed hotelKey) (fun number number' => ?_)
    fun _ _ => rfl
  refine related_dite (by rw [split.hotels.find? hotelKey]) (fun hotel hotel' => ?_) fun _ _ => rfl
  exact ⟨rfl, follows_insertRoom split housed fresh fresh' hotel hotel' number number' key hotelKey⟩

theorem lockstep_roomUpdate {dto : UpdateRoomDto} (here : home id = i)
    (given : ∀ hotelId, dto.hotelId = .value hotelId → home hotelId = i) :
    Matches (Lockstep home i whole) (part.roomUpdate id dto) (whole.roomUpdate id dto) := by
  simp only [roomUpdate, split.rooms.find? here]
  cases found : whole.rooms.find? id with
  | none => rfl
  | some old =>
    obtain ⟨stored, sameOld⟩ := Table.find?_eq_some.mp found
    refine matches_bind_same fun room merged => ?_
    obtain ⟨sameId, hotelId⟩ := UpdateRoomDto.over_ok merged
    have key : home room.id = i := by rw [sameId, sameOld, here]
    have hotelKey : home room.hotelId = i := by
      cases parent : dto.hotelId with
      | absent =>
        rw [parent] at hotelId
        rw [← Except.ok.inj hotelId, housed.rooms old stored, sameOld, here]
      | null =>
        rw [parent] at hotelId
        cases hotelId
      | value new =>
        rw [parent] at hotelId
        rw [← Except.ok.inj hotelId, given new parent]
    refine related_dite (numberFree_split split housed hotelKey) (fun number number' => ?_)
      fun _ _ => rfl
    refine related_dite (by rw [split.hotels.find? hotelKey]) (fun hotel hotel' => ?_)
      fun _ _ => rfl
    exact ⟨rfl, follows_putRoom split housed hotel hotel' number number' key hotelKey⟩

theorem lockstep_roomDelete (here : home id = i) :
    Matches (Lockstep home i whole) (part.roomDelete id) (whole.roomDelete id) := by
  simp only [roomDelete, split.rooms.find? here]
  cases whole.rooms.find? id with
  | none => rfl
  | some room =>
    have unused : (∀ booking ∈ part.bookings.rows, booking.roomId ≠ id) ↔
        ∀ booking ∈ whole.bookings.rows, booking.roomId ≠ id := by
      refine split.bookings.forall_iff fun booking member elsewhere same => ?_
      exact elsewhere (housed.booking_home member (same ▸ here))
    exact related_dite unused (fun unused unused' =>
      ⟨rfl, follows_eraseRoom split housed unused unused' here⟩) fun _ _ => rfl

end Rooms

section Bookings
variable {id : Text}

theorem lockstep_bookingUpdate {data : BookingData} (here : home id = i)
    (given : ∀ roomId, data.roomId = .value roomId → home roomId = i) :
    Matches (Lockstep home i whole) (part.bookingUpdate id data) (whole.bookingUpdate id data) := by
  simp only [bookingUpdate, split.bookings.find? here]
  cases found : whole.bookings.find? id with
  | none => rfl
  | some old =>
    obtain ⟨stored, sameOld⟩ := Table.find?_eq_some.mp found
    refine matches_bind_same fun booking merged => ?_
    obtain ⟨sameId, roomId, _⟩ := BookingData.over_ok merged
    have key : home booking.id = i := by rw [sameId, sameOld, here]
    have roomKey : home booking.roomId = i := by
      cases parent : data.roomId with
      | absent =>
        rw [parent] at roomId
        rw [← Except.ok.inj roomId, housed.bookings old stored, sameOld, here]
      | null =>
        rw [parent] at roomId
        cases roomId
      | value new =>
        rw [parent] at roomId
        rw [← Except.ok.inj roomId, given new parent]
    exact related_dite (by rw [split.rooms.find? roomKey]) (fun room room' =>
      ⟨rfl, follows_putBooking split housed room room' key roomKey⟩) fun _ _ => rfl

theorem lockstep_bookingUpdateMany {statuses : List BookingStatus} {status : BookingStatus}
    (here : home id = i) : Lockstep home i whole (part.bookingUpdateMany id statuses status)
      (whole.bookingUpdateMany id statuses status) := by
  have same := split.bookings.find? here
  by_cases listed : ∃ old, whole.bookings.find? id = some old ∧ old.status ∈ statuses
  · obtain ⟨old, found, listed⟩ := listed
    obtain ⟨room, changed⟩ := bookingUpdateMany_changed (same.trans found) listed status
    obtain ⟨room', changed'⟩ := bookingUpdateMany_changed found listed status
    rw [changed, changed']
    obtain ⟨stored, rfl⟩ := Table.find?_eq_some.mp found
    exact ⟨rfl, follows_putBooking split housed room room' here
      ((housed.bookings old stored).trans here)⟩
  · have unlisted : ∀ old, whole.bookings.find? id = some old → old.status ∉ statuses :=
      fun old found member => listed ⟨old, found, member⟩
    rw [bookingUpdateMany_unchanged (same ▸ unlisted), bookingUpdateMany_unchanged unlisted]
    exact ⟨rfl, follows_refl split housed⟩

theorem lockstep_bookingDelete (here : home id = i) :
    Matches (Lockstep home i whole) (part.bookingDelete id) (whole.bookingDelete id) := by
  simp only [bookingDelete, split.bookings.find? here]
  cases whole.bookings.find? id with
  | none => rfl
  | some booking => exact ⟨rfl, follows_eraseBooking split housed here⟩

theorem lockstep_reserve {data : Reservation} {excluded : Option Text} (here : home data.id = i)
    (parent : home data.roomId = i) :
    Matches (Lockstep home i whole) (part.reserve data excluded) (whole.reserve data excluded) := by
  simp only [reserve, split.rooms.find? parent]
  cases whole.rooms.find? data.roomId with
  | none => rfl
  | some room =>
    refine matches_bind_same fun checkIn _ => matches_bind_same fun checkOut _ => ?_
    have overlapping : part.bookings.rows.find? (overlaps data.roomId checkIn checkOut excluded) =
        whole.bookings.rows.find? (overlaps data.roomId checkIn checkOut excluded) := by
      refine split.bookings.find?_rows fun booking member overlap => ?_
      exact housed.booking_home member (by rw [overlaps_room overlap, parent])
    rw [overlapping]
    split
    · rfl
    · simp only [bookingCreate]
      split
      · refine related_dite (by rw [split.bookings.find? here]) (fun fresh fresh' => ?_)
          fun _ _ => rfl
        exact related_dite (by rw [split.rooms.find? parent]) (fun room room' =>
          ⟨rfl, follows_insertBooking split housed fresh fresh' room room' here parent⟩)
          fun _ _ => rfl
      · rfl

theorem lockstep_reserveAndCancel {data : Reservation} (here : home data.id = i)
    (parent : home data.roomId = i) (original : home id = i) :
    Matches (Lockstep home i whole) (part.reserveAndCancel data id)
      (whole.reserveAndCancel data id) := by
  refine related_bind (lockstep_reserve split housed here parent) ?_
  rintro ⟨created, reserved⟩ ⟨_, reserved'⟩ _ _ ⟨rfl, first⟩
  refine related_bind (lockstep_bookingUpdate first.here first.housed original ?_) ?_
  · intro roomId given
    cases given
  · rintro ⟨previous, after⟩ ⟨_, after'⟩ _ _ ⟨rfl, second⟩
    exact ⟨rfl, first.trans second⟩

end Bookings
end Tables

/-- The statements of one home, on its shard and on the single node. -/
theorem Stmt.lockstep [DecidableEq ι] {part whole : Tables} {stmt : Stmt}
    (split : Tables.Split home i part whole) (housed : Tables.Housed home whole)
    (here : stmt.LocalTo home i) :
    Matches (Tables.Lockstep home i whole) (stmt.exec part) (stmt.exec whole) := by
  cases stmt with
  | hotelFindMany | roomFindMany | roomSearch | bookingFindMany | bookingFindByGuest
  | bookingCount => exact here.elim
  | hotelCreate id dto createdAt => exact Tables.lockstep_hotelCreate split housed here
  | hotelFindUnique id => exact Tables.lockstep_read split housed (split.hotels.find? here)
  | hotelFindCard id =>
    exact Tables.lockstep_read split housed (Tables.hotelCard?_split split housed here)
  | hotelUpdate id dto => exact Tables.lockstep_hotelUpdate split housed here
  | hotelDelete id => exact Tables.lockstep_hotelDelete split housed here
  | roomCreate id dto createdAt => exact Tables.lockstep_roomCreate split housed here.1 here.2
  | roomFindUnique id =>
    refine Tables.lockstep_read split housed ?_
    rw [split.rooms.find? here]
    cases found : whole.rooms.find? id with
    | none => rfl
    | some room =>
      obtain ⟨stored, rfl⟩ := Table.find?_eq_some.mp found
      exact Tables.roomView?_split split ((housed.rooms room stored).trans here)
  | roomFindByNumber hotelId roomNumber =>
    refine Tables.lockstep_read split housed (split.rooms.find?_rows fun room member same => ?_)
    exact housed.room_home member (by rw [(of_decide_eq_true same).1, here])
  | roomUpdate id dto => exact Tables.lockstep_roomUpdate split housed here.1 here.2
  | roomDelete id => exact Tables.lockstep_roomDelete split housed here
  | bookingFindUnique id => exact Tables.lockstep_read split housed (split.bookings.find? here)
  | bookingFindView id =>
    refine Tables.lockstep_read split housed ?_
    rw [split.bookings.find? here]
    cases found : whole.bookings.find? id with
    | none => rfl
    | some booking =>
      obtain ⟨stored, rfl⟩ := Table.find?_eq_some.mp found
      exact Tables.bookingView?_split split housed ((housed.bookings booking stored).trans here)
  | bookingUpdate id data => exact Tables.lockstep_bookingUpdate split housed here.1 here.2
  | bookingUpdateMany id statuses status =>
    exact Tables.lockstep_bookingUpdateMany split housed here
  | bookingDelete id => exact Tables.lockstep_bookingDelete split housed here
  | reserve data => exact Tables.lockstep_reserve split housed here.1 here.2
  | reserveAndCancel data id =>
    exact Tables.lockstep_reserveAndCancel split housed here.1 here.2.1 here.2.2
end HotelBooking
