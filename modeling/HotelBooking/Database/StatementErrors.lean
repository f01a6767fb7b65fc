import HotelBooking.Database.World

/-! The errors that statements end with by themselves: constraints, missing rows and values of
the database, and the verdicts that a transaction function throws. A connection is lost, and a
transaction aborted, from outside only. -/
namespace HotelBooking
open Relational

/-- An error that a statement can decide on. -/
def Err.Own : Err → Prop
  | .db error => error ≠ .connection ∧ error ≠ .serialization
  | .http status _ => status ∈ [404, 409]
  | .plain _ | .redis _ | .saga .. => False

@[simp] theorem own_db {error : DbError} :
    (Err.db error).Own ↔ error ≠ .connection ∧ error ≠ .serialization := Iff.rfl

@[simp] theorem own_notFound {message : Text} : (Err.notFound message).Own :=
  List.mem_cons_self

@[simp] theorem own_conflict {message : Text} : (Err.conflict message).Own :=
  List.mem_cons_of_mem _ List.mem_cons_self

def Owns (result : Except Err α) : Prop := ∀ error, result = .error error → error.Own

section Results
variable {error : Err}

@[simp] theorem owns_ok (value : α) : Owns (.ok value : Except Err α) := nofun

@[simp] theorem owns_error : Owns (.error error : Except Err α) ↔ error.Own :=
  ⟨fun owns => owns error rfl, by rintro own _ ⟨⟩; exact own⟩

@[simp] theorem owns_throw : Owns (throw error : Except Err α) ↔ error.Own := owns_error

@[simp] theorem owns_bind {value : Except Err α} {next : α → Except Err β} :
    Owns (value >>= next) ↔ Owns value ∧ ∀ given, value = .ok given → Owns (next given) := by
  cases value with
  | error error => exact ⟨fun owns => ⟨owns_error.mpr (owns error rfl), nofun⟩, fun owns =>
      owns_error.mpr (owns.1 error rfl)⟩
  | ok given => exact ⟨fun owns => ⟨owns_ok given, by rintro _ ⟨⟩; exact owns⟩,
      fun owns => owns.2 given rfl⟩

@[simp] theorem owns_dite {condition : Prop} [Decidable condition]
    {yes : condition → Except Err α} {no : ¬ condition → Except Err α} :
    Owns (if h : condition then yes h else no h) ↔ (∀ h, Owns (yes h)) ∧ ∀ h, Owns (no h) := by
  split
  · next holds => exact ⟨fun owns => ⟨fun _ => owns, fun fails => absurd holds fails⟩,
      fun owns => owns.1 holds⟩
  · next fails => exact ⟨fun owns => ⟨fun holds => absurd holds fails, fun _ => owns⟩,
      fun owns => owns.2 fails⟩

end Results

section Columns

theorem owns_overWith {given : Field α} {convert : α → Except Err β} {old : β}
    (converts : ∀ value, Owns (convert value)) : Owns (given.overWith convert old) := by
  cases given with
  | absent => exact owns_ok old
  | null => simp [Field.overWith]
  | value new => exact converts new

@[simp] theorem owns_over (given : Field α) (old : α) : Owns (given.over old) :=
  owns_overWith owns_ok

@[simp] theorem owns_date (given : Option Instant) : Owns (date given) := by
  cases given <;> simp [date]

@[simp] theorem owns_decimal (number : Rat) : Owns (decimal number) := by
  unfold decimal
  split <;> simp

@[simp] theorem owns_integer (number : Int) : Owns (integer number) := by
  unfold integer
  split <;> simp

@[simp] theorem RoomFilter.owns_parameters (filter : RoomFilter) : Owns filter.parameters := by
  unfold parameters
  split
  · simp
  · split <;> simp

@[simp] theorem CreateHotelDto.owns_row (dto : CreateHotelDto) (id : Text) (createdAt : Instant) :
    Owns (dto.row id createdAt) := by simp [row]

@[simp] theorem UpdateHotelDto.owns_over (dto : UpdateHotelDto) (old : Hotel) :
    Owns (dto.over old) := by simp [UpdateHotelDto.over]

@[simp] theorem CreateRoomDto.owns_row (dto : CreateRoomDto) (id : Text) (createdAt : Instant) :
    Owns (dto.row id createdAt) := by simp [row]

@[simp] theorem UpdateRoomDto.owns_over (dto : UpdateRoomDto) (old : Room) :
    Owns (dto.over old) := by simp [UpdateRoomDto.over, owns_overWith]

@[simp] theorem BookingData.owns_over (data : BookingData) (old : Booking) :
    Owns (data.over old) := by simp [BookingData.over, owns_overWith]

@[simp] theorem UpdateGuestDto.owns_over (dto : UpdateGuestDto) (old : Guest) :
    Owns (dto.over old) := by simp [UpdateGuestDto.over]

end Columns

namespace Tables
variable (tables : Tables) (id : Text)

@[simp] theorem owns_bookingCreate (roomId guestId : Text) (checkIn checkOut : Instant)
    (totalCents : Int) (status : BookingStatus) (createdAt : Instant) :
    Owns (tables.bookingCreate id roomId guestId checkIn checkOut totalCents status createdAt) := by
  unfold bookingCreate
  split <;> simp

@[simp] theorem owns_bookingUpdate (data : BookingData) : Owns (tables.bookingUpdate id data) := by
  unfold bookingUpdate
  split <;> simp

@[simp] theorem owns_reserve (data : Reservation) (excluded : Option Text) :
    Owns (tables.reserve data excluded) := by
  unfold reserve
  split
  · simp only [owns_bind, owns_date, true_and]
    intro checkIn _ checkOut _
    split <;> simp
  · simp

end Tables

theorem Stmt.owns (stmt : Stmt) (tables : Tables) : Owns (stmt.exec tables) := by
  cases stmt with
  | hotelCreate id dto createdAt => simp [exec, Tables.hotelCreate]
  | hotelUpdate id dto =>
    simp only [exec, Tables.hotelUpdate]
    split <;> simp
  | hotelDelete id =>
    simp only [exec, Tables.hotelDelete]
    split <;> simp
  | roomCreate id dto createdAt => simp [exec, Tables.roomCreate]
  | roomUpdate id dto =>
    simp only [exec, Tables.roomUpdate]
    split <;> simp
  | roomDelete id =>
    simp only [exec, Tables.roomDelete]
    split <;> simp
  | roomSearch filter => simp [exec, Tables.roomSearch]
  | bookingUpdate id data => exact tables.owns_bookingUpdate id data
  | bookingDelete id =>
    simp only [exec, Tables.bookingDelete]
    split <;> simp
  | reserve data => exact tables.owns_reserve data none
  | reserveAndCancel data id => simp [exec, Tables.reserveAndCancel]
  | hotelFindMany | hotelFindUnique | hotelFindCard | roomFindMany | roomFindUnique
  | roomFindByNumber | bookingFindMany | bookingFindByGuest | bookingCount
  | bookingFindUnique | bookingFindView | bookingUpdateMany => exact owns_ok _

theorem GuestStmt.owns (stmt : GuestStmt) (directory : Guests) : Owns (stmt.exec directory) := by
  cases stmt with
  | findMany | findIn | findUnique | findByEmail => exact owns_ok _
  | create id dto createdAt => simp [exec]
  | update id dto =>
    simp only [exec]
    split <;> simp
  | delete id =>
    simp only [exec]
    split <;> simp

/-- Every error of a command that nothing struck is one that its statement decided on. -/
theorem World.owns_exec {n : Nat} (cmd : Cmd n) (world : World n) : Owns (exec cmd world).1 := by
  intro error failed
  cases cmd with
  | shard i stmt =>
    cases done : stmt.exec (world.shards i) with
    | error other =>
      rw [exec_shard_error done] at failed
      obtain rfl := Except.error.inj failed
      exact stmt.owns _ _ done
    | ok result =>
      rw [exec_shard_ok done] at failed
      cases failed
  | guests stmt =>
    have owns := stmt.owns world.guests
    simp only [exec] at failed
    split at failed
    · cases failed
    · next other done =>
      obtain rfl := Except.error.inj failed
      exact owns _ done
  | cache cmd => cases failed

end HotelBooking
