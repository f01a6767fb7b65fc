import HotelBooking.Invariants.SequentialBooking
import Mathlib.Data.Rat.Floor

/-! The total of a booking is the price of its stay at the moment when its room or its dates were
last written. A reservation writes the room, the dates and the total together; PATCH writes the
room and the dates only. -/
namespace HotelBooking
open Relational Effect
variable {n : Nat} {env : Env n}

def Decimal.value (decimal : Decimal) : Rat := decimal.cents / 100

/-- The days of the stay, a day begun counting in full, at the price per night. -/
def stayPrice (pricePerNight : Decimal) (checkIn checkOut : Instant) : Rat :=
  ⌈((checkOut - checkIn : Int) : Rat) / (24 * 60 * 60 * 1000 : Nat)⌉ * pricePerNight.value

/-- Arrival before departure, and the total that the price per night makes. -/
structure Booking.Priced (booking : Booking) (pricePerNight : Decimal) : Prop where
  ordered : booking.checkInDate < booking.checkOutDate
  total : booking.totalPrice.value =
    stayPrice pricePerNight booking.checkInDate booking.checkOutDate

/-- The calls and the price at which each booking was last written, besides the world. -/
structure Ledger (n : Nat) where
  world : World n
  quotes : Fin n → Text → Option Decimal

def Ledger.blank (world : World n) : Ledger n := ⟨world, fun _ _ => none⟩

theorem Ledger.blank_world (world : World n) : (Ledger.blank world).world = world := rfl

/-- The price per night of the room of a booking. -/
def World.roomPrice (world : World n) (i : Fin n) (id : Text) : Option Decimal := do
  let booking ← (world.shards i).bookings.find? id
  let room ← (world.shards i).rooms.find? booking.roomId
  return room.pricePerNight

def UpdateBookingDto.GivesStay (dto : UpdateBookingDto) : Prop :=
  dto.roomId ≠ .absent ∨ dto.checkInDate ≠ .absent ∨ dto.checkOutDate ≠ .absent

/-- A PATCH of the room or the dates of the booking that succeeds. -/
def Call.Patches (env : Env n) (world : World n) (call : Call n) (i : Fin n) (id : Text) : Prop :=
  i = env.router.forKey id ∧ (∃ dto, call.request = .updateBooking id dto ∧ dto.GivesStay) ∧
    (call.serve env world).1.toOption.isSome = true

/-- The call writes the room or the dates of the booking: it makes or patches the booking. -/
def Call.WritesStay (env : Env n) (world : World n) (call : Call n) (i : Fin n) (id : Text) : Prop :=
  (world.shards i).bookings.find? id = none ∨ call.Patches env world i id

/-- A served call, and the prices of the rooms whose bookings it writes. -/
structure Ledger.Served (env : Env n) (before : Ledger n) (call : Call n) (after : Ledger n) :
    Prop where
  served : call.Served env before.world after.world
  written : ∀ i id, call.WritesStay env before.world i id →
    after.quotes i id = after.world.roomPrice i id
  kept : ∀ i id, ¬ call.WritesStay env before.world i id → after.quotes i id = before.quotes i id

/-- Every call can be entered in the ledger. -/
theorem Ledger.exists_served (env : Env n) (before : Ledger n) (call : Call n) :
    ∃ after, before.Served env call after ∧ after.world = (call.serve env before.world).2 := by
  classical
  exact ⟨⟨(call.serve env before.world).2, fun i id =>
    if call.WritesStay env before.world i id then
      ((call.serve env before.world).2).roomPrice i id else before.quotes i id⟩,
    ⟨rfl, fun i id writes => if_pos writes, fun i id keeps => if_neg keeps⟩, rfl⟩

/-- Every booking is ordered and has the price that it was last written at. -/
def Ledger.Priced (ledger : Ledger n) : Prop :=
  ∀ i, ∀ booking ∈ (ledger.world.shards i).bookings,
    ∃ price, ledger.quotes i booking.id = some price ∧ booking.Priced price

/-- The row that a PATCH of the room or the dates writes is ordered, and its total, which it leaves
as it is, is the price of the new stay. -/
def UpdatePriced (tables : Tables) (id : Text) (data : BookingData) : Prop :=
  ∀ old new room, tables.bookings.find? id = some old → data.over old = .ok new →
    tables.rooms.find? new.roomId = some room → new.Priced room.pricePerNight

/-- PATCH is refused, or leaves the stay, or writes a stay that the total fits. -/
def PatchPriced (env : Env n) (world : World n) (call : Call n) : Prop :=
  ∀ id dto, call.request = .updateBooking id dto → dto.GivesStay →
    BookingsService.foreignBucket dto.roomId id = false →
    (∀ guestId, dto.guestId = .value guestId → (world.guests.guests.find? guestId).isSome) →
    UpdatePriced (world.shards (env.router.forKey id)) id
      (BookingsService.patchData env.platform dto)

section Price

theorem stayPrice_nights (pricePerNight : Decimal) (checkIn checkOut : Instant) :
    stayPrice pricePerNight checkIn checkOut =
      (pricePerNight.cents * Tables.nights checkIn checkOut : Int) / 100 := by
  have days : ⌈((checkOut - checkIn : Int) : Rat) / (24 * 60 * 60 * 1000 : Nat)⌉ =
      Tables.nights checkIn checkOut :=
    Rat.ceil_intCast_div_natCast (checkOut - checkIn) (24 * 60 * 60 * 1000)
  unfold stayPrice Decimal.value
  rw [days]
  push_cast
  ring

theorem Decimal.cents_of_ofCents? {cents : Int} {decimal : Decimal}
    (made : Decimal.ofCents? cents = some decimal) : decimal.cents = cents := by
  unfold Decimal.ofCents? at made
  split at made
  · cases made
    rfl
  · cases made

/-- What `reserve` stores. -/
theorem Tables.reserve_priced {tables after : Tables} {data : Reservation} {excluded : Option Text}
    {created : Booking} (done : tables.reserve data excluded = .ok (created, after)) :
    ∃ room, tables.rooms.find? created.roomId = some room ∧ created.totalPrice.value =
      stayPrice room.pricePerNight created.checkInDate created.checkOutDate := by
  unfold reserve at done
  cases foundRoom : tables.rooms.find? data.roomId with
  | none => simp [foundRoom] at done
  | some room =>
    simp only [foundRoom, except_bind_ok, date_ok] at done
    obtain ⟨checkIn, _, checkOut, _, done⟩ := done
    split at done
    · simp at done
    · unfold bookingCreate at done
      cases price : Decimal.ofCents? (room.pricePerNight.cents * nights checkIn checkOut) with
      | none => simp [price] at done
      | some totalPrice =>
        simp only [price] at done
        split at done
        · split at done
          · cases done
            refine ⟨room, foundRoom, ?_⟩
            rw [stayPrice_nights]
            unfold Decimal.value
            rw [Decimal.cents_of_ofCents? price]
          · cases done
        · cases done

end Price

/-- The columns that a total depends on, and the total. -/
structure SameStay (first second : Booking) : Prop where
  id : first.id = second.id
  roomId : first.roomId = second.roomId
  checkIn : first.checkInDate = second.checkInDate
  checkOut : first.checkOutDate = second.checkOutDate
  total : first.totalPrice = second.totalPrice

theorem SameStay.priced {first second : Booking} (same : SameStay first second) {price : Decimal}
    (priced : second.Priced price) : first.Priced price := by
  constructor
  · rw [same.checkIn, same.checkOut]
    exact priced.ordered
  · rw [same.total, same.checkIn, same.checkOut]
    exact priced.total

/-- A booking of a later table: an old stay, or a new one at the price of its room. -/
def Tables.Keeps (before : Tables) (booking : Booking) : Prop :=
  (∃ old ∈ before.bookings, SameStay booking old) ∨
    before.bookings.find? booking.id = none ∧
      ∃ room, before.rooms.find? booking.roomId = some room ∧ booking.Priced room.pricePerNight

theorem Tables.Keeps.congr {before : Tables} {first second : Booking} (same : SameStay first second)
    (keeps : before.Keeps second) : before.Keeps first := by
  rcases keeps with ⟨old, stored, stay⟩ | ⟨fresh, room, found, priced⟩
  · exact Or.inl ⟨old, stored, same.id.trans stay.id, same.roomId.trans stay.roomId,
      same.checkIn.trans stay.checkIn, same.checkOut.trans stay.checkOut, same.total.trans stay.total⟩
  · exact Or.inr ⟨same.id ▸ fresh, room, same.roomId ▸ found, same.priced priced⟩

/-- What the calls that reserve do to one shard. -/
structure Tables.Extends (before after : Tables) : Prop where
  rooms : after.rooms = before.rooms
  stored : ∀ id, after.bookings.find? id = none → before.bookings.find? id = none
  stays : ∀ booking ∈ after.bookings, before.Keeps booking

/-- The dates of a reservation are in order if they are dates. -/
def Reservation.Ordered (data : Reservation) : Prop := notAfter data.checkOut data.checkIn = false

/-- Statements that write no stay of a booking that is there. -/
inductive Stmt.Orderly : Stmt → Prop where
  | read {stmt : Stmt} : stmt.isRead = true → Orderly stmt
  | status {id : Text} {status : BookingStatus} : Orderly (.bookingUpdate id { status := .value status })
  | statuses {id : Text} {expected : List BookingStatus} {status : BookingStatus} :
      Orderly (.bookingUpdateMany id expected status)
  | reserve {data : Reservation} : data.Ordered → Orderly (.reserve data)
  | reserveAndCancel {data : Reservation} {id : Text} : data.Ordered →
      Orderly (.reserveAndCancel data id)

section Orderly
variable {before tables after : Tables}

theorem Reservation.Ordered.lt {data : Reservation} (ordered : data.Ordered) {checkIn checkOut : Instant}
    (arrives : data.checkIn = some checkIn) (leaves : data.checkOut = some checkOut) :
    checkIn < checkOut := by
  unfold Reservation.Ordered at ordered
  rw [arrives, leaves] at ordered
  exact Int.not_le.mp (of_decide_eq_false ordered)

theorem Tables.Extends.put (grown : before.Extends tables) {id : Text} {old new : Booking}
    (found : tables.bookings.find? id = some old) (same : SameStay new old)
    (room : (tables.rooms.find? new.roomId).isSome) : before.Extends (tables.putBooking new room) := by
  have stored := (Table.find?_eq_some.mp found).1
  refine ⟨grown.rooms, fun id missing => grown.stored id ?_, fun booking member => ?_⟩
  · rw [← Option.not_isSome_iff_eq_none] at missing ⊢
    exact fun present => missing ((Table.find?_put_isSome id).trans present)
  · rcases Table.mem_put.mp member with ⟨rfl, _⟩ | ⟨kept, _⟩
    · exact (grown.stays old stored).congr same
    · exact grown.stays booking kept

theorem Tables.Extends.status (grown : before.Extends tables) {id : Text} {status : BookingStatus}
    {written : Booking}
    (done : tables.bookingUpdate id { status := .value status } = .ok (written, after)) :
    before.Extends after := by
  obtain ⟨old, room, found, merged, rfl⟩ := Tables.bookingUpdate_ok done
  cases merged
  have same : SameStay { old with status } old := ⟨rfl, rfl, rfl, rfl, rfl⟩
  exact grown.put found same room

theorem Tables.Extends.reserve (grown : before.Extends tables) {data : Reservation}
    {excluded : Option Text} {created : Booking} (ordered : data.Ordered)
    (done : tables.reserve data excluded = .ok (created, after)) : before.Extends after := by
  obtain ⟨room, found, total⟩ := Tables.reserve_priced done
  obtain ⟨made, rfl⟩ := Tables.reserve_ok done
  refine ⟨grown.rooms, fun id missing => grown.stored id ?_, fun booking member => ?_⟩
  · have inserted := (Table.find?_insert made.fresh id).symm.trans missing
    split at inserted
    · cases inserted
    · exact inserted
  · rcases (Table.mem_insert made.fresh).mp member with rfl | kept
    · refine Or.inr ⟨grown.stored _ made.fresh, room, grown.rooms ▸ found, ?_, total⟩
      exact ordered.lt made.checkIn made.checkOut
    · exact grown.stays booking kept

theorem Stmt.Orderly.extends {stmt : Stmt} {answer : stmt.Answer} (orderly : stmt.Orderly)
    (grown : before.Extends tables) (done : stmt.exec tables = .ok (answer, after)) :
    before.Extends after := by
  cases orderly with
  | read isRead =>
    cases Stmt.wrote done with
    | read => exact grown
    | _ => cases isRead
  | status => exact grown.status done
  | @statuses _ _ given =>
    cases Stmt.wrote done with
    | read isRead => cases isRead
    | bookingUnchanged => exact grown
    | @bookingUpdateMany _ _ _ old found member room =>
      have same : SameStay { old with status := given } old := ⟨rfl, rfl, rfl, rfl, rfl⟩
      exact grown.put found same room
  | reserve ordered => exact grown.reserve ordered done
  | reserveAndCancel ordered =>
    obtain ⟨created, previous⟩ := answer
    obtain ⟨reserved, reserving, cancelling⟩ := Tables.reserveAndCancel_ok done
    exact (grown.reserve ordered reserving).status cancelling

end Orderly

/-- What the calls that reserve do to the world. -/
def World.Extends (before after : World n) : Prop :=
  ∀ i, (before.shards i).Extends (after.shards i)

inductive Cmd.Orderly : Cmd n → Prop where
  | shard {i : Fin n} {stmt : Stmt} : stmt.Orderly → Orderly (.shard i stmt)
  | guests {stmt : GuestStmt} : Orderly (.guests stmt)
  | cache {cmd : CacheCmd} : Orderly (.cache cmd)

section Calls
variable {before world : World n}

theorem World.Extends.refl (world : World n) : world.Extends world := fun _ =>
  ⟨rfl, fun _ missing => missing, fun booking stored =>
    Or.inl ⟨booking, stored, rfl, rfl, rfl, rfl, rfl⟩⟩

theorem Cmd.Orderly.extends {cmd : Cmd n} (orderly : cmd.Orderly) (grown : before.Extends world) :
    before.Extends (World.exec cmd world).2 := by
  cases orderly with
  | @shard i stmt orderly =>
    cases done : stmt.exec (world.shards i) with
    | error error =>
      rw [World.exec_shard_error done]
      exact grown
    | ok result =>
      obtain ⟨answer, tables⟩ := result
      rw [World.exec_shard_ok done]
      intro j
      by_cases here : j = i
      · subst here
        rw [World.setShard_self]
        exact orderly.extends (grown j) done
      · rw [World.setShard_of_ne world here]
        exact grown j
  | @guests stmt =>
    simp only [World.exec]
    split <;> exact grown
  | cache => exact grown

theorem extends_of_uses {program : Async n α} (uses : program.Uses Cmd.Orderly)
    (grown : before.Extends world) : before.Extends (program.run World.exec world).2 :=
  Program.run_preserves (fun _ _ orderly grown => Cmd.Orderly.extends orderly grown) uses grown

/-- The reservation of a relocation has the dates of the original. -/
theorem relocation_ordered {entropy : Entropy} {roomId : Text} {original : Booking}
    {status : BookingStatus} {k : Nat} (ordered : original.checkInDate < original.checkOutDate) :
    (BookingsService.relocation entropy roomId original status k).Ordered :=
  decide_eq_false (Int.not_le.mpr ordered)

theorem extends_relocate {entropy : Entropy} {id : Text} {dto : RelocateBookingDto}
    (ordered : ∀ i, ∀ booking ∈ (world.shards i).bookings, booking.checkInDate < booking.checkOutDate) :
    world.Extends ((BookingsService.relocate env entropy id dto).run World.exec world).2 := by
  have same := World.Extends.refl world
  unfold BookingsService.relocate
  split
  · exact same
  · rw [Program.bind_eq, Program.run_bind, run_findLocal]
    cases found : (world.shards (env.router.forKey id)).bookings.find? id with
    | none => exact same
    | some original =>
      have dates := ordered _ original (Table.find?_eq_some.mp found).1
      dsimp only
      split
      · exact same
      · split
        · exact same
        · split
          · refine extends_of_uses (uses_relocateLocally (fun k => .shard ?_) .cache) same
            exact .reserveAndCancel (relocation_ordered dates)
          · refine extends_of_uses (uses_relocateSaga (fun k => .shard ?_) (.shard .statuses)
              (fun _ => .shard .statuses) (fun _ => .shard .status) .cache) same
            exact .reserve (relocation_ordered dates)

/-- Create, cancel and relocate write no stay that is there. -/
theorem extends_served {call : Call n}
    (reserves : (∃ dto, call.request = .createBooking dto) ∨ (∃ id, call.request = .cancelBooking id) ∨
      ∃ id dto, call.request = .relocateBooking id dto)
    (ordered : ∀ i, ∀ booking ∈ (world.shards i).bookings, booking.checkInDate < booking.checkOutDate) :
    world.Extends (call.serve env world).2 := by
  have issued := Issued.uses_program env call
  obtain ⟨request, entropy, schedule⟩ := call
  rcases reserves with ⟨dto, rfl⟩ | ⟨id, rfl⟩ | ⟨id, dto, rfl⟩
  · refine extends_of_uses (issued.mono fun cmd own => ?_) (.refl world)
    cases own with
    | cacheVersion | cacheDel | cacheIncr => exact .cache
    | shardRead isRead => exact .shard (.read isRead)
    | guestRead => exact .guests
    | createBooking _ _ _ _ _ inOrder => exact .shard (.reserve inOrder)
  · refine extends_of_uses (issued.mono fun cmd own => ?_) (.refl world)
    cases own with
    | cacheVersion | cacheDel | cacheIncr => exact .cache
    | shardRead isRead => exact .shard (.read isRead)
    | guestRead => exact .guests
    | cancelBooking => exact .shard .status
  · have relocated := @extends_relocate n env world entropy id dto ordered
    refine Program.run_bind_rule ?_ fun relocation _ => ?_
    · exact relocated
    · exact relocated

end Calls

/-- Statements that write no booking, or delete one. -/
def Stmt.sparesBookings : Stmt → Bool
  | .bookingUpdate .. | .bookingUpdateMany .. | .reserve _ | .reserveAndCancel .. => false
  | _ => true

inductive Cmd.Spares : Cmd n → Prop where
  | shard {i : Fin n} {stmt : Stmt} : stmt.sparesBookings = true → Spares (.shard i stmt)
  | guests {stmt : GuestStmt} : Spares (.guests stmt)
  | cache {cmd : CacheCmd} : Spares (.cache cmd)

/-- No booking is new. -/
def World.Fewer (before after : World n) : Prop :=
  ∀ i, ∀ booking ∈ (after.shards i).bookings, booking ∈ (before.shards i).bookings

section Spares
variable {before world : World n}

theorem Stmt.spares_of_read {stmt : Stmt} (isRead : stmt.isRead = true) :
    stmt.sparesBookings = true := by
  cases stmt <;> first | rfl | cases isRead

theorem Stmt.fewer {stmt : Stmt} {tables after : Tables} {answer : stmt.Answer}
    (spares : stmt.sparesBookings = true) (done : stmt.exec tables = .ok (answer, after)) :
    ∀ booking ∈ after.bookings, booking ∈ tables.bookings := by
  intro booking stored
  cases Stmt.wrote done with
  | bookingDelete => exact (Table.mem_erase.mp stored).1
  | bookingUpdate | bookingUnchanged | bookingUpdateMany | reserve | reserveAndCancel => cases spares
  | _ => exact stored

theorem Cmd.Spares.fewer {cmd : Cmd n} (spares : cmd.Spares) (fewer : before.Fewer world) :
    before.Fewer (World.exec cmd world).2 := by
  cases spares with
  | @shard i stmt spares =>
    cases done : stmt.exec (world.shards i) with
    | error error =>
      rw [World.exec_shard_error done]
      exact fewer
    | ok result =>
      obtain ⟨answer, tables⟩ := result
      rw [World.exec_shard_ok done]
      intro j booking stored
      by_cases here : j = i
      · subst here
        rw [World.setShard_self] at stored
        exact fewer j booking (Stmt.fewer spares done booking stored)
      · rw [World.setShard_of_ne world here] at stored
        exact fewer j booking stored
  | @guests stmt =>
    simp only [World.exec]
    split <;> exact fewer
  | cache => exact fewer

/-- Requests that write no stay. -/
def Request.writesStays : Request → Bool
  | .createBooking _ | .updateBooking .. | .cancelBooking _ | .relocateBooking .. => true
  | _ => false

theorem fewer_served {call : Call n} (spares : call.request.writesStays = false) :
    world.Fewer (call.serve env world).2 := by
  have issued := Issued.uses_program env call
  obtain ⟨request, entropy, schedule⟩ := call
  refine Program.run_preserves (fun _ _ spares fewer => Cmd.Spares.fewer spares fewer)
    (issued.mono fun cmd own => ?_) fun _ _ stored => stored
  cases own with
  | guestRead | createGuest | updateGuest | removeGuest => exact .guests
  | shardRead isRead => exact .shard (Stmt.spares_of_read isRead)
  | createHotel | updateHotel | removeHotel | createRoom | updateRoom | removeRoom | removeBooking =>
    exact .shard rfl
  | createBooking | updateBooking | cancelBooking | relocateLocally | sagaReserve | sagaCancel
  | compensate | sagaConfirm => cases spares
  | _ => exact .cache

end Spares

section Ledger
variable {before after : Ledger n} {call : Call n}

theorem Ledger.Served.quote_kept (served : before.Served env call after) {i : Fin n} {old : Booking}
    (stored : old ∈ (before.world.shards i).bookings)
    (unpatched : ¬ call.Patches env before.world i old.id) :
    after.quotes i old.id = before.quotes i old.id := by
  refine served.kept i old.id ?_
  rintro (fresh | patches)
  · rw [Table.find?_self stored] at fresh
    cases fresh
  · exact unpatched patches

/-- A stay that is kept has the price that it had. -/
theorem Ledger.Served.priced_kept (served : before.Served env call after) (priced : before.Priced)
    {i : Fin n} {old booking : Booking} (stored : old ∈ (before.world.shards i).bookings)
    (same : SameStay booking old) (unpatched : ¬ call.Patches env before.world i old.id) :
    ∃ price, after.quotes i booking.id = some price ∧ booking.Priced price := by
  obtain ⟨price, quoted, fits⟩ := priced i old stored
  refine ⟨price, ?_, same.priced fits⟩
  rw [same.id, served.quote_kept stored unpatched]
  exact quoted

theorem not_patches_of_request (other : ∀ id dto, call.request ≠ .updateBooking id dto)
    (world : World n) (i : Fin n) (id : Text) : ¬ call.Patches env world i id := by
  rintro ⟨_, ⟨dto, asked, _⟩, _⟩
  exact other id dto asked

theorem Ledger.Served.priced_extends (served : before.Served env call after) (priced : before.Priced)
    (other : ∀ id dto, call.request ≠ .updateBooking id dto)
    (grown : before.world.Extends after.world) : after.Priced := by
  intro i booking member
  rcases (grown i).stays booking member with ⟨old, stored, same⟩ | ⟨fresh, room, found, fits⟩
  · exact served.priced_kept priced stored same (not_patches_of_request other _ _ _)
  · refine ⟨room.pricePerNight, ?_, fits⟩
    rw [served.written i booking.id (Or.inl fresh), World.roomPrice, Table.find?_self member]
    simp only [Option.bind_eq_bind, Option.bind_some, (grown i).rooms, found]
    rfl

theorem Ledger.Served.priced_fewer (served : before.Served env call after) (priced : before.Priced)
    (other : ∀ id dto, call.request ≠ .updateBooking id dto)
    (fewer : before.world.Fewer after.world) : after.Priced :=
  fun i booking member => served.priced_kept priced (fewer i booking member) ⟨rfl, rfl, rfl, rfl, rfl⟩
    (not_patches_of_request other _ _ _)

end Ledger

section Patch
variable {world : World n} {id : Text} {dto : UpdateBookingDto} {entropy : Entropy}
  {schedule : Schedule n}

theorem serve_update :
    (Call.serve env world ⟨.updateBooking id dto, entropy, schedule⟩).1.toOption.isSome =
      ((BookingsService.update env id dto).run World.exec world).1.toOption.isSome ∧
    (Call.serve env world ⟨.updateBooking id dto, entropy, schedule⟩).2 =
      ((BookingsService.update env id dto).run World.exec world).2 := by
  simp only [Call.serve, Call.program, Program.bind_eq, Program.run_bind]
  rcases (BookingsService.update env id dto).run World.exec world with ⟨_ | booking, after⟩
  · exact ⟨rfl, rfl⟩
  · exact ⟨rfl, rfl⟩

/-- A PATCH never writes the identifier and the total. -/
theorem patchData_over {platform : Platform} {old new : Booking}
    (merged : (BookingsService.patchData platform dto).over old = .ok new) :
    new.id = old.id ∧ (¬ dto.GivesStay → SameStay new old) := by
  simp only [BookingData.over, BookingsService.patchData, except_bind_ok, except_pure,
    Except.ok.injEq] at merged
  obtain ⟨roomId, room, guestId, _, checkIn, arrives, checkOut, leaves, status, _, rfl⟩ := merged
  refine ⟨rfl, fun keeps => ?_⟩
  obtain ⟨noRoom, noDates⟩ := not_or.mp keeps
  obtain ⟨noArrival, noDeparture⟩ := not_or.mp noDates
  rw [not_not.mp noRoom] at room
  rw [not_not.mp noArrival] at arrives
  rw [not_not.mp noDeparture] at leaves
  exact ⟨rfl, (Except.ok.inj room).symm, (Except.ok.inj arrives).symm, (Except.ok.inj leaves).symm, rfl⟩

/-- The row that an accepted PATCH writes, beside the rows it leaves. -/
structure PatchWrote (env : Env n) (before after : World n) (id : Text) (dto : UpdateBookingDto)
    (old new : Booking) (room : Room) : Prop where
  found : (before.shards (env.router.forKey id)).bookings.find? id = some old
  merged : (BookingsService.patchData env.platform dto).over old = .ok new
  roomFound : (before.shards (env.router.forKey id)).rooms.find? new.roomId = some room
  rooms : ∀ i, (after.shards i).rooms = (before.shards i).rooms
  written : new ∈ (after.shards (env.router.forKey id)).bookings
  others : ∀ i, ∀ booking ∈ (after.shards i).bookings, (i = env.router.forKey id ∧ booking = new) ∨
    (booking ∈ (before.shards i).bookings ∧ ¬ (i = env.router.forKey id ∧ booking.id = id))

theorem patchWrote {world last : World n} {id : Text} {dto : UpdateBookingDto} {old new : Booking}
    {room : Room} (found : (world.shards (env.router.forKey id)).bookings.find? id = some old)
    (merged : (BookingsService.patchData env.platform dto).over old = .ok new)
    (roomFound : (world.shards (env.router.forKey id)).rooms.find? new.roomId = some room)
    (stored : ((world.shards (env.router.forKey id)).rooms.find? new.roomId).isSome)
    (shards : last.shards = (world.setShard (env.router.forKey id)
      ((world.shards (env.router.forKey id)).putBooking new stored)).shards) :
    PatchWrote env world last id dto old new room := by
  have keyed : new.id = id := (patchData_over merged).1.trans (Table.find?_eq_some.mp found).2
  refine ⟨found, merged, roomFound, fun i => ?_, ?_, ?_⟩
  · rw [shards]
    by_cases here : i = env.router.forKey id
    · rw [here, World.setShard_self]
      rfl
    · rw [World.setShard_of_ne world here]
  · rw [shards, World.setShard_self]
    have replaced : (world.shards (env.router.forKey id)).bookings.find? new.id = some old := by
      rw [keyed]
      exact found
    exact (Table.mem_put_of_find replaced).mpr (Or.inl rfl)
  · intro i booking member
    rw [shards] at member
    by_cases here : i = env.router.forKey id
    · rw [here, World.setShard_self] at member
      rcases Table.mem_put.mp member with ⟨rfl, _⟩ | ⟨kept, other⟩
      · exact Or.inl ⟨here, rfl⟩
      · exact Or.inr ⟨here ▸ kept, fun same => other (same.2.trans keyed.symm)⟩
    · rw [World.setShard_of_ne world here] at member
      exact Or.inr ⟨member, fun same => here same.1⟩

/-- A PATCH that does not succeed changes no row. -/
theorem serve_patch (env : Env n) (world : World n) (id : Text) (dto : UpdateBookingDto)
    (entropy : Entropy) (schedule : Schedule n) :
    let call : Call n := ⟨.updateBooking id dto, entropy, schedule⟩
    ((call.serve env world).1.toOption.isSome = false ∧
      (call.serve env world).2.shards = world.shards ∧ PatchPriced env world call) ∨
    ((call.serve env world).1.toOption.isSome = true ∧
      ∃ old new room, PatchWrote env world (call.serve env world).2 id dto old new room ∧
      (dto.GivesStay → (PatchPriced env world call ↔ new.Priced room.pricePerNight))) := by
  dsimp only
  obtain ⟨reply, last⟩ := @serve_update n env world id dto entropy schedule
  rw [reply, last]
  by_cases accepted : BookingsService.foreignBucket dto.roomId id = false ∧
      ∀ guestId, dto.guestId = .value guestId → (world.guests.guests.find? guestId).isSome
  · obtain ⟨sameBucket, guest⟩ := accepted
    obtain ⟨replied, shards⟩ := run_update_accepted sameBucket guest
    rw [replied]
    cases done : (world.shards (env.router.forKey id)).bookingUpdate id
        (BookingsService.patchData env.platform dto) with
    | error error =>
      have unchanged : World.exec (.shard (env.router.forKey id) (.bookingUpdate id
          (BookingsService.patchData env.platform dto))) world = (.error error, world) :=
        World.exec_shard_error done
      rw [unchanged] at shards ⊢
      refine Or.inl ⟨rfl, shards, ?_⟩
      rintro _ _ ⟨⟩ _ _ _ old new room found merged roomFound
      have stored : ((world.shards (env.router.forKey id)).rooms.find? new.roomId).isSome := by
        rw [roomFound]
        rfl
      rw [Tables.bookingUpdate, found] at done
      simp only [merged, except_ok_bind, dif_pos stored, except_pure] at done
      cases done
    | ok result =>
      obtain ⟨new, tables⟩ := result
      have executed : World.exec (.shard (env.router.forKey id) (.bookingUpdate id
          (BookingsService.patchData env.platform dto))) world =
          (.ok new, world.setShard (env.router.forKey id) tables) := World.exec_shard_ok done
      rw [executed] at shards ⊢
      obtain ⟨old, stored, found, merged, rfl⟩ := Tables.bookingUpdate_ok done
      obtain ⟨room, roomFound⟩ := Option.isSome_iff_exists.mp stored
      refine Or.inr ⟨rfl, old, new, room, patchWrote found merged roomFound stored shards,
        fun gives => ⟨fun priced => ?_, ?_⟩⟩
      · exact priced id dto rfl gives sameBucket guest old new room found merged roomFound
      · rintro fits _ _ ⟨⟩ _ _ _ old' new' room' found' merged' roomFound'
        obtain rfl := Option.some.inj (found.symm.trans found')
        obtain rfl := Except.ok.inj (merged.symm.trans merged')
        obtain rfl := Option.some.inj (roomFound.symm.trans roomFound')
        exact fits
  · obtain ⟨replied, shards⟩ := run_update_refused accepted
    rw [replied]
    refine Or.inl ⟨rfl, shards, ?_⟩
    rintro _ _ ⟨⟩ _ sameBucket guest
    exact absurd ⟨sameBucket, guest⟩ accepted

/-- One PATCH keeps the bookings priced exactly when the stay that it writes fits the total. -/
theorem Ledger.Served.priced_patched {before after : Ledger n}
    (served : before.Served env ⟨.updateBooking id dto, entropy, schedule⟩ after)
    (priced : before.Priced) :
    after.Priced ↔ PatchPriced env before.world ⟨.updateBooking id dto, entropy, schedule⟩ := by
  have reached : after.world = _ := served.served
  rcases serve_patch env before.world id dto entropy schedule with
    ⟨failed, shards, admitted⟩ | ⟨succeeded, old, new, room, wrote, exactly⟩
  · refine iff_of_true (fun i booking member => ?_) admitted
    rw [reached, shards] at member
    refine served.priced_kept priced member ⟨rfl, rfl, rfl, rfl, rfl⟩ ?_
    rintro ⟨_, _, reported⟩
    rw [failed] at reported
    cases reported
  · rw [← reached] at wrote
    have stored := (Table.find?_eq_some.mp wrote.found).1
    have keyed := (Table.find?_eq_some.mp wrote.found).2
    obtain ⟨named, keeps⟩ := patchData_over wrote.merged
    have rest {i : Fin n} {booking : Booking} (kept : booking ∈ (before.world.shards i).bookings)
        (other : ¬ (i = env.router.forKey id ∧ booking.id = id)) :
        ∃ price, after.quotes i booking.id = some price ∧ booking.Priced price := by
      refine served.priced_kept priced kept ⟨rfl, rfl, rfl, rfl, rfl⟩ ?_
      rintro ⟨here, ⟨_, same, _⟩, _⟩
      obtain ⟨rfl, _⟩ := Request.updateBooking.inj same
      exact other ⟨here, rfl⟩
    by_cases gives : dto.GivesStay
    · rw [exactly gives]
      have quoted : after.quotes (env.router.forKey id) new.id = some room.pricePerNight := by
        have patches : Call.Patches env before.world ⟨.updateBooking id dto, entropy, schedule⟩
            (env.router.forKey id) id := ⟨rfl, ⟨dto, rfl, gives⟩, succeeded⟩
        have present := Table.find?_self wrote.written
        rw [named, keyed] at present ⊢
        rw [served.written _ _ (Or.inr patches), World.roomPrice, present]
        simp only [Option.bind_eq_bind, Option.bind_some, wrote.rooms, wrote.roomFound]
        rfl
      constructor
      · intro all
        obtain ⟨price, same, fits⟩ := all _ new wrote.written
        obtain rfl := Option.some.inj (quoted.symm.trans same)
        exact fits
      · intro fits i booking member
        rcases wrote.others i booking member with ⟨rfl, rfl⟩ | ⟨kept, other⟩
        · exact ⟨room.pricePerNight, quoted, fits⟩
        · exact rest kept other
    · refine iff_of_true (fun i booking member => ?_) ?_
      · rcases wrote.others i booking member with ⟨rfl, rfl⟩ | ⟨kept, other⟩
        · refine served.priced_kept priced stored (keeps gives) ?_
          rintro ⟨_, ⟨_, same, given⟩, _⟩
          obtain ⟨_, rfl⟩ := Request.updateBooking.inj same
          exact gives given
        · exact rest kept other
      · rintro _ _ ⟨⟩ given
        exact absurd given gives

end Patch

/-- A served call keeps the bookings priced, except a PATCH whose stay does not fit. -/
theorem Ledger.Served.priced_iff {before after : Ledger n} {call : Call n}
    (served : before.Served env call after) (priced : before.Priced) :
    after.Priced ↔ PatchPriced env before.world call := by
  have reached : after.world = (call.serve env before.world).2 := served.served
  have ordered (i : Fin n) (booking : Booking) (stored : booking ∈ (before.world.shards i).bookings) :
      booking.checkInDate < booking.checkOutDate := (priced i booking stored).choose_spec.2.ordered
  have patchless (other : ∀ id dto, call.request ≠ .updateBooking id dto) :
      PatchPriced env before.world call := fun id dto asked => absurd asked (other id dto)
  obtain ⟨request, entropy, schedule⟩ := call
  cases request with
  | updateBooking id dto => exact served.priced_patched priced
  | createBooking dto =>
    refine iff_of_true (served.priced_extends priced (by rintro _ _ ⟨⟩) ?_) (patchless (by rintro _ _ ⟨⟩))
    rw [reached]
    exact extends_served (.inl ⟨dto, rfl⟩) ordered
  | cancelBooking id =>
    refine iff_of_true (served.priced_extends priced (by rintro _ _ ⟨⟩) ?_) (patchless (by rintro _ _ ⟨⟩))
    rw [reached]
    exact extends_served (.inr (.inl ⟨id, rfl⟩)) ordered
  | relocateBooking id dto =>
    refine iff_of_true (served.priced_extends priced (by rintro _ _ ⟨⟩) ?_) (patchless (by rintro _ _ ⟨⟩))
    rw [reached]
    exact extends_served (.inr (.inr ⟨id, dto, rfl⟩)) ordered
  | _ =>
    refine iff_of_true (served.priced_fewer priced (by rintro _ _ ⟨⟩) ?_) (patchless (by rintro _ _ ⟨⟩))
    rw [reached]
    exact fewer_served rfl

/-- In sequential runs that start without bookings, every booking is ordered and has the price of
its stay at its last write in every state exactly when every PATCH writes a stay that its total
fits. -/
theorem sequential_priced (env : Env n) (start : Ledger n)
    (unbooked : ∀ i, (start.world.shards i).bookings = .empty)
    {trace : List (Transition (Ledger n) (Call n))} {last : Ledger n}
    (run : Run (Ledger.Served env) start trace last) :
    (∀ move ∈ trace, move.after.Priced) ↔
      ∀ move ∈ trace, PatchPriced env move.before.world move.event := by
  have keeps : ∀ {before event after}, (fun _ : Ledger n => True) before →
      Ledger.Served env before event after → (fun _ : Ledger n => True) after := fun _ _ => trivial
  have exact_step : ∀ {before event after}, (fun _ : Ledger n => True) before → before.Priced →
      Ledger.Served env before event after →
      (after.Priced ↔ PatchPriced env before.world event) :=
    fun _ priced served => served.priced_iff priced
  refine run.visits_iff keeps exact_step trivial ?_
  intro i booking member
  rw [unbooked i] at member
  exact absurd member (Table.not_mem_empty booking)

/-- Calls entered one after another. -/
theorem Ledger.exists_run (env : Env n) (start : Ledger n) (calls : List (Call n)) :
    ∃ trace last, Run (Ledger.Served env) start trace last ∧
      last.world = serveAll env calls start.world := by
  induction calls generalizing start with
  | nil => exact ⟨[], start, .start, rfl⟩
  | cons call calls ih =>
    obtain ⟨next, served, reached⟩ := start.exists_served env call
    obtain ⟨trace, last, run, final⟩ := ih next
    refine ⟨_, last, (Run.next .start served).append run, ?_⟩
    rw [final, reached]
    rfl

theorem blank_unbooked (i : Fin 1) :
    ((Ledger.blank (furnished 1)).world.shards i).bookings = .empty := by
  rw [Ledger.blank_world]
  exact furnished_unbooked i

/-- A booking of four nights, and a PATCH that moves its arrival behind its departure. -/
def arrivingLate : List (Call 1) :=
  [.sample (sampleBooking room101 1 5) 6,
    .sample (.updateBooking (sampleKey 34 6) { checkInDate := .value (january 6) }) 7]

def arrivedLate : World 1 :=
  serveAll (.sample 1 .hash Nat.one_pos) arrivingLate (furnished 1 Nat.one_pos)

theorem sequential_disordered : (∀ i, ((Ledger.blank (furnished 1)).world.shards i).bookings = .empty) ∧
    ∃ trace last, Run (Ledger.Served (.sample 1 .hash)) (Ledger.blank (furnished 1)) trace last ∧
      ¬ last.Priced := by
  obtain ⟨trace, last, run, reached⟩ :=
    Ledger.exists_run (.sample 1 .hash) (Ledger.blank (furnished 1)) arrivingLate
  refine ⟨blank_unbooked, trace, last, run, fun priced => ?_⟩
  have disordered : ∃ booking ∈ (arrivedLate.shards 0).bookings.rows,
      ¬ booking.checkInDate < booking.checkOutDate := by decide +kernel
  obtain ⟨booking, stored, late⟩ := disordered
  have here : last.world = arrivedLate := by
    rw [reached, Ledger.blank_world, arrivedLate]
  rw [← here] at stored
  obtain ⟨_, _, fits⟩ := priced 0 booking (Table.mem_rows.mp stored)
  exact late fits.ordered

def bookedOnce : World 1 :=
  serveAll (.sample 1 .hash Nat.one_pos) [.sample (sampleBooking room101 1 5) 6]
    (furnished 1 Nat.one_pos)

/-- The same stay a day later. -/
def dayLater : UpdateBookingDto where
  checkInDate := .value (january 2)
  checkOutDate := .value (january 6)

theorem sequential_priced_later : ∃ trace last,
    Run (Ledger.Served (.sample 1 .hash)) (Ledger.blank (furnished 1)) trace last ∧
    (∃ move ∈ trace, move.event.request = .updateBooking (sampleKey 34 6) dayLater) ∧
    ∀ move ∈ trace, move.after.Priced := by
  obtain ⟨first, booking, reached⟩ := (Ledger.blank (furnished 1)).exists_served (.sample 1 .hash)
    (.sample (sampleBooking room101 1 5) 6)
  obtain ⟨last, patching, _⟩ := first.exists_served (.sample 1 .hash)
    (.sample (.updateBooking (sampleKey 34 6) dayLater) 7)
  have run := Run.next (Run.next .start booking) patching
  refine ⟨_, last, run, ⟨_, List.mem_append_right _ List.mem_cons_self, rfl⟩,
    (sequential_priced _ _ blank_unbooked run).mpr fun move member => ?_⟩
  rcases List.mem_append.mp member with made | patched
  · obtain rfl := List.mem_singleton.mp made
    rintro _ _ ⟨⟩
  · obtain rfl := List.mem_singleton.mp patched
    rintro _ _ ⟨⟩ _ _ _ old new room found merged roomFound
    have fits : ∀ i, ∀ old ∈ (bookedOnce.shards i).bookings.find? (sampleKey 34 6),
        ∀ new ∈ ((BookingsService.patchData (Env.sample 1 .hash).platform dayLater).over old).toOption,
        ∀ room ∈ (bookedOnce.shards i).rooms.find? new.roomId,
        new.checkInDate < new.checkOutDate ∧ new.totalPrice.value =
          stayPrice room.pricePerNight new.checkInDate new.checkOutDate := by decide +kernel
    have here : first.world = bookedOnce := by
      rw [reached, Ledger.blank_world, bookedOnce, serveAll, List.foldl_cons, List.foldl_nil]
    rw [here] at found roomFound
    obtain ⟨ordered, total⟩ := fits _ old found new (by rw [merged]; rfl) room roomFound
    exact ⟨ordered, total⟩

end HotelBooking
