import HotelBooking.Relational.Calendar
import HotelBooking.Invariants.Cancelled
import HotelBooking.Invariants.Ownership
import HotelBooking.Relocation.Accounts

/-! The active bookings of all shards are one calendar of rooms. Every command of every
request, faults included, changes it by one reservation, release or exchange that looked
for free nights first, or is the write of a PATCH or of T3, which does not look. -/
namespace HotelBooking
open Relational Effect
variable {n : Nat} {env : Env n} {request : Request} {entropy : Entropy} {world : World n}
  {i : Fin n}

abbrev RoomCalendar (n : Nat) : Type := Calendar (Slot n) Text Instant

abbrev RoomChange (n : Nat) : Type := Calendar.Change (Slot n) Text Instant

namespace Booking

def hold (booking : Booking) : Hold Text Instant :=
  ⟨booking.roomId, booking.checkInDate, booking.checkOutDate⟩

/-- An inactive booking holds nothing. -/
def hold? (booking : Booking) : Option (Hold Text Instant) :=
  if booking.Active then some booking.hold else none

theorem hold?_eq_some {booking : Booking} {held : Hold Text Instant} :
    booking.hold? = some held ↔ booking.Active ∧ booking.hold = held := by
  unfold hold?
  split <;> simp_all

theorem hold?_active {booking : Booking} (active : booking.Active) :
    booking.hold? = some booking.hold := if_pos active

theorem hold?_inactive {booking : Booking} (inactive : ¬ booking.Active) :
    booking.hold? = none := if_neg inactive

end Booking

theorem clash_iff {first second : Booking} :
    Clash first second ↔ first.Active ∧ second.Active ∧ first.hold.Meets second.hold := by
  constructor
  · intro clash
    exact ⟨clash.left, clash.right, clash.room, clash.shared⟩
  · rintro ⟨left, right, room, shared⟩
    exact ⟨room, left, right, shared⟩

namespace World

def calendar (world : World n) : RoomCalendar n := fun slot => world.booking? slot >>= Booking.hold?

theorem calendar_eq_some {slot : Slot n} {held : Hold Text Instant} :
    world.calendar slot = some held ↔
      ∃ row, world.booking? slot = some row ∧ row.Active ∧ row.hold = held := by
  simp only [calendar, Option.bind_eq_bind, Option.bind_eq_some_iff, Booking.hold?_eq_some]

theorem calendar_of_booking {slot : Slot n} {row : Booking}
    (found : world.booking? slot = some row) : world.calendar slot = row.hold? := by
  simp only [calendar, found, Option.bind_eq_bind, Option.bind_some]

theorem calendar_of_none {slot : Slot n} (absent : world.booking? slot = none) :
    world.calendar slot = none := by
  simp only [calendar, absent, Option.bind_eq_bind, Option.bind_none]

theorem calendar_update {after : World n} {slot : Slot n} {row : Option Booking}
    (written : after.booking? = Function.update world.booking? slot row) :
    after.calendar = Function.update world.calendar slot (row >>= Booking.hold?) := by
  funext other
  unfold calendar
  rw [written]
  by_cases same : other = slot
  · subst same
    rw [Function.update_self, Function.update_self]
  · rw [Function.update_of_ne same, Function.update_of_ne same]

theorem booking?_erase (world : World n) (i : Fin n) (id : Text) :
    (world.setShard i ((world.shards i).eraseBooking id)).booking? =
      Function.update world.booking? ⟨i, id⟩ none := by
  funext slot
  obtain ⟨j, key⟩ := slot
  by_cases shard : j = i
  · subst shard
    rw [booking?, setShard_self, Tables.find?_eraseBooking]
    by_cases same : key = id
    · subst same
      rw [if_pos rfl, Function.update_self]
    · rw [if_neg same, Function.update_of_ne fun other => same (congrArg Slot.key other)]
      rfl
  · rw [Function.update_of_ne fun other => shard (congrArg Slot.shard other), booking?,
      setShard_of_ne world shard]
    rfl

theorem booking?_insert (created : Booking)
    (fresh : (world.shards i).bookings.find? created.id = none)
    (room : ((world.shards i).rooms.find? created.roomId).isSome) :
    (world.setShard i ((world.shards i).insertBooking created fresh room)).booking? =
      Function.update world.booking? ⟨i, created.id⟩ (some created) :=
  booking?_setShard world i Tables.find?_insertBooking

theorem booking?_put {tables : Tables} {key : Text} {old : Booking} (new : Booking)
    (room : (tables.rooms.find? new.roomId).isSome) (here : world.shards i = tables)
    (found : tables.bookings.find? key = some old) (same : new.id = key) :
    (world.setShard i (tables.putBooking new room)).booking? =
      Function.update world.booking? ⟨i, key⟩ (some new) := by
  subst here
  refine booking?_setShard _ _ fun other => ?_
  rw [Tables.find?_putBooking found same, same]

theorem booking?_exchange {data : Reservation} {created old : Booking} {id : Text}
    (made : Reserves (world.shards i) data (some id) created)
    (room : (((world.shards i).insertBooking created made.fresh made.room).rooms.find?
      old.roomId).isSome)
    (found : ((world.shards i).insertBooking created made.fresh made.room).bookings.find? id =
      some old) :
    (world.setShard i (((world.shards i).insertBooking created made.fresh made.room).putBooking
      { old with status := .cancelled } room)).booking? =
      Function.update (Function.update world.booking? ⟨i, created.id⟩ (some created)) ⟨i, id⟩
        (some { old with status := .cancelled }) := by
  let reserved := (world.shards i).insertBooking created made.fresh made.room
  have key : ({ old with status := .cancelled } : Booking).id = id :=
    (Table.find?_eq_some.mp found).2
  have cancelled := booking?_put { old with status := .cancelled } room
    (setShard_self world i reserved) found key
  rw [← setShard_setShard world i reserved, cancelled, booking?_insert]

/-- A write that leaves the bookings alone leaves the calendar alone. -/
theorem calendar_setShard {tables : Tables}
    (same : tables.bookings = (world.shards i).bookings) :
    (world.setShard i tables).calendar = world.calendar := by
  funext slot
  obtain ⟨j, key⟩ := slot
  unfold calendar booking?
  by_cases shard : j = i
  · subst shard
    rw [setShard_self, same]
  · rw [setShard_of_ne world shard]

end World

/-- What a command of the request may show as in the calendar. -/
inductive Displays (env : Env n) : Request → Cmd n → RoomChange n → Prop where
  | idle {request : Request} {cmd : Cmd n} : Displays env request cmd .idle
  | book {i : Fin n} {dto : CreateBookingDto} {data : Reservation} {hold : Hold Text Instant} :
      hold.resource = dto.roomId.text → env.platform.newDate dto.checkInDate = some hold.start →
      env.platform.newDate dto.checkOutDate = some hold.stop →
      Displays env (.createBooking dto) (.shard i (.reserve data)) (.reserve ⟨i, data.id⟩ hold)
  | settle {i : Fin n} {id : Text} {dto : RelocateBookingDto} {data : Reservation}
      {hold : Hold Text Instant} : hold.resource = dto.roomId.text →
      data.checkIn = some hold.start → data.checkOut = some hold.stop →
      Displays env (.relocateBooking id dto) (.shard i (.reserve data)) (.reserve ⟨i, data.id⟩ hold)
  | exchange {i : Fin n} {id : Text} {dto : RelocateBookingDto} {data : Reservation}
      {hold : Hold Text Instant} : hold.resource = dto.roomId.text →
      data.checkIn = some hold.start → data.checkOut = some hold.stop →
      Displays env (.relocateBooking id dto) (.shard i (.reserveAndCancel data id))
        (.exchange ⟨i, id⟩ ⟨i, data.id⟩ hold)
  | cancel {i : Fin n} {id : Text} : Displays env (.cancelBooking id)
      (.shard i (.bookingUpdate id { status := .value .cancelled })) (.release ⟨i, id⟩)
  | withdraw {i : Fin n} {id key : Text} {dto : RelocateBookingDto}
      {statuses : List BookingStatus} : Displays env (.relocateBooking id dto)
        (.shard i (.bookingUpdateMany key statuses .cancelled)) (.release ⟨i, key⟩)
  | remove {i : Fin n} {id : Text} : Displays env (.removeBooking id) (.shard i (.bookingDelete id))
      (.release ⟨i, id⟩)
  | patch {i : Fin n} {id : Text} {dto : UpdateBookingDto} {hold : Hold Text Instant} :
      Displays env (.updateBooking id dto)
        (.shard i (.bookingUpdate id (BookingsService.patchData env.platform dto)))
        (.amend ⟨i, id⟩ hold)
  | confirm {i : Fin n} {id key : Text} {dto : RelocateBookingDto} {status : BookingStatus}
      {hold : Hold Text Instant} : status ∈ activeStatuses →
      Displays env (.relocateBooking id dto)
        (.shard i (.bookingUpdate key { status := .value status })) (.revive ⟨i, key⟩ hold)

/-- The availability check of one shard speaks for all: the room has no booking elsewhere. -/
theorem Reserves.free_calendar {data : Reservation} {created : Booking} {excluded : Option Text}
    (made : Reserves (world.shards i) data excluded created) {router : ShardRouter n}
    (placed : world.Everywhere (BookingsPlaced router)) (here : router.forKey data.roomId = i)
    {slot : Slot n} {row : Booking} (found : world.booking? slot = some row)
    (included : slot.shard = i → excluded.all fun id => id == [] || row.id != id) :
    ¬ Clash row created := by
  intro clash
  obtain ⟨stored, key⟩ := Table.find?_eq_some.mp found
  have shard : slot.shard = i := by
    rw [← (placed slot.shard).room stored, clash.room, made.roomId, here]
  have overlapping := clash.overlaps excluded (included shard)
  rw [made.free row (shard ▸ stored)] at overlapping
  cases overlapping

theorem Issued.reserve_active {data : Reservation}
    (issued : Issued env entropy request (.shard i (.reserve data))) :
    data.status ∈ activeStatuses := by
  cases issued with
  | shardRead read => cases read
  | createBooking _ _ _ _ _ _ status => simp [status, activeStatuses]
  | sagaReserve => simp [BookingsService.relocation, activeStatuses]

theorem Issued.reserveAndCancel_active {data : Reservation} {id : Text}
    (issued : Issued env entropy request (.shard i (.reserveAndCancel data id))) :
    data.status ∈ activeStatuses ∧ ∃ dto, request = .relocateBooking id dto ∧
      data.roomId = dto.roomId.text := by
  cases issued with
  | shardRead read => cases read
  | relocateLocally active => exact ⟨active, _, rfl, rfl⟩

/-- A reservation is what its request asked for: the room and the nights of a creation, the room
of a relocation. -/
theorem Issued.displays_reserve {data : Reservation} {created : Booking} {tables : Tables}
    {excluded : Option Text} (issued : Issued env entropy request (.shard i (.reserve data)))
    (made : Reserves tables data excluded created) :
    Displays env request (.shard i (.reserve data)) (.reserve ⟨i, created.id⟩ created.hold) := by
  rw [made.id]
  cases issued with
  | shardRead read => cases read
  | createBooking _ room _ arrives leaves =>
    refine .book (made.roomId.trans room) ?_ ?_
    · rw [← arrives, made.checkIn]
      rfl
    · rw [← leaves, made.checkOut]
      rfl
  | sagaReserve => exact .settle made.roomId made.checkIn made.checkOut

/-- A write of a row that held nothing, and holds nothing, is none to the calendar. -/
theorem calendar_unchanged {after : World n} {slot : Slot n} {old new : Booking}
    (found : world.booking? slot = some old) (same : new.hold? = old.hold?)
    (written : after.booking? = Function.update world.booking? slot (some new)) :
    after.calendar = world.calendar := by
  rw [World.calendar_update written, Option.bind_eq_bind, Option.bind_some, same,
    ← World.calendar_of_booking found, Function.update_eq_self]

section Steps
variable {after : World n} {slot : Slot n} {old new : Booking}

theorem step_idle (same : after.calendar = world.calendar) :
    Calendar.Step world.calendar .idle after.calendar := ⟨trivial, same⟩

theorem step_release (inactive : ¬ new.Active)
    (written : after.booking? = Function.update world.booking? slot (some new)) :
    Calendar.Step world.calendar (.release slot) after.calendar := by
  refine ⟨trivial, ?_⟩
  rw [World.calendar_update written, Option.bind_eq_bind, Option.bind_some,
    Booking.hold?_inactive inactive]
  rfl

/-- A cancelled row holds nothing, whatever it was. -/
theorem cancelled_inactive (row : Booking) :
    ¬ ({ row with status := .cancelled } : Booking).Active := by
  simp [Booking.Active, activeStatuses]

theorem step_patch {dto : UpdateBookingDto} (found : world.booking? slot = some old)
    (merged : (BookingsService.patchData env.platform dto).over old = .ok new)
    (written : after.booking? = Function.update world.booking? slot (some new)) :
    ∃ change, Displays env (.updateBooking slot.key dto) (.shard slot.shard
        (.bookingUpdate slot.key (BookingsService.patchData env.platform dto))) change ∧
      Calendar.Step world.calendar change after.calendar := by
  have status := patchData_status merged
  by_cases active : old.Active
  · have stays : new.Active := by rwa [Booking.Active, status]
    refine ⟨.amend slot new.hold, .patch, ?_, ?_⟩
    · show (world.calendar slot).isSome
      rw [World.calendar_of_booking found, Booking.hold?_active active]
      rfl
    · rw [World.calendar_update written, Option.bind_eq_bind, Option.bind_some,
        Booking.hold?_active stays]
      rfl
  · have stays : ¬ new.Active := by rwa [Booking.Active, status]
    refine ⟨.idle, .idle, step_idle (calendar_unchanged found ?_ written)⟩
    rw [Booking.hold?_inactive stays, Booking.hold?_inactive active]

/-- T3 on a reservation that is still active changes its status only. -/
theorem step_confirm {id : Text} {dto : RelocateBookingDto} {status : BookingStatus}
    (active : status ∈ activeStatuses) (found : world.booking? slot = some old)
    (written : after.booking? = Function.update world.booking? slot (some { old with status })) :
    ∃ change, Displays env (.relocateBooking id dto) (.shard slot.shard
        (.bookingUpdate slot.key { status := .value status })) change ∧
      Calendar.Step world.calendar change after.calendar := by
  have becomes : ({ old with status } : Booking).Active := active
  by_cases before : old.Active
  · refine ⟨.idle, .idle, step_idle (calendar_unchanged found ?_ written)⟩
    rw [Booking.hold?_active becomes, Booking.hold?_active before]
    rfl
  · refine ⟨.revive slot old.hold, .confirm active, ?_, ?_⟩
    · show world.calendar slot = none
      rw [World.calendar_of_booking found, Booking.hold?_inactive before]
    · rw [World.calendar_update written, Option.bind_eq_bind, Option.bind_some,
        Booking.hold?_active becomes]
      rfl

theorem step_reserve {data : Reservation} {created : Booking}
    (made : Reserves (world.shards i) data none created)
    (placed : world.Everywhere (BookingsPlaced env.router))
    (here : env.router.forKey data.roomId = i) (active : created.Active)
    (written : after.booking? = Function.update world.booking? ⟨i, created.id⟩ (some created)) :
    Calendar.Step world.calendar (.reserve ⟨i, created.id⟩ created.hold) after.calendar := by
  refine ⟨⟨World.calendar_of_none made.fresh, ?_⟩, ?_⟩
  · intro slot held found meets
    obtain ⟨row, stored, booked, rfl⟩ := World.calendar_eq_some.mp found
    exact made.free_calendar placed here stored (fun _ => rfl)
      (clash_iff.mpr ⟨booked, active, meets⟩)
  · rw [World.calendar_update written, Option.bind_eq_bind, Option.bind_some,
      Booking.hold?_active active]
    rfl

theorem step_exchange {data : Reservation} {created : Booking} {id : Text}
    (made : Reserves (world.shards i) data (some id) created)
    (placed : world.Everywhere (BookingsPlaced env.router))
    (here : env.router.forKey data.roomId = i) (active : created.Active) (apart : created.id ≠ id)
    (written : after.booking? = Function.update (Function.update world.booking?
      ⟨i, created.id⟩ (some created)) ⟨i, id⟩ (some { old with status := .cancelled })) :
    Calendar.Step world.calendar (.exchange ⟨i, id⟩ ⟨i, created.id⟩ created.hold)
      after.calendar := by
  refine ⟨⟨World.calendar_of_none made.fresh, ?_⟩, ?_⟩
  · intro slot held found meets
    have other : slot ≠ ⟨i, id⟩ := by
      rintro rfl
      rw [Function.update_self] at found
      cases found
    rw [Function.update_of_ne other] at found
    obtain ⟨row, stored, booked, rfl⟩ := World.calendar_eq_some.mp found
    refine made.free_calendar placed here stored ?_ (clash_iff.mpr ⟨booked, active, meets⟩)
    intro shard
    have key : row.id = slot.key := (Table.find?_eq_some.mp stored).2
    have different : row.id ≠ id := by
      rintro rfl
      exact other (by rw [← shard, key])
    simp [different]
  · have slots : (⟨i, created.id⟩ : Slot n) ≠ ⟨i, id⟩ := fun same => apart (congrArg Slot.key same)
    rw [Function.update_comm slots] at written
    funext slot
    simp only [World.calendar, written, Calendar.Change.apply]
    by_cases first : slot = ⟨i, created.id⟩
    · subst first
      simp only [Function.update_self, Option.bind_eq_bind, Option.bind_some,
        Booking.hold?_active active]
    · rw [Function.update_of_ne first, Function.update_of_ne first]
      by_cases second : slot = ⟨i, id⟩
      · subst second
        simp only [Function.update_self, Option.bind_eq_bind, Option.bind_some,
          Booking.hold?_inactive (cancelled_inactive old)]
      · rw [Function.update_of_ne second, Function.update_of_ne second]
        rfl

/-- The original is gone and the new row has taken its identifier: it is cancelled at once. -/
theorem step_exchange_self {created : Booking} (absent : world.booking? slot = none)
    (written : after.booking? = Function.update (Function.update world.booking? slot
      (some created)) slot (some { old with status := .cancelled })) :
    Calendar.Step world.calendar .idle after.calendar := by
  rw [Function.update_idem] at written
  refine step_idle ?_
  rw [World.calendar_update written, Option.bind_eq_bind, Option.bind_some,
    Booking.hold?_inactive (cancelled_inactive old), ← World.calendar_of_none absent,
    Function.update_eq_self]

end Steps

/-- The room of a reservation is a room of the shard that it is made on. -/
theorem Issued.reserve_room {data : Reservation}
    (issued : Issued env entropy request (.shard i (.reserve data))) :
    env.router.forKey data.roomId = i := by
  obtain ⟨here, bucket⟩ := issued.reserve_placed
  rw [← here, env.router.forKey_congr bucket]

theorem Issued.reserveAndCancel_room {data : Reservation} {id : Text}
    (issued : Issued env entropy request (.shard i (.reserveAndCancel data id))) :
    env.router.forKey data.roomId = i := by
  obtain ⟨here, bucket⟩ := issued.reserveAndCancel_placed
  rw [← here, env.router.forKey_congr bucket]

theorem Issued.updateMany_withdraws {key : Text} {statuses : List BookingStatus}
    {status : BookingStatus}
    (issued : Issued env entropy request (.shard i (.bookingUpdateMany key statuses status))) :
    status = .cancelled ∧ ∃ id dto, request = .relocateBooking id dto := by
  cases issued with
  | shardRead read => cases read
  | sagaCancel => exact ⟨rfl, _, _, rfl⟩
  | compensate => exact ⟨rfl, _, _, rfl⟩

theorem Issued.bookingDelete_removes {id : Text}
    (issued : Issued env entropy request (.shard i (.bookingDelete id))) :
    request = .removeBooking id := by
  cases issued with
  | shardRead read => cases read
  | removeBooking => rfl

/-- A statement that succeeds on its shard is one change of the whole calendar. -/
theorem wrote_calendar {stmt : Stmt} {tables : Tables}
    (issued : Issued env entropy request (.shard i stmt))
    (placed : world.Everywhere (BookingsPlaced env.router))
    (wrote : stmt.Wrote (world.shards i) tables) :
    ∃ change, Displays env request (.shard i stmt) change ∧
      Calendar.Step world.calendar change (world.setShard i tables).calendar := by
  cases wrote with
  | @bookingUpdate id data old new found merged room =>
    have key : new.id = id :=
      (BookingData.over_ok merged).1.trans (Table.find?_eq_some.mp found).2
    have written := World.booking?_put new room rfl found key
    have stored : world.booking? ⟨i, id⟩ = some old := found
    cases issued with
    | shardRead read => cases read
    | updateBooking => exact step_patch stored merged written
    | cancelBooking =>
      cases merged
      exact ⟨_, .cancel, step_release (cancelled_inactive old) written⟩
    | sagaConfirm active =>
      cases merged
      exact step_confirm active stored written
  | @bookingUpdateMany id statuses status old found listed room =>
    obtain ⟨rfl, _, _, rfl⟩ := issued.updateMany_withdraws
    have key : ({ old with status := .cancelled } : Booking).id = id :=
      (Table.find?_eq_some.mp found).2
    have written := World.booking?_put { old with status := .cancelled } room rfl found key
    exact ⟨_, .withdraw, step_release (cancelled_inactive old) written⟩
  | @bookingDelete id =>
    obtain rfl := issued.bookingDelete_removes
    exact ⟨_, .remove, trivial, World.calendar_update (World.booking?_erase world i id)⟩
  | @reserve data created made =>
    have active : created.Active := by
      rw [Booking.Active, made.status]
      exact issued.reserve_active
    have written := World.booking?_insert created made.fresh made.room
    exact ⟨_, issued.displays_reserve made,
      step_reserve made placed issued.reserve_room active written⟩
  | @reserveAndCancel data id created old made room found =>
    obtain ⟨status, dto, rfl, asked⟩ := issued.reserveAndCancel_active
    have active : created.Active := by rwa [Booking.Active, made.status]
    have written := World.booking?_exchange made room found
    by_cases same : created.id = id
    · rw [same] at written
      exact ⟨.idle, .idle, step_exchange_self (same ▸ made.fresh) written⟩
    · refine ⟨_, ?_, step_exchange made placed issued.reserveAndCancel_room active same written⟩
      rw [made.id]
      exact .exchange (made.roomId.trans asked) made.checkIn made.checkOut
  | _ => exact ⟨.idle, .idle, step_idle (World.calendar_setShard rfl)⟩

/-- A command that executes is one change of the calendar. -/
theorem exec_calendar {cmd : Cmd n} (issued : Issued env entropy request cmd)
    (placed : world.Everywhere (BookingsPlaced env.router)) :
    ∃ change, Displays env request cmd change ∧
      Calendar.Step world.calendar change (World.exec cmd world).2.calendar := by
  cases cmd with
  | shard i stmt =>
    cases done : stmt.exec (world.shards i) with
    | error error =>
      rw [World.exec_shard_error done]
      exact ⟨.idle, .idle, step_idle rfl⟩
    | ok result =>
      obtain ⟨answer, tables⟩ := result
      rw [World.exec_shard_ok done]
      exact wrote_calendar issued placed (Stmt.wrote done)
  | guests stmt =>
    refine ⟨.idle, .idle, step_idle ?_⟩
    simp only [World.exec]
    split <;> rfl
  | cache cmd => exact ⟨.idle, .idle, step_idle rfl⟩

theorem placedClients_before {policy : Policy (signature n) Err (World n)} {calls : List (Call n)}
    (placed : world.Everywhere (BookingsPlaced env.router)) {trace : List (Move n)}
    {last : Clients n} (run : Run (Pool.Step World.exec policy) (clients env world calls) trace last) :
    ∀ move ∈ trace, PlacedClients env calls move.before := by
  have keeps : ∀ {before event after}, PlacedClients env calls before →
      Pool.Step World.exec policy before event after → PlacedClients env calls after :=
    fun held stepped => held.step stepped
  exact run.invariant_before keeps ⟨placed, clients_uses env world calls⟩

/-- The call that a client serves accounts for the change that its move is seen as. -/
def Explains (env : Env n) (calls : List (Call n)) (move : Move n) (change : RoomChange n) : Prop :=
  ∃ call, calls[move.event.client]? = some call ∧ Displays env call.request move.event.cmd change

/-- The fault does not matter: the command had its effect or it had none. -/
theorem move_shows {policy : Policy (signature n) Err (World n)} {calls : List (Call n)}
    {trace : List (Move n)} {last : Clients n}
    (placed : world.Everywhere (BookingsPlaced env.router))
    (run : Run (Pool.Step World.exec policy) (clients env world calls) trace last) :
    ∀ move ∈ trace, ∃ change, Explains env calls move change ∧
      Calendar.Step move.before.state.calendar change move.after.state.calendar := by
  intro move member
  have kept := placedClients_before placed run move member
  obtain ⟨call, listed, grounded⟩ := clients_own run move member
  obtain ⟨change, shows, step⟩ := exec_calendar grounded.issued kept.placed
  rw [(run.steps move member).state_eq.2]
  rcases move.event.fault.apply_state World.exec move.event.cmd move.before.state with
    executed | unchanged
  · rw [executed]
    exact ⟨change, ⟨call, listed, shows⟩, step⟩
  · rw [unchanged]
    exact ⟨.idle, ⟨call, listed, .idle⟩, step_idle rfl⟩

/-- The pool, seen as the calendar of its active bookings. -/
def Clients.calendar (pool : Clients n) : RoomCalendar n := pool.state.calendar

/-- Aggregates stay together whatever interleaves and fails. -/
theorem colocated_run {policy : Policy (signature n) Err (World n)} {calls : List (Call n)}
    (colocated : world.Everywhere (Colocated env.router)) {trace : List (Move n)} {last : Clients n}
    (run : Run (Pool.Step World.exec policy) (clients env world calls) trace last) :
    last.state.Everywhere (Colocated env.router) := by
  refine (run.carries (fun pool => pool.state.Everywhere (Colocated env.router)) colocated ?_).2
  intro move member held
  obtain ⟨call, _, issued⟩ := Pool.run_issued (clients_uses env world calls) run move member
  exact (run.steps move member).keeps held (colocated_exec issued held)

theorem colocated_reached {policy : Policy (signature n) Err (World n)} {calls : List (Call n)}
    {trace : List (Move n)} {last : Clients n}
    (run : Run (Pool.Step World.exec policy) (clients env (.empty n) calls) trace last) :
    last.state.Everywhere (Colocated env.router) := by
  have empty : (World.empty n).Everywhere (Colocated env.router) :=
    fun i => colocated_empty env.router i
  exact colocated_run empty run

/-- Two hotels and three rooms, registered at the same time. -/
def opened : Clients 2 :=
  (clients twoShards (.empty 2) (furnishing 2)).play World.exec
    [1, 0, 2, 2, 3, 4, 5, 3, 4, 5, 4, 3, 5]

theorem run_opened : ∃ trace, Run (Pool.Step World.exec AnyFault)
    (clients twoShards (.empty 2) (furnishing 2)) trace opened :=
  Pool.run_play (fun _ _ => trivial) _ _

/-- The tables of all shards refine one calendar, whatever requests interleave and whatever
commands fail: each move is one change of the calendar, and the request of its own client, with
its command, says which. -/
theorem bookings_refine_calendar (env : Env n) (calls : List (Call n)) (world : World n)
    (placed : world.Everywhere (BookingsPlaced env.router)) {trace : List (Move n)}
    {last : Clients n}
    (run : Run (Pool.Step World.exec AnyFault) (clients env world calls) trace last) :
    ∃ label : Move n → RoomChange n,
      (∀ move ∈ trace, Explains env calls move (label move)) ∧
      Run Calendar.Step world.calendar (trace.map (Transition.shown Clients.calendar label))
        last.state.calendar :=
  run.refines Clients.calendar (Explains env calls) (move_shows placed run)

theorem booked_placed : booked.Everywhere (BookingsPlaced twoShards.router) := by
  unfold World.Everywhere
  decide +kernel

/-- The run of the double booking, as one that may meet any fault. -/
theorem run_rebooked_anyFault : ∃ trace, Run (Pool.Step World.exec AnyFault)
    (clients twoShards booked rebooking) trace rebooked :=
  Pool.run_play (fun _ _ => trivial) _ _

theorem bookings_refine_calendar_rebooked : ∃ changes : List (Transition (RoomCalendar 2) (RoomChange 2)),
    Run Calendar.Step booked.calendar changes rebooked.state.calendar := by
  obtain ⟨trace, run⟩ := run_rebooked_anyFault
  obtain ⟨label, _, shown⟩ := bookings_refine_calendar twoShards rebooking booked booked_placed run
  exact ⟨_, shown⟩

/-- The commands that write a booking's nights, or its active status, without a look at the
other bookings of the room. -/
inductive Overwrite (env : Env n) (slot : Slot n) : Request → Cmd n → Prop where
  | patch {dto : UpdateBookingDto} : Overwrite env slot (.updateBooking slot.key dto)
      (.shard slot.shard
        (.bookingUpdate slot.key (BookingsService.patchData env.platform dto)))
  | confirm {id : Text} {dto : RelocateBookingDto} {status : BookingStatus} :
      status ∈ activeStatuses → Overwrite env slot (.relocateBooking id dto)
        (.shard slot.shard (.bookingUpdate slot.key { status := .value status }))

theorem Displays.overwrite {cmd : Cmd n} {change : RoomChange n} {slot : Slot n}
    {hold : Hold Text Instant} (shows : Displays env request cmd change)
    (overwrites : change.Overwrites slot hold) : Overwrite env slot request cmd := by
  rcases overwrites with rfl | rfl
  · cases shows with
    | patch => exact .patch
  · cases shows with
    | confirm active => exact .confirm active

namespace World

theorem calendar_stored {booking : Booking} (member : booking ∈ (world.shards i).bookings)
    (active : booking.Active) : world.calendar ⟨i, booking.id⟩ = some booking.hold :=
  calendar_eq_some.mpr ⟨booking, Table.find?_eq_some.mpr ⟨member, rfl⟩, active, rfl⟩

theorem NoDoubleBooking.conflictFree {router : ShardRouter n} (free : world.NoDoubleBooking)
    (placed : world.Everywhere (BookingsPlaced router)) : world.calendar.ConflictFree := by
  rintro left right _ _ different here there ⟨room, shared⟩
  obtain ⟨first, stored, active, rfl⟩ := calendar_eq_some.mp here
  obtain ⟨second, stored', active', rfl⟩ := calendar_eq_some.mp there
  obtain ⟨member, key⟩ := Table.find?_eq_some.mp stored
  obtain ⟨member', key'⟩ := Table.find?_eq_some.mp stored'
  refine shared (free _ first member _ second member' ?_ room active active')
  rintro rfl
  refine different ?_
  have shard := (placed _ first member).1.symm.trans (placed _ first member').1
  cases left
  cases right
  exact congrArg₂ Slot.mk shard (key.symm.trans key')

end World

/-- Under any interleaving and any faults a double booking goes back to a PATCH or to a T3:
the last one to give either of the two bookings its nights is such a write. No other command,
executed or lost, and no retry of one ever makes two active bookings of a room share a night. -/
theorem double_booking_traced (env : Env n) (calls : List (Call n)) (world : World n)
    (placed : world.Everywhere (BookingsPlaced env.router)) (initial : world.NoDoubleBooking)
    {trace : List (Move n)} {last : Clients n}
    (run : Run (Pool.Step World.exec AnyFault) (clients env world calls) trace last)
    {i j : Fin n} {first second : Booking} (left : first ∈ (last.state.shards i).bookings)
    (right : second ∈ (last.state.shards j).bookings) (different : first ≠ second)
    (clash : Clash first second) :
    ∃ early move late, trace = early ++ move :: late ∧
      (∃ call ∈ calls, Overwrite env ⟨i, first.id⟩ call.request move.event.cmd ∨
        Overwrite env ⟨j, second.id⟩ call.request move.event.cmd) ∧
      ∀ later ∈ move :: late,
        later.after.state.calendar ⟨i, first.id⟩ = some first.hold ∧
        later.after.state.calendar ⟨j, second.id⟩ = some second.hold := by
  obtain ⟨label, shows, shown⟩ : ∃ label : Move n → RoomChange n,
      (∀ move ∈ trace, Explains env calls move (label move)) ∧
      Run Calendar.Step world.calendar (trace.map (Transition.shown Clients.calendar label))
        last.state.calendar :=
    run.refines Clients.calendar (Explains env calls) (move_shows placed run)
  obtain ⟨active, active', meets⟩ := clash_iff.mp clash
  have apart : (⟨i, first.id⟩ : Slot n) ≠ ⟨j, second.id⟩ := by
    rintro same
    obtain ⟨rfl, key⟩ := Slot.mk.inj same
    have stored := Table.find?_eq_some.mpr ⟨right, key.symm⟩
    exact different (Option.some.inj ((Table.find?_eq_some.mpr ⟨left, rfl⟩).symm.trans stored))
  obtain ⟨early, move, late, split, overwrites, since⟩ := Calendar.meets_traced
    (initial.conflictFree placed) shown apart (World.calendar_stored left active)
    (World.calendar_stored right active') meets
  obtain ⟨before, rest, rfl, rfl, tail⟩ := List.map_eq_append_iff.mp split
  obtain ⟨culprit, after, rfl, rfl, rfl⟩ := List.map_eq_cons_iff.mp tail
  obtain ⟨call, listed, shows⟩ := shows culprit (List.mem_append_right _ List.mem_cons_self)
  refine ⟨before, culprit, after, rfl, ⟨call, List.mem_of_getElem? listed, ?_⟩, ?_⟩
  · exact overwrites.imp shows.overwrite shows.overwrite
  · intro later member
    exact since _ (List.mem_map_of_mem (f := Transition.shown Clients.calendar label) member)

theorem double_booking_traced_rebooked : ∃ trace,
    Run (Pool.Step World.exec AnyFault) (clients twoShards booked rebooking) trace rebooked ∧
    ∃ move ∈ trace, ∃ call ∈ rebooking, ∃ slot,
      Overwrite twoShards slot call.request move.event.cmd := by
  obtain ⟨trace, run⟩ := run_rebooked_anyFault
  refine ⟨trace, run, ?_⟩
  have initial : booked.NoDoubleBooking := by decide +kernel
  have doubled : ¬ rebooked.state.NoDoubleBooking := by decide +kernel
  unfold World.NoDoubleBooking at doubled
  push Not at doubled
  obtain ⟨i, first, left, j, second, right, different, room, active, active', shared⟩ := doubled
  obtain ⟨early, move, late, rfl, ⟨call, listed, overwrite⟩, _⟩ := double_booking_traced twoShards
    rebooking booked booked_placed initial run left right different ⟨room, active, active', shared⟩
  refine ⟨move, List.mem_append_right _ List.mem_cons_self, call, listed, ?_⟩
  rcases overwrite with one | other
  · exact ⟨_, one⟩
  · exact ⟨_, other⟩

end HotelBooking
