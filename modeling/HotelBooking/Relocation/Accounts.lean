import HotelBooking.Relocation.Consumption
import HotelBooking.Services.FanOut

/-! The stages of the clients account for every active booking: the original is active as long
as no client has used it up, and every new one belongs to one client. Each command of the
protocol keeps the accounts. -/
namespace HotelBooking
open Relational Effect
variable {n : Nat}

namespace World

/-- The booking in a slot. -/
def booking? (world : World n) (slot : Slot n) : Option Booking :=
  (world.shards slot.shard).bookings.find? slot.key

theorem booking?_setShard (world : World n) (i : Fin n) {tables : Tables} {key : Text}
    {row : Booking} (finds : ∀ other, tables.bookings.find? other =
      if key = other then some row else (world.shards i).bookings.find? other) :
    (world.setShard i tables).booking? = Function.update world.booking? ⟨i, key⟩ (some row) := by
  funext slot
  obtain ⟨j, other⟩ := slot
  by_cases shard : j = i
  · subst shard
    by_cases same : key = other
    · subst same
      rw [Function.update_self, booking?, setShard_self, finds, if_pos rfl]
    · have distinct : (⟨j, other⟩ : Slot n) ≠ ⟨j, key⟩ := by
        rintro ⟨⟩
        exact same rfl
      rw [Function.update_of_ne distinct, booking?, setShard_self, finds, if_neg same]
      rfl
  · have distinct : (⟨j, other⟩ : Slot n) ≠ ⟨i, key⟩ := by
      rintro ⟨⟩
      exact shard rfl
    rw [Function.update_of_ne distinct, booking?, setShard_of_ne world shard]
    rfl

theorem exec_status {world : World n} {slot : Slot n} {old : Booking}
    (found : world.booking? slot = some old) (status : BookingStatus) :
    ∃ after, exec (.shard slot.shard (.bookingUpdate slot.key { status := .value status })) world =
        (.ok { old with status }, after) ∧
      after.booking? = Function.update world.booking? slot (some { old with status }) := by
  obtain ⟨stored, key⟩ := Table.find?_eq_some.mp found
  have room := (world.shards slot.shard).bookings_room old stored
  have done : Stmt.exec (.bookingUpdate slot.key { status := .value status })
      (world.shards slot.shard) = .ok ({ old with status },
        (world.shards slot.shard).putBooking { old with status } room) :=
    Tables.bookingUpdate_stored found (BookingData.over_status old status) room
  refine ⟨_, exec_shard_ok done, booking?_setShard _ _ fun other => ?_⟩
  have same : ({ old with status } : Booking).id = slot.key := key
  rw [Tables.find?_putBooking found same, same]

theorem exec_updateMany {world : World n} {slot : Slot n} {old : Booking}
    (found : world.booking? slot = some old) {statuses : List BookingStatus}
    (listed : old.status ∈ statuses) (status : BookingStatus) :
    ∃ after, exec (.shard slot.shard (.bookingUpdateMany slot.key statuses status)) world =
        (.ok (1 : Nat), after) ∧
      after.booking? = Function.update world.booking? slot (some { old with status }) := by
  obtain ⟨room, done⟩ := Tables.bookingUpdateMany_changed found listed status
  have done : Stmt.exec (.bookingUpdateMany slot.key statuses status) (world.shards slot.shard) =
      .ok ((1 : Nat), (world.shards slot.shard).putBooking { old with status } room) :=
    congrArg Except.ok done
  refine ⟨_, exec_shard_ok done, booking?_setShard _ _ fun other => ?_⟩
  have same : ({ old with status } : Booking).id = slot.key := (Table.find?_eq_some.mp found).2
  rw [Tables.find?_putBooking found same, same]

theorem exec_updateMany_none {world : World n} {slot : Slot n} {statuses : List BookingStatus}
    (unlisted : ∀ old, world.booking? slot = some old → old.status ∉ statuses)
    (status : BookingStatus) :
    exec (.shard slot.shard (.bookingUpdateMany slot.key statuses status)) world =
      (.ok (0 : Nat), world) := by
  have done : (world.shards slot.shard).bookingUpdateMany slot.key statuses status =
      (0, world.shards slot.shard) := by
    unfold Tables.bookingUpdateMany
    split
    · rfl
    · next old found => rw [if_neg (unlisted old found)]
  have executed : Stmt.exec (.bookingUpdateMany slot.key statuses status)
      (world.shards slot.shard) = .ok ((0 : Nat), world.shards slot.shard) := congrArg Except.ok done
  rw [exec_shard_ok executed, setShard_same]

theorem exec_reserve (world : World n) (i : Fin n) (data : Reservation) :
    (∃ error, exec (.shard i (.reserve data)) world = (.error error, world)) ∨
    ∃ created after, exec (.shard i (.reserve data)) world = (.ok created, after) ∧
      created.status = data.status ∧ world.booking? ⟨i, created.id⟩ = none ∧
      after.booking? = Function.update world.booking? ⟨i, created.id⟩ (some created) := by
  cases done : Stmt.exec (.reserve data) (world.shards i) with
  | error error => exact Or.inl ⟨error, exec_shard_error done⟩
  | ok result =>
    obtain ⟨created, tables⟩ := result
    obtain ⟨made, rfl⟩ := Tables.reserve_ok done
    exact Or.inr ⟨created, _, exec_shard_ok done, made.status, made.fresh,
      booking?_setShard _ _ Tables.find?_insertBooking⟩

/-- The transaction of a local relocation: a new row, and the original cancelled. -/
theorem exec_reserveAndCancel {world : World n} {slot : Slot n} {data : Reservation} {old : Booking}
    (found : world.booking? slot = some old) :
    (∃ error, exec (.shard slot.shard (.reserveAndCancel data slot.key)) world =
      (.error error, world)) ∨
    ∃ created previous after,
      exec (.shard slot.shard (.reserveAndCancel data slot.key)) world =
        (.ok (created, previous), after) ∧
      created.status = data.status ∧ world.booking? ⟨slot.shard, created.id⟩ = none ∧
      after.booking? = Function.update (Function.update world.booking? slot
        (some { old with status := .cancelled })) ⟨slot.shard, created.id⟩ (some created) := by
  cases done : Stmt.exec (.reserveAndCancel data slot.key) (world.shards slot.shard) with
  | error error => exact Or.inl ⟨error, exec_shard_error done⟩
  | ok result =>
    obtain ⟨⟨created, previous⟩, tables⟩ := result
    obtain ⟨reserved, reserving, cancelling⟩ := Tables.reserveAndCancel_ok done
    obtain ⟨made, rfl⟩ := Tables.reserve_ok reserving
    obtain ⟨other, room, found', merged, rfl⟩ := Tables.bookingUpdate_ok cancelling
    cases merged
    have distinct : created.id ≠ slot.key := by
      intro same
      cases found.symm.trans ((congrArg _ same.symm).trans made.fresh)
    obtain rfl : old = other := by
      rw [Tables.find?_insertBooking, if_neg distinct] at found'
      exact Option.some.inj (found.symm.trans found')
    let between := world.setShard slot.shard
      ((world.shards slot.shard).insertBooking created made.fresh made.room)
    have inserted : between.booking? =
        Function.update world.booking? ⟨slot.shard, created.id⟩ (some created) :=
      booking?_setShard _ _ Tables.find?_insertBooking
    have same : ({ old with status := .cancelled } : Booking).id = slot.key :=
      (Table.find?_eq_some.mp found').2
    have finds : ∀ other, (((world.shards slot.shard).insertBooking created made.fresh
        made.room).putBooking { old with status := .cancelled } room).bookings.find? other =
        if slot.key = other then some { old with status := .cancelled }
        else (between.shards slot.shard).bookings.find? other := by
      intro other
      rw [Tables.find?_putBooking found' same, same, setShard_self]
    have cancelled := booking?_setShard between slot.shard finds
    refine Or.inr ⟨created, _, _, exec_shard_ok done, made.status, made.fresh, ?_⟩
    have apart : slot ≠ ⟨slot.shard, created.id⟩ := fun other => distinct (congrArg Slot.key other).symm
    rw [Function.update_comm apart, ← inserted, ← cancelled, setShard_setShard]

end World

/-- Where the clients have brought the bookings of the start, by their stages. -/
structure Accounts (start now : Slot n → Option Booking) (origin : Slot n) (original : Booking)
    (stages : Nat → Stage n) : Prop where
  kept : (∀ c, ¬ (stages c).Consumed) → now origin = some original
  gone : ∀ c, (stages c).Consumed → now origin = some { original with status := .cancelled }
  rows : ∀ c slot, (stages c).slot? = some slot →
    ∃ row, now slot = some row ∧ (stages c).Admits row.status
  fresh : ∀ c slot, (stages c).slot? = some slot → start slot = none
  distinct : ∀ c d slot, (stages c).slot? = some slot → (stages d).slot? = some slot → c = d
  owned : ∀ slot row, now slot = some row → start slot = none → row.Active →
    ∃ c, (stages c).slot? = some slot
  persists : ∀ slot, (start slot).isSome → (now slot).isSome

namespace Accounts
variable {start now : Slot n → Option Booking} {origin slot : Slot n} {original row : Booking}
  {stages : Nat → Stage n} {c : Nat} {stage : Stage n}

theorem stored (accounts : Accounts start now origin original stages) :
    ∃ status, now origin = some { original with status } := by
  by_cases consumed : ∃ c, (stages c).Consumed
  · obtain ⟨c, consumed⟩ := consumed
    exact ⟨.cancelled, accounts.gone c consumed⟩
  · exact ⟨original.status, accounts.kept fun c taken => consumed ⟨c, taken⟩⟩

theorem ne_origin (accounts : Accounts start now origin original stages)
    (found : start origin = some original) (owns : (stages c).slot? = some slot) : slot ≠ origin := by
  rintro rfl
  cases found.symm.trans (accounts.fresh c _ owns)

/-- A client uses the original up; its own reservation stays what it was. -/
theorem consume (accounts : Accounts start now origin original stages) (c : Nat)
    (stage : Stage n) (found : start origin = some original) (consumed : stage.Consumed)
    (sameSlot : stage.slot? = (stages c).slot?)
    (sameStatus : ∀ status, (stages c).Admits status → stage.Admits status) :
    Accounts start (Function.update now origin (some { original with status := .cancelled }))
      origin original (Function.update stages c stage) := by
  have slots : ∀ d, (Function.update stages c stage d).slot? = (stages d).slot? :=
    (Function.forall_update_iff stages fun d given => given.slot? = (stages d).slot?).mpr
      ⟨sameSlot, fun _ _ => rfl⟩
  constructor
  · intro kept
    refine absurd ?_ (kept c)
    rwa [Function.update_self]
  · intro _ _
    rw [Function.update_self]
  · intro d slot owns
    rw [slots] at owns
    obtain ⟨row, stored, admits⟩ := accounts.rows d slot owns
    refine ⟨row, by rwa [Function.update_of_ne (accounts.ne_origin found owns)], ?_⟩
    by_cases same : d = c
    · subst same
      rw [Function.update_self]
      exact sameStatus _ admits
    · rwa [Function.update_of_ne same]
  · intro d slot owns
    exact accounts.fresh d slot (slots d ▸ owns)
  · intro d e slot first second
    exact accounts.distinct d e slot (slots d ▸ first) (slots e ▸ second)
  · intro slot row stored absent active
    have other : slot ≠ origin := by
      rintro rfl
      cases found.symm.trans absent
    rw [Function.update_of_ne other] at stored
    obtain ⟨d, owns⟩ := accounts.owned slot row stored absent active
    exact ⟨d, (slots d).trans owns⟩
  · intro slot present
    by_cases same : slot = origin
    · subst same
      rw [Function.update_self]
      rfl
    · rw [Function.update_of_ne same]
      exact accounts.persists slot present

section Write

/-- No other client has the slot that a client writes. -/
theorem elsewhere (accounts : Accounts start now origin original stages)
    (own : (stages c).slot? = some slot ∨ (stages c).slot? = none ∧ now slot = none) {d : Nat}
    (different : d ≠ c) : (stages d).slot? ≠ some slot := by
  intro owns
  rcases own with mine | ⟨_, empty⟩
  · exact different (accounts.distinct d c slot owns mine)
  · obtain ⟨row, stored, _⟩ := accounts.rows d slot owns
    cases stored.symm.trans empty

/-- The client that writes has no other slot afterwards. -/
theorem own_written (next : stage.slot? = some slot ∧ stage.Admits row.status ∨
    stage.slot? = none ∧ ¬ row.Active) {given : Slot n}
    (owns : (Function.update stages c stage c).slot? = some given) :
    given = slot ∧ stage.Admits row.status := by
  rw [Function.update_self] at owns
  rcases next with ⟨held, admits⟩ | ⟨empty, _⟩
  · exact ⟨Option.some.inj (owns.symm.trans held), admits⟩
  · cases owns.symm.trans empty

theorem distinct_written (accounts : Accounts start now origin original stages)
    (own : (stages c).slot? = some slot ∨ (stages c).slot? = none ∧ now slot = none)
    (next : stage.slot? = some slot ∧ stage.Admits row.status ∨ stage.slot? = none ∧ ¬ row.Active)
    {d e : Nat} {given : Slot n} (first : (Function.update stages c stage d).slot? = some given)
    (second : (Function.update stages c stage e).slot? = some given) : d = e := by
  by_cases left : d = c
  · subst left
    obtain ⟨rfl, _⟩ := own_written next first
    by_contra different
    have right : e ≠ d := fun same => different same.symm
    rw [Function.update_of_ne right] at second
    exact accounts.elsewhere own right second
  · rw [Function.update_of_ne left] at first
    by_cases right : e = c
    · subst right
      obtain ⟨rfl, _⟩ := own_written next second
      exact absurd first (accounts.elsewhere own left)
    · rw [Function.update_of_ne right] at second
      exact accounts.distinct d e given first second

theorem owned_written (accounts : Accounts start now origin original stages)
    (own : (stages c).slot? = some slot ∨ (stages c).slot? = none ∧ now slot = none)
    (next : stage.slot? = some slot ∧ stage.Admits row.status ∨ stage.slot? = none ∧ ¬ row.Active)
    {given : Slot n} {booking : Booking}
    (stored : Function.update now slot (some row) given = some booking) (empty : start given = none)
    (active : booking.Active) : ∃ d, (Function.update stages c stage d).slot? = some given := by
  by_cases here : given = slot
  · subst here
    rw [Function.update_self] at stored
    obtain rfl := Option.some.inj stored
    rcases next with ⟨held, _⟩ | ⟨_, inactive⟩
    · exact ⟨c, by rw [Function.update_self, held]⟩
    · exact absurd active inactive
  · rw [Function.update_of_ne here] at stored
    obtain ⟨d, owns⟩ := accounts.owned given booking stored empty active
    refine ⟨d, ?_⟩
    by_cases same : d = c
    · subst same
      rcases own with held | ⟨none, _⟩
      · exact absurd (Option.some.inj (owns.symm.trans held)) here
      · cases owns.symm.trans none
    · rwa [Function.update_of_ne same]

/-- A client writes the slot of its reservation, or one that was empty. -/
theorem write (accounts : Accounts start now origin original stages) (c : Nat)
    (stage : Stage n) (row : Booking) (sameUse : stage.Consumed ↔ (stages c).Consumed)
    (absent : start slot = none) (found : start origin = some original)
    (own : (stages c).slot? = some slot ∨ (stages c).slot? = none ∧ now slot = none)
    (next : stage.slot? = some slot ∧ stage.Admits row.status ∨
      stage.slot? = none ∧ ¬ row.Active) :
    Accounts start (Function.update now slot (some row)) origin original
      (Function.update stages c stage) := by
  have other : origin ≠ slot := by
    rintro rfl
    cases found.symm.trans absent
  have consumed : ∀ d, (Function.update stages c stage d).Consumed ↔ (stages d).Consumed :=
    (Function.forall_update_iff stages fun d given => given.Consumed ↔ (stages d).Consumed).mpr
      ⟨sameUse, fun _ _ => Iff.rfl⟩
  constructor
  · intro kept
    rw [Function.update_of_ne other]
    exact accounts.kept fun d taken => kept d ((consumed d).mpr taken)
  · intro d taken
    rw [Function.update_of_ne other]
    exact accounts.gone d ((consumed d).mp taken)
  · intro d given owns
    by_cases same : d = c
    · subst same
      obtain ⟨rfl, admits⟩ := own_written next owns
      rw [Function.update_self, Function.update_self]
      exact ⟨row, rfl, admits⟩
    · rw [Function.update_of_ne same] at owns ⊢
      have apart : given ≠ slot := by
        rintro rfl
        exact accounts.elsewhere own same owns
      rw [Function.update_of_ne apart]
      exact accounts.rows d given owns
  · intro d given owns
    by_cases same : d = c
    · subst same
      obtain ⟨rfl, _⟩ := own_written next owns
      exact absent
    · rw [Function.update_of_ne same] at owns
      exact accounts.fresh d given owns
  · intro d e given first second
    exact accounts.distinct_written own next first second
  · intro given booking stored empty active
    exact accounts.owned_written own next stored empty active
  · intro given present
    by_cases here : given = slot
    · subst here
      rw [Function.update_self]
      rfl
    · rw [Function.update_of_ne here]
      exact accounts.persists given present

end Write

theorem empty (accounts : Accounts start now origin original stages) (missing : now slot = none) :
    start slot = none := by
  by_contra stored
  have present := accounts.persists slot (Option.isSome_iff_ne_none.mpr stored)
  rw [missing] at present
  cases present

/-- A served command of a client that obeys the protocol. -/
theorem step {state : World n} {cmd : Cmd n} {fault : Effect.Fault Err}
    (accounts : Accounts start state.booking? origin original stages)
    (found : start origin = some original)
    (allowed : Consumes origin.shard origin.key (stages c) cmd) (permitted : Aborts state cmd fault) :
    Accounts start (fault.apply World.exec cmd state).2.booking? origin original
      (Function.update stages c
        ((stages c).next origin.shard cmd (fault.apply World.exec cmd state).1)) := by
  have still (unchanged : (stages c).next origin.shard cmd (fault.apply World.exec cmd state).1 =
      stages c) (same : (fault.apply World.exec cmd state).2.booking? = state.booking?) :
      Accounts start (fault.apply World.exec cmd state).2.booking? origin original
        (Function.update stages c
          ((stages c).next origin.shard cmd (fault.apply World.exec cmd state).1)) := by
    rw [unchanged, same, Function.update_eq_self]
    exact accounts
  obtain ⟨status, stored⟩ := accounts.stored
  cases permitted with
  | aborted transaction => exact still (Stage.next_aborted transaction _) rfl
  | answered =>
    simp only [Effect.Fault.apply] at still ⊢
    generalize here : stages c = stage at allowed still ⊢
    cases allowed with
    | cache => exact still (Stage.next_cache _ _ _) rfl
    | read isRead => exact still (Stage.next_read isRead _) (by rw [exec_isRead isRead])
    | cancel =>
      obtain ⟨after, executed, booked⟩ := World.exec_status stored .cancelled
      rw [executed, booked]
      exact accounts.consume c _ found trivial (by rw [here]; rfl) fun _ admits => by
        rw [here] at admits
        exact admits
    | «local» active =>
      rcases World.exec_reserveAndCancel stored with ⟨error, failed⟩ |
        ⟨created, previous, after, executed, created_status, absent, booked⟩
      · exact still (by rw [failed]; rfl) (by rw [failed])
      · rw [executed, booked]
        have other : (⟨origin.shard, created.id⟩ : Slot n) ≠ origin := by
          intro same
          rw [same, stored] at absent
          cases absent
        have withdrawn := accounts.consume c .withdrew found trivial
          (by rw [here]; rfl) fun _ admits => by
            rw [here] at admits
            exact admits
        have moved := withdrawn.write c (.moved ⟨origin.shard, created.id⟩) created (by simp)
          (accounts.empty absent) found
          (Or.inr ⟨by rw [Function.update_self]; rfl, by rwa [Function.update_of_ne other]⟩)
          (Or.inl ⟨rfl, created_status ▸ active⟩)
        rwa [Function.update_idem] at moved
    | @reserve i data away pending =>
      rcases World.exec_reserve state i data with ⟨error, failed⟩ |
        ⟨created, after, executed, created_status, absent, booked⟩
      · exact still (by rw [failed]; rfl) (by rw [failed])
      · rw [executed, booked]
        exact accounts.write c _ _ (by rw [here]; simp [Stage.next])
          (accounts.empty absent) found (Or.inr ⟨by rw [here]; rfl, absent⟩)
          (Or.inl ⟨rfl, created_status.trans pending⟩)
    | @take slot =>
      by_cases active : status ∈ activeStatuses
      · obtain ⟨after, executed, booked⟩ := World.exec_updateMany stored active .cancelled
        have took : (Stage.reserved slot).next origin.shard
            (.shard origin.shard (.bookingUpdateMany origin.key activeStatuses .cancelled))
            (.ok (1 : Nat)) = .took slot := if_pos rfl
        rw [executed, booked, took]
        exact accounts.consume c _ found trivial (by rw [here]; rfl) fun _ admits => by
          rw [here] at admits
          exact admits
      · have unlisted : ∀ old, state.booking? origin = some old → old.status ∉ activeStatuses := by
          intro old same
          obtain rfl := Option.some.inj (stored.symm.trans same)
          exact active
        have missed : (Stage.reserved slot).next origin.shard
            (.shard origin.shard (.bookingUpdateMany origin.key activeStatuses .cancelled))
            (.ok (0 : Nat)) = .missed slot := if_pos rfl
        have owns : (stages c).slot? = some slot := by rw [here]; rfl
        obtain ⟨row, held, admits⟩ := accounts.rows c slot owns
        rw [World.exec_updateMany_none unlisted, missed]
        have written := accounts.write c (.missed slot) row
          (by rw [here]; simp) (accounts.fresh c slot owns) found
          (Or.inl owns) (Or.inl ⟨rfl, by rw [here] at admits; exact admits⟩)
        rwa [← held, Function.update_eq_self] at written
    | @undo _ slot away held =>
      have owns : (stages c).slot? = some slot := by
        rw [here]
        rcases held with rfl | rfl <;> rfl
      obtain ⟨row, stored', admits⟩ := accounts.rows c slot owns
      have pending : row.status ∈ [BookingStatus.pending] := by
        rw [here] at admits
        rcases held with rfl | rfl <;> exact List.mem_singleton.mpr admits
      obtain ⟨after, executed, booked⟩ := World.exec_updateMany stored' pending .cancelled
      have undone : stage.next origin.shard (.shard slot.shard
          (.bookingUpdateMany slot.key [.pending] .cancelled)) (.ok (1 : Nat)) = .undone := by
        rcases held with rfl | rfl
        · exact if_neg away
        · rfl
      rw [executed, booked, undone]
      have sameUse : (Stage.undone : Stage n).Consumed ↔ (stages c).Consumed := by
        rw [here]
        rcases held with rfl | rfl <;> simp
      exact accounts.write c _ _ sameUse (accounts.fresh c slot owns) found (Or.inl owns)
        (Or.inr ⟨rfl, by simp [Booking.Active, activeStatuses]⟩)
    | @confirm status' slot _ active =>
      have owns : (stages c).slot? = some slot := by rw [here]; rfl
      obtain ⟨row, stored', _⟩ := accounts.rows c slot owns
      obtain ⟨after, executed, booked⟩ := World.exec_status stored' status'
      rw [executed, booked]
      exact accounts.write c _ _ (by rw [here]; simp [Stage.next])
        (accounts.fresh c slot owns) found (Or.inl owns) (Or.inl ⟨rfl, active⟩)

end Accounts
end HotelBooking
