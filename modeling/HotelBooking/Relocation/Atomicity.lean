import HotelBooking.Relocation.SagaRuns

/-! Relocation to another shard as one operation: it is all or nothing exactly when T3 does
not fail, and it leaves the guest with one booking exactly when T1 and T2 report truly. -/
namespace HotelBooking
open Relational Effect
variable {n : Nat} {env : Env n} {entropy : Entropy} {world last : World n}
  {attempts : Attempts n} {source target : Fin n} {roomId : Text} {original created : Booking}
  {reservation : Option Booking} {status : BookingStatus}

/-- A booking stored since `world` under a key that `world` does not have on that shard. -/
def NewBooking (world last : World n) (i : Fin n) (booking : Booking) : Prop :=
  booking ∈ (last.shards i).bookings ∧ (world.shards i).bookings.find? booking.id = none

/-- The original's guest, dates and status in another room. -/
structure Replaces (original : Booking) (roomId : Text) (booking : Booking) : Prop where
  roomId : booking.roomId = roomId
  guestId : booking.guestId = original.guestId
  checkInDate : booking.checkInDate = original.checkInDate
  checkOutDate : booking.checkOutDate = original.checkOutDate
  status : booking.status = original.status

/-- What a relocation has done to the bookings, by what it reported. -/
def AllOrNothing (world last : World n) (source : Fin n) (original : Booking) (roomId : Text) :
    Except Err Relocation → Prop
  | .ok _ =>
    (last.shards source).bookings.find? original.id = some { original with status := .cancelled } ∧
      ∃ i booking, Replaces original roomId booking ∧
        ∀ j other, NewBooking world last j other ↔ j = i ∧ other = booking
  | .error _ =>
    (last.shards source).bookings.find? original.id = some original ∧
      ∀ i booking, NewBooking world last i booking → ¬ booking.Active

/-- An active booking that is the original or was stored since. -/
def Keeps (world last : World n) (source : Fin n) (original : Booking)
    (kept : Fin n × Booking) : Prop :=
  kept.2 ∈ (last.shards kept.1).bookings ∧ kept.2.Active ∧
    (kept.1 = source ∧ kept.2.id = original.id ∨ NewBooking world last kept.1 kept.2)

namespace SagaState

/-- The reservation is the only new booking. -/
theorem newBooking_iff (state : SagaState world source target roomId original reservation status last)
    (found : (world.shards source).bookings.find? original.id = some original)
    (i : Fin n) (booking : Booking) :
    NewBooking world last i booking ↔ i = target ∧ reservation = some booking := by
  have old {i : Fin n} {booking : Booking} (member : booking ∈ (world.shards i).bookings)
      (fresh : (world.shards i).bookings.find? booking.id = none) : False :=
    Table.find?_eq_none.mp fresh booking member rfl
  constructor
  · rintro ⟨member, fresh⟩
    by_cases atTarget : i = target
    · subst atTarget
      rcases (state.atTarget booking).mp member with same | stored
      · exact ⟨rfl, same⟩
      · exact (old stored fresh).elim
    · by_cases atSource : i = source
      · subst atSource
        rcases (state.atSource booking).mp member with rfl | ⟨stored, _⟩
        · rw [found] at fresh
          cases fresh
        · exact (old stored fresh).elim
      · rw [state.elsewhere i atSource atTarget] at member
        exact (old member fresh).elim
  · rintro ⟨rfl, same⟩
    exact ⟨(state.atTarget booking).mpr (Or.inl same), state.fresh booking same⟩

theorem keeps_iff
    (state : SagaState world source target roomId original reservation status last)
    (found : (world.shards source).bookings.find? original.id = some original)
    (kept : Fin n × Booking) :
    Keeps world last source original kept ↔
      (status ∈ activeStatuses ∧ kept = (source, { original with status })) ∨
        ∃ created, reservation = some created ∧ created.Active ∧ kept = (target, created) := by
  obtain ⟨i, booking⟩ := kept
  simp only [Keeps, state.newBooking_iff found, Prod.mk.injEq]
  constructor
  · rintro ⟨member, active, ⟨rfl, same⟩ | ⟨rfl, reserved⟩⟩
    · obtain rfl := Table.eq_of_key member (Table.find?_eq_some.mp state.find?_original).1 same
      exact Or.inl ⟨active, rfl, rfl⟩
    · exact Or.inr ⟨booking, reserved, active, rfl, rfl⟩
  · rintro (⟨active, rfl, rfl⟩ | ⟨_, reserved, active, rfl, rfl⟩)
    · exact ⟨(Table.find?_eq_some.mp state.find?_original).1, active, Or.inl ⟨rfl, rfl⟩⟩
    · exact ⟨(state.atTarget booking).mpr (Or.inl reserved), active, Or.inr ⟨rfl, reserved⟩⟩

/-- Of two bookings on different shards one is kept exactly when one is active. -/
theorem existsUnique_keeps_iff (distinct : source ≠ target)
    (state : SagaState world source target roomId original reservation status last)
    (found : (world.shards source).bookings.find? original.id = some original) :
    (∃! kept, Keeps world last source original kept) ↔
      (status ∈ activeStatuses ↔ ¬ ∃ given ∈ activeStatuses, reservation.map Booking.status = some given) := by
  have holds := state.keeps_iff found
  have reserved : (∃ given ∈ activeStatuses, reservation.map Booking.status = some given) ↔
      ∃ created, reservation = some created ∧ created.Active := by
    cases reservation with
    | none => simp
    | some created => simp [Booking.Active]
  rw [reserved]
  by_cases kept : status ∈ activeStatuses
  · by_cases made : ∃ created, reservation = some created ∧ created.Active
    · refine iff_of_false ?_ (by simp [kept, made])
      rintro ⟨_, _, unique⟩
      obtain ⟨created, same, active⟩ := made
      have first := unique (source, { original with status }) ((holds _).mpr (Or.inl ⟨kept, rfl⟩))
      have second := unique (target, created)
        ((holds _).mpr (Or.inr ⟨created, same, active, rfl⟩))
      exact distinct (congrArg Prod.fst (first.trans second.symm))
    · refine iff_of_true ⟨(source, { original with status }), (holds _).mpr (Or.inl ⟨kept, rfl⟩), ?_⟩
        (by simp [kept, made])
      intro other keeps
      rcases (holds other).mp keeps with ⟨_, same⟩ | ⟨created, same, active, _⟩
      · exact same
      · exact absurd ⟨created, same, active⟩ made
  · by_cases made : ∃ created, reservation = some created ∧ created.Active
    · have both := made
      obtain ⟨created, same, active⟩ := made
      refine iff_of_true ⟨(target, created), (holds _).mpr (Or.inr ⟨created, same, active, rfl⟩), ?_⟩
        (by simp [kept, both])
      intro other keeps
      rcases (holds other).mp keeps with ⟨active, _⟩ | ⟨created', same', _, rfl⟩
      · exact absurd active kept
      · rw [Option.some.inj (same.symm.trans same')]
    · refine iff_of_false ?_ (by simp [kept, made])
      rintro ⟨other, keeps, _⟩
      rcases (holds other).mp keeps with ⟨active, _⟩ | ⟨created, same, active, _⟩
      · exact kept active
      · exact made ⟨created, same, active⟩

theorem allOrNothing_ok_iff {report : Relocation}
    (state : SagaState world source target roomId original reservation status last)
    (found : (world.shards source).bookings.find? original.id = some original) :
    AllOrNothing world last source original roomId (.ok report) ↔
      status = .cancelled ∧ reservation.map Booking.status = some original.status := by
  simp only [AllOrNothing, state.newBooking_iff found, state.find?_original, Option.some.injEq,
    Booking.mk.injEq, true_and, and_true]
  refine and_congr_right fun _ => ?_
  constructor
  · rintro ⟨i, booking, replaces, only⟩
    rw [((only i booking).mpr ⟨rfl, rfl⟩).2]
    exact congrArg some replaces.status
  · intro given
    obtain ⟨created, reserved, same⟩ := Option.map_eq_some_iff.mp given
    obtain ⟨inRoom, guest, checkIn, checkOut⟩ := state.copy created reserved
    refine ⟨target, created, ⟨inRoom, guest, checkIn, checkOut, same⟩, fun j other => ?_⟩
    rw [reserved, Option.some.injEq, eq_comm (a := created)]

theorem allOrNothing_error_iff {error : Err}
    (state : SagaState world source target roomId original reservation status last)
    (found : (world.shards source).bookings.find? original.id = some original) :
    AllOrNothing world last source original roomId (.error error) ↔
      status = original.status ∧
        ∀ given, reservation.map Booking.status = some given → given ∉ activeStatuses := by
  obtain ⟨id, room, guest, checkIn, checkOut, given, price, createdAt⟩ := original
  simp only [AllOrNothing, state.newBooking_iff found, state.find?_original, Option.some.injEq,
    Booking.mk.injEq, true_and, and_true]
  refine and_congr_right fun _ => ?_
  constructor
  · rintro none given same
    obtain ⟨created, reserved, rfl⟩ := Option.map_eq_some_iff.mp same
    exact none target created ⟨rfl, reserved⟩
  · rintro none i booking ⟨rfl, reserved⟩
    exact none booking.status (by rw [reserved]; rfl)

end SagaState

theorem CleanFailures.lostReplies {cmd : Cmd n} {fault : Fault Err}
    (permitted : CleanFailures world cmd fault) :
    LostReplies world cmd fault ∧ fault.isLost = false := by
  cases permitted with
  | answered => exact ⟨.answered, rfl⟩
  | refused step => exact ⟨.refused step, rfl⟩

theorem not_lostEarly_of_clean {result : Except Err Relocation} {program : Async n Relocation}
    (runs : program.Runs World.exec CleanFailures world attempts result last) :
    ¬ LostEarly attempts := by
  rintro ⟨attempt, member, _, lost⟩
  rw [(runs_permitted runs attempt member).lostReplies.2] at lost
  cases lost

/-- Under clean failures a relocation to another shard is all or nothing, unless T3 fails. -/
theorem relocate_allOrNothing (env : Env n) (entropy : Entropy) (dto : RelocateBookingDto)
    (world last : World n) (original : Booking) (attempts : Attempts n)
    (result : Except Err Relocation)
    (distinct : env.router.forKey original.id ≠ env.router.forKey dto.roomId)
    (found : (world.shards (env.router.forKey original.id)).bookings.find? original.id =
      some original) (active : original.Active)
    (runs : (BookingsService.relocate env entropy original.id dto).Runs World.exec CleanFailures
      world attempts result last) :
    AllOrNothing world last (env.router.forKey original.id) original dto.roomId result ↔
      ¬ ConfirmFailed attempts := by
  have heard := not_lostEarly_of_clean runs
  obtain ⟨t1, t2, t3, reservation, ended⟩ := runs_relocate distinct found active
    (runs.mono fun _ _ _ permitted => permitted.lostReplies.1)
  rw [ended.lostEarly] at heard
  rw [ended.confirmFailed]
  have resolved := ended.result
  have uncancelled : BookingStatus.cancelled ≠ original.status := by
    intro same
    rw [Booking.Active, ← same] at active
    exact absurd active (by decide)
  cases result with
  | ok report =>
    rw [ended.state.allOrNothing_ok_iff found, ended.status]
    revert resolved heard
    cases t1 <;> cases t2 <;> cases t3 <;> simp [sagaEnd, Except.toOption]
  | error error =>
    rw [ended.state.allOrNothing_error_iff found, ended.status]
    revert resolved heard
    cases t1 <;> cases t2 <;> cases t3 <;> simp [sagaEnd, Except.toOption, uncancelled, activeStatuses]

/-- The row of the sample booking. -/
def bookedRow : Booking where
  id := sampleKey 34 6
  roomId := room101
  guestId := olena
  checkInDate := 1767225600000
  checkOutDate := 1767571200000
  status := .pending
  totalPrice := ⟨40000, by decide⟩
  createdAt := 6

/-- The booking is stored, on another shard than the room it moves to. -/
theorem bookedRow_placed :
    (booked.shards (twoShards.router.forKey bookedRow.id)).bookings.find? bookedRow.id =
      some bookedRow ∧
    twoShards.router.forKey bookedRow.id ≠ twoShards.router.forKey room201 := by decide +kernel

theorem bookedRow_stored : (booked.shards (twoShards.router.forKey bookedRow.id)).bookings.find?
    bookedRow.id = some bookedRow := bookedRow_placed.1

theorem bookedRow_elsewhere : twoShards.router.forKey bookedRow.id ≠
    twoShards.router.forKey room201 := bookedRow_placed.2

/-- The relocation of the sample booking to the other shard: its commands are the read, T1, T2
and T3, or C1 after a T2 that reports an error. -/
def movingOut : Async 2 Relocation :=
  BookingsService.relocate twoShards (.sample 7) bookedRow.id ⟨room201, false⟩

/-- When T3 is refused, the caller gets an error and the original is gone. Without faults the
relocation is confirmed. -/
theorem runs_clean :
    (∃ attempts result last, movingOut.Runs World.exec CleanFailures booked attempts result last ∧
      result.toOption = none ∧
      (last.shards (twoShards.router.forKey bookedRow.id)).bookings.find? bookedRow.id ≠
        some bookedRow) ∧
    ∃ attempts result last, movingOut.Runs World.exec CleanFailures booked attempts result last ∧
      ¬ ConfirmFailed attempts := by
  have refused : ∀ attempt ∈ (movingOut.replay World.exec
      [.none, .none, .none, .refused (.db .connection)] booked).1,
      CleanFailures attempt.before attempt.cmd attempt.fault := by decide +kernel
  have faultless : ∀ attempt ∈ (movingOut.replay World.exec [] booked).1,
      CleanFailures attempt.before attempt.cmd attempt.fault := by decide +kernel
  exact ⟨⟨_, _, _, Program.runs_replay refused, by decide +kernel, by decide +kernel⟩,
    ⟨_, _, _, Program.runs_replay faultless, by decide +kernel⟩⟩

theorem relocate_unconfirmed : ∃ attempts result last,
    movingOut.Runs World.exec CleanFailures booked attempts result last ∧
    ¬ AllOrNothing booked last (twoShards.router.forKey bookedRow.id) bookedRow room201
      result := by
  obtain ⟨attempts, result, last, runs, rejected, cancelled⟩ := runs_clean.1
  refine ⟨attempts, result, last, runs, fun atomic => ?_⟩
  obtain ⟨error, rfl⟩ := toOption_eq_none rejected
  exact cancelled atomic.1

theorem relocate_allOrNothing_booked : ∃ attempts result last,
    movingOut.Runs World.exec CleanFailures booked attempts result last ∧
    AllOrNothing booked last (twoShards.router.forKey bookedRow.id) bookedRow room201
      result := by
  obtain ⟨attempts, result, last, runs, confirmed⟩ := runs_clean.2
  exact ⟨attempts, result, last, runs, (relocate_allOrNothing _ _ _ booked last bookedRow attempts
    result bookedRow_elsewhere bookedRow_stored (by decide) runs).mpr confirmed⟩

/-- With lost replies the guest keeps exactly one booking, unless the reply to an effective T1
or T2 is among the lost ones. -/
theorem relocate_keepsOne (env : Env n) (entropy : Entropy) (dto : RelocateBookingDto)
    (world last : World n) (original : Booking) (attempts : Attempts n)
    (result : Except Err Relocation)
    (distinct : env.router.forKey original.id ≠ env.router.forKey dto.roomId)
    (found : (world.shards (env.router.forKey original.id)).bookings.find? original.id =
      some original) (active : original.Active)
    (runs : (BookingsService.relocate env entropy original.id dto).Runs World.exec LostReplies
      world attempts result last) :
    (∃! kept, Keeps world last (env.router.forKey original.id) original kept) ↔
      ¬ LostEarly attempts := by
  obtain ⟨t1, t2, t3, reservation, ended⟩ := runs_relocate distinct found active runs
  rw [ended.state.existsUnique_keeps_iff distinct found, ended.status, ended.lostEarly]
  have stays : original.status ∈ activeStatuses := active
  have dropped : BookingStatus.cancelled ∉ activeStatuses := by decide
  have waiting : BookingStatus.pending ∈ activeStatuses := by decide
  cases t1 <;> cases t2 <;> cases t3 <;> simp [sagaEnd, stays, dropped, waiting]

/-- When the reply to T2 is lost, the original is cancelled, and C1 cancels the reservation too.
When the reply to T3 is lost, both T1 and T2 have been heard. -/
theorem runs_lost :
    (∃ attempts result last, movingOut.Runs World.exec LostReplies booked attempts result last ∧
      ∀ i, ∀ booking ∈ (last.shards i).bookings.rows, ¬ booking.Active) ∧
    ∃ attempts result last, movingOut.Runs World.exec LostReplies booked attempts result last ∧
      ¬ LostEarly attempts := by
  have cancelling : ∀ attempt ∈ (movingOut.replay World.exec
      [.none, .none, .lost (.db .connection)] booked).1, lostReply attempt = true := by
    decide +kernel
  have confirming : ∀ attempt ∈ (movingOut.replay World.exec
      [.none, .none, .none, .lost (.db .connection)] booked).1, lostReply attempt = true := by
    decide +kernel
  exact ⟨⟨_, _, _, Program.runs_replay fun attempt member =>
      .of_test (cancelling attempt member), by decide +kernel⟩,
    ⟨_, _, _, Program.runs_replay fun attempt member =>
      .of_test (confirming attempt member), by decide +kernel⟩⟩

theorem relocate_keepsNone : ∃ attempts result last,
    movingOut.Runs World.exec LostReplies booked attempts result last ∧
    ¬ ∃! kept, Keeps booked last (twoShards.router.forKey bookedRow.id) bookedRow kept := by
  obtain ⟨attempts, result, last, runs, inactive⟩ := runs_lost.1
  refine ⟨attempts, result, last, runs, ?_⟩
  rintro ⟨kept, ⟨member, active, _⟩, _⟩
  exact inactive kept.1 kept.2 member active

theorem relocate_keepsOne_booked : ∃ attempts result last,
    movingOut.Runs World.exec LostReplies booked attempts result last ∧
    ∃! kept, Keeps booked last (twoShards.router.forKey bookedRow.id) bookedRow kept := by
  obtain ⟨attempts, result, last, runs, heard⟩ := runs_lost.2
  exact ⟨attempts, result, last, runs, (relocate_keepsOne _ _ _ booked last bookedRow attempts
    result bookedRow_elsewhere bookedRow_stored (by decide) runs).mpr heard⟩

end HotelBooking
