import HotelBooking.Relocation.FaultyRuns
import HotelBooking.Services.Runs

/-! The relocation saga on its own, while T1, T2 and T3 may fail or lose their replies.
The saga knows only what its steps report; a table of outcomes says where it ends, and
every execution of the code ends where the table says. -/
namespace HotelBooking
open Relational Effect
variable {n : Nat} {env : Env n} {entropy : Entropy} {world last : World n}
  {attempts first rest : Attempts n}

/-- T1: reserve. -/
def Cmd.isReserve : Cmd n → Bool
  | .shard _ (.reserve _) => true
  | _ => false

/-- T2: cancel the original if it is active. The compensation is sent for PENDING only. -/
def Cmd.isCancel : Cmd n → Bool
  | .shard _ (.bookingUpdateMany _ statuses _) => statuses = activeStatuses
  | _ => false

/-- T3: confirm. -/
def Cmd.isConfirm : Cmd n → Bool
  | .shard _ (.bookingUpdate ..) => true
  | _ => false

def Cmd.isSagaStep (cmd : Cmd n) : Bool := cmd.isReserve || cmd.isCancel || cmd.isConfirm

/-- A step fails without effect, or takes effect while its reply is lost. -/
inductive LostReplies : Policy (signature n) Err (World n) where
  | answered {world : World n} {cmd : Cmd n} : LostReplies world cmd .none
  | refused {world : World n} {cmd : Cmd n} {error : Err} : cmd.isSagaStep = true →
      LostReplies world cmd (.refused error)
  | lost {world : World n} {cmd : Cmd n} {answer : cmd.Answer} : cmd.isSagaStep = true →
      (World.exec cmd world).1 = .ok answer → LostReplies world cmd (.lost (.db .connection))

/-- A step fails without effect. -/
inductive CleanFailures : Policy (signature n) Err (World n) where
  | answered {world : World n} {cmd : Cmd n} : CleanFailures world cmd .none
  | refused {world : World n} {cmd : Cmd n} {error : Err} : cmd.isSagaStep = true →
      CleanFailures world cmd (.refused error)

instance {ε : Type} (fault : Fault ε) : Decidable (fault = .none) :=
  match fault with
  | .none => isTrue rfl
  | .refused _ => isFalse nofun
  | .lost _ => isFalse nofun

instance (world : World n) (cmd : Cmd n) (fault : Fault Err) :
    Decidable (CleanFailures world cmd fault) :=
  match fault with
  | .none => isTrue .answered
  | .refused _ =>
    if step : cmd.isSagaStep = true then isTrue (.refused step)
    else isFalse fun | .refused taken => step taken
  | .lost _ => isFalse nofun

/-- `LostReplies` as a test of an attempt. -/
def lostReply (attempt : Attempt (signature n) Err (World n)) : Bool :=
  match attempt.fault with
  | .none => true
  | .refused _ => Cmd.isSagaStep attempt.cmd
  | .lost (.db .connection) =>
    Cmd.isSagaStep attempt.cmd && (World.exec attempt.cmd attempt.before).1.toOption.isSome
  | .lost _ => false

theorem LostReplies.of_test {attempt : Attempt (signature n) Err (World n)}
    (test : lostReply attempt = true) : LostReplies attempt.before attempt.cmd attempt.fault := by
  obtain ⟨before, cmd, fault⟩ := attempt
  unfold lostReply at test
  split at test
  · next same => exact same ▸ .answered
  · next same => exact same ▸ .refused test
  · next same =>
    obtain ⟨step, answered⟩ := Bool.and_eq_true_iff.mp test
    cases done : (World.exec cmd before).1 with
    | error error =>
      rw [done] at answered
      cases answered
    | ok answer => exact same ▸ .lost step done
  · cases test

/-- The reply to an effective T1 or T2 was lost. -/
def LostEarly (attempts : Attempts n) : Prop :=
  ∃ attempt ∈ attempts, (attempt.cmd.isReserve || attempt.cmd.isCancel) = true ∧
    attempt.fault.isLost = true

/-- T3 was attempted and did not report success. -/
def ConfirmFailed (attempts : Attempts n) : Prop :=
  ∃ attempt ∈ attempts, attempt.cmd.isConfirm = true ∧ attempt.fault ≠ .none

instance (attempts : Attempts n) : Decidable (LostEarly attempts) :=
  inferInstanceAs (Decidable (∃ attempt ∈ attempts, _ ∧ _))

instance (attempts : Attempts n) : Decidable (ConfirmFailed attempts) :=
  inferInstanceAs (Decidable (∃ attempt ∈ attempts, _ ∧ _))

theorem lostEarly_append : LostEarly (first ++ rest) ↔ LostEarly first ∨ LostEarly rest := by
  simp only [LostEarly, List.mem_append, or_and_right, exists_or]

theorem confirmFailed_append :
    ConfirmFailed (first ++ rest) ↔ ConfirmFailed first ∨ ConfirmFailed rest := by
  simp only [ConfirmFailed, List.mem_append, or_and_right, exists_or]

/-- Neither T1, T2 nor T3 is among the attempts. -/
def NoSagaStep (attempts : Attempts n) : Prop :=
  ∀ attempt ∈ attempts, attempt.cmd.isSagaStep = false

theorem NoSagaStep.quiet (none : NoSagaStep attempts) :
    ¬ LostEarly attempts ∧ ¬ ConfirmFailed attempts := by
  constructor
  · rintro ⟨attempt, member, step, _⟩
    have other := none attempt member
    simp_all [Cmd.isSagaStep]
  · rintro ⟨attempt, member, step, _⟩
    have other := none attempt member
    simp_all [Cmd.isSagaStep]

theorem OnlyCache.noSagaStep (cached : OnlyCache attempts) : NoSagaStep attempts := by
  intro attempt member
  obtain ⟨cmd, same⟩ := cached attempt member
  rw [same]
  rfl

/-- How a step ended: `lost` took effect and reported an error. -/
inductive Outcome where
  | done
  | failed
  | lost
  deriving DecidableEq

/-- The status a step leaves. -/
def Outcome.after : Outcome → α → α → α
  | .failed, old, _ => old
  | _, _, new => new

structure SagaEnd where
  resolved : Bool
  reservation : Option BookingStatus
  original : BookingStatus

/-- Where the saga of an original with the given status ends, by the outcomes of T1, T2 and
T3. A lost T2 is compensated although the original is cancelled. -/
def sagaEnd (status : BookingStatus) : Outcome → Outcome → Outcome → SagaEnd
  | .failed, _, _ => ⟨false, none, status⟩
  | .lost, _, _ => ⟨false, some .pending, status⟩
  | .done, .failed, _ => ⟨false, some .cancelled, status⟩
  | .done, .lost, _ => ⟨false, some .cancelled, .cancelled⟩
  | .done, .done, .done => ⟨true, some status, .cancelled⟩
  | .done, .done, .failed => ⟨false, some .pending, .cancelled⟩
  | .done, .done, .lost => ⟨false, some status, .cancelled⟩

/-- The bookings of a world in which the saga that began in `world` has brought the original
to `status` and has made the given reservation. -/
structure SagaState (world : World n) (source target : Fin n) (roomId : Text)
    (original : Booking) (reservation : Option Booking) (status : BookingStatus)
    (current : World n) : Prop where
  atSource : ∀ booking, booking ∈ (current.shards source).bookings ↔
    booking = { original with status } ∨
      booking ∈ (world.shards source).bookings ∧ booking.id ≠ original.id
  atTarget : ∀ booking, booking ∈ (current.shards target).bookings ↔
    reservation = some booking ∨ booking ∈ (world.shards target).bookings
  elsewhere : ∀ i, i ≠ source → i ≠ target → current.shards i = world.shards i
  fresh : ∀ created, reservation = some created →
    (world.shards target).bookings.find? created.id = none
  copy : ∀ created, reservation = some created → created.roomId = roomId ∧
    created.guestId = original.guestId ∧ created.checkInDate = original.checkInDate ∧
    created.checkOutDate = original.checkOutDate

namespace SagaState
variable {source target : Fin n} {roomId : Text} {original created : Booking}
  {reservation : Option Booking} {status : BookingStatus} {current other : World n}

theorem congr (state : SagaState world source target roomId original reservation status current)
    (same : other.shards = current.shards) :
    SagaState world source target roomId original reservation status other := by
  obtain ⟨atSource, atTarget, elsewhere, fresh, copy⟩ := state
  constructor
  · rwa [same]
  · rwa [same]
  · rwa [same]
  · exact fresh
  · exact copy

theorem start (found : (world.shards source).bookings.find? original.id = some original) :
    SagaState world source target roomId original none original.status world := by
  have stored := (Table.find?_eq_some.mp found).1
  refine ⟨fun booking => ⟨fun member => ?_, ?_⟩, by simp, fun i _ _ => rfl, by simp, by simp⟩
  · by_cases same : booking.id = original.id
    · exact Or.inl (Table.eq_of_key member stored same)
    · exact Or.inr ⟨member, same⟩
  · rintro (rfl | ⟨member, _⟩)
    · exact stored
    · exact member

/-- T1, on the world in which the saga begins. -/
theorem reserve (distinct : source ≠ target) {k : Nat}
    (found : (world.shards source).bookings.find? original.id = some original)
    (made : Reserves (world.shards target)
      (BookingsService.relocation entropy roomId original .pending k) none created) :
    SagaState world source target roomId original (some created) original.status
      (world.setShard target ((world.shards target).insertBooking created made.fresh made.room)) := by
  have state : SagaState world source target roomId original none original.status world := start found
  constructor
  · rw [World.setShard_of_ne world distinct]
    exact state.atSource
  · intro booking
    rw [World.setShard_self, Tables.mem_insertBooking, Option.some.injEq, eq_comm]
  · intro i notSource notTarget
    exact World.setShard_of_ne world notTarget _
  · intro other same
    obtain rfl := Option.some.inj same
    exact made.fresh
  · intro other same
    obtain rfl := Option.some.inj same
    exact ⟨made.roomId, made.guestId, (Option.some.inj made.checkIn).symm,
      (Option.some.inj made.checkOut).symm⟩

theorem find?_original
    (state : SagaState world source target roomId original reservation status current) :
    (current.shards source).bookings.find? original.id = some { original with status } :=
  Table.find?_eq_some.mpr ⟨(state.atSource _).mpr (Or.inl rfl), rfl⟩

theorem find?_reservation
    (state : SagaState world source target roomId original (some created) status current) :
    (current.shards target).bookings.find? created.id = some created :=
  Table.find?_eq_some.mpr ⟨(state.atTarget _).mpr (Or.inl rfl), rfl⟩

/-- A status write to the original, on the source shard. -/
theorem setOriginal (distinct : source ≠ target)
    (state : SagaState world source target roomId original reservation status current)
    (given : BookingStatus) (room : ((current.shards source).rooms.find? original.roomId).isSome) :
    SagaState world source target roomId original reservation given
      (current.setShard source ((current.shards source).putBooking
        { original with status := given } room)) := by
  constructor
  · intro booking
    have put := @Tables.mem_putBooking _ { original with status := given } _ booking _ room
      state.find?_original rfl
    rw [World.setShard_self, put, state.atSource]
    apply or_congr_right
    constructor
    · rintro ⟨rfl | old, different⟩
      · exact absurd rfl different
      · exact old
    · rintro ⟨member, different⟩
      exact ⟨Or.inr ⟨member, different⟩, different⟩
  · rw [World.setShard_of_ne current distinct.symm]
    exact state.atTarget
  · intro i notSource notTarget
    rw [World.setShard_of_ne current notSource]
    exact state.elsewhere i notSource notTarget
  · exact state.fresh
  · exact state.copy

/-- A status write to the reservation, on the target shard. -/
theorem setReservation (distinct : source ≠ target)
    (state : SagaState world source target roomId original (some created) status current)
    (given : BookingStatus) (room : ((current.shards target).rooms.find? created.roomId).isSome) :
    SagaState world source target roomId original (some { created with status := given }) status
      (current.setShard target ((current.shards target).putBooking
        { created with status := given } room)) := by
  constructor
  · rw [World.setShard_of_ne current distinct]
    exact state.atSource
  · intro booking
    have put := @Tables.mem_putBooking _ { created with status := given } _ booking _ room
      state.find?_reservation rfl
    rw [World.setShard_self, put, state.atTarget, Option.some.injEq, Option.some.injEq, eq_comm]
    refine or_congr_right ⟨?_, fun member => ⟨Or.inr member, fun same => ?_⟩⟩
    · rintro ⟨rfl | old, different⟩
      · exact absurd rfl different
      · exact old
    · exact Table.find?_eq_none.mp (state.fresh created rfl) booking member same
  · intro i notSource notTarget
    rw [World.setShard_of_ne current notTarget]
    exact state.elsewhere i notSource notTarget
  · intro other same
    obtain rfl := Option.some.inj same
    exact state.fresh created rfl
  · intro other same
    obtain rfl := Option.some.inj same
    exact state.copy created rfl

/-- T2 finds the original active. -/
theorem exec_cancel (distinct : source ≠ target) (active : original.Active)
    (state : SagaState world source target roomId original reservation original.status current) :
    ∃ after, World.exec (.shard source (.bookingUpdateMany original.id activeStatuses .cancelled))
        current = (.ok 1, after) ∧
      SagaState world source target roomId original reservation .cancelled after := by
  obtain ⟨room, written⟩ := Tables.bookingUpdateMany_changed state.find?_original active .cancelled
  refine ⟨_, ?_, state.setOriginal distinct .cancelled room⟩
  rw [exec_updateMany, written]

/-- C1 finds the reservation PENDING. -/
theorem exec_compensate (distinct : source ≠ target) (pending : created.status = .pending)
    (state : SagaState world source target roomId original (some created) status current) :
    ∃ after, World.exec (.shard target (.bookingUpdateMany created.id [.pending] .cancelled))
        current = (.ok 1, after) ∧
      SagaState world source target roomId original (some { created with status := .cancelled })
        status after := by
  obtain ⟨room, written⟩ := Tables.bookingUpdateMany_changed state.find?_reservation
    (List.mem_singleton.mpr pending) .cancelled
  refine ⟨_, ?_, state.setReservation distinct .cancelled room⟩
  rw [exec_updateMany, written]

/-- T3 finds the reservation, whatever its status. -/
theorem exec_confirm (distinct : source ≠ target) (given : BookingStatus)
    (state : SagaState world source target roomId original (some created) status current) :
    ∃ after, World.exec (.shard target (.bookingUpdate created.id { status := .value given }))
        current = (.ok { created with status := given }, after) ∧
      SagaState world source target roomId original (some { created with status := given })
        status after := by
  have room := (current.shards target).bookings_room created
    (Table.find?_eq_some.mp state.find?_reservation).1
  have merged := BookingData.over_status created given
  exact ⟨_, World.exec_shard_ok (Tables.bookingUpdate_stored state.find?_reservation merged room),
    state.setReservation distinct given room⟩

end SagaState
end HotelBooking
