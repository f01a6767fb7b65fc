import HotelBooking.Cache.CacheService

/-! The bookings service. Bookings live on the shard of their room; guests live on
the global node. `relocate` is one local transaction within a shard and a saga
with compensation between two shards. -/
namespace HotelBooking
open Effect

def SERIALIZATION_RETRIES : Nat := 5

inductive RelocationMode where
  | localTransaction
  | saga
  deriving DecidableEq

structure Relocation where
  mode : RelocationMode
  source : Text
  target : Text
  booking : Booking
  previous : Booking
  steps : List SagaStep
  deriving DecidableEq

def BookingStatus.text : BookingStatus → Text
  | .pending => HotelBooking.text "PENDING"
  | .confirmed => HotelBooking.text "CONFIRMED"
  | .cancelled => HotelBooking.text "CANCELLED"
  | .completed => HotelBooking.text "COMPLETED"

/-- `first <= second` on dates: false when one of them is an Invalid Date. -/
def notAfter : Option Instant → Option Instant → Bool
  | some first, some second => first ≤ second
  | _, _ => false

namespace BookingsService
variable {n : Nat}

def invalidateSearch (env : Env n) : Async n Unit := CacheService.bumpVersion env

def assertGuestExists (guestId : Text) : Async n Unit := do
  match ← globalRead (.findUnique guestId) .strong with
  | some _ => return ()
  | none => throw (.notFound (text "Guest with id " ++ guestId ++ text " not found"))

def attachGuests (bookings : List BookingView) (consistency : Consistency) :
    Async n (List BookingWithGuest) := do
  let ids := (bookings.map fun view => view.booking.guestId).eraseDups
  let guests ← if ids.isEmpty then pure [] else globalRead (.findIn ids) consistency
  return bookings.map fun view =>
    ⟨view, guests.find? fun guest => guest.id = view.booking.guestId⟩

/-- The loop of `serializable`: `remaining` attempts are left after this one. -/
def serializableFrom (transaction : Nat → Async n α) (attempt : Nat) : Nat → Async n α
  | 0 =>
    try transaction attempt
    catch error =>
      if !error.isSerialization then throw error
      else throw (.conflict (text "Concurrent booking conflict, please retry"))
  | remaining + 1 =>
    try transaction attempt
    catch error =>
      if !error.isSerialization then throw error
      else serializableFrom transaction (attempt + 1) remaining

/-- A Serializable transaction, tried again when the database aborts it (P2034). -/
def serializable (transaction : Nat → Async n α) : Async n α :=
  serializableFrom transaction 1 (SERIALIZATION_RETRIES - 1)

def create (env : Env n) (entropy : Entropy) (dto : CreateBookingDto) : Async n Booking := do
  let checkIn := env.platform.newDate dto.checkInDate
  let checkOut := env.platform.newDate dto.checkOutDate
  if notAfter checkOut checkIn then
    throw (.badRequest (text "checkOutDate must be after checkInDate"))
  else
    assertGuestExists dto.guestId
    let shard := env.router.forKey dto.roomId
    let booking ← env.router.run shard (serializable fun attempt =>
      issue (.shard shard (.reserve {
        id := ShardRouter.childId dto.roomId (entropy.uuid attempt)
        roomId := dto.roomId
        guestId := dto.guestId
        checkIn
        checkOut
        status := .pending
        createdAt := entropy.now attempt })))
    invalidateSearch env
    return booking

def findAll (env : Env n) (schedule : Schedule n) : Async n (List BookingWithGuest) := do
  let bookings ← env.router.fanOutList schedule .bookingFindMany id true
  attachGuests bookings .eventual

/-- The booking's row on its shard, for the checks before a write. -/
def findLocal (env : Env n) (id : Text) : Async n Booking := do
  match ← env.router.read (env.router.forKey id) (.bookingFindUnique id) with
  | some booking => return booking
  | none => throw (.notFound (text "Booking with id " ++ id ++ text " not found"))

def findOne (env : Env n) (id : Text) : Async n BookingWithGuest := do
  match ← env.router.read (env.router.forKey id) (.bookingFindView id) with
  | some view => return (← attachGuests [view] .strong).headD ⟨view, none⟩
  | none => throw (.notFound (text "Booking with id " ++ id ++ text " not found"))

/-- The DTO as Prisma gets it: the dates are raw strings. -/
def patchData (platform : Platform) (dto : UpdateBookingDto) : BookingData where
  roomId := dto.roomId
  guestId := dto.guestId
  checkInDate := dto.checkInDate.map platform.prismaDateTime
  checkOutDate := dto.checkOutDate.map platform.prismaDateTime

/-- `dto.roomId && bucketOf(dto.roomId) !== bucketOf(id)` -/
def foreignBucket (given : Field Uuid) (id : Text) : Bool :=
  match given with
  | .value other => bucketOf other != bucketOf id
  | _ => false

def update (env : Env n) (id : Text) (dto : UpdateBookingDto) : Async n Booking := do
  if foreignBucket dto.roomId id then
    throw (.badRequest (text
      "Booking cannot be moved to another shard with PATCH; use POST /bookings/:id/relocate"))
  else
    match dto.guestId with
    | .value guestId => assertGuestExists guestId
    | _ => pure ()
    let _ ← findLocal env id
    let booking ← env.router.write (env.router.forKey id)
      (.bookingUpdate id (patchData env.platform dto))
    invalidateSearch env
    return booking

def remove (env : Env n) (id : Text) : Async n Booking := do
  let _ ← findLocal env id
  let booking ← env.router.write (env.router.forKey id) (.bookingDelete id)
  invalidateSearch env
  return booking

def cancel (env : Env n) (id : Text) : Async n Booking := do
  let booking ← findLocal env id
  match booking.status with
  | .cancelled => throw (.conflict (text "Booking is already cancelled"))
  | .completed => throw (.conflict (text "Cannot cancel a completed booking"))
  | _ =>
    let cancelled ← env.router.write (env.router.forKey id)
      (.bookingUpdate id { status := .value .cancelled })
    invalidateSearch env
    return cancelled

/-- The new reservation of a relocation: one identifier for all attempts. -/
def relocation (entropy : Entropy) (roomId : Text) (original : Booking) (status : BookingStatus)
    (attempt : Nat) : Reservation where
  id := ShardRouter.childId roomId (entropy.uuid 0)
  roomId
  guestId := original.guestId
  checkIn := some original.checkInDate
  checkOut := some original.checkOutDate
  status
  createdAt := entropy.now attempt

def sagaAborted (steps : List SagaStep) (error : Err) (source target : Text) : Err :=
  .saga error.statusOrConflict error.message source target steps

/-- Same shard: reserve and cancel are one local transaction. -/
def relocateLocally (env : Env n) (entropy : Entropy) (roomId id : Text) (original : Booking) :
    Async n Relocation := do
  let shard := env.router.forKey id
  let (created, previous) ← env.router.run shard (serializable fun attempt =>
    issue (.shard shard
      (.reserveAndCancel (relocation entropy roomId original original.status attempt) id)))
  invalidateSearch env
  return {
    mode := .localTransaction
    source := env.router.name shard
    target := env.router.name (env.router.forKey roomId)
    booking := created
    previous
    steps := [⟨text "reserve + cancel (one ACID transaction)", env.router.name shard, .done, none⟩] }

/-- T1: reserve on the target shard with status PENDING. -/
def sagaReserve (env : Env n) (entropy : Entropy) (roomId : Text) (original : Booking) :
    Async n Booking :=
  let target := env.router.forKey roomId
  env.router.run target (serializable fun attempt =>
    issue (.shard target (.reserve (relocation entropy roomId original .pending attempt))))

/-- T2: cancel the original, only if it is still active. -/
def sagaCancel (env : Env n) (id : Text) (simulateFailure : Bool) : Async n Unit := do
  if simulateFailure then
    throw (.plain (text "Injected failure before T2 (SAGA_FAULT_INJECTION)"))
  else
    let count ← env.router.write (env.router.forKey id)
      (.bookingUpdateMany id activeStatuses .cancelled)
    if count = 0 then throw (.conflict (text "Original booking is no longer active"))
    else return ()

/-- C1: cancel the reservation of T1 while it is PENDING. Its failure is recorded, not raised. -/
def compensate (env : Env n) (target : Fin n) (createdId : Text) : Async n SagaStep := do
  let step := text "C1 cancel reservation (compensation)"
  match ← attempt (env.router.write target (.bookingUpdateMany createdId [.pending] .cancelled)) with
  | .ok _ => return ⟨step, env.router.name target, .compensated, some createdId⟩
  | .error error => return ⟨step, env.router.name target, .failed, some error.message⟩

/-- T3: the new booking gets the status of the original. -/
def sagaConfirm (env : Env n) (target : Fin n) (createdId : Text) (status : BookingStatus) :
    Async n Booking :=
  env.router.write target (.bookingUpdate createdId { status := .value status })

/-- What follows T1: T2, and then either T3 or the compensation. -/
def relocateReserved (env : Env n) (id : Text) (original : Booking) (simulateFailure : Bool)
    (source target : Fin n) (created : Booking) : Async n Relocation := do
  let reserved : SagaStep :=
    ⟨text "T1 reserve new room (PENDING)", env.router.name target, .done, some created.id⟩
  let cancelling := text "T2 cancel original booking"
  match ← attempt (sagaCancel env id simulateFailure) with
  | .error error =>
    let failed : SagaStep := ⟨cancelling, env.router.name source, .failed, some error.message⟩
    let compensation ← compensate env target created.id
    invalidateSearch env
    throw (sagaAborted [reserved, failed, compensation] error (env.router.name source)
      (env.router.name target))
  | .ok () =>
    let confirmed ← sagaConfirm env target created.id original.status
    invalidateSearch env
    return {
      mode := .saga
      source := env.router.name source
      target := env.router.name target
      booking := confirmed
      previous := { original with status := .cancelled }
      steps := [reserved,
        ⟨cancelling, env.router.name source, .done, some id⟩,
        ⟨text "T3 set status " ++ original.status.text, env.router.name target, .done,
          some created.id⟩] }

/-- Different shards: T1, T2 and T3 commit one after the other. -/
def relocateSaga (env : Env n) (entropy : Entropy) (roomId id : Text) (original : Booking)
    (simulateFailure : Bool) : Async n Relocation := do
  let source := env.router.forKey id
  let target := env.router.forKey roomId
  let created ←
    try sagaReserve env entropy roomId original
    catch error =>
      throw (sagaAborted [⟨text "T1 reserve new room (PENDING)", env.router.name target, .failed,
        some error.message⟩] error (env.router.name source) (env.router.name target))
  relocateReserved env id original simulateFailure source target created

def relocate (env : Env n) (entropy : Entropy) (id : Text) (dto : RelocateBookingDto) :
    Async n Relocation := do
  if dto.simulateFailure && !env.sagaFaultInjection then
    throw (.badRequest (text "simulateFailure is available only with SAGA_FAULT_INJECTION=true"))
  else
    let original ← findLocal env id
    if ¬ original.Active then
      throw (.conflict (text "Only active bookings can be relocated (status: " ++
        original.status.text ++ text ")"))
    else if original.roomId = dto.roomId then
      throw (.badRequest (text "Booking is already in this room"))
    else if env.router.forKey id = env.router.forKey dto.roomId then
      relocateLocally env entropy dto.roomId id original
    else relocateSaga env entropy dto.roomId id original dto.simulateFailure

end BookingsService
end HotelBooking
