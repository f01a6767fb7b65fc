import HotelBooking.Sharding.ShardKey

/-! Rows of the four tables, request bodies after the validation pipe and the
errors a request can end with. Column types follow schema.prisma; dates are
instants, prices exact cents. -/
namespace HotelBooking

inductive RoomType where
  | single
  | double
  | suite
  deriving DecidableEq

inductive BookingStatus where
  | pending
  | confirmed
  | cancelled
  | completed
  deriving DecidableEq

/-- `DECIMAL(10, 2)`: at most eight digits before the point, kept as cents. -/
structure Decimal where
  cents : Int
  fits : cents.natAbs < 10000000000
  deriving DecidableEq

def Decimal.ofCents? (cents : Int) : Option Decimal :=
  if fits : cents.natAbs < 10000000000 then some ⟨cents, fits⟩ else none

/-- A number given for a `DECIMAL(10, 2)` column is rounded half away from zero. -/
def Decimal.ofNumber? (number : Rat) : Option Decimal :=
  let magnitude := (number.abs * 100 + 1 / 2).floor
  Decimal.ofCents? (if number < 0 then -magnitude else magnitude)

structure Hotel where
  id : Text
  name : Text
  address : Text
  city : Text
  rating : Rat
  createdAt : Instant
  deriving DecidableEq

structure Room where
  id : Text
  hotelId : Text
  roomNumber : Text
  type : RoomType
  pricePerNight : Decimal
  capacity : Int
  createdAt : Instant
  deriving DecidableEq

structure Guest where
  id : Text
  fullName : Text
  email : Text
  phone : Option Text
  createdAt : Instant
  deriving DecidableEq

structure Booking where
  id : Text
  roomId : Text
  guestId : Text
  checkInDate : Instant
  checkOutDate : Instant
  status : BookingStatus
  totalPrice : Decimal
  createdAt : Instant
  deriving DecidableEq

/-- `ACTIVE_STATUSES` -/
def activeStatuses : List BookingStatus := [.pending, .confirmed]

def Booking.Active (booking : Booking) : Prop := booking.status ∈ activeStatuses

instance (booking : Booking) : Decidable booking.Active :=
  inferInstanceAs (Decidable (booking.status ∈ activeStatuses))

/-- Results of `include`: rows joined with their parents or children. -/
structure HotelCard where
  hotel : Hotel
  rooms : List Room
  deriving DecidableEq

structure RoomView where
  room : Room
  hotel : Hotel
  deriving DecidableEq

structure BookingView where
  booking : Booking
  room : Room
  hotel : Hotel
  deriving DecidableEq

structure BookingWithGuest where
  view : BookingView
  guest : Option Guest
  deriving DecidableEq

/-- The shape `@IsUUID()` admits, whatever version it is set to. -/
def isUUID (input : Text) : Bool :=
  input.length == 36 && input.zipIdx.all fun (unit, i) =>
    if i ∈ [8, 13, 18, 23] then unit == 45 else (hexDigit? unit).isSome

structure Uuid where
  text : Text
  admitted : isUUID text = true

instance : Coe Uuid Text := ⟨Uuid.text⟩

/-- An optional property of a body. `@IsOptional()` lets `null` through as well. -/
inductive Field (α : Type) where
  | absent
  | null
  | value (given : α)

structure CreateHotelDto where
  name : Text
  address : Text
  city : Text
  rating : Field Rat := .absent

structure UpdateHotelDto where
  name : Field Text := .absent
  address : Field Text := .absent
  city : Field Text := .absent
  rating : Field Rat := .absent

structure CreateRoomDto where
  hotelId : Uuid
  roomNumber : Text
  type : RoomType
  pricePerNight : Rat
  capacity : Int

structure UpdateRoomDto where
  hotelId : Field Uuid := .absent
  roomNumber : Field Text := .absent
  type : Field RoomType := .absent
  pricePerNight : Field Rat := .absent
  capacity : Field Int := .absent

structure SearchRoomDto where
  city : Option Text := none
  checkIn : Text
  checkOut : Text
  guests : Option Nat := none

structure CreateGuestDto where
  fullName : Text
  email : Text
  phone : Field Text := .absent

structure UpdateGuestDto where
  fullName : Field Text := .absent
  email : Field Text := .absent
  phone : Field Text := .absent

structure CreateBookingDto where
  roomId : Uuid
  guestId : Uuid
  checkInDate : Text
  checkOutDate : Text

structure UpdateBookingDto where
  roomId : Field Uuid := .absent
  guestId : Field Uuid := .absent
  checkInDate : Field Text := .absent
  checkOutDate : Field Text := .absent

structure RelocateBookingDto where
  roomId : Uuid
  simulateFailure : Bool := false

/-- Errors of the database client, by what the services can tell apart: a lost
or refused connection, an aborted serializable transaction (P2034), violated
constraints (P2002, P2003), a missing row (P2025), a value outside its column
and an argument that Prisma rejects before any query. -/
inductive DbError where
  | connection
  | serialization
  | uniqueConstraint
  | foreignKey
  | recordNotFound
  | outOfRange
  | validation
  | other
  deriving DecidableEq

inductive RedisError where
  | notReady
  | commandFailed
  deriving DecidableEq

inductive SagaStatus where
  | done
  | failed
  | compensated
  | skipped
  deriving DecidableEq

structure SagaStep where
  step : Text
  shard : Text
  status : SagaStatus
  detail : Option Text
  deriving DecidableEq

/-- What a request can reject with. `http` is an HttpException, `saga` the one
built by `sagaAborted`. -/
inductive Err where
  | db (error : DbError)
  | redis (error : RedisError)
  | plain (message : Text)
  | http (status : Nat) (message : Text)
  | saga (status : Nat) (message source target : Text) (steps : List SagaStep)
  deriving DecidableEq

namespace Err

def badRequest (message : Text) : Err := .http 400 message
def notFound (message : Text) : Err := .http 404 message
def conflict (message : Text) : Err := .http 409 message
def serviceUnavailable (message : Text) : Err := .http 503 message

/-- `isConnectionError` -/
def isConnection : Err → Bool
  | .db .connection => true
  | _ => false

/-- `err.code === 'P2034'` -/
def isSerialization : Err → Bool
  | .db .serialization => true
  | _ => false

/-- `err instanceof HttpException ? err.getStatus() : HttpStatus.CONFLICT` -/
def statusOrConflict : Err → Nat
  | .http status _ => status
  | .saga status _ _ _ _ => status
  | _ => 409

/-- `err.message`. The client's own wording is not part of the sources. -/
def message : Err → Text
  | .plain message | .http _ message | .saga _ message _ _ _ => message
  | .db _ => text "database error"
  | .redis _ => text "redis error"

end Err
end HotelBooking
