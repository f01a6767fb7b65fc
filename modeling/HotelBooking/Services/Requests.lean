import HotelBooking.Services.Catalogue

/-! The requests of the API, each with the program that serves it. -/
namespace HotelBooking

inductive Request where
  | createHotel (dto : CreateHotelDto)
  | findHotels
  | findHotel (id : Text)
  | updateHotel (id : Text) (dto : UpdateHotelDto)
  | removeHotel (id : Text)
  | createRoom (dto : CreateRoomDto)
  | findRooms
  | findRoom (id : Text)
  | searchRooms (dto : SearchRoomDto)
  | updateRoom (id : Text) (dto : UpdateRoomDto)
  | removeRoom (id : Text)
  | createGuest (dto : CreateGuestDto)
  | findGuests
  | findGuest (id : Text)
  | findGuestBookings (id : Text)
  | updateGuest (id : Text) (dto : UpdateGuestDto)
  | removeGuest (id : Text)
  | createBooking (dto : CreateBookingDto)
  | findBookings
  | findBooking (id : Text)
  | updateBooking (id : Text) (dto : UpdateBookingDto)
  | cancelBooking (id : Text)
  | removeBooking (id : Text)
  | relocateBooking (id : Text) (dto : RelocateBookingDto)

inductive Response where
  | hotel (hotel : Hotel)
  | hotels (hotels : List Hotel)
  | card (cache : CacheStatus) (card : HotelCard)
  | room (room : Room)
  | roomView (view : RoomView)
  | roomViews (views : List RoomView)
  | search (cache : CacheStatus) (views : List RoomView)
  | guest (guest : Guest)
  | guests (guests : List Guest)
  | booking (booking : Booking)
  | bookingViews (views : List BookingView)
  | bookingWithGuest (booking : BookingWithGuest)
  | bookings (bookings : List BookingWithGuest)
  | relocation (relocation : Relocation)
  deriving DecidableEq

/-- One received request with the randomness and the scheduling it will meet. -/
structure Call (n : Nat) where
  request : Request
  entropy : Entropy
  schedule : Schedule n

def Call.program (env : Env n) (call : Call n) : Async n Response :=
  match call.request with
  | .createHotel dto => return .hotel (← HotelsService.create env call.entropy dto)
  | .findHotels => return .hotels (← HotelsService.findAll env call.schedule)
  | .findHotel id => do
    let result ← HotelsService.findOneCached env call.entropy id
    return .card result.cache result.data
  | .updateHotel id dto => return .hotel (← HotelsService.update env id dto)
  | .removeHotel id => return .hotel (← HotelsService.remove env id)
  | .createRoom dto => return .room (← RoomsService.create env call.entropy dto)
  | .findRooms => return .roomViews (← RoomsService.findAll env call.schedule)
  | .findRoom id => return .roomView (← RoomsService.findOne env id)
  | .searchRooms dto => do
    let (cache, views) ← RoomsService.searchCached env call.entropy call.schedule dto
    return .search cache views
  | .updateRoom id dto => return .room (← RoomsService.update env id dto)
  | .removeRoom id => return .room (← RoomsService.remove env id)
  | .createGuest dto => return .guest (← GuestsService.create call.entropy dto)
  | .findGuests => return .guests (← GuestsService.findAll)
  | .findGuest id => return .guest (← GuestsService.findOne id .eventual)
  | .findGuestBookings id =>
    return .bookingViews (← GuestsService.findBookings env call.schedule id)
  | .updateGuest id dto => return .guest (← GuestsService.update id dto)
  | .removeGuest id => return .guest (← GuestsService.remove env call.schedule id)
  | .createBooking dto => return .booking (← BookingsService.create env call.entropy dto)
  | .findBookings => return .bookings (← BookingsService.findAll env call.schedule)
  | .findBooking id => return .bookingWithGuest (← BookingsService.findOne env id)
  | .updateBooking id dto => return .booking (← BookingsService.update env id dto)
  | .cancelBooking id => return .booking (← BookingsService.cancel env id)
  | .removeBooking id => return .booking (← BookingsService.remove env id)
  | .relocateBooking id dto =>
    return .relocation (← BookingsService.relocate env call.entropy id dto)

/-- One call served while nothing else runs. -/
def Call.serve (env : Env n) (world : World n) (call : Call n) : Except Err Response × World n :=
  (call.program env).run World.exec world

def Call.Served (env : Env n) (world : World n) (call : Call n) (after : World n) : Prop :=
  after = (call.serve env world).2

/-- The calls served one after another. -/
def serveAll (env : Env n) (calls : List (Call n)) (world : World n) : World n :=
  calls.foldl (fun state call => (call.serve env state).2) world

theorem run_serveAll (env : Env n) (calls : List (Call n)) (world : World n) :
    ∃ trace, Effect.Run (Call.Served env) world trace (serveAll env calls world) ∧
      trace.map Effect.Transition.event = calls := by
  have permits : ∀ call ∈ calls, ∀ state : World n,
      call.Served env state (call.serve env state).2 := fun _ _ _ => rfl
  exact Effect.Run.foldl permits world

def Call.sample {n : Nat} (request : Request) (byte : Nat) : Call n :=
  ⟨request, .sample byte, .inOrder n⟩

/-- The identifier in a bucket that ends in the given byte. -/
def sampleKey (bucket byte : Nat) : Text := idInBucket bucket (sampleUuid byte)

def dnipro : Uuid := ⟨sampleKey 34 1, by decide⟩
def prut : Uuid := ⟨sampleKey 53 0, by decide⟩
def olena : Uuid := ⟨sampleUuid 2, by decide⟩
def room101 : Uuid := ⟨sampleKey 34 3, by decide⟩
def room102 : Uuid := ⟨sampleKey 34 4, by decide⟩
def room201 : Uuid := ⟨sampleKey 53 5, by decide⟩

/-- Two hotels, in the buckets 34 and 53, with two rooms and one, and a guest. -/
def furnishing (n : Nat) : List (Call n) :=
  [.sample (.createHotel ⟨text "Dnipro", text "Naberezhna 1", text "Kyiv", .absent⟩) 1,
    .sample (.createHotel ⟨text "Prut", text "Holovna 2", text "Chernivtsi", .absent⟩) 0,
    .sample (.createGuest ⟨text "Olena", text "olena@example.ua", .absent⟩) 2,
    .sample (.createRoom ⟨dnipro, text "101", .single, 100, 2⟩) 3,
    .sample (.createRoom ⟨dnipro, text "102", .single, 100, 2⟩) 4,
    .sample (.createRoom ⟨prut, text "201", .double, 150, 2⟩) 5]

def furnished (n : Nat) (positive : 0 < n := by decide) : World n :=
  serveAll (.sample n .hash positive) (furnishing n) (.empty n)

theorem run_furnished {n : Nat} (positive : 0 < n) : ∃ trace,
    Effect.Run (Call.Served (.sample n .hash positive)) (World.empty n) trace
      (furnished n positive) := by
  obtain ⟨trace, run, _⟩ := run_serveAll (.sample n .hash positive) (furnishing n) (.empty n)
  exact ⟨trace, run⟩

/-- A booking of the sample guest. -/
def sampleBooking (room : Uuid) (checkIn checkOut : Nat) : Request :=
  .createBooking ⟨room, olena, january checkIn, january checkOut⟩

def twoShards : Env 2 := .sample 2 .hash

def onTwoShards : World 2 := furnished 2

/-- A booking on one of two shards. -/
def booked : World 2 :=
  serveAll twoShards [.sample (sampleBooking room101 1 5) 6] onTwoShards

end HotelBooking
