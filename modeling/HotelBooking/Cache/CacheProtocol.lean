import HotelBooking.Services.Protocols

/-! What each request does to the cache, in the order in which it does it. A search reads the
version before it looks an entry up, reads shards or stores. A write is followed by the deletion
of the cards that it may have changed and by a new search version. -/
namespace HotelBooking
open Effect
variable {n : Nat}

/-- The search version that a GET gives `getVersion`. -/
def Cmd.versionRead : (cmd : Cmd n) → Except Err cmd.Answer → Option Nat
  | .cache (.get .searchVersion), .ok version => some (version.getD 0)
  | .cache (.get .searchVersion), .error _ => some 0
  | _, _ => none

/-- Rooms that a search may return without another read: an entry found, or the rooms it stored. -/
def Cmd.searchShown : (cmd : Cmd n) → Except Err cmd.Answer → Option (List RoomView)
  | .cache (.get (.roomsSearch ..)), .ok (some views) => some views
  | .cache (.set (.roomsSearch ..) views _), _ => some views
  | _, _ => none

/-- A card that a GET /hotels/:id may return, with the identifier it was read for. -/
def Cmd.cardShown : (cmd : Cmd n) → Except Err cmd.Answer → Option (Text × HotelCard)
  | .cache (.get (.hotel id)), .ok card => card.map fun card => (id, card)
  | .shard _ (.hotelFindCard id), .ok card => card.map fun card => (id, card)
  | _, _ => none

/-- A card that was read from a shard. -/
def Cmd.cardLoaded : (cmd : Cmd n) → Except Err cmd.Answer → Option (Text × HotelCard)
  | .shard _ (.hotelFindCard id), .ok card => card.map fun card => (id, card)
  | _, _ => none

/-- The hotel of a room that was read. -/
def Cmd.homeRead : (cmd : Cmd n) → Except Err cmd.Answer → Option Text
  | .shard _ (.roomFindUnique _), .ok view => view.map fun view => view.room.hotelId
  | _, _ => none

/-- A statement that wrote to a shard. -/
def Cmd.commits : (cmd : Cmd n) → Except Err cmd.Answer → Bool
  | .shard _ stmt, .ok _ => !stmt.isRead
  | _, _ => false

/-- The hotels whose cards a committed statement may have changed, as far as the client knows. -/
def Cmd.touches (home : Option Text) : (cmd : Cmd n) → Except Err cmd.Answer → List Text
  | .shard _ (.hotelUpdate id _), .ok _ => [id]
  | .shard _ (.hotelDelete id), .ok _ => [id]
  | .shard _ (.roomCreate ..), .ok room => [room.hotelId]
  | .shard _ (.roomUpdate ..), .ok room => home.toList ++ [room.hotelId]
  | .shard _ (.roomDelete _), .ok room => [room.hotelId]
  | _, _ => []

def Cmd.bumps : Cmd n → Bool
  | .cache .incr => true
  | _ => false

def Cmd.forgets : Cmd n → Text → Bool
  | .cache (.del keys), id => CacheKey.hotel id ∈ keys
  | _, _ => false

def Cmd.redisFailed : (cmd : Cmd n) → Except Err cmd.Answer → Bool
  | .cache _, .error _ => true
  | _, _ => false

/-- What a client has learned, and what it owes: a new search version after a commit, and the
deletion of cards that may be stale. `cards` are all that it was shown, `loaded` those that it
read from a shard. -/
structure CachePhase where
  request : Option Request
  version : Option Nat := none
  searches : List (List RoomView) := []
  cards : List (Text × HotelCard) := []
  loaded : List (Text × HotelCard) := []
  home : Option Text := none
  failed : Bool := false
  dirty : Bool := false
  stale : List Text := []

/-- The commands that the order of the cache calls allows in a phase. -/
structure CacheAllows (env : Env n) (phase : CachePhase) (cmd : Cmd n) : Prop where
  once : cmd = .cache (.get .searchVersion) → phase.version = none
  look : ∀ version params, cmd = .cache (.get (.roomsSearch version params)) →
    phase.version = some version
  fill : ∀ version params views ttlSec,
    cmd = .cache (.set (.roomsSearch version params) views ttlSec) → phase.version = some version
  counter : ∀ version ttlSec, cmd ≠ .cache (.set .searchVersion version ttlSec)
  forget : ∀ keys, cmd = .cache (.del keys) → .searchVersion ∉ keys
  read : ∀ i filter, cmd = .shard i (.roomSearch filter) → phase.version.isSome = true ∧
    filter.checkIn.isSome = true ∧ filter.checkOut.isSome = true
  aim : ∀ i id, cmd = .shard i (.hotelFindCard id) → i = env.router.forKey id
  keep : ∀ id card ttlSec, cmd = .cache (.set (.hotel id) card ttlSec) → (id, card) ∈ phase.loaded

abbrev cacheProtocol (env : Env n) : Protocol (signature n) Err where
  Phase := CachePhase
  allows := CacheAllows env
  next phase cmd reply := {
    request := phase.request
    version := phase.version.or (Cmd.versionRead cmd reply)
    searches := phase.searches ++ (Cmd.searchShown cmd reply).toList
    cards := phase.cards ++ (Cmd.cardShown cmd reply).toList
    loaded := phase.loaded ++ (Cmd.cardLoaded cmd reply).toList
    home := (Cmd.homeRead cmd reply).or phase.home
    failed := Cmd.redisFailed cmd reply || phase.failed
    dirty := (Cmd.commits cmd reply || phase.dirty) && !cmd.bumps
    stale := (Cmd.touches phase.home cmd reply ++ phase.stale).filter fun id => !cmd.forgets id }

/-- Nothing is owed. An empty string is no identifier, and no key is deleted for it. -/
structure CachePhase.Clean (phase : CachePhase) : Prop where
  dirty : phase.dirty = false
  stale : ∀ id ∈ phase.stale, id = []

/-- How a request ends: it owes nothing, and what it returns it was shown. A new hotel is in no
card and in no stored search result yet; its creation does nothing to the cache. -/
structure CacheAnswers (phase : CachePhase) (response : Response) : Prop where
  clean : (∀ dto, phase.request ≠ some (.createHotel dto)) → phase.Clean
  search : ∀ status views, response = .search status views →
    phase.failed = true ∨ views ∈ phase.searches
  card : ∀ status card, response = .card status card →
    ∃ id, phase.request = some (.findHotel id) ∧ (id, card) ∈ phase.cards

/-- A response that is neither a list of found rooms nor a card. -/
def Response.isPlain : Response → Bool
  | .search .. | .card .. => false
  | _ => true

/-- Reads that are neither a search nor the read of a card. -/
def Stmt.isPlain : Stmt → Bool
  | .roomSearch _ | .hotelFindCard _ => false
  | stmt => stmt.isRead

/-- Reads of a shard, except those of a search, and everything on the global node. -/
inductive Cmd.Quiet (env : Env n) : Cmd n → Prop where
  | read {i : Fin n} {stmt : Stmt} : stmt.isPlain = true → Quiet env (.shard i stmt)
  | card {id : Text} : Quiet env (.shard (env.router.forKey id) (.hotelFindCard id))
  | guests {stmt : GuestStmt} : Quiet env (.guests stmt)

section Quiet
variable {env : Env n}

theorem Cmd.Quiet.allows {cmd : Cmd n} (quiet : cmd.Quiet env) (phase : CachePhase) :
    CacheAllows env phase cmd := by
  cases quiet with
  | read plain =>
    refine ⟨nofun, nofun, nofun, nofun, nofun, ?_, ?_, nofun⟩
    all_goals
      rintro _ _ ⟨⟩
      cases plain
  | card =>
    refine ⟨nofun, nofun, nofun, nofun, nofun, ?_, ?_, nofun⟩
    · rintro _ _ ⟨⟩
    · rintro _ _ ⟨⟩
      rfl
  | guests => exact ⟨nofun, nofun, nofun, nofun, nofun, nofun, nofun, nofun⟩

/-- A quiet command shows a card or the hotel of a room at most. -/
theorem Cmd.Quiet.next {cmd : Cmd n} (quiet : cmd.Quiet env) (phase : CachePhase)
    (reply : Except Err cmd.Answer) : ∃ cards loaded home,
      (cacheProtocol env).next phase cmd reply = { phase with cards, loaded, home } := by
  have plain : cmd.versionRead reply = none ∧ cmd.searchShown reply = none ∧
      cmd.redisFailed reply = false ∧ cmd.commits reply = false ∧ cmd.bumps = false ∧
      cmd.touches phase.home reply = [] ∧ ∀ id, cmd.forgets id = false := by
    have reads {i : Fin n} {stmt : Stmt} (isRead : stmt.isRead = true)
        (reply : Except Err (Cmd.shard i stmt).Answer) :
        Cmd.versionRead (.shard i stmt) reply = none ∧ Cmd.searchShown (.shard i stmt) reply = none ∧
        Cmd.redisFailed (.shard i stmt) reply = false ∧ Cmd.commits (.shard i stmt) reply = false ∧
        Cmd.bumps (.shard i stmt) = false ∧ Cmd.touches phase.home (.shard i stmt) reply = [] ∧
        ∀ id, Cmd.forgets (.shard i stmt) id = false := by
      cases reply with
      | error error => cases stmt <;> exact ⟨rfl, rfl, rfl, rfl, rfl, rfl, fun _ => rfl⟩
      | ok answer =>
        have still : Cmd.commits (.shard i stmt) (.ok answer) = false := by
          rw [Cmd.commits, isRead]
          rfl
        cases stmt <;> first
          | exact ⟨rfl, rfl, rfl, still, rfl, rfl, fun _ => rfl⟩
          | cases isRead
    cases quiet with
    | @read i stmt plain =>
      refine reads ?_ reply
      cases stmt <;> first | rfl | cases plain
    | card => exact reads rfl reply
    | guests => exact ⟨rfl, rfl, rfl, rfl, rfl, rfl, fun _ => rfl⟩
  obtain ⟨version, shown, failed, commits, bumps, touches, forgets⟩ := plain
  refine ⟨phase.cards ++ (cmd.cardShown reply).toList,
    phase.loaded ++ (cmd.cardLoaded reply).toList, (cmd.homeRead reply).or phase.home, ?_⟩
  simp only [version, shown, failed, commits, bumps, touches, forgets, Option.or_none,
    Option.toList_none, List.append_nil, List.nil_append, Bool.false_or, Bool.not_false,
    Bool.and_true, List.filter_true]

end Quiet

namespace Caching
section Basic
variable {env : Env n}

/-- Quiet programs leave everything but the cards and the room that they were shown. -/
theorem quiet_obeys {program : Async n α} (uses : program.Uses (Cmd.Quiet env)) (phase : CachePhase) :
    program.Obeys (cacheProtocol env)
      (Returns fun after _ => ∃ cards loaded home, after = { phase with cards, loaded, home })
      phase := by
  refine uses.obeys (fun after : CachePhase =>
    ∃ cards loaded home, after = { phase with cards, loaded, home })
    ?_ ?_ ?_ ⟨phase.cards, phase.loaded, phase.home, rfl⟩
  · exact fun after _ _ quiet => quiet.allows after
  · rintro _ cmd reply ⟨cards, loaded, home, rfl⟩ quiet
    obtain ⟨cards', loaded', home', same⟩ := quiet.next { phase with cards, loaded, home } reply
    exact ⟨cards', loaded', home', same⟩
  · exact fun _ _ same _ _ => same

end Basic

/-- No card is left to delete. -/
def Settled (phase : CachePhase) : Prop := ∀ id ∈ phase.stale, id = []

section Invalidation
variable {env : Env n} {phase : CachePhase}

theorem attempt_obeys {cmd : Cmd n} (holds : CachePhase → Prop) (allowed : CacheAllows env phase cmd)
    (final : ∀ reply, holds ((cacheProtocol env).next phase cmd reply)) :
    (attempt (issue cmd)).Obeys (cacheProtocol env) (Returns fun after _ => holds after) phase := by
  have issued : (issue cmd).Obeys (cacheProtocol env) (fun after _ => holds after) phase :=
    obeys_issue allowed final
  exact obeys_attempt issued fun _ _ reached _ _ => reached

theorem bump_obeys (configured : env.redisConfigured = true) (settled : Settled phase) :
    (CacheService.bumpVersion env).Obeys (cacheProtocol env) (Returns fun after _ => after.Clean)
      phase := by
  unfold CacheService.bumpVersion
  rw [configured]
  refine obeys_then (attempt_obeys CachePhase.Clean ⟨nofun, nofun, nofun, nofun, nofun, nofun, nofun, nofun⟩
    fun reply => ?_) fun _ _ clean => obeys_ret clean
  refine ⟨Bool.and_false _, fun id member => ?_⟩
  exact settled id (List.mem_filter.mp member).1

theorem invalidate_obeys (configured : env.redisConfigured = true) (ids : List Text)
    (owes : ∀ id ∈ phase.stale, id ∈ ids ∨ id = []) :
    (CacheService.invalidate env (ids.map CacheKey.hotel)).Obeys (cacheProtocol env)
      (Returns fun after _ => Settled after) phase := by
  unfold CacheService.invalidate
  rw [configured]
  cases ids with
  | nil => exact obeys_ret fun id member => (owes id member).resolve_left List.not_mem_nil
  | cons first rest =>
    refine obeys_then (attempt_obeys Settled ⟨nofun, nofun, nofun, nofun, ?_, nofun, nofun, nofun⟩
      fun reply => ?_) fun _ _ settled => obeys_ret settled
    · rintro keys ⟨⟩ member
      obtain ⟨id, _, same⟩ := List.mem_map.mp member
      cases same
    · intro id member
      obtain ⟨kept, alive⟩ := List.mem_filter.mp member
      refine (owes id kept).resolve_left fun listed => ?_
      have deleted : Cmd.forgets (n := n) (.cache (.del ((first :: rest).map CacheKey.hotel))) id =
          true := decide_eq_true (List.mem_map_of_mem listed)
      rw [deleted] at alive
      cases alive

theorem invalidateForRooms_obeys (configured : env.redisConfigured = true) (ids : List Text)
    (owes : ∀ id ∈ phase.stale, id ∈ ids ∨ id = []) :
    (RoomsService.invalidateForRooms env ids).Obeys (cacheProtocol env)
      (Returns fun after _ => after.Clean) phase := by
  refine obeys_then (invalidate_obeys configured _ fun id member => ?_)
    fun _ _ settled => bump_obeys configured settled
  rcases owes id member with listed | empty
  · by_cases empty : id = []
    · exact Or.inr empty
    · refine Or.inl (List.mem_eraseDups.mpr (List.mem_filter.mpr ⟨listed, ?_⟩))
      rw [Bool.not_eq_true', List.isEmpty_eq_false_iff]
      exact empty
  · exact Or.inr empty

end Invalidation

end Caching

/-- Statements that leave the hotels and the rooms as they are, and read no search and no card. -/
def Stmt.ofBookings : Stmt → Bool
  | .roomSearch _ | .hotelFindCard _ | .hotelCreate .. | .hotelUpdate .. | .hotelDelete _ | .roomCreate ..
  | .roomUpdate .. | .roomDelete _ => false
  | _ => true

/-- Commands after which no card needs to be deleted. -/
inductive Cmd.Sparing : Cmd n → Prop where
  | shard {i : Fin n} {stmt : Stmt} : stmt.ofBookings = true → Sparing (.shard i stmt)
  | guests {stmt : GuestStmt} : Sparing (.guests stmt)

theorem Cmd.Sparing.allows {env : Env n} {cmd : Cmd n} (sparing : cmd.Sparing) (phase : CachePhase) :
    CacheAllows env phase cmd := by
  cases sparing with
  | shard ofBookings =>
    refine ⟨nofun, nofun, nofun, nofun, nofun, ?_, ?_, nofun⟩
    all_goals
      rintro _ _ ⟨⟩
      cases ofBookings
  | guests => exact ⟨nofun, nofun, nofun, nofun, nofun, nofun, nofun, nofun⟩

theorem Cmd.Sparing.touches {cmd : Cmd n} (sparing : cmd.Sparing) (home : Option Text)
    (reply : Except Err cmd.Answer) : cmd.touches home reply = [] := by
  cases sparing with
  | @shard i stmt ofBookings =>
    cases reply with
    | error error => cases stmt <;> rfl
    | ok answer => cases stmt <;> first | rfl | cases ofBookings
  | guests => rfl

namespace Caching
section Services
variable {env : Env n} {phase : CachePhase}

theorem sparing_obeys {program : Async n α} (uses : program.Uses Cmd.Sparing)
    (settled : Settled phase) : program.Obeys (cacheProtocol env)
      (Returns fun after _ => Settled after) phase := by
  refine uses.obeys (fun after : CachePhase => Settled after) ?_ ?_ ?_ settled
  · exact fun after _ _ sparing => sparing.allows after
  · intro after cmd reply settled sparing id member
    have kept := (List.mem_filter.mp member).1
    rw [sparing.touches, List.nil_append] at kept
    exact settled id kept
  · exact fun _ _ settled _ _ => settled

/-- Writes to bookings, and then a new search version. -/
theorem thenBump_obeys (configured : env.redisConfigured = true) {program : Async n α}
    {next : α → β} (uses : program.Uses Cmd.Sparing) (settled : Settled phase) :
    (program.bind fun result => (CacheService.bumpVersion env).bind fun _ =>
      .ret (next result)).Obeys (cacheProtocol env) (Returns fun after _ => after.Clean) phase :=
  obeys_then (sparing_obeys uses settled) fun _ _ settled =>
    obeys_then (bump_obeys configured settled) fun _ _ clean => obeys_ret clean

theorem bookingsCreate_obeys (configured : env.redisConfigured = true) (entropy : Entropy)
    (dto : CreateBookingDto) (settled : Settled phase) :
    (BookingsService.create env entropy dto).Obeys (cacheProtocol env)
      (Returns fun after _ => after.Clean) phase := by
  unfold BookingsService.create
  dsimp only
  split
  · exact obeys_raise _
  · refine obeys_then (sparing_obeys (uses_assertGuestExists .guests) settled) fun _ _ settled => ?_
    exact thenBump_obeys configured
      (uses_run (uses_serializable fun _ => uses_issue (.shard rfl))) settled

theorem bookingsUpdate_obeys (configured : env.redisConfigured = true) (id : Text)
    (dto : UpdateBookingDto) (settled : Settled phase) :
    (BookingsService.update env id dto).Obeys (cacheProtocol env)
      (Returns fun after _ => after.Clean) phase := by
  have rest (phase : CachePhase) (settled : Settled phase) : (do
      let _ ← BookingsService.findLocal env id
      let booking ← env.router.write (env.router.forKey id)
        (.bookingUpdate id (BookingsService.patchData env.platform dto))
      BookingsService.invalidateSearch env
      return booking : Async n Booking).Obeys (cacheProtocol env)
        (Returns fun after _ => after.Clean) phase :=
    obeys_then (sparing_obeys (uses_findLocal (.shard rfl)) settled) fun _ _ settled =>
      thenBump_obeys configured (uses_write (.shard rfl)) settled
  unfold BookingsService.update
  split
  · exact obeys_raise _
  · dsimp only
    split
    · exact obeys_then (sparing_obeys (uses_assertGuestExists .guests) settled) fun after _ settled =>
        rest after settled
    · exact rest phase settled

theorem bookingsRemove_obeys (configured : env.redisConfigured = true) (id : Text)
    (settled : Settled phase) : (BookingsService.remove env id).Obeys (cacheProtocol env)
      (Returns fun after _ => after.Clean) phase :=
  obeys_then (sparing_obeys (uses_findLocal (.shard rfl)) settled) fun _ _ settled =>
    thenBump_obeys configured (uses_write (.shard rfl)) settled

theorem bookingsCancel_obeys (configured : env.redisConfigured = true) (id : Text)
    (settled : Settled phase) : (BookingsService.cancel env id).Obeys (cacheProtocol env)
      (Returns fun after _ => after.Clean) phase := by
  refine obeys_then (sparing_obeys (uses_findLocal (.shard rfl)) settled) fun after booking settled => ?_
  split
  · exact obeys_raise _
  · exact obeys_raise _
  · exact thenBump_obeys configured (uses_write (.shard rfl)) settled

theorem relocate_obeys (configured : env.redisConfigured = true) (entropy : Entropy) (id : Text)
    (dto : RelocateBookingDto) (settled : Settled phase) :
    (BookingsService.relocate env entropy id dto).Obeys (cacheProtocol env)
      (Returns fun after _ => after.Clean) phase := by
  unfold BookingsService.relocate
  split
  · exact obeys_raise _
  · refine obeys_then (sparing_obeys (uses_findLocal (.shard rfl)) settled)
      fun after original settled => ?_
    split
    · exact obeys_raise _
    · split
      · exact obeys_raise _
      · split
        · exact thenBump_obeys configured
            (uses_run (uses_serializable fun _ => uses_issue (.shard rfl))) settled
        · have reserving : (BookingsService.sagaReserve env entropy dto.roomId original).Uses
              Cmd.Sparing := uses_run (uses_serializable fun _ => uses_issue (.shard rfl))
          refine obeys_then (sparing_obeys (Program.uses_recover reserving fun _ => trivial) settled)
            fun after created settled => ?_
          have cancelling : (BookingsService.sagaCancel env id dto.simulateFailure).Uses
              Cmd.Sparing := by
            unfold BookingsService.sagaCancel
            split
            · trivial
            · refine Program.uses_bind (uses_write (.shard rfl)) fun count => ?_
              split <;> trivial
          refine obeys_then (sparing_obeys (uses_attempt cancelling) settled)
            fun after outcome settled => ?_
          cases outcome with
          | error error =>
            have compensating : (BookingsService.compensate env (env.router.forKey dto.roomId)
                created.id).Uses Cmd.Sparing := by
              refine Program.uses_bind (uses_attempt (uses_write (.shard rfl))) fun reply => ?_
              cases reply <;> trivial
            refine obeys_then (sparing_obeys compensating settled) fun _ _ settled => ?_
            exact obeys_then (bump_obeys configured settled) fun _ _ _ => obeys_raise _
          | ok _ => exact thenBump_obeys configured (uses_write (.shard rfl)) settled

/-- The room that was read is remembered with its hotel. -/
theorem findRoom_obeys (id : Text) (settled : Settled phase) :
    (RoomsService.findOne env id).Obeys (cacheProtocol env)
      (Returns fun after view => Settled after ∧ after.home = some view.room.hotelId) phase := by
  have shown : (env.router.read (env.router.forKey id) (.roomFindUnique id)).Obeys (cacheProtocol env)
      (Returns fun after found => Settled after ∧
        ∀ view, found = some view → after.home = some view.room.hotelId) phase := by
    have quiet : Cmd.Quiet env (.shard (env.router.forKey id) (.roomFindUnique id)) := .read rfl
    refine obeys_read (quiet.allows phase) ?_ fun _ _ _ failed => nomatch failed
    rintro answer found ⟨⟩
    refine ⟨fun id member => settled id (List.mem_filter.mp member).1, ?_⟩
    rintro view rfl
    exact rfl
  refine obeys_then shown fun after found ⟨settled, home⟩ => ?_
  cases found with
  | none => exact obeys_raise _
  | some view => exact obeys_ret ⟨settled, home view rfl⟩

theorem findHotel_obeys (id : Text) (settled : Settled phase) :
    (HotelsService.findOne env id).Obeys (cacheProtocol env)
      (Returns fun after card => Settled after ∧ (id, card) ∈ after.cards ∧
        (id, card) ∈ after.loaded) phase := by
  have shown : (env.router.read (env.router.forKey id) (.hotelFindCard id)).Obeys (cacheProtocol env)
      (Returns fun after found => Settled after ∧
        ∀ card, found = some card → (id, card) ∈ after.cards ∧ (id, card) ∈ after.loaded) phase := by
    have quiet : Cmd.Quiet env (.shard (env.router.forKey id) (.hotelFindCard id)) := .card
    refine obeys_read (quiet.allows phase) ?_ fun _ _ _ failed => nomatch failed
    rintro answer found ⟨⟩
    refine ⟨fun id member => settled id (List.mem_filter.mp member).1, ?_⟩
    rintro card rfl
    exact ⟨List.mem_append_right _ List.mem_cons_self, List.mem_append_right _ List.mem_cons_self⟩
  refine obeys_then shown fun after found ⟨settled, cards⟩ => ?_
  cases found with
  | none => exact obeys_raise _
  | some card => exact obeys_ret ⟨settled, cards card rfl⟩

/-- A write to a hotel or a room leaves the cards it touches to be deleted. -/
theorem touch_obeys {i : Fin n} {stmt : Stmt} (writes : stmt.isRead = false)
    (settled : Settled phase) : (env.router.write i stmt).Obeys (cacheProtocol env)
      (Returns fun after answer => ∀ id ∈ after.stale,
        id ∈ Cmd.touches phase.home (.shard i stmt) (.ok answer) ∨ id = []) phase := by
  refine obeys_write ⟨nofun, nofun, nofun, nofun, nofun, ?_, ?_, nofun⟩ ?_
    fun _ _ _ failed => nomatch failed
  · rintro _ _ ⟨⟩
    cases writes
  · rintro _ _ ⟨⟩
    cases writes
  · rintro answer value ⟨⟩ id member
    rcases List.mem_append.mp (List.mem_filter.mp member).1 with touched | owed
    · exact Or.inl touched
    · exact Or.inr (settled id owed)

/-- What follows a write to a hotel. -/
theorem invalidateHotel_obeys (configured : env.redisConfigured = true) {id : Text} {value : α}
    (owes : ∀ other ∈ phase.stale, other ∈ [id] ∨ other = []) :
    (do CacheService.invalidate env [.hotel id]
        CacheService.bumpVersion env
        return value : Async n α).Obeys (cacheProtocol env) (Returns fun after _ => after.Clean) phase :=
  obeys_then (invalidate_obeys configured [id] owes) fun _ _ settled =>
    obeys_then (bump_obeys configured settled) fun _ _ clean => obeys_ret clean

theorem hotelsUpdate_obeys (configured : env.redisConfigured = true) (id : Text)
    (dto : UpdateHotelDto) (settled : Settled phase) :
    (HotelsService.update env id dto).Obeys (cacheProtocol env)
      (Returns fun after _ => after.Clean) phase :=
  obeys_then (findHotel_obeys id settled) fun _ _ shown =>
    obeys_then (touch_obeys rfl shown.1) fun _ _ owes => invalidateHotel_obeys configured owes

theorem hotelsRemove_obeys (configured : env.redisConfigured = true) (id : Text)
    (settled : Settled phase) : (HotelsService.remove env id).Obeys (cacheProtocol env)
      (Returns fun after _ => after.Clean) phase :=
  obeys_then (findHotel_obeys id settled) fun _ _ shown =>
    obeys_then (touch_obeys rfl shown.1) fun _ _ owes => invalidateHotel_obeys configured owes

theorem roomsCreate_obeys (configured : env.redisConfigured = true) (entropy : Entropy)
    (dto : CreateRoomDto) (settled : Settled phase) :
    (RoomsService.create env entropy dto).Obeys (cacheProtocol env)
      (Returns fun after _ => after.Clean) phase := by
  refine obeys_then (sparing_obeys (uses_read (.shard rfl)) settled) fun after hotel settled => ?_
  cases hotel with
  | none => exact obeys_raise _
  | some hotel =>
    refine obeys_then (sparing_obeys (uses_read (.shard rfl)) settled) fun after existing settled => ?_
    cases existing with
    | some room => exact obeys_raise _
    | none =>
      exact obeys_then (touch_obeys rfl settled) fun _ _ owes =>
        obeys_then (invalidateForRooms_obeys configured _ owes) fun _ _ clean => obeys_ret clean

theorem roomsUpdate_obeys (configured : env.redisConfigured = true) (id : Text)
    (dto : UpdateRoomDto) (settled : Settled phase) :
    (RoomsService.update env id dto).Obeys (cacheProtocol env)
      (Returns fun after _ => after.Clean) phase := by
  unfold RoomsService.update
  split
  · exact obeys_raise _
  · refine obeys_then (findRoom_obeys id settled) fun after before ⟨settled, home⟩ => ?_
    refine obeys_then (touch_obeys rfl settled) fun _ room owes => ?_
    rw [home] at owes
    exact obeys_then (invalidateForRooms_obeys configured _ owes) fun _ _ clean => obeys_ret clean

theorem roomsRemove_obeys (configured : env.redisConfigured = true) (id : Text)
    (settled : Settled phase) : (RoomsService.remove env id).Obeys (cacheProtocol env)
      (Returns fun after _ => after.Clean) phase := by
  refine obeys_then (findRoom_obeys id settled) fun _ _ ⟨settled, _⟩ => ?_
  exact obeys_then (touch_obeys rfl settled) fun _ _ owes =>
    obeys_then (invalidateForRooms_obeys configured _ owes) fun _ _ clean => obeys_ret clean

/-- The dates of normalized parameters are valid. -/
theorem normalized_dates {platform : Platform} {dto : SearchRoomDto} {params : SearchParams}
    (normalized : normalizeSearchParams platform dto = .ok params) :
    (platform.newDate dto.checkIn).isSome = true ∧ (platform.newDate dto.checkOut).isSome = true := by
  obtain ⟨checkIn, checkOut, _⟩ := normalized_ok normalized
  exact ⟨Option.isSome_of_eq_some checkIn, Option.isSome_of_eq_some checkOut⟩

/-- A search reads shards only, and knows the version by then. -/
theorem search_obeys {version : Nat} (schedule : Schedule n) (dto : SearchRoomDto)
    (dates : (env.platform.newDate dto.checkIn).isSome = true ∧
      (env.platform.newDate dto.checkOut).isSome = true)
    (known : phase.version = some version) (clean : phase.Clean) :
    (RoomsService.search env schedule dto).Obeys (cacheProtocol env) (Returns fun after _ =>
      after.version = some version ∧ after.Clean ∧ (phase.failed = true → after.failed = true))
      phase := by
  have uses : (RoomsService.search env schedule dto).Uses
      fun cmd : Cmd n => ∃ i, cmd =
        .shard i (.roomSearch (RoomsService.searchFilter env.platform dto)) := by
    unfold RoomsService.search
    split
    · exact uses_read ⟨_, rfl⟩
    · exact uses_fanOutList fun i => ⟨i, rfl⟩
  refine uses.obeys (fun after : CachePhase => after.version = some version ∧ after.Clean ∧
    (phase.failed = true → after.failed = true)) ?_ ?_ (fun _ _ reached _ _ => reached)
    ⟨known, clean, fun failed => failed⟩
  · rintro after _ ⟨known, _⟩ ⟨i, rfl⟩
    refine ⟨nofun, nofun, nofun, nofun, nofun, ?_, nofun, nofun⟩
    rintro _ _ ⟨⟩
    refine ⟨?_, dates⟩
    rw [known]
    rfl
  · rintro after _ reply ⟨known, clean, failed⟩ ⟨i, rfl⟩
    refine ⟨?_, ⟨?_, ?_⟩, ?_⟩
    · simp only [known, Option.some_or]
    · cases reply <;> simp [Cmd.commits, Stmt.isRead, clean.dirty]
    · intro id member
      exact clean.stale id (List.mem_filter.mp member).1
    · intro before
      simp only [failed before, Bool.or_true]

/-- A cache-aside read: what is found, and what is loaded and stored, may be returned. -/
theorem getOrSet_obeys (configured : env.redisConfigured = true) {key : CacheKey}
    {found : CachePhase → Except Err (Option key.Value) → Prop}
    (loaded holds : CachePhase → key.Value → Prop) {loader : Async n key.Value}
    (ttl : CacheTtl) (jitter : Nat)
    (looked : (attempt (issue (.cache (.get key)))).Obeys (cacheProtocol env) (Returns found) phase)
    (hit : ∀ after data, found after (.ok (some data)) → holds after data)
    (bypassed : ∀ after error, found after (.error error) →
      loader.Obeys (cacheProtocol env) (Returns holds) after)
    (missed : ∀ after, found after (.ok none) →
      loader.Obeys (cacheProtocol env) (Returns loaded) after)
    (stored : ∀ after data ttlSec, loaded after data →
      CacheAllows env after (.cache (.set key data ttlSec)) ∧
        ∀ reply, holds ((cacheProtocol env).next after (.cache (.set key data ttlSec)) reply) data) :
    (CacheService.getOrSet env key ttl jitter loader loader).Obeys (cacheProtocol env)
      (Returns fun after result => holds after result.data) phase := by
  unfold CacheService.getOrSet
  rw [configured]
  refine obeys_then looked ?_
  rintro after (error | _ | data) outcome
  · exact obeys_then (bypassed after error outcome) fun _ _ reached => obeys_ret reached
  · refine obeys_then (missed after outcome) fun later data reached => ?_
    obtain ⟨allowed, final⟩ := stored later data _ reached
    refine obeys_then (attempt_obeys (fun last => holds last data) allowed final) ?_
    exact fun _ _ reached => obeys_ret reached
  · exact obeys_ret (hit after data outcome)

/-- The outcome of a command, and the phase it led to. -/
theorem outcome_obeys {cmd : Cmd n} {holds : CachePhase → Except Err cmd.Answer → Prop}
    (allowed : CacheAllows env phase cmd)
    (final : ∀ reply, holds ((cacheProtocol env).next phase cmd reply) reply) :
    (attempt (issue cmd)).Obeys (cacheProtocol env) (Returns holds) phase := by
  have issued : (issue cmd).Obeys (cacheProtocol env) holds phase := obeys_issue allowed final
  refine obeys_attempt issued ?_
  rintro after result reached _ ⟨⟩
  exact reached

/-- Commands of the cache commit nothing. -/
theorem clean_cache (cmd : CacheCmd) (clean : phase.Clean) (reply : Except Err cmd.Answer) :
    CachePhase.Clean ((cacheProtocol env).next phase (.cache cmd) reply) := by
  refine ⟨?_, fun id member => ?_⟩
  · have still : Cmd.commits (n := n) (.cache cmd) reply = false := by cases reply <;> rfl
    change ((Cmd.commits (n := n) (.cache cmd) reply || phase.dirty) && _) = false
    rw [still, clean.dirty]
    rfl
  · have kept := (List.mem_filter.mp member).1
    have untouched : Cmd.touches (n := n) phase.home (.cache cmd) reply = [] := by
      cases reply <;> rfl
    rw [untouched, List.nil_append] at kept
    exact clean.stale id kept

theorem searchCached_obeys (configured : env.redisConfigured = true) (entropy : Entropy)
    (schedule : Schedule n) (dto : SearchRoomDto) (fresh : phase.version = none)
    (clean : phase.Clean) :
    (RoomsService.searchCached env entropy schedule dto).Obeys (cacheProtocol env)
      (Returns fun after result => after.Clean ∧
        (after.failed = true ∨ result.2 ∈ after.searches)) phase := by
  have version : (CacheService.getVersion env).Obeys (cacheProtocol env)
      (Returns fun after version => after.version = some version ∧ after.Clean) phase := by
    have looked : (attempt (issue (.cache (.get .searchVersion)))).Obeys (cacheProtocol env)
        (Returns fun after (outcome : Except Err (Option Nat)) => after.Clean ∧
          after.version = Cmd.versionRead (n := n) (.cache (.get .searchVersion)) outcome)
        phase := by
      refine outcome_obeys ⟨fun _ => fresh, nofun, nofun, nofun, nofun, nofun, nofun, nofun⟩ fun reply => ?_
      refine ⟨clean_cache (.get .searchVersion) clean reply, ?_⟩
      simp only [fresh, Option.none_or]
    unfold CacheService.getVersion
    rw [configured]
    refine obeys_then looked ?_
    rintro after (error | _ | version) ⟨clean, known⟩ <;> exact obeys_ret ⟨known, clean⟩
  refine obeys_then version fun after version ⟨known, clean⟩ => ?_
  cases normalized : normalizeSearchParams env.platform dto with
  | error error => exact obeys_raise _
  | ok params =>
    have dates := normalized_dates normalized
    let found (after : CachePhase) (outcome : Except Err (Option (List RoomView))) : Prop :=
      after.version = some version ∧ after.Clean ∧ match outcome with
        | .error _ => after.failed = true
        | .ok none => True
        | .ok (some views) => views ∈ after.searches
    have looked : (attempt (issue (.cache (.get (.roomsSearch version params))))).Obeys
        (cacheProtocol env) (Returns found) after := by
      refine outcome_obeys ⟨nofun, ?_, nofun, nofun, nofun, nofun, nofun, nofun⟩
        fun reply => ⟨?_, clean_cache (.get (.roomsSearch version params)) clean reply, ?_⟩
      · rintro _ _ ⟨⟩
        exact known
      · simp only [known, Option.some_or]
      · rcases reply with error | _ | views
        · rfl
        · trivial
        · exact List.mem_append_right _ List.mem_cons_self
    change Program.Obeys (cacheProtocol env) _ after (Program.bind (CacheService.getOrSet env
      (.roomsSearch version params) .roomsSearch entropy.jitter
      (RoomsService.search env schedule dto) (RoomsService.search env schedule dto)) _)
    refine obeys_then (@getOrSet_obeys n env after configured (.roomsSearch version params) found
      (fun later _ => later.version = some version ∧ later.Clean)
      (fun later views => later.Clean ∧ (later.failed = true ∨ views ∈ later.searches))
      _ _ _ looked (fun _ _ shown => ⟨shown.2.1, Or.inr shown.2.2⟩) ?_ ?_ ?_)
      fun _ _ reached => obeys_ret reached
    · rintro later error ⟨known, clean, failed⟩
      refine Program.Obeys.mono (search_obeys schedule dto dates known clean) ?_
      exact fun _ _ reached views same =>
        ⟨(reached views same).2.1, Or.inl ((reached views same).2.2 failed)⟩
    · rintro later ⟨known, clean, _⟩
      refine Program.Obeys.mono (search_obeys schedule dto dates known clean) ?_
      exact fun _ _ reached views same => ⟨(reached views same).1, (reached views same).2.1⟩
    · rintro later views ttlSec ⟨known, clean⟩
      refine ⟨⟨nofun, nofun, ?_, nofun, nofun, nofun, nofun, nofun⟩, fun reply => ?_⟩
      · rintro _ _ _ _ ⟨⟩
        exact known
      · exact ⟨clean_cache (.set (.roomsSearch version params) views ttlSec) clean reply,
          Or.inr (List.mem_append_right _ List.mem_cons_self)⟩

/-- A read of a hotel shows its card, and owes what was owed. -/
theorem findCard_obeys (id : Text) (clean : phase.Clean) :
    (HotelsService.findOne env id).Obeys (cacheProtocol env)
      (Returns fun after card => after.Clean ∧ (id, card) ∈ after.cards ∧
        (id, card) ∈ after.loaded) phase := by
  have quiet : (HotelsService.findOne env id).Uses (Cmd.Quiet env) :=
    uses_findHotel .card
  have shown := @findHotel_obeys n env phase id clean.stale
  refine Program.Obeys.mono (Program.obeys_and shown (quiet_obeys quiet phase)) ?_
  rintro after result ⟨card, still⟩ value same
  obtain ⟨cards, loaded, home, rfl⟩ := still value same
  exact ⟨⟨clean.dirty, clean.stale⟩, (card value same).2⟩

theorem findOneCached_obeys (configured : env.redisConfigured = true) (entropy : Entropy)
    (id : Text) (clean : phase.Clean) :
    (HotelsService.findOneCached env entropy id).Obeys (cacheProtocol env)
      (Returns fun after result => after.Clean ∧ (id, result.data) ∈ after.cards) phase := by
  let found (after : CachePhase) (outcome : Except Err (Option HotelCard)) : Prop :=
    after.Clean ∧ ∀ card, outcome = .ok (some card) → (id, card) ∈ after.cards
  have looked : (attempt (issue (.cache (.get (.hotel id))))).Obeys (cacheProtocol env)
      (Returns found) phase := by
    refine outcome_obeys ⟨nofun, nofun, nofun, nofun, nofun, nofun, nofun, nofun⟩
      fun reply => ⟨clean_cache (.get (.hotel id)) clean reply, ?_⟩
    rintro card rfl
    exact List.mem_append_right _ List.mem_cons_self
  refine @getOrSet_obeys n env phase configured (.hotel id) found
    (fun after card => after.Clean ∧ (id, card) ∈ after.cards ∧ (id, card) ∈ after.loaded)
    (fun after card => after.Clean ∧ (id, card) ∈ after.cards) _ _ _ looked
    (fun _ card shown => ⟨shown.1, shown.2 card rfl⟩) ?_
    (fun _ shown => findCard_obeys id shown.1) ?_
  · rintro after error ⟨clean, _⟩
    refine (findCard_obeys id clean).mono fun _ _ reached card same => ?_
    exact ⟨(reached card same).1, (reached card same).2.1⟩
  rintro after card ttlSec ⟨clean, shown, loaded⟩
  refine ⟨⟨nofun, nofun, nofun, nofun, nofun, nofun, nofun, ?_⟩, fun reply => ?_⟩
  · rintro _ _ _ ⟨⟩
    exact loaded
  exact ⟨clean_cache (.set (.hotel id) card ttlSec) clean reply, List.mem_append_left _ shown⟩

theorem answers_obeys {program : Async n α} {wrap : α → Response}
    (obeys : program.Obeys (cacheProtocol env) (Returns fun after _ => after.Clean) phase)
    (plain : ∀ value, (wrap value).isPlain = true) :
    (program.bind fun value => .ret (wrap value)).Obeys (cacheProtocol env)
      (Returns CacheAnswers) phase := by
  refine obeys_then obeys fun after value clean => obeys_ret ⟨fun _ => clean, ?_, ?_⟩
  · intro status views same
    have plain := plain value
    rw [same] at plain
    cases plain
  · intro status card same
    have plain := plain value
    rw [same] at plain
    cases plain

theorem plain_obeys {program : Async n α} {wrap : α → Response}
    (uses : program.Uses (Cmd.Quiet env)) (clean : phase.Clean)
    (plain : ∀ value, (wrap value).isPlain = true) :
    (program.bind fun value => .ret (wrap value)).Obeys (cacheProtocol env)
      (Returns CacheAnswers) phase := by
  refine answers_obeys ((quiet_obeys uses phase).mono ?_) plain
  rintro after result same value returned
  obtain ⟨cards, loaded, home, rfl⟩ := same value returned
  exact ⟨clean.dirty, clean.stale⟩

/-- A created hotel is in no entry yet. -/
theorem createHotel_obeys (entropy : Entropy) (dto : CreateHotelDto)
    (asked : phase.request = some (.createHotel dto)) :
    (HotelsService.create env entropy dto).Obeys (cacheProtocol env)
      (Returns fun after _ => after.request = some (.createHotel dto)) phase := by
  refine obeys_write ⟨nofun, nofun, nofun, nofun, nofun, ?_, ?_, nofun⟩ ?_
    fun _ _ _ failed => nomatch failed
  · rintro _ _ ⟨⟩
  · rintro _ _ ⟨⟩
  · exact fun _ _ _ => asked

/-- The phase of a client that has received its request. -/
def received (request : Option Request) : CachePhase := { request }

theorem received_clean (request : Option Request) : (received request).Clean :=
  ⟨rfl, fun _ member => nomatch member⟩

theorem call_obeys (configured : env.redisConfigured = true) (call : Call n) :
    (call.program env).Obeys (cacheProtocol env) (Returns CacheAnswers)
      (received (some call.request)) := by
  obtain ⟨request, entropy, schedule⟩ := call
  have clean := received_clean (some request)
  have plain {stmt : Stmt} (isPlain : stmt.isPlain = true) (i : Fin n) :
      Cmd.Quiet env (.shard i stmt) := .read isPlain
  cases request with
  | createHotel dto =>
    refine obeys_then (createHotel_obeys entropy dto rfl) fun after hotel asked =>
      obeys_ret ⟨fun other => absurd asked (other dto), nofun, nofun⟩
  | findHotels => exact plain_obeys (uses_fanOutList (plain rfl)) clean fun _ => rfl
  | findHotel id =>
    have shown := (findOneCached_obeys configured entropy id clean).keeping
      (fun phase : CachePhase => phase.request) fun _ _ _ => rfl
    refine obeys_then (shown.mono fun after result reached value same =>
      (⟨reached.1 value same, reached.2⟩ : (after.Clean ∧ (id, value.data) ∈ after.cards) ∧ _)) ?_
    rintro after result ⟨⟨clean, card⟩, asked⟩
    refine obeys_ret ⟨fun _ => clean, nofun, ?_⟩
    rintro _ _ ⟨⟩
    exact ⟨id, asked, card⟩
  | updateHotel id dto =>
    exact answers_obeys (hotelsUpdate_obeys configured id dto clean.stale) fun _ => rfl
  | removeHotel id =>
    exact answers_obeys (hotelsRemove_obeys configured id clean.stale) fun _ => rfl
  | createRoom dto =>
    exact answers_obeys (roomsCreate_obeys configured entropy dto clean.stale) fun _ => rfl
  | findRooms => exact plain_obeys (uses_fanOutList (plain rfl)) clean fun _ => rfl
  | findRoom id => exact plain_obeys (uses_findRoom (plain rfl _)) clean fun _ => rfl
  | searchRooms dto =>
    refine obeys_then (searchCached_obeys configured entropy schedule dto rfl clean) ?_
    rintro after ⟨cache, views⟩ ⟨clean, shown⟩
    refine obeys_ret ⟨fun _ => clean, ?_, nofun⟩
    rintro _ _ ⟨⟩
    exact shown
  | updateRoom id dto =>
    exact answers_obeys (roomsUpdate_obeys configured id dto clean.stale) fun _ => rfl
  | removeRoom id =>
    exact answers_obeys (roomsRemove_obeys configured id clean.stale) fun _ => rfl
  | createGuest dto =>
    refine plain_obeys (Program.uses_bind (uses_globalRead .guests) fun found => ?_) clean
      fun _ => rfl
    cases found with
    | some guest => trivial
    | none => exact uses_globalWrite .guests
  | findGuests => exact plain_obeys (uses_globalRead .guests) clean fun _ => rfl
  | findGuest id => exact plain_obeys (uses_findGuest .guests) clean fun _ => rfl
  | findGuestBookings id =>
    exact plain_obeys (Program.uses_bind (uses_findGuest .guests) fun _ =>
      Program.uses_bind (uses_fanOutList (plain rfl)) fun _ => trivial) clean fun _ => rfl
  | updateGuest id dto =>
    exact plain_obeys (Program.uses_bind (uses_findGuest .guests) fun _ =>
      uses_globalWrite .guests) clean fun _ => rfl
  | removeGuest id =>
    refine plain_obeys (Program.uses_bind (uses_findGuest .guests) fun _ =>
      Program.uses_bind (uses_fanOut (plain rfl)) fun result => ?_) clean fun _ => rfl
    dsimp only
    split
    · trivial
    · exact uses_globalWrite .guests
  | createBooking dto =>
    exact answers_obeys (bookingsCreate_obeys configured entropy dto clean.stale) fun _ => rfl
  | findBookings =>
    exact plain_obeys (Program.uses_bind (uses_fanOutList (plain rfl)) fun _ =>
      uses_attachGuests fun _ => .guests) clean fun _ => rfl
  | findBooking id =>
    refine plain_obeys (Program.uses_bind (uses_read (plain rfl _)) fun found => ?_) clean
      fun _ => rfl
    cases found with
    | none => trivial
    | some view => exact Program.uses_bind (uses_attachGuests fun _ => .guests) fun _ => trivial
  | updateBooking id dto =>
    exact answers_obeys (bookingsUpdate_obeys configured id dto clean.stale) fun _ => rfl
  | cancelBooking id =>
    exact answers_obeys (bookingsCancel_obeys configured id clean.stale) fun _ => rfl
  | removeBooking id =>
    exact answers_obeys (bookingsRemove_obeys configured id clean.stale) fun _ => rfl
  | relocateBooking id dto =>
    exact answers_obeys (relocate_obeys configured entropy id dto clean.stale) fun _ => rfl

end Services
end Caching

end HotelBooking
