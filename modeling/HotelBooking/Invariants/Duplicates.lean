import HotelBooking.Services.Protocols

/-! Requests that write a unique key: the number of a room in its hotel, the email of a guest. A
taken key is found by the check before a create or refused by the index at the write. -/
namespace HotelBooking
open Effect Relational
variable {n : Nat}

def Tables.NumberTaken (tables : Tables) (hotelId roomNumber : Text) : Prop :=
  ∃ room ∈ tables.rooms, room.hotelId = hotelId ∧ room.roomNumber = roomNumber

def Guests.EmailTaken (directory : Guests) (email : Text) : Prop :=
  ∃ guest ∈ directory.guests, guest.email = email

/-- A check before a create that finds the key taken. -/
def FindsTaken (world : World n) : Cmd n → Prop
  | .shard i (.roomFindByNumber hotelId roomNumber) =>
    (world.shards i).NumberTaken hotelId roomNumber
  | .guests (.findByEmail email) => world.guests.EmailTaken email
  | _ => False

/-- A write of a row whose key is taken: by any row at a create, by another one at an update. -/
def WritesTaken (world : World n) : Cmd n → Prop
  | .shard i (.roomCreate id dto createdAt) =>
    (∃ room, dto.row id createdAt = .ok room) ∧
      (world.shards i).NumberTaken dto.hotelId dto.roomNumber
  | .shard i (.roomUpdate id dto) =>
    ∃ old room, (world.shards i).rooms.find? id = some old ∧ dto.over old = .ok room ∧
      ¬ (world.shards i).NumberFree room
  | .guests (.create _ dto _) => world.guests.EmailTaken dto.email
  | .guests (.update id dto) =>
    ∃ old guest, world.guests.guests.find? id = some old ∧ dto.over old = .ok guest ∧
      ¬ world.guests.EmailFree guest
  | _ => False

/-- What a request has learned of its key. -/
inductive KeyVerdict where
  | undecided
  | found
  | refused
  | stored
  | failed
  deriving DecidableEq

namespace KeyVerdict

def ofPresence : Except Err (Option α) → KeyVerdict
  | .ok (some _) => .undecided
  | _ => .failed

def ofCheck : Except Err (Option α) → KeyVerdict
  | .ok (some _) => .found
  | .ok none => .undecided
  | .error _ => .failed

def ofWrite : Except Err α → KeyVerdict
  | .ok _ => .stored
  | .error (.db .uniqueConstraint) => .refused
  | .error _ => .failed

def ofReply : (cmd : Cmd n) → Except Err cmd.Answer → KeyVerdict
  | .shard _ (.hotelFindUnique _), reply => ofPresence reply
  | .shard _ (.roomFindUnique _), reply => ofPresence reply
  | .shard _ (.roomFindByNumber ..), reply => ofCheck reply
  | .shard _ (.roomCreate ..), reply => ofWrite reply
  | .shard _ (.roomUpdate ..), reply => ofWrite reply
  | .guests (.findUnique _), reply => ofPresence reply
  | .guests (.findByEmail _), reply => ofCheck reply
  | .guests (.create ..), reply => ofWrite reply
  | .guests (.update ..), reply => ofWrite reply
  | _, _ => .undecided

end KeyVerdict

/-- A unique key, as a create gives it. -/
inductive UniqueKey where
  | room (hotelId roomNumber : Text)
  | guest (email : Text)
  deriving DecidableEq

def Request.creates : Request → Option UniqueKey
  | .createRoom dto => some (.room dto.hotelId dto.roomNumber)
  | .createGuest dto => some (.guest dto.email)
  | _ => none

/-- The requests that write a unique key. -/
def Request.Keyed : Request → Prop
  | .createRoom _ | .updateRoom .. | .createGuest _ | .updateGuest .. => True
  | _ => False

/-- The commands of such a request until its key is decided. -/
def Asks (env : Env n) (call : Call n) (cmd : Cmd n) : Prop :=
  match call.request with
  | .createRoom dto =>
    cmd = .shard (env.router.forKey dto.hotelId) (.hotelFindUnique dto.hotelId) ∨
      cmd = .shard (env.router.forKey dto.hotelId) (.roomFindByNumber dto.hotelId dto.roomNumber) ∨
      cmd = .shard (env.router.forKey dto.hotelId) (.roomCreate
        (ShardRouter.childId dto.hotelId (call.entropy.uuid 0)) dto (call.entropy.now 0))
  | .updateRoom id dto =>
    cmd = .shard (env.router.forKey id) (.roomFindUnique id) ∨
      cmd = .shard (env.router.forKey id) (.roomUpdate id dto)
  | .createGuest dto =>
    cmd = .guests (.findByEmail dto.email) ∨
      cmd = .guests (.create (call.entropy.uuid 0) dto (call.entropy.now 0))
  | .updateGuest id dto => cmd = .guests (.findUnique id) ∨ cmd = .guests (.update id dto)
  | _ => False

structure KeyedStage (n : Nat) where
  call : Call n
  verdict : KeyVerdict := .undecided

/-- A request asks until its key is decided; once its row is stored it only invalidates. -/
abbrev keyProtocol (env : Env n) : Protocol (signature n) Err where
  Phase := KeyedStage n
  allows stage cmd :=
    match stage.verdict with
    | .undecided => Asks env stage.call cmd
    | .stored => ∃ command, cmd = .cache command
    | _ => False
  next stage cmd reply :=
    match stage.verdict with
    | .undecided => { stage with verdict := KeyVerdict.ofReply cmd reply }
    | _ => stage

/-- How a request ends. Only an update may end before it asks. -/
def KeyedStage.Ends (stage : KeyedStage n) (result : Except Err α) : Prop :=
  match stage.verdict with
  | .undecided => stage.call.request.creates = none ∧ ∃ error, result = .error error
  | .found => ∃ message, result = .error (.conflict message)
  | .refused => result = .error (.db .uniqueConstraint)
  | .stored => ∃ value, result = .ok value
  | .failed => ∃ error, result = .error error

section Obeys
variable {env : Env n} {call : Call n}

/-- An error decides: a violated index refuses, anything else fails. -/
theorem ofReply_error {cmd : Cmd n} (asks : Asks env call cmd) (error : Err) :
    KeyVerdict.ofReply cmd (.error error) = .failed ∨
      KeyVerdict.ofReply cmd (.error error) = .refused ∧ error = .db .uniqueConstraint := by
  have written : ∀ α : Type, KeyVerdict.ofWrite (.error error : Except Err α) = .failed ∨
      KeyVerdict.ofWrite (.error error : Except Err α) = .refused ∧ error = .db .uniqueConstraint := by
    intro α
    unfold KeyVerdict.ofWrite
    split
    · next stored => cases stored
    · next same =>
      cases same
      exact Or.inr ⟨rfl, rfl⟩
    · exact Or.inl rfl
  unfold Asks at asks
  split at asks
  · rcases asks with rfl | rfl | rfl
    · exact Or.inl rfl
    · exact Or.inl rfl
    · exact written Room
  · rcases asks with rfl | rfl
    · exact Or.inl rfl
    · exact written Room
  · rcases asks with rfl | rfl
    · exact Or.inl rfl
    · exact written Guest
  · rcases asks with rfl | rfl
    · exact Or.inl rfl
    · exact written Guest
  · cases asks

/-- After a command: with an answer its verdict is known, with an error the request is at an end. -/
def Learns (β : Type) (call : Call n) (cmd : Cmd n) (stage : KeyedStage n)
    (result : Except Err cmd.Answer) : Prop :=
  match result with
  | .ok answer => stage = ⟨call, KeyVerdict.ofReply cmd (.ok answer)⟩
  | .error error => stage.Ends (.error error : Except Err β)

/-- A write that is answered has stored its row. -/
theorem learns_ends {cmd : Cmd n} (stores : ∀ answer, KeyVerdict.ofReply cmd (.ok answer) = .stored)
    {stage : KeyedStage n} {result : Except Err cmd.Answer}
    (learned : Learns cmd.Answer call cmd stage result) : stage.Ends result := by
  cases result with
  | error error => exact learned
  | ok answer =>
    obtain rfl := learned
    rw [KeyedStage.Ends, stores]
    exact ⟨answer, rfl⟩

/-- A wrapper that replaces connection errors keeps what is learned. -/
theorem learns_recover (β : Type) {cmd : Cmd n} (asks : Asks env call cmd) (unavailable : Err) :
    ((issue cmd).recover fun error =>
      if error.isConnection = true then .raise unavailable else .raise error).Obeys
      (keyProtocol env) (Learns β call cmd) ⟨call, .undecided⟩ := by
  have head : (issue cmd).Obeys (keyProtocol env) (fun after result =>
      after = ⟨call, KeyVerdict.ofReply cmd result⟩) ⟨call, .undecided⟩ :=
    obeys_issue asks fun reply => rfl
  refine Program.obeys_recover head (fun stage error reached => ?_) fun stage answer reached => reached
  subst reached
  have ends : ∀ other, (error = .db .uniqueConstraint → other = error) →
      KeyedStage.Ends ⟨call, KeyVerdict.ofReply cmd (.error error)⟩ (.error other : Except Err β) := by
    intro other same
    rcases ofReply_error asks error with failed | ⟨refused, unique⟩
    · simp only [KeyedStage.Ends, failed]
      exact ⟨other, rfl⟩
    · simp only [KeyedStage.Ends, refused]
      rw [same unique, unique]
  split
  · next lost =>
    apply ends
    rintro rfl
    cases lost
  · exact ends error fun _ => rfl

theorem learns_read (β : Type) {i : Fin n} {stmt : Stmt} (asks : Asks env call (.shard i stmt)) :
    (env.router.read i stmt).Obeys (keyProtocol env) (Learns β call (.shard i stmt))
      ⟨call, .undecided⟩ :=
  learns_recover β asks _

theorem learns_globalRead (β : Type) {stmt : GuestStmt} (asks : Asks env call (.guests stmt))
    (consistency : Consistency) :
    (globalRead stmt consistency).Obeys (keyProtocol env) (Learns β call (.guests stmt))
      ⟨call, .undecided⟩ :=
  learns_recover β asks _

theorem learns_globalWrite (β : Type) {stmt : GuestStmt} (asks : Asks env call (.guests stmt)) :
    (globalWrite stmt).Obeys (keyProtocol env) (Learns β call (.guests stmt))
      ⟨call, .undecided⟩ :=
  learns_recover β asks _

/-- The next command, and what follows once it is answered. -/
theorem obeys_learning {cmd : Cmd n} {program : Async n cmd.Answer} {next : cmd.Answer → Async n β}
    (head : program.Obeys (keyProtocol env) (Learns β call cmd) ⟨call, .undecided⟩)
    (tail : ∀ answer, (next answer).Obeys (keyProtocol env) KeyedStage.Ends
      ⟨call, KeyVerdict.ofReply cmd (.ok answer)⟩) :
    (program.bind next).Obeys (keyProtocol env) KeyedStage.Ends ⟨call, .undecided⟩ := by
  refine Program.obeys_bind head (fun stage answer reached => ?_) fun stage error reached => reached
  obtain rfl := reached
  exact tail answer

/-- Redis is asked and its reply, whichever it is, dropped. -/
theorem obeys_dropped (command : CacheCmd) :
    ((attempt (issue (.cache command))).bind fun _ => .ret ()).Obeys (keyProtocol env)
      (fun after result => after = ⟨call, .stored⟩ ∧ result = .ok ()) ⟨call, .stored⟩ := by
  have asked : (issue (.cache command)).Obeys (keyProtocol env)
      (fun after _ => after = ⟨call, .stored⟩) ⟨call, .stored⟩ :=
    obeys_issue ⟨command, rfl⟩ fun reply => rfl
  have head : (attempt (issue (.cache command))).Obeys (keyProtocol env)
      (fun after result => after = ⟨call, .stored⟩ ∧ ∃ reply, result = .ok reply) ⟨call, .stored⟩ :=
    obeys_attempt asked fun stage result reached => ⟨reached, result, rfl⟩
  refine Program.obeys_bind head (fun stage reply reached => ⟨reached.1, rfl⟩) ?_
  rintro stage error ⟨_, reply, ⟨⟩⟩

theorem obeys_invalidate (keys : List CacheKey) :
    (CacheService.invalidate env keys).Obeys (keyProtocol env)
      (fun after result => after = ⟨call, .stored⟩ ∧ result = .ok ()) ⟨call, .stored⟩ := by
  unfold CacheService.invalidate
  split
  · exact ⟨rfl, rfl⟩
  · exact obeys_dropped (.del keys)

theorem obeys_bumpVersion :
    (CacheService.bumpVersion env).Obeys (keyProtocol env)
      (fun after result => after = ⟨call, .stored⟩ ∧ result = .ok ()) ⟨call, .stored⟩ := by
  unfold CacheService.bumpVersion
  split
  · exact ⟨rfl, rfl⟩
  · exact obeys_dropped .incr

theorem obeys_invalidateForRooms (hotelIds : List Text) (room : Room) :
    ((RoomsService.invalidateForRooms env hotelIds).bind fun _ => .ret room).Obeys (keyProtocol env)
      KeyedStage.Ends ⟨call, .stored⟩ := by
  have both : (RoomsService.invalidateForRooms env hotelIds).Obeys (keyProtocol env)
      (fun after result => after = ⟨call, .stored⟩ ∧ result = .ok ()) ⟨call, .stored⟩ := by
    refine Program.obeys_bind (obeys_invalidate _) ?_ ?_
    · rintro stage _ ⟨rfl, _⟩
      exact obeys_bumpVersion
    · rintro stage error ⟨_, ⟨⟩⟩
  refine Program.obeys_bind both ?_ ?_
  · rintro stage _ ⟨rfl, _⟩
    exact ⟨room, rfl⟩
  · rintro stage error ⟨_, ⟨⟩⟩

theorem roomsCreate_obeys {dto : CreateRoomDto} (asked : call.request = .createRoom dto) :
    (RoomsService.create env call.entropy dto).Obeys (keyProtocol env) KeyedStage.Ends
      ⟨call, .undecided⟩ := by
  have asks : ∀ cmd, (cmd = .shard (env.router.forKey dto.hotelId) (.hotelFindUnique dto.hotelId) ∨
      cmd = .shard (env.router.forKey dto.hotelId) (.roomFindByNumber dto.hotelId dto.roomNumber) ∨
      cmd = .shard (env.router.forKey dto.hotelId) (.roomCreate
        (ShardRouter.childId dto.hotelId (call.entropy.uuid 0)) dto (call.entropy.now 0))) →
      Asks env call cmd := by
    intro cmd known
    simp only [Asks, asked]
    exact known
  refine obeys_learning (learns_read Room (asks _ (Or.inl rfl))) fun hotel => ?_
  cases hotel with
  | none => exact ⟨_, rfl⟩
  | some hotel =>
    refine obeys_learning (learns_read Room (asks _ (Or.inr (Or.inl rfl)))) fun existing => ?_
    cases existing with
    | some room => exact ⟨_, rfl⟩
    | none =>
      refine obeys_learning (learns_read Room (asks _ (Or.inr (Or.inr rfl)))) fun room => ?_
      exact obeys_invalidateForRooms [room.hotelId] room

theorem roomsUpdate_obeys {id : Text} {dto : UpdateRoomDto} (asked : call.request = .updateRoom id dto) :
    (RoomsService.update env id dto).Obeys (keyProtocol env) KeyedStage.Ends ⟨call, .undecided⟩ := by
  have asks : ∀ cmd, (cmd = .shard (env.router.forKey id) (.roomFindUnique id) ∨
      cmd = .shard (env.router.forKey id) (.roomUpdate id dto)) → Asks env call cmd := by
    intro cmd known
    simp only [Asks, asked]
    exact known
  unfold RoomsService.update
  split
  · refine ⟨?_, _, rfl⟩
    rw [asked]
    rfl
  · simp only [RoomsService.findOne, Program.bind_eq, Program.pure_eq, Program.bind_assoc]
    refine obeys_learning (learns_read Room (asks _ (Or.inl rfl))) fun before => ?_
    cases before with
    | none => exact ⟨_, rfl⟩
    | some view =>
      refine obeys_learning (learns_read Room (asks _ (Or.inr rfl))) fun room => ?_
      exact obeys_invalidateForRooms [view.room.hotelId, room.hotelId] room

theorem guestsCreate_obeys {dto : CreateGuestDto} (asked : call.request = .createGuest dto) :
    (GuestsService.create call.entropy dto).Obeys (keyProtocol env) KeyedStage.Ends
      ⟨call, .undecided⟩ := by
  have asks : ∀ cmd, (cmd = .guests (.findByEmail dto.email) ∨
      cmd = .guests (.create (call.entropy.uuid 0) dto (call.entropy.now 0))) → Asks env call cmd := by
    intro cmd known
    simp only [Asks, asked]
    exact known
  refine obeys_learning (learns_globalRead Guest (asks _ (Or.inl rfl)) .strong) fun existing => ?_
  cases existing with
  | some guest => exact ⟨_, rfl⟩
  | none =>
    exact (learns_globalWrite Guest (asks _ (Or.inr rfl))).mono fun stage result =>
      learns_ends fun _ => rfl

theorem guestsUpdate_obeys {id : Text} {dto : UpdateGuestDto} (asked : call.request = .updateGuest id dto) :
    (GuestsService.update id dto).Obeys (keyProtocol env) KeyedStage.Ends ⟨call, .undecided⟩ := by
  have asks : ∀ cmd, (cmd = .guests (.findUnique id) ∨ cmd = .guests (.update id dto)) →
      Asks env call cmd := by
    intro cmd known
    simp only [Asks, asked]
    exact known
  simp only [GuestsService.update, GuestsService.findOne, Program.bind_eq, Program.pure_eq,
    Program.bind_assoc]
  refine obeys_learning (learns_globalRead Guest (asks _ (Or.inl rfl)) .strong) fun before => ?_
  cases before with
  | none => exact ⟨_, rfl⟩
  | some guest =>
    exact (learns_globalWrite Guest (asks _ (Or.inr rfl))).mono fun stage result =>
      learns_ends fun _ => rfl

/-- The response is what the service returns. -/
theorem obeys_respond {program : Async n α} (respond : α → Response)
    (obeys : program.Obeys (keyProtocol env) KeyedStage.Ends ⟨call, .undecided⟩) :
    (program.bind fun value => .ret (respond value)).Obeys (keyProtocol env) KeyedStage.Ends
      ⟨call, .undecided⟩ := by
  refine Program.obeys_bind obeys (fun stage value reached => ?_) fun stage error reached => ?_
  · unfold KeyedStage.Ends at reached
    change stage.Ends _
    unfold KeyedStage.Ends
    split at reached
    · obtain ⟨_, error, ⟨⟩⟩ := reached
    · obtain ⟨message, ⟨⟩⟩ := reached
    · cases reached
    · exact ⟨_, rfl⟩
    · obtain ⟨error, ⟨⟩⟩ := reached
  · unfold KeyedStage.Ends at reached ⊢
    split at reached
    · obtain ⟨update, error, ⟨⟩⟩ := reached
      exact ⟨update, _, rfl⟩
    · obtain ⟨message, ⟨⟩⟩ := reached
      exact ⟨message, rfl⟩
    · cases reached
      rfl
    · obtain ⟨value, ⟨⟩⟩ := reached
    · exact ⟨_, rfl⟩

theorem keyed_obeys (keyed : call.request.Keyed) :
    (call.program env).Obeys (keyProtocol env) KeyedStage.Ends ⟨call, .undecided⟩ := by
  obtain ⟨request, entropy, schedule⟩ := call
  cases request with
  | createRoom dto => exact obeys_respond .room (roomsCreate_obeys rfl)
  | updateRoom id dto => exact obeys_respond .room (roomsUpdate_obeys rfl)
  | createGuest dto => exact obeys_respond .guest (guestsCreate_obeys rfl)
  | updateGuest id dto => exact obeys_respond .guest (guestsUpdate_obeys rfl)
  | _ => cases keyed

end Obeys
end HotelBooking
