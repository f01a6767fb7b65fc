import HotelBooking.Invariants.DuplicateRuns

/-! Concurrent creates of one key. The key is taken exactly when one of them has stored its row,
and no second one can. -/
namespace HotelBooking
open Effect Relational
variable {n : Nat}

def UniqueKey.Taken (env : Env n) (world : World n) : UniqueKey → Prop
  | .room hotelId roomNumber =>
    (world.shards (env.router.forKey hotelId)).NumberTaken hotelId roomNumber
  | .guest email => world.guests.EmailTaken email

/-- The hotel of a room is stored. -/
def UniqueKey.Ready (env : Env n) (world : World n) : UniqueKey → Prop
  | .room hotelId _ => ((world.shards (env.router.forKey hotelId)).hotels.find? hotelId).isSome
  | .guest _ => True

/-- The values of the new row fit into their columns. -/
def Call.Storable (call : Call n) : Prop :=
  match call.request with
  | .createRoom dto => ∃ room, dto.row (ShardRouter.childId dto.hotelId (call.entropy.uuid 0))
      (call.entropy.now 0) = .ok room
  | _ => True

/-- An inserted row has an id that no row has. -/
def MintsFresh (world : World n) : Cmd n → Prop
  | .shard i (.roomCreate id _ _) => (world.shards i).rooms.find? id = none
  | .guests (.create id _ _) => world.guests.guests.find? id = none
  | _ => True

def CreatesKey (calls : List (Call n)) (key : UniqueKey) (i : Nat) : Prop :=
  ∃ call, calls[i]? = some call ∧ call.request.creates = some key

section Step
variable {env : Env n} {world : World n} {tables : Tables} {directory : Guests} {call : Call n}
  {cmd : Cmd n} {key : UniqueKey}

theorem roomCreate_free {id : Text} {dto : CreateRoomDto} {createdAt : Instant} {room : Room}
    (row : dto.row id createdAt = .ok room) (fresh : tables.rooms.find? id = none)
    (hotel : (tables.hotels.find? dto.hotelId).isSome)
    (free : ¬ tables.NumberTaken dto.hotelId dto.roomNumber) :
    ∃ after, tables.roomCreate id dto createdAt = .ok (room, after) ∧
      after.NumberTaken dto.hotelId dto.roomNumber := by
  obtain ⟨rfl, sameHotel, sameNumber⟩ := row_key row
  have number : tables.NumberFree room := by
    rw [numberFree_iff fresh, sameHotel, sameNumber]
    exact free
  have parent : (tables.hotels.find? room.hotelId).isSome := sameHotel ▸ hotel
  refine ⟨tables.insertRoom room fresh parent number, ?_, room, ?_, sameHotel, sameNumber⟩
  · simp only [Tables.roomCreate, row, except_ok_bind]
    rw [dif_pos fresh, dif_pos number, dif_pos parent]
    rfl
  · exact Tables.mem_insertRoom.mpr (Or.inl rfl)

theorem guestCreate_free {id : Text} {dto : CreateGuestDto} {createdAt : Instant}
    (fresh : directory.guests.find? id = none) (free : ¬ directory.EmailTaken dto.email) :
    ∃ after, (GuestStmt.create id dto createdAt).exec directory =
      .ok (dto.row id createdAt, after) ∧ after.EmailTaken dto.email := by
  have fresh : directory.guests.find? (dto.row id createdAt).id = none := fresh
  have email : directory.EmailFree (dto.row id createdAt) := (emailFree_iff fresh).mpr free
  refine ⟨directory.insert (dto.row id createdAt) fresh email, ?_, dto.row id createdAt, ?_, rfl⟩
  · simp only [GuestStmt.exec]
    rw [dif_pos fresh, dif_pos email]
  · exact (Table.mem_insert fresh).mpr (Or.inl rfl)

/-- What a command of a create does: nothing, or it finds the key taken, or it takes the free key. -/
def CreatorStep (env : Env n) (world : World n) (key : UniqueKey) (cmd : Cmd n) : Prop :=
  KeyVerdict.ofReply cmd (World.exec cmd world).1 = .undecided ∧ (World.exec cmd world).2 = world ∨
  (KeyVerdict.ofReply cmd (World.exec cmd world).1 = .found ∨
      KeyVerdict.ofReply cmd (World.exec cmd world).1 = .refused) ∧
    (World.exec cmd world).2 = world ∧ key.Taken env world ∨
  KeyVerdict.ofReply cmd (World.exec cmd world).1 = .stored ∧ ¬ key.Taken env world ∧
    key.Taken env (World.exec cmd world).2

theorem hotelFindUnique_ready {hotelId roomNumber : Text}
    (ready : UniqueKey.Ready env world (.room hotelId roomNumber)) : ∃ hotel,
    World.exec (.shard (env.router.forKey hotelId) (.hotelFindUnique hotelId)) world =
      (.ok (some hotel), world) := by
  obtain ⟨hotel, found⟩ := Option.isSome_iff_exists.mp ready
  have done : (Stmt.hotelFindUnique hotelId).exec (world.shards (env.router.forKey hotelId)) =
      .ok (some hotel, world.shards (env.router.forKey hotelId)) := by
    rw [Stmt.exec, found]
  exact ⟨hotel, by rw [World.exec_shard_ok done, World.setShard_same]⟩

theorem roomFindByNumber_free {hotelId roomNumber : Text}
    (free : ¬ UniqueKey.Taken env world (.room hotelId roomNumber)) :
    World.exec (.shard (env.router.forKey hotelId) (.roomFindByNumber hotelId roomNumber)) world =
      (.ok none, world) := by
  have absent : ((world.shards (env.router.forKey hotelId)).rooms.rows.find? fun room =>
      room.hotelId = hotelId ∧ room.roomNumber = roomNumber) = none := by
    rw [List.find?_eq_none]
    intro room stored same
    exact free ⟨room, stored, of_decide_eq_true same⟩
  have done : (Stmt.roomFindByNumber hotelId roomNumber).exec
      (world.shards (env.router.forKey hotelId)) =
      .ok (none, world.shards (env.router.forKey hotelId)) := by
    rw [Stmt.exec, absent]
  rw [World.exec_shard_ok done, World.setShard_same]

theorem findByEmail_free {email : Text} (free : ¬ UniqueKey.Taken env world (.guest email)) :
    World.exec (.guests (.findByEmail email)) world = (.ok none, world) := by
  have absent : (world.guests.guests.rows.find? fun guest => guest.email = email) = none := by
    rw [List.find?_eq_none]
    intro guest stored same
    exact free ⟨guest, stored, of_decide_eq_true same⟩
  have done : (GuestStmt.findByEmail email).exec world.guests = .ok (none, world.guests) := by
    rw [GuestStmt.exec, absent]
  rw [exec_guests_ok done]

theorem roomCreator_step {dto : CreateRoomDto} (asked : call.request = .createRoom dto)
    (asks : Asks env call cmd) (ready : UniqueKey.Ready env world (.room dto.hotelId dto.roomNumber))
    (storable : call.Storable) (fresh : MintsFresh world cmd) :
    CreatorStep env world (.room dto.hotelId dto.roomNumber) cmd := by
  simp only [Asks, asked] at asks
  simp only [Call.Storable, asked] at storable
  rcases asks with rfl | rfl | rfl
  · left
    obtain ⟨hotel, done⟩ := hotelFindUnique_ready ready
    rw [done]
    exact ⟨rfl, rfl⟩
  · by_cases taken : UniqueKey.Taken env world (.room dto.hotelId dto.roomNumber)
    · right
      left
      refine ⟨Or.inl (findsTaken_exec taken), ?_, taken⟩
      rw [exec_isRead rfl]
    · left
      rw [roomFindByNumber_free taken]
      exact ⟨rfl, rfl⟩
  · right
    obtain ⟨room, row⟩ := storable
    by_cases taken : UniqueKey.Taken env world (.room dto.hotelId dto.roomNumber)
    · left
      refine ⟨Or.inr (writesTaken_exec ⟨⟨room, row⟩, taken⟩), ?_, taken⟩
      have refused : (Stmt.roomCreate (ShardRouter.childId dto.hotelId (call.entropy.uuid 0)) dto
          (call.entropy.now 0)).exec (world.shards (env.router.forKey dto.hotelId)) =
          .error (.db .uniqueConstraint) := roomCreate_taken row taken
      rw [World.exec_shard_error refused]
    · right
      obtain ⟨after, done, stored⟩ := roomCreate_free row fresh ready taken
      have done : (Stmt.roomCreate (ShardRouter.childId dto.hotelId (call.entropy.uuid 0)) dto
          (call.entropy.now 0)).exec (world.shards (env.router.forKey dto.hotelId)) =
          .ok (room, after) := done
      rw [World.exec_shard_ok done]
      refine ⟨rfl, taken, ?_⟩
      simp only [UniqueKey.Taken, World.setShard_self]
      exact stored

theorem guestCreator_step {dto : CreateGuestDto} (asked : call.request = .createGuest dto)
    (asks : Asks env call cmd) (fresh : MintsFresh world cmd) :
    CreatorStep env world (.guest dto.email) cmd := by
  simp only [Asks, asked] at asks
  rcases asks with rfl | rfl
  · by_cases taken : UniqueKey.Taken env world (.guest dto.email)
    · exact Or.inr (Or.inl ⟨Or.inl (findsTaken_exec taken), rfl, taken⟩)
    · left
      rw [findByEmail_free taken]
      exact ⟨rfl, rfl⟩
  · right
    by_cases taken : UniqueKey.Taken env world (.guest dto.email)
    · left
      refine ⟨Or.inr (writesTaken_exec taken), ?_, taken⟩
      rw [exec_guests_error (guestCreate_taken taken)]
    · right
      obtain ⟨after, done, stored⟩ := guestCreate_free fresh taken
      rw [exec_guests_ok done]
      exact ⟨rfl, taken, stored⟩

theorem creator_step (creates : call.request.creates = some key) (asks : Asks env call cmd)
    (ready : key.Ready env world) (storable : call.Storable) (fresh : MintsFresh world cmd) :
    CreatorStep env world key cmd := by
  unfold Request.creates at creates
  split at creates
  · next dto asked =>
    obtain rfl := Option.some.inj creates
    exact roomCreator_step asked asks ready storable fresh
  · next dto asked =>
    obtain rfl := Option.some.inj creates
    exact guestCreator_step asked asks fresh
  · cases creates

end Step
section Keep
variable {env : Env n} {world : World n} {call : Call n} {cmd : Cmd n} {key : UniqueKey}

theorem exec_hotels {i : Fin n} {stmt : Stmt}
    (keeps : ∀ answer after, stmt.exec (world.shards i) = .ok (answer, after) →
      after.hotels = (world.shards i).hotels) (j : Fin n) :
    ((World.exec (.shard i stmt) world).2.shards j).hotels = (world.shards j).hotels := by
  cases done : stmt.exec (world.shards i) with
  | error error => rw [World.exec_shard_error done]
  | ok result =>
    obtain ⟨answer, after⟩ := result
    rw [World.exec_shard_ok done]
    by_cases same : j = i
    · subst same
      rw [World.setShard_self]
      exact keeps answer after done
    · rw [World.setShard_of_ne _ same]

theorem exec_guests_shards (stmt : GuestStmt) :
    (World.exec (.guests stmt) world).2.shards = world.shards := by
  cases done : stmt.exec world.guests with
  | error error => rw [exec_guests_error done]
  | ok result => rw [exec_guests_ok done]

/-- No request that writes a key touches a hotel. -/
theorem asks_hotels (asks : Asks env call cmd) (j : Fin n) :
    ((World.exec cmd world).2.shards j).hotels = (world.shards j).hotels := by
  have created (i : Fin n) (id : Text) (dto : CreateRoomDto) (createdAt : Instant) :
      ((World.exec (.shard i (.roomCreate id dto createdAt)) world).2.shards j).hotels =
        (world.shards j).hotels := by
    apply exec_hotels
    intro answer after done
    obtain ⟨_, fresh, hotel, number, rfl⟩ := Tables.roomCreate_ok done
    rfl
  have updated (i : Fin n) (id : Text) (dto : UpdateRoomDto) :
      ((World.exec (.shard i (.roomUpdate id dto)) world).2.shards j).hotels =
        (world.shards j).hotels := by
    apply exec_hotels
    intro answer after done
    obtain ⟨old, _, _, hotel, number, rfl⟩ := Tables.roomUpdate_ok done
    rfl
  unfold Asks at asks
  split at asks
  · rcases asks with rfl | rfl | rfl
    · rw [exec_isRead rfl]
    · rw [exec_isRead rfl]
    · exact created _ _ _ _
  · rcases asks with rfl | rfl
    · rw [exec_isRead rfl]
    · exact updated _ _ _
  · rcases asks with rfl | rfl
    · rw [exec_guests_shards]
    · rw [exec_guests_shards]
  · rcases asks with rfl | rfl
    · rw [exec_guests_shards]
    · rw [exec_guests_shards]
  · cases asks

theorem ready_congr {after : World n} (hotels : ∀ j, (after.shards j).hotels = (world.shards j).hotels)
    (ready : key.Ready env world) : key.Ready env after := by
  cases key with
  | room hotelId roomNumber =>
    simp only [UniqueKey.Ready, hotels]
    exact ready
  | guest email => trivial

theorem numberTaken_insertRoom {tables : Tables} {room : Room} {fresh hotel number}
    {hotelId roomNumber : Text} (different : room.hotelId = hotelId → room.roomNumber ≠ roomNumber) :
    (tables.insertRoom room fresh hotel number).NumberTaken hotelId roomNumber ↔
      tables.NumberTaken hotelId roomNumber := by
  constructor
  · rintro ⟨other, stored, sameHotel, sameNumber⟩
    rcases Tables.mem_insertRoom.mp stored with rfl | old
    · exact absurd sameNumber (different sameHotel)
    · exact ⟨other, old, sameHotel, sameNumber⟩
  · rintro ⟨other, old, same⟩
    exact ⟨other, Tables.mem_insertRoom.mpr (Or.inr old), same⟩

theorem emailTaken_insert {directory : Guests} {guest : Guest} {email : Text}
    (fresh : directory.guests.find? guest.id = none) (free : directory.EmailFree guest)
    (different : guest.email ≠ email) :
    (directory.insert guest fresh free).EmailTaken email ↔ directory.EmailTaken email := by
  constructor
  · rintro ⟨other, stored, same⟩
    rcases (Table.mem_insert fresh).mp stored with rfl | old
    · exact absurd same different
    · exact ⟨other, old, same⟩
  · rintro ⟨other, old, same⟩
    exact ⟨other, (Table.mem_insert fresh).mpr (Or.inr old), same⟩

theorem roomCreate_other {i : Fin n} {id : Text} {dto : CreateRoomDto} {createdAt : Instant}
    (different : UniqueKey.room dto.hotelId dto.roomNumber ≠ key) :
    key.Taken env (World.exec (.shard i (.roomCreate id dto createdAt)) world).2 ↔
      key.Taken env world := by
  cases done : (Stmt.roomCreate id dto createdAt).exec (world.shards i) with
  | error error => rw [World.exec_shard_error done]
  | ok result =>
    obtain ⟨answer, after⟩ := result
    rw [World.exec_shard_ok done]
    cases key with
    | guest email => exact Iff.rfl
    | room hotelId roomNumber =>
      simp only [UniqueKey.Taken]
      by_cases here : env.router.forKey hotelId = i
      · subst here
        obtain ⟨row, fresh, hotel, number, rfl⟩ := Tables.roomCreate_ok done
        obtain ⟨_, sameHotel, sameNumber⟩ := row_key row
        rw [World.setShard_self]
        apply numberTaken_insertRoom
        rintro rfl rfl
        exact different (by rw [sameHotel, sameNumber])
      · rw [World.setShard_of_ne _ here]

theorem guestCreate_other {id : Text} {dto : CreateGuestDto} {createdAt : Instant}
    (different : UniqueKey.guest dto.email ≠ key) :
    key.Taken env (World.exec (.guests (.create id dto createdAt)) world).2 ↔
      key.Taken env world := by
  cases key with
  | room hotelId roomNumber => simp only [UniqueKey.Taken, exec_guests_shards]
  | guest email =>
    have other : (dto.row id createdAt).email ≠ email := by
      rintro rfl
      exact different rfl
    simp only [UniqueKey.Taken, World.exec, GuestStmt.exec]
    split
    · next done =>
      split at done
      · next fresh =>
        split at done
        · next free =>
          cases done
          exact emailTaken_insert fresh free other
        · cases done
      · cases done
    · exact Iff.rfl

/-- The create of another key. -/
theorem creates_other {other : UniqueKey} (creates : call.request.creates = some other)
    (different : other ≠ key) (asks : Asks env call cmd) :
    key.Taken env (World.exec cmd world).2 ↔ key.Taken env world := by
  unfold Request.creates at creates
  split at creates
  · next dto asked =>
    obtain rfl := Option.some.inj creates
    simp only [Asks, asked] at asks
    rcases asks with rfl | rfl | rfl
    · rw [exec_isRead rfl]
    · rw [exec_isRead rfl]
    · exact roomCreate_other different
  · next dto asked =>
    obtain rfl := Option.some.inj creates
    simp only [Asks, asked] at asks
    rcases asks with rfl | rfl
    · exact Iff.rfl
    · exact guestCreate_other different
  · cases creates

theorem exec_cache_taken (command : CacheCmd) :
    key.Taken env (World.exec (.cache command) world).2 ↔ key.Taken env world := by
  cases key <;> exact Iff.rfl

end Keep

/-- What holds of the creates of a key in every state of the run. -/
structure Contested (env : Env n) (calls : List (Call n)) (key : UniqueKey) (trace : List (Move n))
    (world : World n) : Prop where
  ready : key.Ready env world
  taken : key.Taken env world ↔
    ∃ i, CreatesKey calls key i ∧ (keyedStages env calls trace i).verdict = .stored
  single : ∀ i j, CreatesKey calls key i → CreatesKey calls key j →
    (keyedStages env calls trace i).verdict = .stored →
    (keyedStages env calls trace j).verdict = .stored → i = j
  unfailed : ∀ i, CreatesKey calls key i → (keyedStages env calls trace i).verdict ≠ .failed
  known : ∀ i, CreatesKey calls key i → (keyedStages env calls trace i).verdict = .found ∨
    (keyedStages env calls trace i).verdict = .refused → key.Taken env world

namespace Contested
variable {env : Env n} {calls : List (Call n)} {key : UniqueKey} {trace later : List (Move n)}
  {world after : World n}

theorem start (ready : key.Ready env world) (absent : ¬ key.Taken env world) :
    Contested env calls key [] world where
  ready
  taken := by
    refine iff_of_false absent ?_
    rintro ⟨i, _, stored⟩
    cases stored
  single i j _ _ stored := by cases stored
  unfailed i _ failed := by cases failed
  known i _ told := by rcases told with same | same <;> cases same

/-- Nothing is decided for a create, and the key is taken as before. -/
theorem transfer (before : Contested env calls key trace world) (ready : key.Ready env after)
    (same : ∀ i, CreatesKey calls key i →
      (keyedStages env calls later i).verdict = (keyedStages env calls trace i).verdict)
    (taken : key.Taken env after ↔ key.Taken env world) : Contested env calls key later after where
  ready
  taken := by
    rw [taken, before.taken]
    refine exists_congr fun i => and_congr_right fun creates => ?_
    rw [same i creates]
  single i j left right := by
    rw [same i left, same j right]
    exact before.single i j left right
  unfailed i creates := by
    rw [same i creates]
    exact before.unfailed i creates
  known i creates := by
    rw [same i creates, taken]
    exact before.known i creates

/-- One create learns that the key is taken. -/
theorem lost (before : Contested env calls key trace world) {c : Nat} {verdict : KeyVerdict}
    (told : verdict = .found ∨ verdict = .refused) (taken : key.Taken env world)
    (undecided : (keyedStages env calls trace c).verdict = .undecided)
    (served : (keyedStages env calls later c).verdict = verdict)
    (others : ∀ i, i ≠ c → keyedStages env calls later i = keyedStages env calls trace i) :
    Contested env calls key later world := by
  have stored (i : Nat) : (keyedStages env calls later i).verdict = .stored ↔
      (keyedStages env calls trace i).verdict = .stored := by
    by_cases same : i = c
    · subst same
      rw [served, undecided]
      rcases told with rfl | rfl <;> simp
    · rw [others i same]
  refine ⟨before.ready, ?_, ?_, ?_, fun i _ _ => taken⟩
  · rw [before.taken]
    exact exists_congr fun i => and_congr_right fun _ => (stored i).symm
  · intro i j left right
    rw [stored, stored]
    exact before.single i j left right
  · intro i creates
    by_cases same : i = c
    · subst same
      rw [served]
      rcases told with rfl | rfl <;> simp
    · rw [others i same]
      exact before.unfailed i creates

/-- One create stores its row. -/
theorem won (before : Contested env calls key trace world) {c : Nat} (creates : CreatesKey calls key c)
    (ready : key.Ready env after) (free : ¬ key.Taken env world) (taken : key.Taken env after)
    (served : (keyedStages env calls later c).verdict = .stored)
    (others : ∀ i, i ≠ c → keyedStages env calls later i = keyedStages env calls trace i) :
    Contested env calls key later after := by
  have only (i : Nat) (create : CreatesKey calls key i)
      (stored : (keyedStages env calls later i).verdict = .stored) : i = c := by
    by_contra other
    rw [others i other] at stored
    exact free (before.taken.mpr ⟨i, create, stored⟩)
  refine ⟨ready, iff_of_true taken ⟨c, creates, served⟩, ?_, ?_, fun _ _ _ => taken⟩
  · intro i j left right first second
    rw [only i left first, only j right second]
  · intro i create
    by_cases same : i = c
    · subst same
      rw [served]
      decide
    · rw [others i same]
      exact before.unfailed i create

end Contested
/-- CreatesKey of one key, with fresh ids and values that fit, while nothing fails and no update takes
or frees the key. -/
structure Contest (env : Env n) (calls : List (Call n)) (key : UniqueKey) (trace : List (Move n)) :
    Prop where
  storable : ∀ call ∈ calls, call.request.creates = some key → call.Storable
  calm : ∀ move ∈ trace, move.event.fault = .none
  fresh : ∀ move ∈ trace, CreatesKey calls key move.event.client →
    MintsFresh move.before.state move.event.cmd
  alone : ∀ move ∈ trace, ∀ call, calls[move.event.client]? = some call →
    call.request.creates = none → (key.Taken env move.after.state ↔ key.Taken env move.before.state)

section Run
variable {env : Env n} {world : World n} {calls : List (Call n)} {key : UniqueKey}
  {trace : List (Move n)} {last : Clients n}

/-- A command of a create of the key. -/
theorem contested_creator {move : Move n} {call : Call n}
    (contest : Contest env calls key (trace ++ [move]))
    (before : Contested env calls key trace move.before.state)
    (listed : calls[move.event.client]? = some call) (wanted : call.request.creates = some key)
    (undecided : (keyedStages env calls trace move.event.client).verdict = .undecided)
    (asks : Asks env call move.event.cmd)
    (after : move.after.state = (World.exec move.event.cmd move.before.state).2) :
    Contested env calls key (trace ++ [move]) move.after.state := by
  have member : move ∈ trace ++ [move] := List.mem_append_right _ List.mem_cons_self
  have others : ∀ i, i ≠ move.event.client →
      keyedStages env calls (trace ++ [move]) i = keyedStages env calls trace i :=
    fun i other => stages_other other
  have served : (keyedStages env calls (trace ++ [move]) move.event.client).verdict =
      KeyVerdict.ofReply move.event.cmd (World.exec move.event.cmd move.before.state).1 := by
    rw [stages_served, next_undecided undecided, reply_calm (contest.calm move member)]
  have ready : key.Ready env move.after.state := by
    rw [after]
    exact ready_congr (asks_hotels asks) before.ready
  have stepped := creator_step wanted asks before.ready
    (contest.storable call (List.mem_of_getElem? listed) wanted)
    (contest.fresh move member ⟨call, listed, wanted⟩)
  rcases stepped with ⟨verdict, unchanged⟩ | ⟨verdict, unchanged, taken⟩ | ⟨verdict, free, taken⟩
  · refine before.transfer ready ?_ (by rw [after, unchanged])
    intro i _
    by_cases here : i = move.event.client
    · rw [here, served, undecided]
      exact verdict
    · rw [others i here]
  · rw [after, unchanged]
    exact before.lost verdict taken undecided served others
  · rw [← after] at taken
    exact before.won ⟨call, listed, wanted⟩ ready free taken (served.trans verdict) others

/-- A command of an update, or of the create of another key. -/
theorem contested_other {move : Move n} {call : Call n}
    (contest : Contest env calls key (trace ++ [move]))
    (before : Contested env calls key trace move.before.state)
    (listed : calls[move.event.client]? = some call) (unwanted : call.request.creates ≠ some key)
    (asks : Asks env call move.event.cmd)
    (after : move.after.state = (World.exec move.event.cmd move.before.state).2) :
    Contested env calls key (trace ++ [move]) move.after.state := by
  have member : move ∈ trace ++ [move] := List.mem_append_right _ List.mem_cons_self
  have ready : key.Ready env move.after.state := by
    rw [after]
    exact ready_congr (asks_hotels asks) before.ready
  refine before.transfer ready ?_ ?_
  · rintro i ⟨create, found, wanted⟩
    rw [stages_other]
    rintro rfl
    rw [listed] at found
    cases found
    exact unwanted wanted
  · cases wanted : call.request.creates with
    | none => exact contest.alone move member call listed wanted
    | some other =>
      rw [after]
      refine creates_other wanted ?_ asks
      rintro rfl
      exact unwanted wanted

/-- A command of a create whose row is stored. -/
theorem contested_cached {move : Move n} {command : CacheCmd}
    (before : Contested env calls key trace move.before.state)
    (stored : (keyedStages env calls trace move.event.client).verdict = .stored)
    (cached : move.event.cmd = .cache command)
    (after : move.after.state = (World.exec move.event.cmd move.before.state).2) :
    Contested env calls key (trace ++ [move]) move.after.state := by
  rw [cached] at after
  refine before.transfer ?_ ?_ ?_
  · rw [after]
    exact ready_congr (fun _ => rfl) before.ready
  · intro i _
    by_cases here : i = move.event.client
    · rw [here, stages_served, next_decided (by rw [stored]; decide)]
    · rw [stages_other here]
  · rw [after]
    exact exec_cache_taken command

theorem contested_step {move : Move n} (keyed : ∀ call ∈ calls, call.request.Keyed)
    (earlier : Run (Pool.Step World.exec AnyFault) (clients env world calls) trace move.before)
    (stepped : Pool.Step World.exec AnyFault move.before move.event move.after)
    (contest : Contest env calls key (trace ++ [move]))
    (before : Contested env calls key trace move.before.state) :
    Contested env calls key (trace ++ [move]) move.after.state := by
  have member : move ∈ trace ++ [move] := List.mem_append_right _ List.mem_cons_self
  have after : move.after.state = (World.exec move.event.cmd move.before.state).2 := by
    rw [stepped.state_eq.2, contest.calm move member]
    rfl
  have issued := run_asks keyed (earlier.next stepped)
    (rfl : trace ++ [move] = trace ++ move :: [])
  rcases issued with ⟨undecided, asks⟩ | ⟨stored, command, cached⟩
  · have bound := client_bound (earlier.next stepped) member
    have listed := List.getElem?_eq_getElem bound
    rw [stages_call, listed, Option.getD_some] at asks
    by_cases wanted : calls[move.event.client].request.creates = some key
    · exact contested_creator contest before listed wanted undecided asks after
    · exact contested_other contest before listed wanted asks after
  · exact contested_cached before stored cached after

theorem run_contested (keyed : ∀ call ∈ calls, call.request.Keyed)
    (run : Run (Pool.Step World.exec AnyFault) (clients env world calls) trace last)
    (ready : key.Ready env world) (absent : ¬ key.Taken env world)
    (contest : Contest env calls key trace) : Contested env calls key trace last.state := by
  induction run with
  | start => exact .start ready absent
  | next earlier stepped ih =>
    refine contested_step keyed earlier stepped contest (ih ⟨contest.storable, ?_, ?_, ?_⟩)
    · exact fun move member => contest.calm move (List.mem_append_left _ member)
    · exact fun move member => contest.fresh move (List.mem_append_left _ member)
    · exact fun move member => contest.alone move (List.mem_append_left _ member)

/-- A create whose row is stored is the one that succeeds. -/
theorem creator_ends {i : Nat} (keyed : ∀ call ∈ calls, call.request.Keyed)
    (run : Run (Pool.Step World.exec AnyFault) (clients env world calls) trace last)
    {result : Except Err Response} (creates : CreatesKey calls key i)
    (ended : last.clients[i]? = some (.ofExcept result))
    (unfailed : (keyedStages env calls trace i).verdict ≠ .failed) :
    ((∃ response, result = .ok response) ∧ (keyedStages env calls trace i).verdict = .stored) ∨
      ((∃ error, result = .error error) ∧ ((keyedStages env calls trace i).verdict = .found ∨
        (keyedStages env calls trace i).verdict = .refused)) := by
  have ends : KeyedStage.Ends (keyedStages env calls trace i) result :=
    Pool.run_ends (clients_keyed env world keyed) run ended
  obtain ⟨call, listed, wanted⟩ := creates
  have same : (keyedStages env calls trace i).call = call := by
    rw [stages_call, listed]
    rfl
  unfold KeyedStage.Ends at ends
  split at ends
  · rw [same, wanted] at ends
    cases ends.1
  · next found =>
    obtain ⟨message, same⟩ := ends
    exact Or.inr ⟨⟨_, same⟩, Or.inl found⟩
  · next refused => exact Or.inr ⟨⟨_, ends⟩, Or.inr refused⟩
  · next stored => exact Or.inl ⟨ends, stored⟩
  · next failed => exact absurd failed unfailed

/-- Of concurrent creates of a free key exactly one succeeds. -/
theorem one_creates (keyed : ∀ call ∈ calls, call.request.Keyed)
    (run : Run (Pool.Step World.exec AnyFault) (clients env world calls) trace last)
    (ready : key.Ready env world) (absent : ¬ key.Taken env world)
    (contest : Contest env calls key trace) (creator : ∃ i, CreatesKey calls key i)
    (ended : ∀ i, CreatesKey calls key i → ∃ result, last.clients[i]? = some (.ofExcept result)) :
    ∃! i, CreatesKey calls key i ∧ ∃ response, last.clients[i]? = some (.ret response) := by
  have contested := run_contested keyed run ready absent contest
  have outcome (i : Nat) (creates : CreatesKey calls key i) :
      ((∃ response, last.clients[i]? = some (.ret response)) ↔
        (keyedStages env calls trace i).verdict = .stored) ∧
      ((keyedStages env calls trace i).verdict ≠ .stored → key.Taken env last.state) := by
    obtain ⟨result, finished⟩ := ended i creates
    rcases creator_ends keyed run creates finished (contested.unfailed i creates) with
      ⟨⟨response, rfl⟩, stored⟩ | ⟨⟨error, rfl⟩, told⟩
    · exact ⟨iff_of_true ⟨response, finished⟩ stored, fun other => absurd stored other⟩
    · refine ⟨iff_of_false ?_ ?_, fun _ => contested.known i creates told⟩
      · rintro ⟨response, same⟩
        rw [finished] at same
        cases same
      · intro stored
        rcases told with same | same <;> rw [stored] at same <;> cases same
  have taken : key.Taken env last.state := by
    obtain ⟨i, creates⟩ := creator
    by_cases stored : (keyedStages env calls trace i).verdict = .stored
    · exact contested.taken.mpr ⟨i, creates, stored⟩
    · exact (outcome i creates).2 stored
  obtain ⟨winner, creates, stored⟩ := contested.taken.mp taken
  refine ⟨winner, ⟨creates, (outcome winner creates).1.mpr stored⟩, ?_⟩
  rintro other ⟨create, returned⟩
  exact contested.single other winner create creates ((outcome other create).1.mp returned) stored

end Run

/-- A taken key is answered with a conflict, and of the creates of a free key one succeeds. -/
def DuplicatesAnswered (env : Env n) (world : World n) (calls : List (Call n)) (trace : List (Move n))
    (last : Clients n) : Prop :=
  ConflictsAnswered trace last ∧ ∀ key : UniqueKey, key.Ready env world → ¬ key.Taken env world →
    Contest env calls key trace → (∃ i, CreatesKey calls key i) →
    (∀ i, CreatesKey calls key i → ∃ result, last.clients[i]? = some (.ofExcept result)) →
    ∃! i, CreatesKey calls key i ∧ ∃ response, last.clients[i]? = some (.ret response)

/-- Only a key that is found taken by the write itself is not answered with a conflict. -/
theorem duplicatesAnswered_iff {env : Env n} {world : World n} {calls : List (Call n)}
    {trace : List (Move n)} {last : Clients n} (keyed : ∀ call ∈ calls, call.request.Keyed)
    (run : Run (Pool.Step World.exec AnyFault) (clients env world calls) trace last) :
    DuplicatesAnswered env world calls trace last ↔ WritesFree trace := by
  rw [← conflictsAnswered_iff keyed run]
  constructor
  · exact fun answered => answered.1
  · intro answered
    exact ⟨answered, fun key ready absent contest creator ended =>
      one_creates keyed run ready absent contest creator ended⟩

/-- Two guests register with the same email at the same time. -/
def registrations : List (Call 1) :=
  [.sample (.createGuest ⟨text "Olena", text "o@e", .absent⟩) 1,
    .sample (.createGuest ⟨text "Oleh", text "o@e", .absent⟩) 2]

theorem registrations_keyed : ∀ call ∈ registrations, call.request.Keyed := by
  intro call member
  rcases List.mem_cons.mp member with rfl | rest
  · trivial
  · obtain rfl := List.mem_singleton.mp rest
    trivial

/-- Both look for the email before either is stored. -/
def registered : List (Move 1) × Clients 1 :=
  (clients (.sample 1 .hash Nat.one_pos) (.empty 1) registrations).record World.exec
    (Pool.faultless [0, 1, 0, 1])

theorem run_registered : Run (Pool.Step World.exec AnyFault)
    (clients (.sample 1 .hash) (.empty 1) registrations) registered.1 registered.2 :=
  Pool.run_faultless (fun _ _ => trivial) _ _

theorem duplicatesAnswered_iff_registered :
    DuplicatesAnswered (.sample 1 .hash) (.empty 1) registrations registered.1 registered.2 ↔
      WritesFree registered.1 :=
  duplicatesAnswered_iff registrations_keyed run_registered

/-- The second write is refused by the index, and the request rejects with that error. -/
theorem registered_rejects : registered.2.clients[1]?.bind Program.result? =
    some (.error (.db .uniqueConstraint)) := by decide +kernel

theorem registered_unanswered : (∀ call ∈ registrations, call.request.Keyed) ∧
    Run (Pool.Step World.exec AnyFault) (clients (.sample 1 .hash) (.empty 1) registrations)
      registered.1 registered.2 ∧
    ¬ DuplicatesAnswered (.sample 1 .hash) (.empty 1) registrations registered.1 registered.2 := by
  refine ⟨registrations_keyed, run_registered, ?_⟩
  rintro ⟨answered, _⟩
  have bound : 3 < registered.1.length := by decide +kernel
  have taken : WritesTaken registered.1[3].before.state registered.1[3].event.cmd :=
    ⟨_, List.mem_cons_self, rfl⟩
  obtain ⟨⟨message, ended⟩, _⟩ := answered _ (List.getElem_mem bound) rfl (Or.inr taken)
  have rejected := registered_rejects
  rw [show registered.1[3].event.client = 1 from rfl] at ended
  rw [ended] at rejected
  cases rejected

end HotelBooking
