import HotelBooking.Cache.HotelCards
import HotelBooking.Effect.Obligations
import HotelBooking.Relocation.Announced

/-! A request that runs alone and returns has deleted the cards and announced the searches that its
commits changed. -/
namespace HotelBooking
open Effect Relational
variable {n : Nat} {env : Env n} {world last : World n} {attempts : Attempts n}
  {attempt : Attempted n}

/-- A statement that fails has no effect. Redis answers. -/
def FailsClean : Policy (signature n) Err (World n) := fun _ cmd fault =>
  fault.isLost = false ∧ ∀ cached, cmd = .cache cached → fault = .none

/-- What the command did to the card of the hotel. -/
def AltersCard (env : Env n) (h : Text) (attempt : Attempted n) : Prop :=
  env.card? (attempt.after World.exec) h ≠ env.card? attempt.before h

def Committing (attempt : Attempted n) : Prop :=
  attempt.cmd.commits (attempt.reply World.exec) = true

def Creates (cmd : Cmd n) : Prop := ∃ i id dto createdAt, cmd = .shard i (.hotelCreate id dto createdAt)

theorem FailsClean.cases (permitted : FailsClean attempt.before attempt.cmd attempt.fault) :
    (attempt.reply World.exec = (World.exec attempt.cmd attempt.before).1 ∧
      attempt.after World.exec = (World.exec attempt.cmd attempt.before).2) ∨
    (∃ error, attempt.reply World.exec = .error error) ∧
      attempt.after World.exec = attempt.before := by
  obtain ⟨before, cmd, fault⟩ := attempt
  cases fault with
  | none => exact Or.inl ⟨rfl, rfl⟩
  | refused error => exact Or.inr ⟨⟨error, rfl⟩, rfl⟩
  | lost error => cases permitted.1

/-- Only a commit changes rows. -/
theorem shards_kept (permitted : FailsClean attempt.before attempt.cmd attempt.fault)
    (still : ¬ Committing attempt) :
    (attempt.after World.exec).shards = attempt.before.shards := by
  rcases permitted.cases with ⟨reply, after⟩ | ⟨_, same⟩
  · unfold Committing at still
    rw [reply] at still
    rw [after]
    cases cmd : attempt.cmd with
    | shard i stmt =>
      cases done : stmt.exec (attempt.before.shards i) with
      | error error => rw [World.exec_shard_error done]
      | ok result =>
        obtain ⟨answer, tables⟩ := result
        rw [cmd, World.exec_shard_ok done] at still
        have read : stmt.isRead = true := by simpa [Cmd.commits] using still
        rw [exec_isRead read]
    | guests stmt =>
      simp only [World.exec]
      split <;> rfl
    | cache cmd => rfl
  · rw [same]

theorem found_congr {before after : World n} (same : after.shards = before.shards)
    (filter : RoomFilter) (checkIn checkOut : Instant) :
    after.found env filter checkIn checkOut = before.found env filter checkIn checkOut := by
  unfold World.found
  rw [same]

section Creation
variable {tables after : Tables} {id h : Text} {dto : CreateHotelDto} {createdAt : Instant}
  {answer : Hotel}

/-- A new hotel has no rooms, and the rooms there are stay in their hotels. -/
theorem Tables.offers_hotelCreate
    (done : (Stmt.hotelCreate id dto createdAt).exec tables = .ok (answer, after))
    (filter : RoomFilter) (checkIn checkOut : Instant) :
    after.offers filter checkIn checkOut = tables.offers filter checkIn checkOut := by
  cases Stmt.wrote done with
  | @hotelCreate _ _ _ hotel row fresh =>
    have views : ∀ room ∈ tables.rooms.rows,
        (tables.insertHotel hotel fresh).roomView? room = tables.roomView? room := by
      intro room member
      have other : hotel.id ≠ room.hotelId := by
        intro same
        have placed := tables.rooms_hotel room member
        rw [← same, fresh] at placed
        cases placed
      have kept : (tables.insertHotel hotel fresh).hotels.find? room.hotelId =
          tables.hotels.find? room.hotelId :=
        (Table.find?_insert fresh room.hotelId).trans (if_neg other)
      simp only [Tables.roomView?, kept]
    have listed : tables.rooms.rows.filterMap (tables.insertHotel hotel fresh).roomView? =
        tables.rooms.rows.filterMap tables.roomView? := List.filterMap_congr views
    unfold Tables.offers
    exact congrArg _ listed
  | read isRead => cases isRead

theorem Tables.hotelCard?_hotelCreate
    (done : (Stmt.hotelCreate id dto createdAt).exec tables = .ok (answer, after))
    (known : (tables.hotelCard? h).isSome = true) : after.hotelCard? h = tables.hotelCard? h := by
  cases Stmt.wrote done with
  | @hotelCreate _ _ _ hotel row fresh =>
    have other : hotel.id ≠ h := by
      rintro rfl
      simp [Tables.hotelCard?, fresh] at known
    refine Tables.hotelCard?_congr ?_ rfl
    exact (Table.find?_insert fresh h).trans (if_neg other)
  | read isRead => cases isRead

/-- No search and no card shows the creation of a hotel. -/
theorem created_unseen (permitted : FailsClean attempt.before attempt.cmd attempt.fault)
    (quiet : ¬ Committing attempt ∨ Creates attempt.cmd) :
    (∀ filter checkIn checkOut, (attempt.after World.exec).found env filter checkIn checkOut =
      attempt.before.found env filter checkIn checkOut) ∧
    ∀ h, (env.card? attempt.before h).isSome = true →
      env.card? (attempt.after World.exec) h = env.card? attempt.before h := by
  by_cases still : Committing attempt
  · obtain ⟨i, id, dto, createdAt, creates⟩ := quiet.resolve_left (not_not_intro still)
    rcases permitted.cases with ⟨_, executed⟩ | ⟨_, same⟩
    · rw [executed, creates]
      cases done : (Stmt.hotelCreate id dto createdAt).exec (attempt.before.shards i) with
      | error error =>
        rw [World.exec_shard_error done]
        exact ⟨fun _ _ _ => rfl, fun _ _ => rfl⟩
      | ok result =>
        obtain ⟨answer, tables⟩ := result
        rw [World.exec_shard_ok done]
        have offers (j : Fin n) (filter : RoomFilter) (checkIn checkOut : Instant) :
            ((attempt.before.setShard i tables).shards j).offers filter checkIn checkOut =
              (attempt.before.shards j).offers filter checkIn checkOut := by
          by_cases here : j = i
          · rw [here, World.setShard_self]
            exact Tables.offers_hotelCreate done filter checkIn checkOut
          · rw [World.setShard_of_ne attempt.before here]
        refine ⟨fun filter checkIn checkOut => ?_, fun h known => ?_⟩
        · simp only [World.found, offers]
        · by_cases here : env.router.forKey h = i
          · simp only [Env.card?, here, World.setShard_self] at known ⊢
            exact Tables.hotelCard?_hotelCreate done known
          · simp only [Env.card?, World.setShard_of_ne attempt.before here]
    · rw [same]
      exact ⟨fun _ _ _ => rfl, fun _ _ => rfl⟩
  · have same := shards_kept permitted still
    refine ⟨found_congr same, fun h _ => ?_⟩
    unfold Env.card?
    rw [same]

end Creation

/-- When a room is updated, the client knows the hotel that the room is in. -/
def RoomKnown (env : Env n) (begins : CachePhase) (attempts : Attempts n) : Prop :=
  ∀ early attempt late, attempts = early ++ attempt :: late → ∀ i id dto room,
    attempt.cmd = .shard i (.roomUpdate id dto) →
    (attempt.before.shards i).rooms.find? id = some room →
    (phaseAfter (cacheProtocol env) World.exec begins early).home = some room.hotelId

def Updates (cmd : Cmd n) : Prop := ∃ i id dto, cmd = .shard i (.roomUpdate id dto)

section RoomKnown
variable {begins : CachePhase} {id : Text} {dto : UpdateRoomDto}

theorem roomKnown_of_none (none : ∀ attempt ∈ attempts, ¬ Updates attempt.cmd) :
    RoomKnown env begins attempts := by
  intro early attempt late split i id dto room updates
  exact absurd ⟨i, id, dto, updates⟩
    (none attempt (split ▸ List.mem_append_right _ List.mem_cons_self))

/-- One update, of the room that was read before it. -/
theorem roomKnown_of_read {read write : Attempted n} {rest : Attempts n} (reads : ¬ Updates read.cmd)
    (known : ∀ i id dto room, write.cmd = .shard i (.roomUpdate id dto) →
      (write.before.shards i).rooms.find? id = some room →
      ((cacheProtocol env).next begins read.cmd (read.reply World.exec)).home = some room.hotelId)
    (none : ∀ attempt ∈ rest, ¬ Updates attempt.cmd) :
    RoomKnown env begins (read :: write :: rest) := by
  intro early attempt late split i id dto room updates found
  rcases early with _ | ⟨first, _ | ⟨second, early⟩⟩
  · obtain ⟨rfl, _⟩ := List.cons.inj split
    exact absurd ⟨i, id, dto, updates⟩ reads
  · obtain ⟨rfl, same⟩ := List.cons.inj split
    obtain ⟨rfl, _⟩ := List.cons.inj same
    exact known i id dto room updates found
  · obtain ⟨rfl, same⟩ := List.cons.inj split
    obtain ⟨rfl, rfl⟩ := List.cons.inj same
    exact absurd ⟨i, id, dto, updates⟩ (none attempt (List.mem_append_right _ List.mem_cons_self))

/-- The room as it is stored is the one that the read returns. -/
theorem runs_findRoom (begins : CachePhase) {result : Except Err RoomView}
    (runs : (RoomsService.findOne env id).Runs World.exec FailsClean world attempts result last) :
    ∃ read : Attempted n, attempts = [read] ∧ ¬ Updates read.cmd ∧ last = world ∧
      ∀ view, result = .ok view →
        (world.shards (env.router.forKey id)).rooms.find? id = some view.room ∧
        ((cacheProtocol env).next begins read.cmd (read.reply World.exec)).home =
          some view.room.hotelId := by
  have single {found : Except Err (Option RoomView)} {first : Attempts n} {mid : World n}
      (reading : (env.router.read (env.router.forKey id) (.roomFindUnique id)).Runs World.exec
        FailsClean world first found mid) : ∃ read : Attempted n, first = [read] ∧
      ¬ Updates read.cmd ∧ mid = world ∧ ∀ view, found = .ok (some view) →
        (world.shards (env.router.forKey id)).rooms.find? id = some view.room ∧
        ((cacheProtocol env).next begins read.cmd (read.reply World.exec)).home =
          some view.room.hotelId := by
    obtain ⟨fault, permitted, rfl, rfl, reported⟩ := runs_write reading
    let read : Attempted n := ⟨world, .shard (env.router.forKey id) (.roomFindUnique id), fault⟩
    refine ⟨read, rfl, ?_, ?_, ?_⟩
    · rintro ⟨_, _, _, same⟩
      cases same
    · rcases fault.apply_state World.exec read.cmd world with applied | kept
      · exact applied.trans (congrArg Prod.snd (exec_isRead rfl world (env.router.forKey id)))
      · exact kept
    · rintro view rfl
      have replied : read.reply World.exec = .ok (some view) := by
        cases answer : read.reply World.exec with
        | ok value =>
          have same := reported.trans (congrArg Except.toOption answer)
          exact congrArg _ (Option.some.inj same).symm
        | error error => cases reported.trans (congrArg Except.toOption answer)
      have clean : FailsClean read.before read.cmd read.fault := permitted
      rcases clean.cases with ⟨executed, _⟩ | ⟨⟨error, failed⟩, _⟩
      · rw [replied, exec_isRead rfl] at executed
        have viewed : some view = ((world.shards (env.router.forKey id)).rooms.find? id).bind
            (world.shards (env.router.forKey id)).roomView? := Except.ok.inj executed
        obtain ⟨room, found, shown⟩ := Option.bind_eq_some_iff.mp viewed.symm
        simp only [Tables.roomView?, Option.pure_def, Option.bind_eq_bind, Option.bind_eq_some_iff,
          Option.some.injEq] at shown
        obtain ⟨hotel, _, rfl⟩ := shown
        refine ⟨found, ?_⟩
        rw [replied]
        rfl
      · cases replied.symm.trans failed
  rcases Program.runs_bind runs with ⟨found, mid, first, rest, rfl, reading, tail⟩ |
    ⟨error, rfl, reading⟩
  · obtain ⟨read, rfl, reads, rfl, shown⟩ := single reading
    cases found with
    | none =>
      cases tail
      refine ⟨read, List.append_nil _, reads, rfl, ?_⟩
      rintro _ ⟨⟩
    | some view =>
      cases tail
      refine ⟨read, List.append_nil _, reads, rfl, ?_⟩
      rintro _ ⟨⟩
      exact shown view rfl
  · obtain ⟨read, rfl, reads, rfl, _⟩ := single reading
    refine ⟨read, rfl, reads, rfl, ?_⟩
    rintro _ ⟨⟩

theorem roomsUpdate_known : (RoomsService.update env id dto).Ensures World.exec FailsClean
    (fun attempts _ _ => RoomKnown env begins attempts) world := by
  unfold RoomsService.update
  split
  · exact Program.ensures_raise (roomKnown_of_none fun attempt member => absurd member List.not_mem_nil)
  · intro attempts result last runs
    rcases Program.runs_bind runs with ⟨view, mid, first, rest, rfl, reading, tail⟩ |
      ⟨error, rfl, reading⟩
    · obtain ⟨read, rfl, reads, rfl, shown⟩ := runs_findRoom begins reading
      obtain ⟨stored, home⟩ := shown view rfl
      have known (write : Attempted n) (here : write.before = mid)
          (cmd : write.cmd = .shard (env.router.forKey id) (.roomUpdate id dto)) (i : Fin n)
          (other : Text) (data : UpdateRoomDto) (room : Room)
          (updates : write.cmd = .shard i (.roomUpdate other data))
          (found : (write.before.shards i).rooms.find? other = some room) :
          ((cacheProtocol env).next begins read.cmd (read.reply World.exec)).home =
            some room.hotelId := by
        obtain ⟨rfl, same⟩ := Cmd.shard.inj (cmd.symm.trans updates)
        obtain ⟨rfl, _⟩ := Stmt.roomUpdate.inj same
        rw [here, stored] at found
        rw [← Option.some.inj found]
        exact home
      rcases Program.runs_bind tail with ⟨room, after, wrote, rest, rfl, writing, invalidating⟩ |
        ⟨error, rfl, writing⟩
      · obtain ⟨fault, _, rfl, _, _⟩ := runs_write writing
        refine roomKnown_of_read reads (known _ rfl rfl) fun attempt member => ?_
        have cached : (do
            RoomsService.invalidateForRooms env [view.room.hotelId, room.hotelId]
            return room : Async n Room).Uses fun cmd : Cmd n => ∃ command, cmd = .cache command :=
          Program.uses_bind (Program.uses_bind (uses_invalidate env _ ⟨_, rfl⟩) fun _ =>
            uses_bumpVersion env ⟨_, rfl⟩) fun _ => trivial
        rintro ⟨i, other, data, updates⟩
        obtain ⟨command, same⟩ := invalidating.issued cached attempt member
        cases same.symm.trans updates
      · obtain ⟨fault, _, rfl, _, _⟩ := runs_write writing
        exact roomKnown_of_read reads (known _ rfl rfl) fun attempt member =>
          absurd member List.not_mem_nil
    · obtain ⟨read, rfl, reads, _⟩ := runs_findRoom begins reading
      refine roomKnown_of_none fun attempt member => ?_
      obtain rfl := List.mem_singleton.mp member
      exact reads

end RoomKnown

/-- Only the update of a room updates rooms. -/
theorem roomKnown_call {call : Call n} {result : Except Err Response} {begins : CachePhase}
    (runs : (call.program env).Runs World.exec FailsClean world attempts result last) :
    RoomKnown env begins attempts := by
  have issued := runs.issued (Issued.uses_program env call)
  obtain ⟨request, entropy, schedule⟩ := call
  cases request with
  | updateRoom id dto =>
    rcases Program.runs_bind runs with ⟨room, mid, first, rest, rfl, updating, returned⟩ |
      ⟨error, rfl, updating⟩
    · cases returned
      rw [List.append_nil]
      exact roomsUpdate_known _ _ _ updating
    · exact roomsUpdate_known _ _ _ updating
  | _ =>
    refine roomKnown_of_none fun attempt member => ?_
    rintro ⟨i, other, data, updates⟩
    have own := issued attempt member
    rw [updates] at own
    cases own with
    | shardRead isRead => cases isRead

/-- The creation of a hotel commits nothing else. -/
theorem createHotel_unseen {call : Call n} {dto : CreateHotelDto} {result : Except Err Response}
    (asked : call.request = .createHotel dto)
    (runs : (call.program env).Runs World.exec FailsClean world attempts result last) :
    (∀ filter checkIn checkOut,
      last.found env filter checkIn checkOut = world.found env filter checkIn checkOut) ∧
    ∀ h, (env.card? world h).isSome = true → env.card? last h = env.card? world h := by
  have issued := runs.issued (Issued.uses_program env call)
  obtain ⟨request, entropy, schedule⟩ := call
  obtain rfl : request = .createHotel dto := asked
  have unseen (attempt : Attempted n) (member : attempt ∈ attempts) :=
    @created_unseen n env attempt (runs.permitted attempt member) <| by
      refine or_iff_not_imp_left.mpr fun commits => ?_
      obtain ⟨i, stmt, cmd, writes⟩ := Caching.commits_cmd (not_not.mp commits)
      have own := issued attempt member
      rw [cmd] at own ⊢
      cases own with
      | shardRead isRead => cases writes.symm.trans isRead
      | createHotel => exact ⟨_, _, _, _, rfl⟩
  constructor
  · refine runs.carries (fun now => ∀ filter checkIn checkOut,
      now.found env filter checkIn checkOut = world.found env filter checkIn checkOut)
      (fun _ _ _ => rfl) fun attempt member same filter checkIn checkOut => ?_
    exact ((unseen attempt member).1 filter checkIn checkOut).trans (same filter checkIn checkOut)
  · intro h known
    refine runs.carries (fun now => env.card? now h = env.card? world h) rfl
      fun attempt member same => ?_
    exact ((unseen attempt member).2 h (same ▸ known)).trans same

/-- The last commit is followed by an increment, since no new version is owed in the end. -/
theorem announced_of_clean {begins : CachePhase} (committed : ∃ attempt ∈ attempts, Committing attempt)
    (clean : (phaseAfter (cacheProtocol env) World.exec begins attempts).Clean) :
    MarkedAfter attempts Committing fun attempt => attempt.cmd = .cache .incr := by
  have plain {cmd : Cmd n} (other : cmd ≠ .cache .incr) : cmd.bumps = false := by
    unfold Cmd.bumps
    split
    · exact absurd rfl other
    · rfl
  have settled : ¬ (phaseAfter (cacheProtocol env) World.exec begins attempts).dirty = true :=
    fun dirty => Bool.false_ne_true (clean.dirty.symm.trans dirty)
  refine @markedAfter_of_settled _ _ _ World.exec (cacheProtocol env) attempts begins
    (fun phase => phase.dirty = true) _ _ ?_ ?_ committed settled
  · intro early attempt late _ commits other
    change ((attempt.cmd.commits (attempt.reply World.exec) || _) && !attempt.cmd.bumps) = true
    rw [show attempt.cmd.commits (attempt.reply World.exec) = true from commits, plain other]
    rfl
  · intro phase attempt _ other dirty
    change ((_ || phase.dirty) && !attempt.cmd.bumps) = true
    rw [dirty, plain other, Bool.or_true]
    rfl

/-- A changed card was touched where the room was known to be, and no deletion of it is owed in the
end. -/
theorem deleted_of_clean {begins : CachePhase} {h : Text} (named : h ≠ [])
    (permitted : ∀ attempt ∈ attempts, FailsClean attempt.before attempt.cmd attempt.fault)
    (known : RoomKnown env begins attempts) (older : ∀ attempt ∈ attempts, ¬ Creates attempt.cmd)
    (altered : ∃ attempt ∈ attempts, AltersCard env h attempt)
    (clean : (phaseAfter (cacheProtocol env) World.exec begins attempts).Clean) :
    MarkedAfter attempts (AltersCard env h) fun attempt => attempt.cmd.forgets h = true := by
  have settled : h ∉ (phaseAfter (cacheProtocol env) World.exec begins attempts).stale :=
    fun stale => named (clean.stale h stale)
  refine @markedAfter_of_settled _ _ _ World.exec (cacheProtocol env) attempts begins
    (fun phase => h ∈ phase.stale) _ _ ?_ ?_ altered settled
  · intro early attempt late split alters other
    have member : attempt ∈ attempts := split ▸ List.mem_append_right _ List.mem_cons_self
    rcases (permitted attempt member).cases with ⟨reply, executed⟩ | ⟨_, same⟩
    · refine List.mem_filter.mpr ⟨List.mem_append_left _ ?_, ?_⟩
      · by_contra untouched
        apply alters
        rw [reply] at untouched
        rw [executed]
        refine World.card_unchanged ?_ ?_ untouched
        · exact fun i id dto room new same found _ _ =>
            known early attempt late split i id dto room same found
        · exact fun i id dto createdAt creates => older attempt member ⟨i, id, dto, createdAt, creates⟩
      · rw [Bool.not_eq_true']
        exact Bool.eq_false_iff.mpr other
    · exact absurd (congrArg (fun now => env.card? now h) same) alters
  · intro phase attempt _ other stale
    refine List.mem_filter.mpr ⟨List.mem_append_right _ stale, ?_⟩
    rw [Bool.not_eq_true']
    exact Bool.eq_false_iff.mpr other

/-- A request that returns while it runs alone has deleted the card of every hotel it changed after
it last changed it, and has incremented the search version after its last commit if a search finds
other rooms. -/
theorem returned_invalidated (configured : env.redisConfigured = true) (call : Call n)
    {response : Response} (runs : (call.program env).Runs World.exec FailsClean world attempts
      (.ok response) last) :
    (∀ h, h ≠ [] → (env.card? world h).isSome = true → env.card? last h ≠ env.card? world h →
      MarkedAfter attempts (AltersCard env h) fun attempt => attempt.cmd.forgets h = true) ∧
    (AltersSearch env world last →
      MarkedAfter attempts Committing fun attempt => attempt.cmd = .cache .incr) := by
  have permitted := runs.permitted
  by_cases creating : ∃ dto, call.request = .createHotel dto
  · obtain ⟨dto, asked⟩ := creating
    obtain ⟨searches, cards⟩ := createHotel_unseen asked runs
    constructor
    · exact fun h _ known differs => absurd (cards h known) differs
    · rintro ⟨_, _, _, _, _, differs⟩
      exact absurd (searches _ _ _).symm differs
  · obtain ⟨answers, asked⟩ := ((Caching.call_obeys configured call).keeping
      (fun phase : CachePhase => phase.request) fun _ _ _ => rfl).ended runs
    have clean := (answers response rfl).clean fun dto same =>
      creating ⟨dto, Option.some.inj (asked.symm.trans same)⟩
    constructor
    · intro h named known differs
      refine deleted_of_clean named permitted (roomKnown_call runs) ?_ ?_ clean
      · rintro attempt member ⟨i, id, dto, createdAt, creates⟩
        have own := runs.issued (Issued.uses_program env call) attempt member
        obtain ⟨request, entropy, schedule⟩ := call
        rw [creates] at own
        cases own with
        | shardRead isRead => cases isRead
        | createHotel => exact creating ⟨dto, rfl⟩
      · by_contra never
        refine differs (runs.carries (fun now => env.card? now h = env.card? world h) rfl
          fun attempt member same => ?_)
        have kept := not_not.mp fun alters => never ⟨attempt, member, alters⟩
        exact Eq.trans kept same
    · rintro ⟨dto, checkIn, checkOut, _, _, differs⟩
      refine announced_of_clean (not_not.mp fun never => differs ?_) clean
      have same := runs.carries (fun now => now.shards = world.shards) rfl
        fun attempt member same => (shards_kept (permitted attempt member)
          fun commits => never ⟨attempt, member, commits⟩).trans same
      exact (found_congr same _ _ _).symm

/-- The sample room that has no booking is removed. -/
def removing : Call 2 := .sample (.removeRoom room102) 9

theorem returned_invalidated_removing : ∃ attempts response last,
    (removing.program withRedis).Runs World.exec FailsClean booked attempts (.ok response) last ∧
    (MarkedAfter attempts (AltersCard withRedis dnipro) fun attempt =>
      attempt.cmd.forgets dnipro = true) ∧
    MarkedAfter attempts Committing fun attempt => attempt.cmd = .cache .incr := by
  have clear := Program.replay_faultless World.exec (removing.program withRedis) booked
  have runs := @Program.runs_replay _ _ _ _ World.exec FailsClean booked
    (removing.program withRedis) [] fun attempt member => by
      rw [clear attempt member]
      exact ⟨rfl, fun _ _ => rfl⟩
  have seen : ((removing.program withRedis).replay World.exec [] booked).2.1.toOption.isSome = true ∧
      (withRedis.card? booked dnipro).isSome = true ∧
      withRedis.card? ((removing.program withRedis).replay World.exec [] booked).2.2 dnipro ≠
        withRedis.card? booked dnipro ∧
      booked.found withRedis (RoomsService.searchFilter withRedis.platform
        ⟨none, january 1, january 5, none⟩) 1767225600000 1767571200000 ≠
      ((removing.program withRedis).replay World.exec [] booked).2.2.found withRedis
        (RoomsService.searchFilter withRedis.platform ⟨none, january 1, january 5, none⟩)
        1767225600000 1767571200000 := by decide +kernel
  obtain ⟨answered, known, changed, found⟩ := seen
  cases replied : ((removing.program withRedis).replay World.exec [] booked).2.1 with
  | error error =>
    rw [replied] at answered
    cases answered
  | ok response =>
    rw [replied] at runs
    obtain ⟨cards, searches⟩ := returned_invalidated rfl removing runs
    exact ⟨_, response, _, runs, cards dnipro (by decide) known changed,
      searches ⟨⟨none, january 1, january 5, none⟩, _, _, rfl, rfl, found⟩⟩

end HotelBooking
