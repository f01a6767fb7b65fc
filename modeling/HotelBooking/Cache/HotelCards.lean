import HotelBooking.Cache.FreshSearch

/-! The cards of hotels. A writer deletes the cards that its statement may have changed before it
returns. A card that was read before the commit and stored after this deletion outlives the write,
and so does the card of a hotel in which the writer did not expect the room. -/
namespace HotelBooking
open Effect Relational
variable {n : Nat} {env : Env n}

/-- The card of a hotel on the shard where the API looks for it. -/
def Env.card? (env : Env n) (world : World n) (id : Text) : Option HotelCard :=
  (world.shards (env.router.forKey id)).hotelCard? id

theorem Tables.hotelCard?_congr {before after : Tables} {id : Text}
    (hotel : after.hotels.find? id = before.hotels.find? id)
    (rooms : (after.rooms.rows.filter fun room => room.hotelId = id) =
      before.rooms.rows.filter fun room => room.hotelId = id) :
    after.hotelCard? id = before.hotelCard? id := by
  simp only [Tables.hotelCard?, hotel, rooms]

/-- A statement changes the cards of the hotels that it touches only. An update of a room touches
the hotel that it moves the room away from if the client knows where the room is. An update that
leaves the room where it is touches this hotel anyway. -/
theorem Stmt.card_unchanged {tables after : Tables} {stmt : Stmt} {answer : stmt.Answer}
    (done : stmt.exec tables = .ok (answer, after)) {i : Fin n} {home : Option Text} {h : Text}
    (kept : ∀ id dto room new, stmt = .roomUpdate id dto → tables.rooms.find? id = some room →
      dto.over room = .ok new → new.hotelId ≠ room.hotelId → home = some room.hotelId)
    (older : ∀ id dto createdAt, stmt ≠ .hotelCreate id dto createdAt)
    (untouched : h ∉ Cmd.touches home (.shard i stmt) (.ok answer)) :
    after.hotelCard? h = tables.hotelCard? h := by
  have elsewhere {room : Room} (other : room.hotelId ≠ h) :
      decide (room.hotelId = h) = false := decide_eq_false other
  have wrote := Stmt.wrote done
  cases stmt with
  | hotelCreate id dto createdAt => exact absurd rfl (older id dto createdAt)
  | hotelUpdate id dto =>
    have other : id ≠ h := fun same => untouched (List.mem_singleton.mpr same.symm)
    cases wrote with
    | @hotelUpdate _ _ old hotel found merged =>
      have keyed : hotel.id = id :=
        (UpdateHotelDto.over_ok merged).1.trans (Table.find?_eq_some.mp found).2
      refine Tables.hotelCard?_congr ?_ rfl
      exact (Table.find?_put (keyed.symm ▸ found) h).trans (if_neg fun same =>
        other (keyed.symm.trans same))
    | read isRead => cases isRead
  | hotelDelete id =>
    have other : h ≠ id := fun same => untouched (List.mem_singleton.mpr same)
    cases wrote with
    | hotelDelete unused =>
      exact Tables.hotelCard?_congr ((Table.find?_erase id h).trans (if_neg other)) rfl
    | read isRead => cases isRead
  | roomCreate id dto createdAt =>
    obtain ⟨_, fresh, hotel, number, rfl⟩ := Tables.roomCreate_ok done
    have other : answer.hotelId ≠ h := fun same => untouched (List.mem_singleton.mpr same.symm)
    refine Tables.hotelCard?_congr rfl ?_
    exact List.filter_cons_of_neg (by simpa using other)
  | roomUpdate id dto =>
    obtain ⟨old, found, merged, hotel, number, rfl⟩ := Tables.roomUpdate_ok done
    have keyed : answer.id = id :=
      (UpdateRoomDto.over_ok merged).1.trans (Table.find?_eq_some.mp found).2
    have arrives : answer.hotelId ≠ h := by
      rintro rfl
      exact untouched (List.mem_append_right _ (List.mem_singleton_self _))
    have leaves : old.hotelId ≠ h := by
      by_cases stays : answer.hotelId = old.hotelId
      · exact stays ▸ arrives
      · have known := kept id dto old answer rfl found merged stays
        rintro rfl
        refine untouched (List.mem_append_left _ ?_)
        rw [known]
        exact List.mem_singleton_self _
    exact Tables.hotelCard?_congr rfl (Table.filter_put_apart (keyed.symm ▸ found) (elsewhere leaves)
      (elsewhere arrives))
  | roomDelete id =>
    obtain ⟨found, unused, rfl⟩ := Tables.roomDelete_ok done
    have other : answer.hotelId ≠ h := fun same => untouched (List.mem_singleton.mpr same.symm)
    refine Tables.hotelCard?_congr rfl (Table.filter_erase_apart fun room stored => ?_)
    obtain rfl := Option.some.inj (found.symm.trans stored)
    exact elsewhere other
  | _ => cases wrote <;> rfl

/-- Only the shard of a hotel changes its card. -/
theorem World.card_unchanged {world : World n} {cmd : Cmd n} {home : Option Text} {h : Text}
    (kept : ∀ i id dto room new, cmd = .shard i (.roomUpdate id dto) →
      (world.shards i).rooms.find? id = some room → dto.over room = .ok new →
      new.hotelId ≠ room.hotelId → home = some room.hotelId)
    (older : ∀ i id dto createdAt, cmd ≠ .shard i (.hotelCreate id dto createdAt))
    (untouched : h ∉ Cmd.touches home cmd (World.exec cmd world).1) :
    env.card? (World.exec cmd world).2 h = env.card? world h := by
  cases cmd with
  | shard i stmt =>
    cases done : stmt.exec (world.shards i) with
    | error error => rw [World.exec_shard_error done]
    | ok result =>
      obtain ⟨answer, tables⟩ := result
      rw [World.exec_shard_ok done] at untouched ⊢
      by_cases here : env.router.forKey h = i
      · simp only [Env.card?, here, World.setShard_self]
        refine Stmt.card_unchanged done (fun id dto room new same => ?_) ?_ untouched
        · exact kept i id dto room new (congrArg (Cmd.shard i) same)
        · exact fun id dto createdAt same => older i id dto createdAt (congrArg (Cmd.shard i) same)
      · simp only [Env.card?, World.setShard_of_ne world here]
  | guests stmt =>
    simp only [World.exec]
    split <;> rfl
  | cache cmd => rfl

/-- The hotel in which the client last found a room. -/
def lastHome (trace : List (Move n)) (client : Nat) : Option Text :=
  trace.foldl (fun home move => if move.event.client = client then
    (Cmd.homeRead move.event.cmd (Pool.reply World.exec move)).or home else home) none

/-- When the commit moves a room to another hotel, the room is still in the hotel where the client
found it. -/
def HomeKept (before : List (Move n)) (commit : Move n) : Prop :=
  ∀ i id dto room new, commit.event.cmd = .shard i (.roomUpdate id dto) →
    (commit.before.state.shards i).rooms.find? id = some room → dto.over room = .ok new →
    new.hotelId ≠ room.hotelId → lastHome before commit.event.client = some room.hotelId

/-- The client has deleted the card. -/
def Deleted (trace : List (Move n)) (client : Nat) (h : Text) : Prop :=
  ∃ move ∈ trace, move.event.client = client ∧ move.event.cmd.forgets h = true

/-- A client read the card before the commit and stored it after the writer had deleted it. -/
def Outlives (before : List (Move n)) (commit : Move n) (rest : List (Move n)) (h : Text) : Prop :=
  ∃ early move late card ttlSec, rest = early ++ move :: late ∧
    move.event.cmd = .cache (.set (.hotel h) card ttlSec) ∧
    Deleted early commit.event.client h ∧
    ∃ read ∈ before, read.event.client = move.event.client ∧
      ∃ i, read.event.cmd = .shard i (.hotelFindCard h)

/-- The hotel had this card after one of the moves. -/
def HadCard (env : Env n) (moves : List (Move n)) (h : Text) (card : HotelCard) : Prop :=
  ∃ move ∈ moves, env.card? move.after.state h = some card

theorem forgets_cmd {cmd : Cmd n} {h : Text} (forgets : cmd.forgets h = true) :
    ∃ keys, cmd = .cache (.del keys) ∧ .hotel h ∈ keys := by
  unfold Cmd.forgets at forgets
  split at forgets
  · next keys => exact ⟨keys, rfl, of_decide_eq_true forgets⟩
  · cases forgets

theorem cardLoaded_cmd {cmd : Cmd n} {reply : Except Err cmd.Answer} {card : Text × HotelCard}
    (loaded : Cmd.cardLoaded cmd reply = some card) :
    ∃ i id, cmd = .shard i (.hotelFindCard id) := by
  unfold Cmd.cardLoaded at loaded
  split at loaded
  · exact ⟨_, _, rfl⟩
  · cases loaded

theorem cardShown_cmd {cmd : Cmd n} {reply : Except Err cmd.Answer} {card : Text × HotelCard}
    (shown : Cmd.cardShown cmd reply = some card) :
    Cmd.cardLoaded cmd reply = some card ∨ ∃ id, cmd = .cache (.get (.hotel id)) := by
  unfold Cmd.cardShown at shown
  split at shown
  · exact Or.inr ⟨_, rfl⟩
  · exact Or.inl shown
  · cases shown

namespace Caching
variable {begins : Nat → CachePhase} {start last : Clients n} {trace : List (Move n)}

theorem lastHome_eq (env : Env n) (calls : List (Call n)) (trace : List (Move n)) (client : Nat) :
    (phasesAfter env (atStart calls) trace client).home = lastHome trace client := by
  induction trace using List.reverseRecOn with
  | nil => rfl
  | append_singleton trace move ih =>
    rw [phasesAfter_concat, lastHome, List.foldl_append, List.foldl_cons, List.foldl_nil]
    split
    · exact congrArg (Option.or (Cmd.homeRead move.event.cmd (Pool.reply World.exec move))) ih
    · exact ih

/-- A commit that changes a card leaves the writer with its deletion to do. -/
theorem commit_owes {before : List (Move n)} {commit : Move n} {calls : List (Call n)}
    {h : Text} (step : Pool.Step World.exec Aborts commit.before commit.event commit.after)
    (kept : HomeKept before commit)
    (older : ∀ i id dto createdAt, commit.event.cmd ≠ .shard i (.hotelCreate id dto createdAt))
    (changed : env.card? commit.after.state h ≠ env.card? commit.before.state h) :
    h ∈ (phasesAfter env (atStart calls) (before ++ [commit]) commit.event.client).stale := by
  rcases Aborts.effect step with ⟨reply, executed⟩ | ⟨_, same⟩
  · rw [phasesAfter_concat, if_pos rfl]
    have touched : h ∈ Cmd.touches (lastHome before commit.event.client) commit.event.cmd
        (Pool.reply World.exec commit) := by
      rw [reply]
      by_contra untouched
      apply changed
      rw [executed]
      exact World.card_unchanged kept older untouched
    have keeps : commit.event.cmd.forgets h = false := by
      cases cmd : commit.event.cmd with
      | shard i stmt => rfl
      | guests stmt => rfl
      | cache cmd =>
        rw [cmd] at executed
        rw [executed] at changed
        exact absurd rfl changed
    rw [← lastHome_eq env calls] at touched
    refine List.mem_filter.mpr ⟨List.mem_append_left _ touched, ?_⟩
    rw [keeps]
    rfl
  · rw [same] at changed
    exact absurd rfl changed

/-- A card that a client owed and owes no more has been deleted by it. -/
theorem deleted_of_settled {client : Nat} {h : Text} (owed : h ∈ (begins client).stale)
    (settled : h ∉ (phasesAfter env begins trace client).stale) : Deleted trace client h := by
  by_contra never
  refine settled (Pool.phases_rule (cacheProtocol env) (fun phase => h ∈ phase.stale) owed trace ?_)
  intro move member served phase owed
  refine List.mem_filter.mpr ⟨List.mem_append_right _ owed, ?_⟩
  rw [Bool.not_eq_true']
  exact Bool.eq_false_iff.mpr fun forgets => never ⟨move, member, served, forgets⟩

/-- After a deletion Redis has cards only that were stored later. -/
theorem entry_after_del (run : Run (Pool.Step World.exec Aborts) start trace last) {client : Nat}
    {h : Text} (holds : HotelCard → Prop)
    (stored : ∀ early move late card ttlSec, trace = early ++ move :: late →
      move.event.cmd = .cache (.set (.hotel h) card ttlSec) → Deleted early client h → holds card)
    (deleted : Deleted trace client h) {card : HotelCard}
    (entry : last.state.redis.entries (.hotel h) = some card) : holds card := by
  induction run generalizing card with
  | start =>
    obtain ⟨move, member, _⟩ := deleted
    cases member
  | @next trace mid event last earlier stepped ih =>
    have before (early : List (Move n)) (move : Move n) (late : List (Move n)) (card : HotelCard)
        (ttlSec : Nat) (split : trace = early ++ move :: late) :=
      stored early move (late ++ [⟨mid, event, last⟩]) card ttlSec (by simp [split])
    by_cases past : Deleted trace client h
    · rcases @Aborts.effect n ⟨mid, event, last⟩ stepped with ⟨_, executed⟩ | ⟨_, same⟩
      · rw [executed] at entry
        rcases entry_exec (by rintro ⟨⟩) entry with old | ⟨ttlSec, stores⟩
        · exact ih before past old
        · exact stored trace ⟨mid, event, last⟩ [] card ttlSec rfl stores past
      · rw [same] at entry
        exact ih before past entry
    · obtain ⟨move, member, served, forgets⟩ := deleted
      rcases List.mem_append.mp member with old | here
      · exact absurd ⟨move, old, served, forgets⟩ past
      · obtain rfl := List.mem_singleton.mp here
        obtain ⟨keys, deletes, listed⟩ := forgets_cmd forgets
        rcases @Aborts.effect n ⟨mid, event, last⟩ stepped with ⟨_, executed⟩ | ⟨transaction, _⟩
        · rw [executed, show event.cmd = _ from deletes] at entry
          simp only [World.exec, Redis.exec, if_pos listed] at entry
          cases entry
        · rw [show event.cmd = _ from deletes] at transaction
          cases transaction

/-- A card that was read is the one that the shard has. -/
theorem cardLoaded_state {move : Move n} {id : Text} {card : HotelCard}
    (step : Pool.Step World.exec Aborts move.before move.event move.after)
    (loaded : Cmd.cardLoaded move.event.cmd (Pool.reply World.exec move) = some (id, card)) :
    ∃ i, move.event.cmd = .shard i (.hotelFindCard id) ∧
      (move.after.state.shards i).hotelCard? id = some card ∧
      move.after.state = move.before.state := by
  obtain ⟨before, ⟨client, cmd, fault⟩, after⟩ := move
  obtain ⟨i, other, rfl⟩ := cardLoaded_cmd loaded
  obtain ⟨permitted, result⟩ := step.state_eq
  obtain rfl := Aborts.untouched permitted rfl
  have executed : World.exec (.shard i (.hotelFindCard other)) before.state =
      (.ok ((before.state.shards i).hotelCard? other), before.state) := by
    rw [World.exec_shard_ok rfl, World.setShard_same]
  have found : ((before.state.shards i).hotelCard? other).map (fun card => (other, card)) =
      some (id, card) := by
    have reply : Pool.reply World.exec ⟨before, ⟨client, .shard i (.hotelFindCard other), .none⟩,
        after⟩ = .ok ((before.state.shards i).hotelCard? other) := congrArg Prod.fst executed
    rw [reply] at loaded
    exact loaded
  obtain ⟨shown, here, same⟩ := Option.map_eq_some_iff.mp found
  obtain ⟨rfl, rfl⟩ := Prod.mk.inj same
  have unchanged : after.state = before.state := result.trans (congrArg Prod.snd executed)
  exact ⟨i, rfl, unchanged ▸ here, unchanged⟩

/-- A card is shown by an entry of Redis or by a shard. -/
theorem cardShown_cases {move : Move n} {id : Text} {card : HotelCard}
    (step : Pool.Step World.exec Aborts move.before move.event move.after)
    (shown : Cmd.cardShown move.event.cmd (Pool.reply World.exec move) = some (id, card)) :
    move.before.state.redis.entries (.hotel id) = some card ∨
      Cmd.cardLoaded move.event.cmd (Pool.reply World.exec move) = some (id, card) := by
  obtain ⟨before, ⟨client, cmd, fault⟩, after⟩ := move
  rcases cardShown_cmd shown with loaded | ⟨other, rfl⟩
  · exact Or.inr loaded
  · obtain rfl := Aborts.untouched step.state_eq.1 rfl
    have found : (before.state.redis.entries (.hotel other)).map (fun card => (other, card)) =
        some (id, card) := shown
    obtain ⟨stored, here, same⟩ := Option.map_eq_some_iff.mp found
    obtain ⟨rfl, rfl⟩ := Prod.mk.inj same
    exact Or.inl here

/-- The writer has deleted the card that it changed before it returned. -/
theorem writer_deletes (configured : env.redisConfigured = true) (world : World n)
    (calls : List (Call n)) {keys : List CacheKey} (lasting : .searchVersion ∉ keys)
    {before during : List (Move n)} {commit : Move n} {mid : Clients n} {h : Text}
    {written : Response} (named : h ≠ [])
    (first : Run (Pool.Step World.exec Aborts) (lapsing env world calls keys)
      (before ++ commit :: during) mid)
    (changed : env.card? commit.after.state h ≠ env.card? commit.before.state h)
    (invalidating : ∀ dto,
      calls[commit.event.client]?.map Call.request ≠ some (.createHotel dto))
    (returned : mid.clients[commit.event.client]? = some (.ret written))
    (kept : HomeKept before commit) : Deleted during commit.event.client h := by
  have obeys := lapsing_obeying configured world calls lasting
  have step := first.steps commit (List.mem_append_right _ List.mem_cons_self)
  have older (i : Fin n) (id : Text) (dto : CreateHotelDto) (createdAt : Instant) :
      commit.event.cmd ≠ .shard i (.hotelCreate id dto createdAt) := by
    intro creates
    have own := Pool.run_issues (lapsing_uses env world calls keys) first commit
      (List.mem_append_right _ List.mem_cons_self)
    rw [creates] at own
    rcases own with ⟨call, here, issued⟩ | ⟨key, same⟩
    · obtain ⟨request, entropy, schedule⟩ := call
      cases issued with
      | shardRead isRead => cases isRead
      | createHotel => exact invalidating _ (by rw [here]; rfl)
    · cases same
  have owed : h ∈ (phasesAfter env (atStart calls) (before ++ [commit])
      commit.event.client).stale := commit_owes step kept older changed
  have ended : CacheAnswers (phasesAfter env (atStart calls) (before ++ commit :: during)
      commit.event.client) written := run_answers obeys first returned
  have settled : h ∉ (phasesAfter env (phasesAfter env (atStart calls) (before ++ [commit]))
      during commit.event.client).stale := by
    intro still
    rw [← phasesAfter_append, ← List.append_cons] at still
    refine named ((ended.clean fun dto => ?_).stale h still)
    rw [request_kept]
    exact invalidating dto
  exact deleted_of_settled owed settled

/-- A GET of a hotel that began after the first moves was shown the card that it answers with. -/
theorem reader_shown {calls : List (Call n)} {start last : Clients n} {prior later : List (Move n)}
    {reader : Nat} {h : Text} {status : CacheStatus} {card : HotelCard}
    (obeys : Obeying env (atStart calls) start)
    (whole : Run (Pool.Step World.exec Aborts) start (prior ++ later) last)
    (unbegun : ∀ move ∈ prior, move.event.client ≠ reader)
    (asked : calls[reader]?.map Call.request = some (.findHotel h))
    (answered : last.clients[reader]? = some (.ret (.card status card))) :
    ∃ move ∈ later, Cmd.cardShown move.event.cmd (Pool.reply World.exec move) = some (h, card) := by
  have ended : CacheAnswers (phasesAfter env (atStart calls) (prior ++ later) reader)
      (.card status card) := run_answers obeys whole answered
  obtain ⟨id, requested, member⟩ := ended.card status card rfl
  rw [request_kept] at requested
  obtain rfl : h = id := by
    have same := asked.symm.trans requested
    cases same
    rfl
  have blank : (phasesAfter env (atStart calls) prior reader).cards = [] := by
    rw [phasesAfter_unbegun unbegun]
    rfl
  have shown : (h, card) ∈ (phasesAfter env (phasesAfter env (atStart calls) prior) later
      reader).cards := by
    rw [← phasesAfter_append]
    exact member
  obtain ⟨move, listed, _, shows⟩ := Pool.learned (cacheProtocol env)
    (fun phase => phase.cards) Cmd.cardShown (fun _ _ _ => rfl) blank shown
  exact ⟨move, listed, shows⟩

/-- Nothing fails except that the database may abort transactions, and entries may expire at any
time. A write changed the card of a hotel, was not the creation of a hotel, and returned before a
GET of that hotel began. The GET returns a card that the hotel has had since the commit, if nobody
stores an older card after the writer has deleted it, and if the room that the write may have
moved was still where the writer had found it. -/
theorem card_after_write (configured : env.redisConfigured = true) (world : World n)
    (calls : List (Call n)) {keys : List CacheKey} (lasting : .searchVersion ∉ keys)
    {before during later : List (Move n)} {commit : Move n} {mid last : Clients n} {reader : Nat}
    {h : Text} {written : Response} {status : CacheStatus} {card : HotelCard} (named : h ≠ [])
    (first : Run (Pool.Step World.exec Aborts) (lapsing env world calls keys)
      (before ++ commit :: during) mid)
    (changed : env.card? commit.after.state h ≠ env.card? commit.before.state h)
    (invalidating : ∀ dto,
      calls[commit.event.client]?.map Call.request ≠ some (.createHotel dto))
    (returned : mid.clients[commit.event.client]? = some (.ret written))
    (unbegun : ∀ move ∈ before ++ commit :: during, move.event.client ≠ reader)
    (second : Run (Pool.Step World.exec Aborts) mid later last)
    (asked : calls[reader]?.map Call.request = some (.findHotel h))
    (answered : last.clients[reader]? = some (.ret (.card status card)))
    (kept : HomeKept before commit) (current : ¬ Outlives before commit (during ++ later) h) :
    HadCard env (commit :: during ++ later) h card := by
  have obeys := lapsing_obeying configured world calls lasting
  have whole := first.append second
  obtain ⟨committed, rest⟩ := first.resume rfl
  have since := rest.append second
  have step := first.steps commit (List.mem_append_right _ List.mem_cons_self)
  have deleted : Deleted during commit.event.client h :=
    writer_deletes configured world calls lasting named first changed invalidating returned kept
  -- what was read since the commit was the card of the hotel since then
  have loaded {early late : List (Move n)} {move : Move n}
      (split : during ++ later = early ++ move :: late) {card : HotelCard}
      (shown : Cmd.cardLoaded move.event.cmd (Pool.reply World.exec move) = some (h, card)) :
      HadCard env (commit :: during ++ later) h card := by
    have member : move ∈ during ++ later := split ▸ List.mem_append_right _ List.mem_cons_self
    have place : before ++ commit :: during ++ later =
        (before ++ commit :: early) ++ move :: late := by simp [split]
    have allowed := Pool.run_allows obeys whole place
    obtain ⟨i, isRead, found, _⟩ := cardLoaded_state (since.steps move member) shown
    obtain rfl := allowed.aim i h isRead
    exact ⟨move, List.mem_cons_of_mem _ member, found⟩
  have stored (early : List (Move n)) (move : Move n) (late : List (Move n)) (card : HotelCard)
      (ttlSec : Nat) (split : during ++ later = early ++ move :: late)
      (stores : move.event.cmd = .cache (.set (.hotel h) card ttlSec))
      (past : Deleted early commit.event.client h) :
      HadCard env (commit :: during ++ later) h card := by
    have place : before ++ commit :: during ++ later =
        (before ++ commit :: early) ++ move :: late := by simp [split]
    have own := (Pool.run_allows obeys whole place).keep h card ttlSec stores
    obtain ⟨read, member, reads, shown⟩ := Pool.learned (cacheProtocol env)
      (fun phase => phase.loaded) Cmd.cardLoaded (fun _ _ _ => rfl) rfl own
    rcases List.mem_append.mp member with prior | here
    · refine absurd ?_ current
      obtain ⟨i, isRead, _⟩ := cardLoaded_state (first.steps read
        (List.mem_append_left _ prior)) shown
      exact ⟨early, move, late, card, ttlSec, split, stores, past, read, prior, reads, i, isRead⟩
    · rcases List.mem_cons.mp here with rfl | between
      · exact absurd (by rw [(cardLoaded_state step shown).choose_spec.2.2]) changed
      · obtain ⟨prior, next, cut⟩ := List.append_of_mem between
        exact loaded (by rw [split, cut]; simp : during ++ later =
          prior ++ read :: (next ++ move :: late)) shown
  -- the GET was shown the card by Redis after the deletion, or by the shard
  obtain ⟨move, listed, shows⟩ := reader_shown obeys whole unbegun asked answered
  obtain ⟨early, late, split⟩ := List.append_of_mem listed
  have place : during ++ later = (during ++ early) ++ move :: late := by simp [split]
  rcases cardShown_cases (second.steps move listed) shows with entry | load
  · have past : Deleted (during ++ early) commit.event.client h := by
      obtain ⟨move, member, deletes⟩ := deleted
      exact ⟨move, List.mem_append_left _ member, deletes⟩
    refine entry_after_del (since.cut place) (HadCard env (commit :: during ++ later) h) ?_ past
      entry
    intro earlier store rest card ttlSec cut stores past
    exact stored earlier store (rest ++ move :: late) card ttlSec (by rw [place, cut]; simp)
      stores past
  · exact loaded place load

theorem drop_getElem? {α : Type} {l : List α} {k : Nat} {x : α} (here : l[k]? = some x) :
    l.drop k = x :: l.drop (k + 1) := by
  obtain ⟨bound, rfl⟩ := List.getElem?_eq_some_iff.mp here
  exact List.drop_eq_getElem_cons bound

/-- A hotel is renamed between two GETs of it. -/
def renameCalls : List (Call 2) :=
  [.sample (.findHotel dnipro.text) 7,
    .sample (.updateHotel dnipro.text { name := .value (text "Renamed") }) 8,
    .sample (.findHotel dnipro.text) 9]

def renamed (served : List Nat) : List (Move 2) × Clients 2 :=
  (lapsing withRedis onTwoShards renameCalls []).record World.exec (Pool.faultless served)

/-- The second GET comes when the others are through. -/
def readAgain (served reads : List Nat) : List (Move 2) × Clients 2 :=
  (renamed served).2.record World.exec (Pool.faultless reads)

def cardAgain? (served reads : List Nat) : Option (CacheStatus × HotelCard) :=
  match returned? (readAgain served reads).2 2 with
  | some (.card status card) => some (status, card)
  | _ => none

theorem cardAgain?_eq {served reads : List Nat} {status : CacheStatus} {card : HotelCard}
    (shown : cardAgain? served reads = some (status, card)) :
    (readAgain served reads).2.clients[2]? = some (.ret (.card status card)) := by
  unfold cardAgain? at shown
  split at shown
  · next returned =>
    cases shown
    exact returned?_eq returned
  · cases shown

theorem run_renamed (served reads : List Nat) :
    Run (Pool.Step World.exec Aborts) (lapsing withRedis onTwoShards renameCalls [])
      (renamed served).1 (renamed served).2 ∧
    Run (Pool.Step World.exec Aborts) (renamed served).2 (readAgain served reads).1
      (readAgain served reads).2 :=
  ⟨Pool.run_faultless Aborts.faultless _ _, Pool.run_faultless Aborts.faultless _ _⟩

/-- The first GET reads the card, the hotel is renamed and its card deleted, and only then the
first GET stores what it has read. The next one finds it. -/
theorem card_outlives_rename : ∃ before commit during later mid last written card,
    Run (Pool.Step World.exec Aborts) (lapsing withRedis onTwoShards renameCalls [])
      (before ++ commit :: during) mid ∧
    withRedis.card? commit.after.state dnipro.text ≠
      withRedis.card? commit.before.state dnipro.text ∧
    commit.event.client = 1 ∧ mid.clients[1]? = some (.ret written) ∧
    (∀ move ∈ before ++ commit :: during, move.event.client ≠ 2) ∧
    Run (Pool.Step World.exec Aborts) mid later last ∧
    last.clients[2]? = some (.ret (.card .hit card)) ∧
    withRedis.card? commit.before.state dnipro.text = some card ∧
    ¬ HadCard withRedis (commit :: during ++ later) dnipro.text card := by
  let served := [0, 0, 1, 1, 1, 1, 0]
  obtain ⟨first, second⟩ := run_renamed served [2]
  obtain ⟨written, ended⟩ := Option.isSome_iff_exists.mp
    (by decide +kernel : (returned? (renamed served).2 1).isSome = true)
  obtain ⟨⟨status, card⟩, shown⟩ := Option.isSome_iff_exists.mp
    (by decide +kernel : (cardAgain? served [2]).isSome = true)
  have hit : (cardAgain? served [2]).map Prod.fst = some .hit := by decide +kernel
  rw [shown] at hit
  obtain rfl := Option.some.inj hit
  have outdated : ∀ move ∈ (renamed served).1.drop 3 ++ (readAgain served [2]).1,
      withRedis.card? move.after.state dnipro.text ≠ (cardAgain? served [2]).map Prod.snd := by
    decide +kernel
  have unbegun : ∀ move ∈ (renamed served).1, move.event.client ≠ 2 := by decide +kernel
  obtain ⟨commit, here⟩ := Option.isSome_iff_exists.mp
    (by decide +kernel : ((renamed served).1[3]?).isSome = true)
  have renames : ((renamed served).1[3]?).all fun commit =>
      withRedis.card? commit.after.state dnipro.text ≠
        withRedis.card? commit.before.state dnipro.text ∧ commit.event.client = 1 ∧
      withRedis.card? commit.before.state dnipro.text = (cardAgain? served [2]).map Prod.snd := by
    decide +kernel
  rw [here, shown] at renames
  obtain ⟨changed, writer, former⟩ := of_decide_eq_true renames
  have rest : (renamed served).1.drop 3 = commit :: (renamed served).1.drop 4 :=
    drop_getElem? here
  have split : (renamed served).1 = (renamed served).1.take 3 ++
      commit :: (renamed served).1.drop 4 := by
    rw [← rest, List.take_append_drop]
  rw [rest, shown] at outdated
  rw [split] at first unbegun
  refine ⟨_, _, _, _, _, _, written, card, first, changed, writer, returned?_eq ended, unbegun,
    second, cardAgain?_eq shown, former, ?_⟩
  rintro ⟨move, member, had⟩
  exact outdated move member had

def isCardSet : Cmd n → Bool
  | .cache (.set (.hotel _) _ _) => true
  | _ => false

def isRoomUpdate : Cmd n → Bool
  | .shard _ (.roomUpdate ..) => true
  | _ => false

/-- The first GET has stored the card before the hotel is renamed. -/
theorem card_after_rename : ∃ before commit during later mid last status card,
    Run (Pool.Step World.exec Aborts) (lapsing withRedis onTwoShards renameCalls [])
      (before ++ commit :: during) mid ∧
    withRedis.card? commit.after.state dnipro.text ≠
      withRedis.card? commit.before.state dnipro.text ∧
    Run (Pool.Step World.exec Aborts) mid later last ∧
    last.clients[2]? = some (.ret (.card status card)) ∧
    HadCard withRedis (commit :: during ++ later) dnipro.text card := by
  let served := [0, 0, 0, 1, 1, 1, 1]
  obtain ⟨first, second⟩ := run_renamed served [2, 2, 2]
  obtain ⟨written, ended⟩ := Option.isSome_iff_exists.mp
    (by decide +kernel : (returned? (renamed served).2 1).isSome = true)
  obtain ⟨⟨status, card⟩, shown⟩ := Option.isSome_iff_exists.mp
    (by decide +kernel : (cardAgain? served [2, 2, 2]).isSome = true)
  have unbegun : ∀ move ∈ (renamed served).1, move.event.client ≠ 2 := by decide +kernel
  have fills : ∀ move ∈ (renamed served).1.drop 5 ++ (readAgain served [2, 2, 2]).1,
      isCardSet move.event.cmd = true → move.event.client = 2 := by decide +kernel
  obtain ⟨commit, here⟩ := Option.isSome_iff_exists.mp
    (by decide +kernel : ((renamed served).1[4]?).isSome = true)
  have renames : ((renamed served).1[4]?).all fun commit =>
      withRedis.card? commit.after.state dnipro.text ≠
        withRedis.card? commit.before.state dnipro.text ∧ commit.event.client = 1 ∧
      isRoomUpdate commit.event.cmd = false := by decide +kernel
  rw [here] at renames
  obtain ⟨changed, writer, renames⟩ := of_decide_eq_true renames
  have split : (renamed served).1 = (renamed served).1.take 4 ++
      commit :: (renamed served).1.drop 5 := by
    rw [← drop_getElem? here, List.take_append_drop]
  rw [split] at first unbegun
  have invalidating (dto : CreateHotelDto) :
      renameCalls[commit.event.client]?.map Call.request ≠ some (.createHotel dto) := by
    rw [writer]
    rintro ⟨⟩
  have returned : (renamed served).2.clients[commit.event.client]? = some (.ret written) := by
    rw [writer]
    exact returned?_eq ended
  have kept : HomeKept ((renamed served).1.take 4) commit := by
    intro i id dto room new updates
    rw [updates] at renames
    cases renames
  have current : ¬ Outlives ((renamed served).1.take 4) commit
      ((renamed served).1.drop 5 ++ (readAgain served [2, 2, 2]).1) dnipro.text := by
    rintro ⟨early, move, late, card, ttlSec, place, stores, _, read, prior, reads, _⟩
    rw [place] at fills
    have late := fills move (List.mem_append_right _ List.mem_cons_self) (by rw [stores]; rfl)
    exact unbegun read (List.mem_append_left _ prior) (reads.trans late)
  exact ⟨_, _, _, _, _, _, status, card, first, changed, second, cardAgain?_eq shown,
    card_after_write rfl onTwoShards renameCalls List.not_mem_nil (by decide +kernel) first changed
      invalidating returned unbegun second rfl (cardAgain?_eq shown) kept current⟩

end Caching
end HotelBooking
