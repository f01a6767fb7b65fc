import HotelBooking.Cache.Generations

/-! A search never misses a finished write. The write has left a new version before it returned;
whatever a later search returns was stored under that version or a newer one, by a search that
knew it before it read its shards. -/
namespace HotelBooking
open Effect
variable {n : Nat} {env : Env n}

/-- A search with valid dates does not fail on its own, unless its parameters are refused. -/
theorem search_resolves {filter : RoomFilter} (checkIn : filter.checkIn.isSome = true)
    (checkOut : filter.checkOut.isSome = true) (accepted : filter.parameters = .ok ())
    (tables : Tables) : ∃ views, (Stmt.roomSearch filter).exec tables = .ok (views, tables) := by
  obtain ⟨first, arrives⟩ := Option.isSome_iff_exists.mp checkIn
  obtain ⟨second, leaves⟩ := Option.isSome_iff_exists.mp checkOut
  simp only [Stmt.exec, Tables.roomSearch, arrives, leaves, accepted]
  exact ⟨_, rfl⟩

/-- Refused parameters fail the search on any tables. -/
theorem search_refused {filter : RoomFilter} (checkIn : filter.checkIn.isSome = true)
    (checkOut : filter.checkOut.isSome = true) (refused : filter.parameters ≠ .ok ())
    (tables : Tables) : ∃ error, (Stmt.roomSearch filter).exec tables = .error error := by
  obtain ⟨first, arrives⟩ := Option.isSome_iff_exists.mp checkIn
  obtain ⟨second, leaves⟩ := Option.isSome_iff_exists.mp checkOut
  cases given : filter.parameters with
  | ok accepted => exact absurd given refused
  | error error =>
    simp only [Stmt.exec, Tables.roomSearch, arrives, leaves, given]
    exact ⟨error, rfl⟩

/-- Rooms are shown by an entry that was found, or they are the ones stored. -/
theorem searchShown_cases {cmd : Cmd n} {reply : Except Err cmd.Answer} {views : List RoomView}
    (shown : Cmd.searchShown cmd reply = some views) : ∃ version params,
      Cmd.searchHit cmd reply = some (version, params, views) ∨
        ∃ ttlSec, cmd = .cache (.set (.roomsSearch version params) views ttlSec) := by
  unfold Cmd.searchShown at shown
  split at shown
  · next version params found =>
    obtain rfl := Option.some.inj shown
    exact ⟨version, params, Or.inl rfl⟩
  · next version params stored ttlSec _ =>
    obtain rfl := Option.some.inj shown
    exact ⟨version, params, Or.inr ⟨ttlSec, rfl⟩⟩
  · cases shown

namespace Caching
variable {begins : Nat → CachePhase} {start last : Clients n} {trace : List (Move n)}

theorem commits_cmd {cmd : Cmd n} {reply : Except Err cmd.Answer}
    (commits : cmd.commits reply = true) :
    ∃ i stmt, cmd = .shard i stmt ∧ stmt.isRead = false := by
  unfold Cmd.commits at commits
  split at commits
  · next i stmt _ => exact ⟨i, stmt, rfl, (Bool.not_eq_true' _).mp commits⟩
  · cases commits

theorem redis_answers (run : Run (Pool.Step World.exec Aborts) start trace last) {client : Nat}
    (fine : (begins client).failed = false) :
    (phasesAfter env begins trace client).failed = false := by
  refine Pool.phases_rule (cacheProtocol env) (fun phase => phase.failed = false) fine trace ?_
  intro move member _ phase fine
  have permitted := (run.steps move member).state_eq.1
  obtain ⟨before, ⟨i, cmd, fault⟩, after⟩ := move
  change (Cmd.redisFailed cmd _ || phase.failed) = false
  rw [fine, Bool.or_false]
  cases cmd with
  | cache cmd =>
    obtain rfl := Aborts.untouched permitted rfl
    rfl
  | _ => cases fault <;> rfl

/-- A client that owed a new version and owes none any more has incremented it. -/
theorem version_settled (obeys : Obeying env begins start)
    (run : Run (Pool.Step World.exec Aborts) start trace last) {client : Nat}
    (owed : (begins client).dirty = true)
    (settled : (phasesAfter env begins trace client).dirty = false) :
    start.state.redis.version < last.state.redis.version := by
  have bumped : ∃ move ∈ trace, move.event.client = client ∧ move.event.cmd.bumps = true := by
    by_contra never
    have still : (phasesAfter env begins trace client).dirty = true := by
      refine Pool.phases_rule (cacheProtocol env) (fun phase => phase.dirty = true) owed trace ?_
      intro move member served phase owed
      have plain : move.event.cmd.bumps = false :=
        Bool.eq_false_iff.mpr fun bumps => never ⟨move, member, served, bumps⟩
      change ((_ || phase.dirty) && !move.event.cmd.bumps) = true
      rw [owed, plain, Bool.or_true]
      rfl
    cases still.symm.trans settled
  obtain ⟨bump, member, _, bumps⟩ := bumped
  have effective : bump.event.fault.isRefused = false := by
    have permitted := (run.steps bump member).state_eq.1
    have plain : bump.event.cmd.isTransaction = false := by
      unfold Cmd.bumps at bumps
      split at bumps
      · next same =>
        rw [same]
        rfl
      · cases bumps
    rw [Aborts.untouched permitted plain]
    rfl
  obtain ⟨early, late, split⟩ := List.append_of_mem member
  have before := version_mono obeys (run.cut split)
  exact Nat.lt_of_le_of_lt before (version_after_bump obeys run member bumps effective).1

/-- What a search is shown was stored under the version that it knows. -/
theorem shown_filled (obeys : Obeying env begins start) (cold : Cold start.state)
    (run : Run (Pool.Step World.exec Aborts) start trace last) {client : Nat}
    (blank : (begins client).searches = []) {views : List RoomView}
    (shown : views ∈ (phasesAfter env begins trace client).searches) :
    ∃ fill ∈ trace, ∃ version params, Fills fill version params views ∧
      (phasesAfter env begins trace client).version = some version := by
  induction run with
  | start =>
    rw [show (phasesAfter env begins [] client).searches = [] from blank] at shown
    cases shown
  | @next trace mid event last earlier stepped ih =>
    have old (before : views ∈ (phasesAfter env begins trace client).searches) :
        ∃ fill ∈ trace ++ [⟨mid, event, last⟩], ∃ version params,
          Fills fill version params views ∧
          (phasesAfter env begins (trace ++ [⟨mid, event, last⟩]) client).version =
            some version := by
      obtain ⟨fill, member, version, params, fills, known⟩ := ih before
      exact ⟨fill, List.mem_append_left _ member, version, params, fills,
        version_known_append known _⟩
    by_cases served : event.client = client
    · rw [phasesAfter_concat, if_pos served] at shown
      rcases List.mem_append.mp shown with before | here
      · exact old before
      · have allowed := ((Pool.run_obeys obeys earlier).step stepped).1
        rw [served] at allowed
        obtain ⟨version, params, hit | ⟨ttlSec, stores⟩⟩ :=
          searchShown_cases (Option.mem_toList.mp here)
        · have entry := @hit_entry n ⟨mid, event, last⟩ version params views hit
          obtain ⟨fill, member, fills⟩ := entries_filled cold earlier entry
          exact ⟨fill, List.mem_append_left _ member, version, params, fills,
            version_known_append (allowed.look version params (searchHit_cmd hit)) _⟩
        · have answered : event.fault = .none := by
            refine Aborts.untouched stepped.state_eq.1 ?_
            rw [stores]
            rfl
          refine ⟨_, List.mem_append_right _ List.mem_cons_self, version, params,
            ⟨⟨ttlSec, stores⟩, ?_⟩,
            version_known_append (allowed.fill version params views ttlSec stores) _⟩
          rw [answered]
          rfl
    · rw [phasesAfter_concat, if_neg served] at shown
      exact old shown

/-- Reads of a search come after the read of the version. -/
theorem searched_known (obeys : Obeying env begins start)
    (run : Run (Pool.Step World.exec Aborts) start trace last) {client : Nat} {read : SearchRead n}
    (searched : Searched trace client read) :
    ∃ version, (phasesAfter env begins trace client).version = some version := by
  obtain ⟨move, member, served, shown⟩ := searched
  obtain ⟨i, filter, isRead⟩ := searchRead_cmd shown
  obtain ⟨early, late, split⟩ := List.append_of_mem member
  have allowed := Pool.run_allows obeys run split
  rw [served] at allowed
  obtain ⟨version, known⟩ := Option.isSome_iff_exists.mp (allowed.read i filter isRead).1
  exact ⟨version, split ▸ version_known_append known _⟩

/-- The only search reads that fail are those whose parameters the databases refuse, and all of
these fail. -/
theorem searched_fails_iff (obeys : Obeying env begins start)
    (run : Run (Pool.Step World.exec Aborts) start trace last) {client : Nat} {read : SearchRead n}
    (searched : Searched trace client read) :
    read.answer.toOption = none ↔ read.filter.parameters ≠ .ok () := by
  obtain ⟨move, member, _, shown⟩ := searched
  have permitted := (run.steps move member).state_eq.1
  obtain ⟨i, filter, isRead⟩ := searchRead_cmd shown
  obtain ⟨early, late, split⟩ := List.append_of_mem member
  obtain ⟨_, checkIn, checkOut⟩ := (Pool.run_allows obeys run split).read i filter isRead
  obtain ⟨before, ⟨j, cmd, fault⟩, after⟩ := move
  subst isRead
  obtain rfl := Aborts.untouched permitted rfl
  obtain rfl := Option.some.inj shown
  change (World.exec (.shard i (.roomSearch filter)) before.state).1.toOption = none ↔
    filter.parameters ≠ .ok ()
  by_cases accepted : filter.parameters = .ok ()
  · obtain ⟨views, resolved⟩ := search_resolves checkIn checkOut accepted (before.state.shards i)
    rw [World.exec_shard_ok resolved]
    exact ⟨fun failed => (nomatch failed), fun refused => absurd accepted refused⟩
  · obtain ⟨error, failed⟩ := search_refused checkIn checkOut accepted (before.state.shards i)
    rw [World.exec_shard_error failed]
    exact ⟨fun _ => accepted, fun _ => rfl⟩

/-- A loader has stored the answers of all its shards, or no rooms if the databases refuse its
parameters. -/
theorem filled_or_refused {calls : List (Call n)} (serves : Serves env calls start)
    (obeys : Obeying env begins start) (run : Run (Pool.Step World.exec Aborts) start trace last)
    {early late : List (Move n)} {move : Move n} (split : trace = early ++ move :: late)
    {version : Nat} {params : SearchParams} {views : List RoomView}
    (fills : Fills move version params views) :
    ∃ dto, calls[move.event.client]?.map Call.request = some (.searchRooms dto) ∧
      (FilledFrom env early move.event.client dto views ∨
        ((RoomsService.searchFilter env.platform dto).parameters ≠ .ok () ∧ views = [])) := by
  obtain ⟨_, dto, asked, answers, reads, rows, _⟩ := fills_collects serves run split fills
  have answered (shard : Fin n) (member : shard ∈ askedShards env dto) :=
    searched_fails_iff obeys (run.cut split) ((reads _).mpr ⟨shard, member, rfl⟩)
  refine ⟨dto, asked, ?_⟩
  by_cases accepted : (RoomsService.searchFilter env.platform dto).parameters = .ok ()
  · refine Or.inl ⟨fun shard => (answers shard).toOption.getD [], fun shard member => ?_, rows⟩
    have searched := (reads _).mpr ⟨shard, member, rfl⟩
    cases answer : answers shard with
    | ok views => simpa only [answer, Except.toOption, Option.getD_some] using searched
    | error error =>
      have refused := (answered shard member).mp (by rw [answer]; rfl)
      exact absurd accepted refused
  · refine Or.inr ⟨accepted, ?_⟩
    rw [rows, List.flatMap_eq_nil_iff]
    intro shard member
    rw [(answered shard member).mpr accepted]
    rfl

/-- A writer that has returned has left the version of its commit behind. -/
theorem version_left {calls : List (Call n)} (obeys : Obeying env (atStart calls) start)
    {before during : List (Move n)} {commit : Move n} {written : Response}
    (run : Run (Pool.Step World.exec Aborts) start (before ++ commit :: during) last)
    (commits : Cmd.commits commit.event.cmd (Pool.reply World.exec commit) = true)
    (invalidating : ∀ dto,
      calls[commit.event.client]?.map Call.request ≠ some (.createHotel dto))
    (returned : last.clients[commit.event.client]? = some (.ret written)) :
    commit.after.state.redis.version < last.state.redis.version := by
  obtain ⟨committed, rest⟩ := run.resume rfl
  have owed : (phasesAfter env (atStart calls) (before ++ [commit]) commit.event.client).dirty = true := by
    have plain : commit.event.cmd.bumps = false := by
      obtain ⟨i, stmt, same, _⟩ := commits_cmd commits
      rw [same]
      rfl
    simp only [phasesAfter_concat, if_pos, commits, plain, Bool.true_or, Bool.not_false,
      Bool.and_self]
  have asked (dto : CreateHotelDto) :
      (phasesAfter env (atStart calls) (before ++ commit :: during) commit.event.client).request ≠
        some (.createHotel dto) := by
    rw [request_kept]
    exact invalidating dto
  have settled : (phasesAfter env (atStart calls) (before ++ commit :: during)
      commit.event.client).dirty = false := ((run_answers obeys run returned).clean asked).dirty
  rw [List.append_cons, phasesAfter_append] at settled
  exact version_settled (Pool.run_obeys obeys committed) rest owed settled

/-- Nothing fails except that the database may abort transactions, and entries may expire at any
time. A write that is not the creation of a hotel was committed, and returned before a search
began. What the search returns was loaded from the answers of all its shards by some search (a
query whose parameters the databases refuse finds no rooms), and each of its reads came after the
commit. -/
theorem search_after_write (configured : env.redisConfigured = true) {world : World n}
    (cold : Cold world) (calls : List (Call n)) {keys : List CacheKey}
    (lasting : .searchVersion ∉ keys) {before during later : List (Move n)} {commit : Move n}
    {mid last : Clients n} {searcher : Nat} {written : Response} {status : CacheStatus}
    {views : List RoomView}
    (first : Run (Pool.Step World.exec Aborts) (lapsing env world calls keys)
      (before ++ commit :: during) mid)
    (commits : Cmd.commits commit.event.cmd (Pool.reply World.exec commit) = true)
    (invalidating : ∀ dto,
      calls[commit.event.client]?.map Call.request ≠ some (.createHotel dto))
    (returned : mid.clients[commit.event.client]? = some (.ret written))
    (unbegun : ∀ move ∈ before ++ commit :: during, move.event.client ≠ searcher)
    (second : Run (Pool.Step World.exec Aborts) mid later last)
    (answered : last.clients[searcher]? = some (.ret (.search status views))) :
    ∃ loader dto, calls[loader]?.map Call.request = some (.searchRooms dto) ∧
      (FilledFrom env (before ++ commit :: during ++ later) loader dto views ∨
        ((RoomsService.searchFilter env.platform dto).parameters ≠ .ok () ∧ views = [])) ∧
      ∀ read, ¬ Searched (before ++ [commit]) loader read := by
  have obeys := lapsing_obeying configured world calls lasting
  have resumed := Pool.run_obeys obeys first
  have whole := first.append second
  obtain ⟨committed, _⟩ := first.resume rfl
  -- the writer has incremented the version between its commit and its end
  have bumped := version_left obeys first commits invalidating returned
  -- what the searcher is shown was stored under a version that it read after that
  have ended := run_answers obeys whole answered
  have shown : views ∈ (phasesAfter env (atStart calls) (before ++ commit :: during ++ later) searcher).searches := by
    refine (ended.search status views rfl).resolve_left ?_
    rw [redis_answers whole rfl]
    exact Bool.false_ne_true
  obtain ⟨fill, member, version, params, fills, known⟩ := shown_filled obeys cold whole rfl shown
  have current : mid.state.redis.version ≤ version := by
    have unknown : (phasesAfter env (atStart calls) (before ++ commit :: during) searcher).version = none := by
      rw [phasesAfter_unbegun unbegun]
      rfl
    have answers : VersionAnswered later searcher := by
      intro move listed _ isGet
      refine Aborts.untouched (second.steps move listed).state_eq.1 ?_
      rw [isGet]
      rfl
    rw [phasesAfter_append] at known
    exact version_floor resumed second unknown answers known
  obtain ⟨early, late, split⟩ := List.append_of_mem member
  obtain ⟨dto, asked, filled⟩ :=
    filled_or_refused (lapsing_obey env world calls keys) obeys whole split fills
  have prior (move : Move n) (listed : move ∈ early) :
      move ∈ before ++ commit :: during ++ later := by
    rw [split]
    exact List.mem_append_left _ listed
  refine ⟨fill.event.client, dto, asked, filled.imp_left fun loaded => loaded.mono prior,
    fun read searched => ?_⟩
  -- a read before the commit knows a version that the writer has left behind
  obtain ⟨⟨ttlSec, stores⟩, _⟩ := fills
  obtain ⟨older, learned⟩ := searched_known obeys committed searched
  have bound := version_bound obeys committed (fun _ _ known => nomatch known) _ _ learned
  have stored := (Pool.run_allows obeys whole split).fill version params views ttlSec stores
  have first := version_known_append learned (during ++ later)
  have second := version_known_append stored (fill :: late)
  rw [← split] at second
  rw [← List.append_assoc, ← List.append_cons] at first
  obtain rfl := Option.some.inj (first.symm.trans second)
  omega

/-- A search fills the cache, and a booking is made. -/
def bookedMeanwhile : List (Move 2) × Clients 2 :=
  (lapsing withRedis onTwoShards searchAndBook []).record World.exec
    (Pool.faultless [0, 0, 0, 0, 0, 2, 2, 2])

/-- The same search is asked again. -/
def searchedAgain : List (Move 2) × Clients 2 :=
  bookedMeanwhile.2.record World.exec (Pool.faultless [1, 1, 1, 1, 1])

def foundAgain : List RoomView :=
  match returned? searchedAgain.2 1 with
  | some (.search _ views) => views
  | _ => []

theorem search_after_booking : ∃ before commit during later mid last,
    Run (Pool.Step World.exec Aborts) (lapsing withRedis onTwoShards searchAndBook [])
      (before ++ commit :: during) mid ∧
    Run (Pool.Step World.exec Aborts) mid later last ∧
    last.clients[1]? = some (.ret (.search .miss foundAgain)) ∧
    ∃ loader dto, searchAndBook[loader]?.map Call.request = some (.searchRooms dto) ∧
      (FilledFrom withRedis (before ++ commit :: during ++ later) loader dto foundAgain ∨
        ((RoomsService.searchFilter withRedis.platform dto).parameters ≠ .ok () ∧
          foundAgain = [])) ∧
      ∀ read, ¬ Searched (before ++ [commit]) loader read := by
  have first : Run (Pool.Step World.exec Aborts) (lapsing withRedis onTwoShards searchAndBook [])
      bookedMeanwhile.1 bookedMeanwhile.2 := Pool.run_faultless Aborts.faultless _ _
  have second : Run (Pool.Step World.exec Aborts) bookedMeanwhile.2 searchedAgain.1
      searchedAgain.2 := Pool.run_faultless Aborts.faultless _ _
  have committed : ∃ commit ∈ bookedMeanwhile.1, commit.event.client = 2 ∧
      Cmd.commits commit.event.cmd (Pool.reply World.exec commit) = true := by decide +kernel
  have unbegun : ∀ move ∈ bookedMeanwhile.1, move.event.client ≠ 1 := by decide +kernel
  have missed : returned? searchedAgain.2 1 = some (.search .miss foundAgain) := by
    decide +kernel
  obtain ⟨written, ended⟩ := Option.isSome_iff_exists.mp
    (by decide +kernel : (returned? bookedMeanwhile.2 2).isSome = true)
  obtain ⟨commit, member, writer, commits⟩ := committed
  obtain ⟨before, during, split⟩ := List.append_of_mem member
  rw [split] at first unbegun
  have invalidating (dto : CreateHotelDto) :
      searchAndBook[commit.event.client]?.map Call.request ≠ some (.createHotel dto) := by
    rw [writer]
    rintro ⟨⟩
  have returned : bookedMeanwhile.2.clients[commit.event.client]? = some (.ret written) := by
    rw [writer]
    exact returned?_eq ended
  exact ⟨before, commit, during, _, _, _, first, second, returned?_eq missed,
    search_after_write rfl furnished_cold searchAndBook List.not_mem_nil first commits invalidating
      returned unbegun second (returned?_eq missed)⟩

end Caching
end HotelBooking
