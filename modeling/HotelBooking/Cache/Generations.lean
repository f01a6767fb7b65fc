import HotelBooking.Cache.CacheProtocol
import HotelBooking.Invariants.CachedSearch
import HotelBooking.Services.Clients

/-! The generations of search results. The version in Redis never decreases, a search reads no
shard before it knows a version, and a write that has returned has left a new one. A search that
begins later therefore finds nothing that was loaded before the write. -/
namespace HotelBooking
open Effect
variable {n : Nat} {env : Env n}

/-- The search version that Redis holds. A missing one counts as 0. -/
def Redis.version (redis : Redis) : Nat := (redis.entries .searchVersion).getD 0

namespace Caching

/-- Every client has received its request, and has not begun. -/
def atStart (calls : List (Call n)) : Nat → CachePhase := fun i =>
  received (calls[i]?.map Call.request)

abbrev Obeying (env : Env n) (begins : Nat → CachePhase) (start : Clients n) : Prop :=
  start.Obeys (cacheProtocol env) (fun _ => Returns CacheAnswers) begins

abbrev phasesAfter (env : Env n) (begins : Nat → CachePhase) (trace : List (Move n)) :
    Nat → CachePhase :=
  Pool.phases (cacheProtocol env) World.exec begins trace

theorem lapsing_obeying (configured : env.redisConfigured = true) (world : World n)
    (calls : List (Call n)) {keys : List CacheKey} (lasting : .searchVersion ∉ keys) :
    Obeying env (atStart calls) (lapsing env world calls keys) := by
  intro i program found
  rcases lapsing_cases found with ⟨call, here, rfl⟩ | ⟨absent, key, listed, rfl⟩
  · simpa only [atStart, here, Option.map_some] using call_obeys configured call
  · have deleted : (issue (.cache (.del [key])) : Async n Unit).Obeys (cacheProtocol env)
        (fun _ _ => True) (atStart calls i) := by
      refine obeys_issue ⟨nofun, nofun, nofun, nofun, ?_, nofun, nofun, nofun⟩ fun _ => trivial
      rintro keys' ⟨⟩ member
      exact lasting (List.mem_singleton.mp member ▸ listed)
    exact Program.obeys_bind deleted (fun _ _ _ => obeys_raise _) fun _ _ _ _ failed => nomatch failed

section Version

theorem version_exec {phase : CachePhase} {cmd : Cmd n} (allowed : CacheAllows env phase cmd)
    (world : World n) : world.redis.version ≤ (World.exec cmd world).2.redis.version := by
  cases cmd with
  | shard i stmt =>
    cases done : stmt.exec (world.shards i) with
    | error error =>
      have same := congrArg (fun result => result.2.redis.version) (World.exec_shard_error done)
      exact Nat.le_of_eq same.symm
    | ok result =>
      rw [World.exec_shard_ok done]
      exact Nat.le_refl _
  | guests stmt =>
    simp only [World.exec]
    split <;> exact Nat.le_refl _
  | cache cmd =>
    cases cmd with
    | get key => exact Nat.le_refl _
    | set key value ttlSec =>
      have other : CacheKey.searchVersion ≠ key := by
        rintro rfl
        exact allowed.counter value ttlSec rfl
      simp only [World.exec, Redis.exec, Redis.version, Function.update_of_ne other, Nat.le_refl]
    | del keys =>
      simp only [World.exec, Redis.exec, Redis.version, if_neg (allowed.forget keys rfl),
        Nat.le_refl]
    | incr =>
      simp only [World.exec, Redis.exec, Redis.version, Function.update_self, Option.getD_some]
      exact Nat.le_succ _

theorem version_apply {phase : CachePhase} {cmd : Cmd n} (allowed : CacheAllows env phase cmd)
    (fault : Fault Err) (world : World n) :
    world.redis.version ≤ (fault.apply World.exec cmd world).2.redis.version := by
  rcases fault.apply_state World.exec cmd world with executed | untouched
  · rw [executed]
    exact version_exec allowed world
  · exact Nat.le_of_eq (congrArg (fun world => world.redis.version) untouched).symm

/-- An INCR that Redis did not refuse leaves a new version. -/
theorem version_bumped {cmd : Cmd n} (bumps : cmd.bumps = true) {fault : Fault Err}
    (effective : fault.isRefused = false) (world : World n) :
    (fault.apply World.exec cmd world).2.redis.entries .searchVersion =
      some (world.redis.version + 1) := by
  have incremented : cmd = .cache .incr := by
    unfold Cmd.bumps at bumps
    split at bumps
    · rfl
    · cases bumps
  subst incremented
  cases fault with
  | refused error => cases effective
  | _ => simp only [Fault.apply, World.exec, Redis.exec, Redis.version, Function.update_self]

/-- A search knows the version that Redis holds, or 0 when the GET fails. -/
theorem versionRead_apply {cmd : Cmd n} {fault : Fault Err} {world : World n} {version : Nat}
    (known : Cmd.versionRead cmd (fault.apply World.exec cmd world).1 = some version) :
    cmd = .cache (.get .searchVersion) ∧
      (fault = .none → version = world.redis.version) ∧ (fault ≠ .none → version = 0) := by
  have read : cmd = .cache (.get .searchVersion) := by
    unfold Cmd.versionRead at known
    split at known <;> first | rfl | cases known
  subst read
  refine ⟨rfl, ?_, ?_⟩
  · rintro rfl
    exact (Option.some.inj known).symm
  · intro failed
    cases fault with
    | none => exact absurd rfl failed
    | refused error => exact (Option.some.inj known).symm
    | lost error => exact (Option.some.inj known).symm

theorem versionRead_le {cmd : Cmd n} {fault : Fault Err} {world : World n} {version : Nat}
    (known : Cmd.versionRead cmd (fault.apply World.exec cmd world).1 = some version) :
    version ≤ world.redis.version := by
  obtain ⟨_, answered, failed⟩ := versionRead_apply known
  by_cases answer : fault = .none
  · exact Nat.le_of_eq (answered answer)
  · rw [failed answer]
    exact Nat.zero_le _

end Version

section Run
variable {policy : Policy (signature n) Err (World n)} {begins : Nat → CachePhase}
  {start last : Clients n} {trace : List (Move n)}

theorem version_mono (obeys : Obeying env begins start)
    (run : Run (Pool.Step World.exec policy) start trace last) :
    start.state.redis.version ≤ last.state.redis.version := by
  induction run with
  | start => exact Nat.le_refl _
  | @next trace mid event last earlier stepped ih =>
    have allowed := ((Pool.run_obeys obeys earlier).step stepped).1
    rw [stepped.state_eq.2]
    exact Nat.le_trans ih (version_apply allowed event.fault mid.state)

/-- The phase of a client after a step, if the step was its own. -/
theorem phasesAfter_concat (client : Nat) (trace : List (Move n)) (move : Move n) :
    phasesAfter env begins (trace ++ [move]) client =
      if move.event.client = client then
        (cacheProtocol env).next (phasesAfter env begins trace client) move.event.cmd
          (Pool.reply World.exec move)
      else phasesAfter env begins trace client := by
  rw [phasesAfter, Pool.phases_concat, Pool.advance]
  split
  · next same =>
    subst same
    rw [Function.update_self]
  · next other => rw [Function.update_of_ne fun same => other same.symm]

theorem phasesAfter_append (early late : List (Move n)) :
    phasesAfter env begins (early ++ late) = phasesAfter env (phasesAfter env begins early) late :=
  List.foldl_append

theorem request_kept (client : Nat) (trace : List (Move n)) :
    (phasesAfter env begins trace client).request = (begins client).request :=
  Pool.phases_rule (cacheProtocol env) (fun phase => phase.request = (begins client).request) rfl
    trace fun _ _ _ _ same => same

/-- What a client that has returned owes, and what it was shown. -/
theorem run_answers (obeys : Obeying env begins start)
    (run : Run (Pool.Step World.exec policy) start trace last) {client : Nat} {response : Response}
    (returned : last.clients[client]? = some (.ret response)) :
    CacheAnswers (phasesAfter env begins trace client) response := by
  have finished : last.clients[client]? = some (.ofExcept (.ok response)) := returned
  exact Pool.run_ends obeys run finished response rfl

/-- A client learns the version once. -/
theorem version_known {client version : Nat} (known : (begins client).version = some version)
    (trace : List (Move n)) : (phasesAfter env begins trace client).version = some version := by
  refine Pool.phases_rule (cacheProtocol env) (fun phase => phase.version = some version) known
    trace ?_
  intro move _ _ phase known
  change phase.version.or _ = _
  rw [known, Option.some_or]

theorem version_known_append {client version : Nat} {early : List (Move n)}
    (known : (phasesAfter env begins early client).version = some version) (late : List (Move n)) :
    (phasesAfter env begins (early ++ late) client).version = some version := by
  rw [phasesAfter_append]
  exact version_known known late

/-- No client is ahead of Redis. -/
theorem version_bound (obeys : Obeying env begins start)
    (run : Run (Pool.Step World.exec policy) start trace last)
    (bounded : ∀ client version, (begins client).version = some version →
      version ≤ start.state.redis.version) (client version : Nat)
    (known : (phasesAfter env begins trace client).version = some version) :
    version ≤ last.state.redis.version := by
  induction run generalizing client version with
  | start => exact bounded client version known
  | @next trace mid event last earlier stepped ih =>
    have grows : mid.state.redis.version ≤ last.state.redis.version := by
      rw [stepped.state_eq.2]
      exact version_apply ((Pool.run_obeys obeys earlier).step stepped).1 event.fault mid.state
    rw [phasesAfter_concat] at known
    split at known
    · rcases Option.or_eq_some_iff.mp known with old | ⟨_, read⟩
      · exact Nat.le_trans (ih client version old) grows
      · exact Nat.le_trans (versionRead_le read) grows
    · exact Nat.le_trans (ih client version known) grows

/-- Each GET of the search version by this client was answered. -/
def VersionAnswered (trace : List (Move n)) (client : Nat) : Prop :=
  ∀ move ∈ trace, move.event.client = client →
    move.event.cmd = .cache (.get .searchVersion) → move.event.fault = .none

/-- A client that asks for the version gets the one that Redis held at first, or a later one. -/
theorem version_floor (obeys : Obeying env begins start)
    (run : Run (Pool.Step World.exec policy) start trace last) {client version : Nat}
    (unknown : (begins client).version = none) (answered : VersionAnswered trace client)
    (known : (phasesAfter env begins trace client).version = some version) :
    start.state.redis.version ≤ version := by
  induction run with
  | start =>
    rw [show (phasesAfter env begins [] client).version = none from unknown] at known
    cases known
  | @next trace mid event last earlier stepped ih =>
    have before : VersionAnswered trace client := fun move member =>
      answered move (List.mem_append_left _ member)
    rw [phasesAfter_concat] at known
    split at known
    · next served =>
      rcases Option.or_eq_some_iff.mp known with old | ⟨_, read⟩
      · exact ih before old
      · obtain ⟨isGet, current, _⟩ := versionRead_apply read
        have faultless := answered ⟨mid, event, last⟩
          (List.mem_append_right _ List.mem_cons_self) served isGet
        rw [current faultless]
        exact version_mono obeys earlier
    · exact ih before known

/-- An unanswered GET leaves the client with version 0. -/
theorem version_unanswered {client version : Nat}
    (obeys : Obeying env begins start)
    (run : Run (Pool.Step World.exec policy) start trace last)
    (failed : ¬ VersionAnswered trace client)
    (known : (phasesAfter env begins trace client).version = some version) : version = 0 := by
  obtain ⟨move, member, served, isGet, fault⟩ : ∃ move ∈ trace, move.event.client = client ∧
      move.event.cmd = .cache (.get .searchVersion) ∧ move.event.fault ≠ .none := by
    simpa only [VersionAnswered, not_forall, exists_prop] using failed
  obtain ⟨early, late, split⟩ := List.append_of_mem member
  have asked : (phasesAfter env begins early client).version = none := by
    have allowed := Pool.run_allows obeys run split
    rw [served] at allowed
    exact allowed.once isGet
  have learned : (phasesAfter env begins (early ++ [move]) client).version = some 0 := by
    rw [phasesAfter_concat, if_pos served]
    change (phasesAfter env begins early client).version.or _ = _
    rw [asked, Option.none_or]
    obtain ⟨before, ⟨i, cmd, fault'⟩, after⟩ := move
    subst isGet
    cases fault' with
    | none => exact absurd rfl fault
    | refused error => rfl
    | lost error => rfl
  rw [split, List.append_cons] at known
  exact Option.some.inj (known.symm.trans (version_known_append learned late))

theorem phasesAfter_unbegun {client : Nat}
    (unbegun : ∀ move ∈ trace, move.event.client ≠ client) :
    phasesAfter env begins trace client = begins client :=
  Pool.phases_rule (cacheProtocol env) (fun phase => phase = begins client) rfl trace
    fun move member served => absurd served (unbegun move member)

/-- An INCR that Redis did not refuse has left its version for all that follows. -/
theorem version_after_bump (obeys : Obeying env begins start)
    (run : Run (Pool.Step World.exec policy) start trace last) {bump : Move n}
    (member : bump ∈ trace) (bumps : bump.event.cmd.bumps = true)
    (effective : bump.event.fault.isRefused = false) :
    bump.before.state.redis.version < last.state.redis.version ∧
      bump.after.state.redis.entries .searchVersion =
        some (bump.before.state.redis.version + 1) := by
  have left : bump.after.state.redis.entries .searchVersion =
      some (bump.before.state.redis.version + 1) := by
    rw [(run.steps bump member).state_eq.2]
    exact version_bumped bumps effective bump.before.state
  refine ⟨?_, left⟩
  obtain ⟨early, late, split⟩ := List.append_of_mem member
  obtain ⟨first, second⟩ := run.resume split
  have later := version_mono (Pool.run_obeys obeys first) second
  rw [Redis.version, left] at later
  exact later

end Run

/-- What a search returned had been stored under this version. -/
def ReturnsStored (trace : List (Move n)) (last : Clients n) (client version : Nat) : Prop :=
  ∃ move ∈ trace, move.event.client = client ∧ ∃ params views,
    Cmd.searchHit move.event.cmd (Pool.reply World.exec move) = some (version, params, views) ∧
    last.clients[client]? = some (.ret (.search .hit views))

def returnsStored (trace : List (Move n)) (last : Clients n) (client version : Nat) : Bool :=
  trace.any fun move => move.event.client == client &&
    match Cmd.searchHit move.event.cmd (Pool.reply World.exec move), last.clients[client]? with
    | some (stored, _, views), some (.ret (.search .hit shown)) =>
      stored == version && decide (shown = views)
    | _, _ => false

theorem ReturnsStored.of_any {trace : List (Move n)} {last : Clients n} {client version : Nat}
    (returns : returnsStored trace last client version = true) :
    ReturnsStored trace last client version := by
  obtain ⟨move, member, found⟩ := List.any_eq_true.mp returns
  simp only [Bool.and_eq_true, beq_iff_eq] at found
  obtain ⟨served, matched⟩ := found
  split at matched
  · next stored params views shown hit answer =>
    simp only [Bool.and_eq_true, beq_iff_eq, decide_eq_true_eq] at matched
    obtain ⟨rfl, rfl⟩ := matched
    exact ⟨move, member, served, params, shown, hit, answer⟩
  · cases matched

theorem searchHit_cmd {cmd : Cmd n} {reply : Except Err cmd.Answer} {version : Nat}
    {params : SearchParams} {views : List RoomView}
    (hit : Cmd.searchHit cmd reply = some (version, params, views)) :
    cmd = .cache (.get (.roomsSearch version params)) := by
  unfold Cmd.searchHit at hit
  split at hit
  · cases hit
    rfl
  · cases hit

/-- Any command may fail at any time. A search that begins after the version has become `k`
returns nothing from an older generation, as long as it gets an answer when it asks for the
version, and only then: otherwise it looks in generation 0. -/
theorem generation_current_iff (configured : env.redisConfigured = true) (world : World n)
    (calls : List (Call n)) {keys : List CacheKey} (lasting : .searchVersion ∉ keys)
    (policy : Policy (signature n) Err (World n)) {early late : List (Move n)}
    {mid last : Clients n} {client k version : Nat} {bump : Move n}
    (first : Run (Pool.Step World.exec policy) (lapsing env world calls keys) early mid)
    (member : bump ∈ early) (bumps : bump.event.cmd.bumps = true)
    (effective : bump.event.fault.isRefused = false)
    (reached : bump.after.state.redis.entries .searchVersion = some k)
    (unbegun : ∀ move ∈ early, move.event.client ≠ client)
    (second : Run (Pool.Step World.exec policy) mid late last)
    (returns : ReturnsStored late last client version) :
    k ≤ version ↔ VersionAnswered late client := by
  have obeys := lapsing_obeying configured world calls lasting
  have resumed := Pool.run_obeys obeys first
  obtain ⟨passed, left⟩ := version_after_bump obeys first member bumps effective
  obtain rfl := Option.some.inj (left.symm.trans reached)
  have unknown : (phasesAfter env (atStart calls) early client).version = none := by
    rw [phasesAfter_unbegun unbegun]
    rfl
  have known : (phasesAfter env (phasesAfter env (atStart calls) early) late client).version =
      some version := by
    obtain ⟨hit, listed, served, params, views, shown, _⟩ := returns
    obtain ⟨prior, rest, split⟩ := List.append_of_mem listed
    have allowed := Pool.run_allows resumed second split
    rw [served] at allowed
    rw [split]
    exact version_known_append (allowed.look version params (searchHit_cmd shown)) _
  constructor
  · intro current
    by_contra failed
    rw [version_unanswered resumed second failed known] at current
    exact absurd current (Nat.not_succ_le_zero _)
  · intro answered
    exact Nat.le_trans passed (version_floor resumed second unknown answered known)

/-- The same search twice, and a booking of a room that it finds. -/
def searchAndBook : List (Call 2) := searching ++ [.sample (sampleBooking room101 1 5) 6]

/-- The moves up to the second search, and its two look-ups. -/
def lookUps (served : List Nat) (fault : Fault Err) :
    (List (Move 2) × Clients 2) × (List (Move 2) × Clients 2) :=
  let first := (lapsing withRedis onTwoShards searchAndBook []).record World.exec
    (Pool.faultless served)
  (first, first.2.record World.exec [(1, fault), (1, .none)])

theorem run_lookUps (served : List Nat) (fault : Fault Err) :
    Run (Pool.Step World.exec AnyFault) (lapsing withRedis onTwoShards searchAndBook [])
      (lookUps served fault).1.1 (lookUps served fault).1.2 ∧
    Run (Pool.Step World.exec AnyFault) (lookUps served fault).1.2
      (lookUps served fault).2.1 (lookUps served fault).2.2 :=
  ⟨Pool.run_record fun _ _ => trivial, Pool.run_record fun _ _ => trivial⟩

/-- A search is stored in generation 0, a booking begins generation 1, and Redis does not answer
the next search when it asks for the version. -/
theorem old_generation_returned : ∃ early mid late last,
    Run (Pool.Step World.exec AnyFault) (lapsing withRedis onTwoShards searchAndBook []) early mid ∧
    (∃ bump ∈ early, bump.event.cmd.bumps = true ∧ bump.event.fault.isRefused = false ∧
      bump.after.state.redis.entries .searchVersion = some 1) ∧
    (∀ move ∈ early, move.event.client ≠ 1) ∧
    Run (Pool.Step World.exec AnyFault) mid late last ∧ ReturnsStored late last 1 0 := by
  let order := [0, 0, 0, 0, 0, 2, 2, 2]
  let fault : Fault Err := .refused (.plain (text "timeout"))
  obtain ⟨first, second⟩ := run_lookUps order fault
  exact ⟨_, _, _, _, first, by decide +kernel, by decide +kernel, second,
    .of_any (by decide +kernel)⟩

/-- The booking comes first, and the second search finds what the first has stored. -/
theorem generation_current_answered : ∃ early mid late last,
    Run (Pool.Step World.exec AnyFault) (lapsing withRedis onTwoShards searchAndBook []) early mid ∧
    Run (Pool.Step World.exec AnyFault) mid late last ∧ ReturnsStored late last 1 1 ∧
    (1 ≤ 1 ↔ VersionAnswered late 1) := by
  obtain ⟨first, second⟩ := run_lookUps [2, 2, 2, 0, 0, 0, 0, 0] .none
  have bumped : ∃ bump ∈ (lookUps [2, 2, 2, 0, 0, 0, 0, 0] .none).1.1,
      bump.event.cmd.bumps = true ∧ bump.event.fault.isRefused = false ∧
      bump.after.state.redis.entries .searchVersion = some 1 := by decide +kernel
  obtain ⟨bump, member, bumps, effective, reached⟩ := bumped
  have returns : ReturnsStored (lookUps [2, 2, 2, 0, 0, 0, 0, 0] .none).2.1
      (lookUps [2, 2, 2, 0, 0, 0, 0, 0] .none).2.2 1 1 := .of_any (by decide +kernel)
  exact ⟨_, _, _, _, first, second, returns, generation_current_iff rfl onTwoShards searchAndBook
    List.not_mem_nil AnyFault first member bumps effective reached (by decide +kernel) second
    returns⟩

end Caching
end HotelBooking
