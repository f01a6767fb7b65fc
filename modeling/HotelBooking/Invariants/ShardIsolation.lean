import HotelBooking.Invariants.CachedSearch
import HotelBooking.Services.PrimaryHealth
import HotelBooking.Services.ShardGroups

/-! Shards do not interfere. Requests about the keys of some shards run as if the requests that
write to the other shards had never been sent, and as if there were no Redis. -/
namespace HotelBooking
open Effect
variable {n : Nat} {env : Env n} {part : Fin n → Bool}

/-- Beside a world, one with the same rows on these shards and in the guest directory, and with the
rows on the other shards as they were. -/
structure World.Parted (part : Fin n → Bool) (origin world alone : World n) : Prop where
  shards : ∀ i, part i = true → world.shards i = alone.shards i
  others : ∀ i, part i = false → alone.shards i = origin.shards i
  guests : world.guests = alone.guests

theorem exec_guests_read {stmt : GuestStmt} (read : stmt.isRead = true) (world : World n) :
    (World.exec (.guests stmt) world).2 = world := by
  cases stmt <;> first | rfl | cases read

theorem parted_isolates (part : Fin n → Bool) (origin : World n) :
    Isolates World.exec (World.Parted part origin) (Confined part) (Unnoticed part) where
  inside {cmd world alone} confined parted := by
    cases cmd with
    | cache cmd => cases confined
    | shard i stmt =>
      have here := parted.shards i confined
      cases done : stmt.exec (alone.shards i) with
      | error error =>
        rw [World.exec_shard_error done, World.exec_shard_error (here ▸ done)]
        exact ⟨rfl, parted⟩
      | ok result =>
        obtain ⟨answer, tables⟩ := result
        rw [World.exec_shard_ok done, World.exec_shard_ok (here ▸ done)]
        refine ⟨rfl, fun j mine => ?_, fun j foreign => ?_, parted.guests⟩
        · by_cases same : j = i
          · subst same
            rw [World.setShard_self, World.setShard_self]
          · rw [World.setShard_of_ne _ same, World.setShard_of_ne _ same]
            exact parted.shards j mine
        · have other : j ≠ i := by
            rintro rfl
            cases foreign.symm.trans confined
          rw [World.setShard_of_ne _ other]
          exact parted.others j foreign
    | guests stmt =>
      obtain ⟨shards, guests, redis⟩ := world
      obtain ⟨others, directory, cached⟩ := alone
      obtain rfl : guests = directory := parted.guests
      simp only [World.exec]
      cases stmt.exec guests with
      | ok result => exact ⟨rfl, parted.shards, parted.others, rfl⟩
      | error error => exact ⟨rfl, parted⟩
  outside {cmd world alone} unnoticed parted := by
    cases cmd with
    | cache cmd => exact ⟨parted.shards, parted.others, parted.guests⟩
    | guests stmt =>
      rw [exec_guests_read unnoticed]
      exact parted
    | shard i stmt =>
      rcases unnoticed with read | foreign
      · rw [exec_isRead read]
        exact parted
      · cases done : stmt.exec (world.shards i) with
        | error error =>
          rw [World.exec_shard_error done]
          exact parted
        | ok result =>
          obtain ⟨answer, tables⟩ := result
          rw [World.exec_shard_ok done]
          refine ⟨fun j mine => ?_, parted.others, parted.guests⟩
          have other : j ≠ i := by
            rintro rfl
            cases mine.symm.trans foreign
          rw [World.setShard_of_ne _ other]
          exact parted.shards j mine

/-- The client serves a request about keys of these shards only. -/
def confinedClient (env : Env n) (part : Fin n → Bool) (calls : List (Call n)) (i : Nat) : Bool :=
  calls[i]?.any fun call => call.within env part

theorem confinedClient_eq {calls : List (Call n)} {i : Nat} {call : Call n}
    (here : calls[i]? = some call) : confinedClient env part calls i = call.within env part := by
  rw [confinedClient, here, Option.any_some]

theorem clients_apart {calls : List (Call n)} {world : World n}
    (apart : ∀ call ∈ calls, call.within env part = true ∨ call.spares env part = true) :
    (clients env.withoutRedis world calls).UsesEach fun i cmd =>
      (confinedClient env part calls i = true → Confined part cmd) ∧
        (confinedClient env part calls i = false → Unnoticed part cmd) := by
  intro i program found
  rw [clients, List.getElem?_map] at found
  obtain ⟨call, here, rfl⟩ := Option.map_eq_some_iff.mp found
  dsimp only
  rw [confinedClient_eq here]
  cases within : call.within env part with
  | true =>
    exact (confined_program within).mono fun cmd confined =>
      ⟨fun _ => confined, fun foreign => absurd foreign.symm Bool.false_ne_true⟩
  | false =>
    have spares := (apart call (List.mem_of_getElem? here)).resolve_left (by simp [within])
    exact (unnoticed_program spares).mono fun cmd unnoticed =>
      ⟨fun joined => absurd joined Bool.false_ne_true, fun _ => unnoticed⟩

/-- The requests about the keys of some shards in a run of the pool, without Redis and without the
requests that write elsewhere. -/
theorem pool_isolated {calls : List (Call n)} {world : World n} {keys : List CacheKey}
    {trace : List (Move n)} {last : Clients n}
    (apart : ∀ call ∈ calls, call.within env part = true ∨ call.spares env part = true)
    (run : Run (Pool.Step World.exec AnyFault) (lapsing env world calls keys) trace last) :
    ∃ alone final, Run (Pool.Step World.exec AnyFault) (clients env.withoutRedis world calls) alone final ∧
      alone.map Transition.event = (trace.map Transition.event).filter (fun event =>
        !event.cmd.isCache && confinedClient env part calls event.client) ∧
      World.Parted part world last.state final.state ∧
      ∀ (i : Nat) (call : Call n) (result : Except Err Response), calls[i]? = some call → 
        call.within env part = true → last.clients[i]? = some (.ofExcept result) →
        (call.request.isCached = true → result.isOk = false) →
        final.clients[i]? = some (.ofExcept result) := by
  obtain ⟨moves, middle, cores, events, covered⟩ :=
    (lapsing_covers env world calls keys).run exec_hidden run
  obtain ⟨alone, final, runs, mine, parted⟩ := Pool.Apart.run (parted_isolates part world)
    ⟨fun _ _ => rfl, fun _ _ => rfl, rfl⟩ (clients_apart apart) cores
  refine ⟨alone, final, runs, ?_, ?_, ?_⟩
  · rw [mine, events, List.filter_filter]
    simp only [Bool.and_comm]
  · obtain ⟨shards, guests⟩ := covered.state
    refine ⟨fun i here => ?_, parted.state.others, guests.trans parted.state.guests⟩
    exact (congrFun shards i).trans (parted.state.shards i here)
  · intro i call result here within ended uncached
    rw [parted.members i ((confinedClient_eq here).trans within)]
    have present : i < middle.clients.length := by
      rw [Pool.run_length cores, clients, List.length_map]
      exact (List.getElem?_eq_some_iff.mp here).1
    exact covered.ended ended present fun early => uncached (early call here)

/-- The query, or the refusal of `DbRouter`, belongs to a request about these shards. -/
def ofGroup (env : Env n) (part : Fin n → Bool) (calls : List (Call n)) (server : Nat → Nat)
    (event : GuardedEvent (signature n) Err Nat) : Bool :=
  ((primaryHealth server).call? event).any fun called =>
    !called.cmd.isCache && confinedClient env part calls called.client

/-- Whatever requests interleave on whatever instances and whatever fails, Redis included: the
requests about the keys of some shards issue the commands, meet the faults, are turned away and give
the answers that they would without Redis and without the requests that write elsewhere, where the
health checks mark the global node down and up as these requests find it. They leave these shards
and the guests as they would. Only an answer that the cache may give is not compared. -/
theorem shards_isolated (env : Env n) (part : Fin n → Bool) {calls : List (Call n)}
    {world : World n} {keys : List CacheKey} {server : Nat → Nat}
    {policy : Policy (signature n) Err (World n)} {trace : List (InstanceMove n)}
    {last : Instances n}
    (apart : ∀ call ∈ calls, call.within env part = true ∨ call.spares env part = true)
    (run : Run ((primaryHealth server).Step World.exec policy)
      (.start (lapsing env world calls keys)) trace last) :
    ∃ alone final, Run ((primaryHealth server).Step World.exec AnyFault)
        (.start (clients env.withoutRedis world calls)) alone final ∧
      (primaryHealth server).calls alone =
        (trace.map Transition.event).filter (ofGroup env part calls server) ∧
      World.Parted part world last.pool.state final.pool.state ∧
      ∀ (i : Nat) (call : Call n) (result : Except Err Response), calls[i]? = some call → 
        call.within env part = true → last.pool.clients[i]? = some (.ofExcept result) →
        (call.request.isCached = true → result.isOk = false) →
        final.pool.clients[i]? = some (.ofExcept result) := by
  have behind : Run (Pool.Step World.exec AnyFault) (lapsing env world calls keys)
      (trace.filterMap (primaryHealth server).move?) last.pool :=
    CircuitBreaker.run_pool (fun _ _ _ _ => trivial) (fun _ _ _ => trivial) run
  obtain ⟨moves, middle, runs, events, parted, answers⟩ := pool_isolated apart behind
  rw [CircuitBreaker.events_pool] at events
  have same : ((trace.map Transition.event).filter (ofGroup env part calls server)).map
      (primaryHealth server).call? = moves.map fun move => some move.event := by
    refine (CircuitBreaker.map_call?_filter _ _).trans ?_
    rw [← events, List.map_map]
    rfl
  have guarded : ∀ client cmd, .turnAway client cmd ∈
      (trace.map Transition.event).filter (ofGroup env part calls server) →
        (primaryHealth server).guards cmd = true := by
    intro client cmd member
    obtain ⟨move, listed, turned⟩ := List.mem_map.mp (List.mem_filter.mp member).1
    have step := run.steps move listed
    rw [turned] at step
    exact step.turned.1
  obtain ⟨alone, opened, realized, called⟩ :=
    CircuitBreaker.realize runs same guarded fun _ => false
  exact ⟨alone, _, realized, called, parted, answers⟩

/-- A booking on each of two shards. The first one finds Redis unavailable, the second one loses the
reply to its reservation. -/
def onBothShards : List (Call 2) :=
  [.sample (sampleBooking room101 1 5) 6, .sample (sampleBooking room201 1 5) 7]

def onShard (i : Fin 2) : Fin 2 → Bool := fun j => j = i

def bothBooked : List (Move 2) × Clients 2 :=
  (lapsing withRedis onTwoShards onBothShards []).record World.exec
    [(1, .none), (0, .none), (1, .lost (.db .connection)), (0, .none),
      (0, .refused (.plain (text "timeout")))]

theorem shards_isolated_bothBooked : ∃ trace last alone final response,
    Run ((primaryHealth fun _ => 0).Step World.exec AnyFault)
      (.start (lapsing withRedis onTwoShards onBothShards [])) trace last ∧
    Run ((primaryHealth fun _ => 0).Step World.exec AnyFault)
      (.start (clients withRedis.withoutRedis onTwoShards onBothShards)) alone final ∧
    (∀ event ∈ (primaryHealth fun _ => 0).calls alone, ∃ called,
      event = .serve called ∧ called.client = 0) ∧
    last.pool.clients[0]? = some (.ret response) ∧ final.pool.clients[0]? = some (.ret response) ∧
    final.pool.state.shards 0 = last.pool.state.shards 0 ∧
    final.pool.state.shards 1 = onTwoShards.shards 1 := by
  have recorded : Run (Pool.Step World.exec AnyFault) (lapsing withRedis onTwoShards onBothShards [])
      bothBooked.1 bothBooked.2 := Pool.run_record fun _ _ => trivial
  obtain ⟨trace, last, run, same, served⟩ :=
    CircuitBreaker.realize_served (primaryHealth fun _ => 0) recorded
  have apart : ∀ call ∈ onBothShards, call.within withRedis (onShard 0) = true ∨
      call.spares withRedis (onShard 0) = true := by decide +kernel
  obtain ⟨response, returned⟩ := Option.isSome_iff_exists.mp
    (by decide +kernel : (returned? bothBooked.2 0).isSome = true)
  have ended : last.pool.clients[0]? = some (.ret response) := by
    rw [same]
    exact returned?_eq returned
  obtain ⟨alone, final, runs, events, parted, answers⟩ :=
    shards_isolated withRedis (onShard 0) apart run
  have confined : ∀ event ∈ bothBooked.1.map Transition.event,
      confinedClient withRedis (onShard 0) onBothShards event.client = true → event.client = 0 := by
    decide +kernel
  refine ⟨trace, last, alone, final, response, run, runs, fun event member => ?_, ended, ?_,
    (parted.shards 0 rfl).symm, parted.others 1 rfl⟩
  · obtain ⟨listed, mine⟩ := List.mem_filter.mp (events ▸ member)
    have answered : event ∈ (primaryHealth fun _ => 0).calls trace :=
      List.mem_filter.mpr ⟨listed, Option.isSome_of_any mine⟩
    obtain ⟨move, recorded, rfl⟩ := List.mem_map.mp (served ▸ answered)
    exact ⟨_, rfl, confined _ (List.mem_map_of_mem recorded) (Bool.and_eq_true_iff.mp mine).2⟩
  · exact answers 0 _ (.ok response) rfl (by decide +kernel) ended nofun

end HotelBooking
