import HotelBooking.Services.RedisFaults
import HotelBooking.Replication.StickySessions
import HotelBooking.Invariants.CachedSearch

/-! No fault of Redis reaches a caller: neither one of the cache, in the services, nor one of the
sticky flags and the entries, in the router between the primary and its replica. -/
namespace HotelBooking
open Effect

namespace Absorbed
variable {C : Type} {db : DbRouter}

/-- The errors that the commands other than those of Redis have ended with. -/
def blame (C : Type) : Protocol (routerSignature C) RouterErr where
  Phase := List RouterErr
  allows _ _ := True
  next seen cmd reply := match reply with
    | .error err => if cmd.isRedis then seen else err :: seen
    | .ok _ => seen

/-- The result is no error, or the router is to blame for none: a command of its own has failed
with it, or no node is available. -/
def Own (seen : List RouterErr) (result : Except RouterErr α) : Prop :=
  ∀ err, result = .error err → err ∈ seen ∨ ∃ error message, err = .serviceUnavailable error message

abbrev Blames (seen : List RouterErr) (program : Loop C α) : Prop :=
  program.Obeys (blame C) Own seen

theorem blames_perform {cmd : RouterCmd C} (plain : cmd.isRedis = false) (seen : List RouterErr) :
    Blames seen (Program.perform (S := routerSignature C) cmd) := by
  refine ⟨trivial, fun reply => ?_⟩
  cases reply with
  | ok answer => exact fun _ impossible => nomatch impossible
  | error error =>
    rintro err ⟨⟩
    apply Or.inl
    simp [blame, plain]

theorem blames_bind {program : Loop C α} {next : α → Loop C β} {seen : List RouterErr}
    (head : Blames seen program) (tail : ∀ seen value, Blames seen (next value)) :
    Blames seen (program.bind next) :=
  Program.obeys_bind head (fun after value _ => tail after value) fun after error own err same =>
    own err (by cases same; rfl)

theorem blames_recover {program : Loop C α} {handler : RouterErr → Loop C α}
    {seen : List RouterErr} (head : Blames seen program)
    (rescue : ∀ seen err, Own seen (.error err : Except RouterErr α) → Blames seen (handler err)) :
    Blames seen (program.recover handler) :=
  Program.obeys_recover head rescue fun _ _ own => own

/-- A command whose error is dropped. -/
theorem blames_dropped {cmd : RouterCmd C} {next : cmd.Answer → α} {value : RouterErr → α}
    (seen : List RouterErr) :
    Blames seen (((Program.perform (S := routerSignature C) cmd).bind fun answer =>
      .ret (next answer)).recover fun err => .ret (value err)) :=
  ⟨trivial, fun reply => by cases reply <;> exact fun _ impossible => nomatch impossible⟩

theorem blames_ret (seen : List RouterErr) (value : α) :
    Blames seen (.ret value : Loop C α) := fun _ impossible => nomatch impossible

theorem blames_ask {node : DbNode} {call : NodeCall C} (seen : List RouterErr) :
    Blames seen (db.ask node call) :=
  blames_bind (blames_perform rfl seen) fun seen _ => blames_perform rfl seen

theorem blames_unavailable (seen : List RouterErr) (error message : Text) :
    Blames seen (.raise (.serviceUnavailable error message) : Loop C α) := by
  rintro err ⟨⟩
  exact Or.inr ⟨error, message, rfl⟩

theorem blames_readDegraded (route : Route) (seen : List RouterErr) :
    Blames seen (db.readDegraded route : Loop C (List C)) := by
  unfold DbRouter.readDegraded
  split
  · refine blames_bind (blames_perform rfl seen) fun seen up => ?_
    split
    · exact blames_bind (blames_ask seen) fun seen _ =>
        blames_bind (blames_perform rfl seen) fun seen _ => blames_ret seen _
    · exact blames_unavailable seen _ _
  · exact blames_unavailable seen _ _

theorem blames_readPrimary (route : Route) (seen : List RouterErr) :
    Blames seen (db.readPrimary route : Loop C (List C)) := by
  refine blames_bind (blames_perform rfl seen) fun seen up => ?_
  split
  · refine blames_recover (blames_bind (blames_ask seen) fun seen _ =>
      blames_bind (blames_perform rfl seen) fun seen _ => blames_ret seen _) ?_
    intro seen err own
    split
    · exact own
    · exact blames_bind (blames_perform rfl seen) fun seen _ => blames_readDegraded route seen
  · exact blames_readDegraded route seen

theorem blames_isSticky (seen : List RouterErr) : Blames seen (db.isSticky : Loop C Bool) := by
  unfold DbRouter.isSticky
  split
  · exact blames_ret seen _
  · split
    · exact blames_ret seen _
    · refine blames_bind (blames_perform rfl seen) fun seen here => ?_
      split
      · exact blames_ret seen _
      · exact blames_bind (blames_dropped seen) fun seen _ => blames_ret seen _

theorem blames_setFlag (session : Text) (ttlMs : Int) (seen : List RouterErr) :
    Blames seen (db.setFlag session ttlMs : Loop C Unit) :=
  ⟨trivial, fun reply => by cases reply <;> exact blames_ret _ _⟩

theorem blames_rememberWrite (seen : List RouterErr) :
    Blames seen (db.rememberWrite : Loop C Unit) := by
  unfold DbRouter.rememberWrite
  split
  · exact blames_ret seen _
  · split
    · exact blames_ret seen _
    · exact blames_bind (blames_perform rfl seen) fun seen _ => blames_setFlag _ _ seen

theorem blames_write (change : C) (seen : List RouterErr) : Blames seen (db.write change) := by
  refine blames_bind (blames_perform rfl seen) fun seen up => ?_
  split
  · exact blames_unavailable seen _ _
  · refine blames_bind (blames_recover (blames_ask seen) fun seen err own => ?_) fun seen _ => ?_
    · split
      · exact own
      · exact blames_bind (blames_perform rfl seen) fun seen _ => blames_unavailable seen _ _
    · exact blames_bind (blames_perform rfl seen) fun seen _ => blames_rememberWrite seen

theorem blames_readEventual (seen : List RouterErr) :
    Blames seen (db.readEventual : Loop C (List C)) := by
  refine blames_bind (blames_perform rfl seen) fun seen up => ?_
  split
  · exact blames_readPrimary _ seen
  · refine blames_recover (blames_bind (blames_ask seen) fun seen _ =>
      blames_bind (blames_perform rfl seen) fun seen _ => blames_ret seen _) ?_
    intro seen err own
    split
    · exact blames_bind (blames_perform rfl seen) fun seen _ => blames_readPrimary _ seen
    · split
      · exact blames_readPrimary _ seen
      · exact own

theorem blames_read (consistency : Consistency) (seen : List RouterErr) :
    Blames seen (db.read consistency : Loop C (List C)) := by
  cases consistency with
  | strong => exact blames_readPrimary _ seen
  | primaryPreferred => exact blames_readPrimary _ seen
  | eventual =>
    unfold DbRouter.read
    dsimp only
    split
    · exact blames_readPrimary _ seen
    · refine blames_bind (blames_isSticky seen) fun seen sticky => ?_
      split
      · exact blames_readPrimary _ seen
      · exact blames_readEventual seen

theorem blames_probed (nodes : List DbNode) (seen : List RouterErr) :
    Blames seen (db.probed nodes : Loop C Unit) := by
  induction nodes generalizing seen with
  | nil => exact blames_ret seen _
  | cons node rest ih =>
    refine blames_bind (blames_recover (blames_bind (blames_perform rfl seen) fun seen _ =>
      blames_perform rfl seen) fun seen err own => ?_) fun seen _ => ih seen
    split
    · exact blames_perform rfl seen
    · exact blames_ret seen _

theorem blames_probeNodes (replicaFirst : Bool) (seen : List RouterErr) :
    Blames seen (db.probeNodes replicaFirst : Loop C Unit) := by
  refine blames_bind (blames_perform rfl seen) fun seen _ =>
    blames_bind (blames_perform rfl seen) fun seen _ => ?_
  split
  · exact blames_bind (blames_perform rfl seen) fun seen _ => blames_probed _ seen
  · exact blames_probed _ seen

theorem blames_getOrSet (key : Text) (seen : List RouterErr) :
    Blames seen (db.getOrSet key : Loop C (List C)) := by
  refine blames_bind (blames_dropped seen) fun seen look => ?_
  split
  · exact blames_read _ seen
  · exact blames_ret seen _
  · refine blames_bind (blames_read _ seen) fun seen data => ?_
    refine blames_bind ?_ fun seen _ => blames_ret seen _
    exact ⟨trivial, fun reply => by cases reply <;> exact blames_ret _ _⟩

theorem blames_call (call : RouterCall C) (seen : List RouterErr) :
    Blames seen (call.program db) := by
  cases call with
  | write change => exact blames_bind (blames_write change seen) fun seen _ => blames_ret seen _
  | read consistency =>
    exact blames_bind (blames_read consistency seen) fun seen _ => blames_ret seen _
  | probe replicaFirst =>
    exact blames_bind (blames_probeNodes replicaFirst seen) fun seen _ => blames_ret seen _
  | getOrSet key => exact blames_bind (blames_getOrSet key seen) fun seen _ => blames_ret seen _

theorem blames_serve (config : RouterConfig) (self : Nat) (session : Option Text)
    (call : RouterCall C) (seen : List RouterErr) :
    Blames seen ((Task.serve self session call).program config) :=
  blames_bind (blames_perform rfl seen) fun seen _ => blames_call call seen

/-- The router of an instance that never reaches Redis mutates alike: the flag comes last. -/
theorem covers_write (config : RouterConfig) (self : Nat) (session : Option Text) (change : C) :
    ((Task.serve self session (.write change)).program config).Covers RouterCmd.isRedis False
      (((Task.serve self session (.write change)).program config).refusing RouterCmd.isRedis
        .redis) := by
  have plain {cmd : RouterCmd C} (other : cmd.isRedis = false) :
      (Program.perform (S := routerSignature C) cmd : Loop C _).Covers RouterCmd.isRedis False
        ((Program.perform (S := routerSignature C) cmd).refusing RouterCmd.isRedis .redis) :=
    Program.covers_refusing (Program.uses_perform other)
  refine Program.covers_refusing_bind (plain rfl) fun _ =>
    Program.covers_refusing_bind (Program.covers_refusing_bind (plain rfl) fun up => ?_) fun _ => .ret
  split
  · exact .raise
  · refine Program.covers_refusing_bind (Program.covers_refusing ?_) fun _ =>
      Program.covers_refusing_bind (plain rfl) fun _ => ?_
    · refine Program.uses_recover (Program.uses_bind (Program.uses_perform rfl) fun _ =>
        Program.uses_perform rfl) fun err => ?_
      split
      · trivial
      · exact Program.uses_bind (Program.uses_perform rfl) fun _ => trivial
    · unfold DbRouter.rememberWrite
      split
      · exact .ret
      · split
        · exact .ret
        · refine Program.covers_refusing_bind (plain rfl) fun _ => ?_
          exact .skip rfl fun reply => by cases reply <;> exact .ret

theorem blamed_mem {steps : List (Exchange (routerSignature C) RouterErr)} {seen : List RouterErr}
    {err : RouterErr} (member : err ∈ (steps.foldl
      (fun before step => (blame C).next before step.cmd step.reply) seen : List RouterErr)) :
    err ∈ seen ∨ ∃ step ∈ steps, step.cmd.isRedis = false ∧ step.reply = .error err := by
  induction steps generalizing seen with
  | nil => exact Or.inl member
  | cons step rest ih =>
    rcases ih member with before | ⟨other, listed, failed⟩
    · obtain ⟨cmd, reply⟩ := step
      cases reply with
      | ok answer => exact Or.inl before
      | error error =>
        simp only [blame] at before
        split at before
        · exact Or.inl before
        · next plain =>
          rcases List.mem_cons.mp before with rfl | old
          · exact Or.inr ⟨_, List.mem_cons_self, by simpa using plain, rfl⟩
          · exact Or.inl old
    · exact Or.inr ⟨other, List.mem_cons_of_mem _ listed, failed⟩

/-- Of the commands beside those of Redis, only the calls to the nodes fail. -/
theorem failed_call {redis : Fault RouterErr → Prop} {start last : Tasks C}
    {trace : List (RouterMove C)} (run : RouterRun redis start trace last) {i : Nat}
    {step : Exchange (routerSignature C) RouterErr} {err : RouterErr}
    (member : step ∈ Pool.exchanges Cluster.exec trace i) (plain : step.cmd.isRedis = false)
    (failed : step.reply = .error err) :
    ∃ own node asked, step.cmd = .await own (.answer node asked) := by
  obtain ⟨move, listed, rfl⟩ := List.mem_map.mp member
  have permitted := (((EventLoop.run_pool run).steps move (List.mem_filter.mp listed).1).state_eq).1
  obtain ⟨before, ⟨client, cmd, fault⟩, after⟩ := move
  cases permitted with
  | answered _ => cases cmd <;> cases failed
  | refused => exact ⟨_, _, _, rfl⟩
  | lost => exact ⟨_, _, _, rfl⟩
  | redis isRedis _ => cases isRedis.symm.trans plain

end Absorbed

section Run
variable {C : Type} {n : Nat} {env : Env n} {world : World n} {calls : List (Call n)}
  {keys : List CacheKey} {policy : Policy (signature n) Err (World n)} {trace : List (Move n)}
  {last : Clients n} {config : RouterConfig} {cluster : Cluster C} {tasks : List (Task C)}
  {redis : Fault RouterErr → Prop} {routed : List (RouterMove C)} {stopped : Tasks C}

/-- Take any run of requests, under any faults and with entries that expire at any time, and leave
out what it asks of Redis: this is a run of the API without Redis, with the same commands and
faults of the databases and the same data in them. There every request that has rejected rejects
with the same error, and every request that does not look for its answer in Redis ends alike.
The router rejects only with an error of its own calls to the nodes or because no node is
available; a write through it makes the calls, and has the result, of a router whose every
command to Redis is refused. -/
theorem redis_absorbed (run : Run (Pool.Step World.exec policy) (lapsing env world calls keys) trace last)
    (routes : RouterRun redis (config.start cluster tasks) routed stopped) :
    (∃ others final, Run (Pool.Step World.exec AnyFault) (clients env.withoutRedis world calls)
        others final ∧
      others.map Transition.event =
        (trace.map Transition.event).filter (fun event => !event.cmd.isCache) ∧
      last.state.SameData final.state ∧
      ∀ (i : Nat) (call : Call n) (result : Except Err Response), calls[i]? = some call →
        last.clients[i]? = some (.ofExcept result) →
        (call.request.isCached = true → result.isOk = false) →
        final.clients[i]? = some (.ofExcept result)) ∧
    ∀ (i self : Nat) (session : Option Text) (call : RouterCall C)
      (result : Except RouterErr (Option (List C))), tasks[i]? = some (.serve self session call) →
      stopped.clients[i]? = some (.ofExcept result) →
      (∀ err, result = .error err →
        (∃ step ∈ Pool.exchanges Cluster.exec routed i, step.reply = .error err ∧
          ∃ own node asked, step.cmd = .await own (.answer node asked)) ∨
        ∃ error message, err = .serviceUnavailable error message) ∧
      ∀ change, call = .write change →
        (((Task.serve self session call).program config).refusing RouterCmd.isRedis .redis).Path
          ((Pool.exchanges Cluster.exec routed i).filter fun step => !step.cmd.isRedis) result := by
  constructor
  · obtain ⟨others, final, runs, events, covered⟩ :=
      (lapsing_covers env world calls keys).run exec_hidden run
    refine ⟨others, final, runs, events, covered.state, ?_⟩
    intro i call result here ended uncached
    rcases covered.clients ended with ⟨left, there, follows⟩ | ⟨absent, _⟩
    · rcases follows.ended with rfl | ⟨early, ok⟩
      · exact there
      · cases ok.symm.trans (uncached (early call here))
    · have length := Pool.run_length runs
      have bound : i < calls.length := (List.getElem?_eq_some_iff.mp here).1
      have beyond := List.getElem?_eq_none_iff.mp absent
      simp only [length, clients, List.length_map] at beyond
      omega
  · intro i self session call result here ended
    have begins : (config.start cluster tasks).clients[i]? =
        some ((Task.serve self session call).program config) := by
      simp only [RouterConfig.start, List.getElem?_map, here, Option.map_some]
    have path := Pool.run_exchanges (EventLoop.run_pool routes) begins ended
    constructor
    · rintro err rfl
      rcases path.obeys (Absorbed.blames_serve config self session call []) err rfl with own | unavailable
      · rcases Absorbed.blamed_mem own with impossible | ⟨step, member, plain, failed⟩
        · cases impossible
        · exact Or.inl ⟨step, member, failed, Absorbed.failed_call routes member plain failed⟩
      · exact Or.inr unavailable
    · rintro change rfl
      exact (Absorbed.covers_write config self session change).path path not_false

end Run

/-- A booking, and a write of a session, whose last commands find Redis unavailable. -/
def oneBooking : List (Call 2) := [.sample (sampleBooking room101 1 5) 6]

def bookedUnflushed : List (Move 2) × Clients 2 :=
  (lapsing withRedis onTwoShards oneBooking []).record World.exec
    [(0, .none), (0, .none), (0, .refused (.plain (text "timeout")))]

def bookingMade? : Option Booking :=
  match returned? bookedUnflushed.2 0 with
  | some (.booking booking) => some booking
  | _ => none

theorem bookingMade?_eq {booking : Booking} (made : bookingMade? = some booking) :
    bookedUnflushed.2.clients[0]? = some (.ret (.booking booking)) := by
  unfold bookingMade? at made
  split at made
  · next returned =>
    obtain rfl := Option.some.inj made
    exact returned?_eq returned
  · cases made

def wroteUnflagged : List (RouterMove Nat) × Tasks Nat :=
  withReplica.record [.serve 0 (some alice) (.write 7)]
    (Pool.faultless (List.replicate 6 0) ++ [(0, .refused .redis)])

/-- Turns are kept, and nothing but Redis fails. -/
def RouterMove.redisFails (move : RouterMove C) : Bool :=
  (routerLoops C).turnKept move.before move.event &&
    (move.event.cmd.isRedis || !move.event.fault.isRefused && !move.event.fault.isLost)

theorem run_redisFails {C : Type} (start : Tasks C) (turns : List (Nat × Fault RouterErr))
    (fails : ∀ move ∈ (start.record Cluster.exec turns).1, RouterMove.redisFails move = true) :
    RouterRun (fun _ => True) start (start.record Cluster.exec turns).1
      (start.record Cluster.exec turns).2 := by
  refine EventLoop.run_turns (Pool.run_record fun move member => ?_) fun move member =>
    (Bool.and_eq_true_iff.mp (fails move member)).1
  have admitted := (Bool.and_eq_true_iff.mp (fails move member)).2
  obtain ⟨before, ⟨client, cmd, fault⟩, after⟩ := move
  cases plain : cmd.isRedis with
  | true => exact .redis plain trivial
  | false =>
    cases fault with
    | none => exact .answered plain
    | refused error => simp [plain, Fault.isRefused] at admitted
    | lost error => simp [plain, Fault.isLost] at admitted

/-- Both writes return as without Redis. -/
theorem redis_absorbed_committed : ∃ trace last routed stopped booking,
    Run (Pool.Step World.exec AnyFault) (lapsing withRedis onTwoShards oneBooking []) trace last ∧
    last.clients[0]? = some (.ret (.booking booking)) ∧
    (∃ move ∈ trace, move.event.cmd.isCache = true ∧ move.event.fault.isRefused = true) ∧
    (∃ others final, Run (Pool.Step World.exec AnyFault)
      (clients withRedis.withoutRedis onTwoShards oneBooking) others final ∧
      last.state.SameData final.state ∧ final.clients[0]? = some (.ret (.booking booking))) ∧
    RouterRun (fun _ => True) (withReplica.start (.init true) [.serve 0 (some alice) (.write 7)])
      routed stopped ∧
    stopped.clients[0]? = some (.ret none) ∧
    (((Task.serve 0 (some alice) (.write 7)).program withReplica).refusing RouterCmd.isRedis .redis).Path
      ((Pool.exchanges Cluster.exec routed 0).filter fun step => !step.cmd.isRedis) (.ok none) := by
  have run : Run (Pool.Step World.exec AnyFault) (lapsing withRedis onTwoShards oneBooking [])
      bookedUnflushed.1 bookedUnflushed.2 := Pool.run_record fun _ _ => trivial
  have routes := run_redisFails _ _ (by decide +kernel :
    ∀ move ∈ wroteUnflagged.1, RouterMove.redisFails move = true)
  obtain ⟨booking, made⟩ := Option.isSome_iff_exists.mp
    (by decide +kernel : bookingMade?.isSome = true)
  have written : wroteUnflagged.2.clients[0]? = some (.ofExcept (.ok none)) :=
    answered?_eq (by decide +kernel)
  have ended := bookingMade?_eq made
  obtain ⟨⟨others, final, runs, _, same, ends⟩, absorbed⟩ := redis_absorbed run routes
  refine ⟨_, _, _, _, booking, run, ended, by decide +kernel, ⟨others, final, runs, same, ?_⟩, routes,
    written, ?_⟩
  · exact ends 0 _ (.ok (.booking booking)) rfl ended nofun
  · exact (absorbed 0 0 (some alice) (.write 7) (.ok none) rfl written).2 7 rfl

end HotelBooking
