import HotelBooking.Services.ErrorProvenance
import HotelBooking.Services.PrimaryHealth
import HotelBooking.Topology.Concurrency

/-! Isolation of failures. Requests interleave and commands fail at will; an error that a request
answers is its own verdict or goes back to one of its own commands. A shard that fails is seen
by the requests that read lists, or ask for keys of that shard, and by no others. -/
namespace HotelBooking
open Effect
variable {n : Nat} {env : Env n}

/-- Why a request that made this move answers the error. -/
inductive Reason (router : ShardRouter n) (move : Move n) : Err → Prop where
  | shardDown {i : Fin n} {stmt : Stmt} {error : Err} : move.event.cmd = .shard i stmt →
      stmt.lists = true ∨ stmt.LocalTo router.forKey i → Drops move.event.fault →
      error.Wraps (.serviceUnavailable (text "Шард " ++ shardName i ++
        text " недоступний: дані інших шардів продовжують обслуговуватися")) →
      Reason router move error
  | nodeDown {stmt : GuestStmt} {message : Text} {error : Err} : move.event.cmd = .guests stmt →
      Drops move.event.fault → message ∈ nodeMessages →
      error.Wraps (.serviceUnavailable message) → Reason router move error
  | relayed {error : Err} {kind : DbError} : Pool.reply World.exec move = .error (.db kind) →
      kind ≠ .connection → error.Wraps (.db kind) → Reason router move error

/-- A connection is lost from outside only. -/
theorem drops_of_reply {move : Move n} {error : Err}
    (step : Pool.Step World.exec DriverFaults move.before move.event move.after)
    (database : ∀ cmd, move.event.cmd ≠ .cache cmd)
    (replied : Pool.reply World.exec move = .error error) (connection : error.isConnection = true) :
    Drops move.event.fault := by
  rcases reply_error step database replied with own | ⟨kind, rfl, struck⟩
  · cases error with
    | db kind =>
      cases kind with
      | connection => exact absurd rfl own.1
      | _ => cases connection
    | _ => cases connection
  · cases kind with
    | connection => exact struck
    | _ => cases connection

/-- Any other error of a database is relayed, or a transaction has decided on it. -/
theorem reason_of_reply {router : ShardRouter n} {move : Move n} {error inner : Err}
    (step : Pool.Step World.exec DriverFaults move.before move.event move.after)
    (database : ∀ cmd, move.event.cmd ≠ .cache cmd)
    (replied : Pool.reply World.exec move = .error inner) (calm : inner.isConnection = false)
    (wraps : error.Wraps inner) : error.Decided ∨ Reason router move error := by
  have relayed {kind : DbError} (same : inner = .db kind) : Reason router move error := by
    subst same
    refine .relayed replied ?_ wraps
    rintro rfl
    cases calm
  rcases reply_error step database replied with own | ⟨kind, same, _⟩
  · cases inner with
    | db kind => exact Or.inr (relayed rfl)
    | http status message =>
      exact Or.inl ⟨.http status message, List.mem_cons_of_mem 400 own, wraps⟩
    | plain | redis | saga => exact own.elim
  · exact Or.inr (relayed same)

theorem Due.reason {move : Move n} {error : Err} (sharded : env.router.sharded = true)
    (step : Pool.Step World.exec DriverFaults move.before move.event move.after)
    (routed : Routed env.router move.event.cmd)
    (due : Due env.router move.event.cmd (Pool.reply World.exec move) error) :
    error.Decided ∨ Reason env.router move error := by
  obtain ⟨conveyed, conveys, wraps⟩ := due
  have drops : ∀ inner, (∀ cmd, move.event.cmd ≠ .cache cmd) →
      Pool.reply World.exec move = .error inner → inner.isConnection = true →
      Drops move.event.fault := fun inner => drops_of_reply step
  have relays : ∀ inner, (∀ cmd, move.event.cmd ≠ .cache cmd) →
      Pool.reply World.exec move = .error inner → inner.isConnection = false →
      error.Wraps inner → error.Decided ∨ Reason env.router move error :=
    fun inner => reason_of_reply step
  obtain ⟨before, ⟨client, cmd, fault⟩, after⟩ := move
  dsimp only at routed conveys drops relays
  generalize Pool.reply World.exec _ = reply at conveys drops relays
  cases reply with
  | ok answer => cases cmd <;> exact conveys.elim
  | error inner =>
    cases cmd with
    | shard i stmt =>
      cases connection : inner.isConnection with
      | true =>
        have named : conveyed = .serviceUnavailable _ := conveys.trans (if_pos connection)
        rw [ShardRouter.name, if_pos sharded] at named
        subst named
        exact Or.inr (.shardDown rfl routed (drops inner nofun rfl connection) wraps)
      | false =>
        have same : conveyed = inner :=
          conveys.trans (if_neg (by rw [connection]; exact Bool.false_ne_true))
        subst same
        exact relays conveyed nofun rfl connection wraps
    | guests stmt =>
      rw [conveyed_guests] at conveys
      cases connection : inner.isConnection with
      | true =>
        rw [connection, if_pos rfl] at conveys
        obtain ⟨message, listed, rfl⟩ := conveys
        exact Or.inr (.nodeDown rfl (drops inner nofun rfl connection) listed wraps)
      | false =>
        rw [connection, if_neg Bool.false_ne_true] at conveys
        subst conveys
        exact relays conveyed nofun rfl connection wraps
    | cache cmd => exact conveys.elim

theorem db_faults_permitted {cmd : Cmd n} (state : World n) (isGuests : cmd.isGuests = true) :
    DriverFaults state cmd (.refused (.db .connection)) := by
  obtain ⟨stmt, rfl⟩ := isGuests_iff.mp isGuests
  exact rfl

/-- How the error came about in a run: a command of the client was executed or met a fault, or
`DbRouter` turned its query away. -/
inductive AccountedFor (env : Env n) (server : Nat → Nat) (trace : List (InstanceMove n)) (client : Nat)
    (error : Err) : Prop where
  | served {move : InstanceMove n} {event : Event (signature n) Err} : move ∈ trace →
      move.event = .serve event → event.client = client →
      Reason env.router ⟨move.before.pool, event, move.after.pool⟩ error →
      AccountedFor env server trace client error
  | turnedAway {early late : List (InstanceMove n)} {move : InstanceMove n} {stmt : GuestStmt}
      {message : Text} : trace = early ++ move :: late →
      move.event = .turnAway client (.guests stmt) → MarkedDown server (server client) early →
      message ∈ nodeMessages → error.Wraps (.serviceUnavailable message) →
      AccountedFor env server trace client error

/-- The reason, once more beside the flags of the instances. -/
theorem Reason.accounted {server : Nat → Nat} {pool : Clients n} {trace : List (InstanceMove n)}
    {last : Instances n}
    (run : Run ((primaryHealth server).Step World.exec DriverFaults) (.start pool) trace last)
    {move : Move n} (listed : move ∈ trace.filterMap (primaryHealth server).move?) {error : Err}
    (reason : Reason env.router move error) : AccountedFor env server trace move.event.client error := by
  obtain ⟨origin, member, moved⟩ := List.mem_filterMap.mp listed
  obtain ⟨event, called, rfl⟩ := Option.map_eq_some_iff.mp moved
  cases origin_event : origin.event with
  | grant | trip | probe =>
    rw [origin_event] at called
    cases called
  | serve served =>
    rw [origin_event] at called
    obtain rfl := Option.some.inj called
    exact .served member origin_event rfl reason
  | turnAway client cmd =>
    rw [origin_event] at called
    obtain rfl := Option.some.inj called
    have step := run.steps origin member
    rw [origin_event] at step
    obtain ⟨stmt, rfl⟩ := isGuests_iff.mp step.turned.1
    obtain ⟨early, late, split⟩ := List.append_of_mem member
    have since := markedDown (CircuitBreaker.openSince_turned pool run split origin_event)
    cases reason with
    | shardDown same => cases same
    | nodeDown same struck listed wraps =>
      exact .turnedAway split origin_event since listed wraps
    | relayed replied other wraps =>
      -- a lost connection is never relayed
      cases Except.error.inj replied
      exact absurd rfl other

/-- Whatever requests interleave on whatever instances and whatever fails: an error that a request
answers is decided by its service, or one of its own commands met it. A 503 names a shard on which a
command of this very request lost its connection, and that command read a list or was about keys of
the shard. It names the global node if a query of this request lost its connection, or was turned
away while the instance of the request had the node marked down. An error of Redis is never a
reason. -/
theorem errors_accounted (env : Env n) (sharded : env.router.sharded = true) (calls : List (Call n))
    (world : World n) (server : Nat → Nat) {trace : List (InstanceMove n)} {last : Instances n}
    (run : Run ((primaryHealth server).Step World.exec DriverFaults)
      (.start (clients env world calls)) trace last)
    {i : Nat} {error : Err} (failed : last.pool.clients[i]? = some (.raise error)) :
    error.Decided ∨ AccountedFor env server trace i error := by
  have behind : Run (Pool.Step World.exec DriverFaults) (clients env world calls)
      (trace.filterMap (primaryHealth server).move?) last.pool :=
    CircuitBreaker.run_pool (fun _ _ _ permitted => permitted)
      (fun state _ isGuests => db_faults_permitted state isGuests) run
  have bound : i < calls.length := by
    have alive := (List.getElem?_eq_some_iff.mp failed).1
    rwa [Pool.run_length behind, clients, List.length_map] at alive
  have begins : (clients env world calls).clients[i]? = some ((calls[i]).program env) := by
    simp [clients, bound]
  have path : ((calls[i]).program env).Path
      (Pool.exchanges World.exec (trace.filterMap (primaryHealth server).move?) i) (.error error) :=
    Pool.run_exchanges behind begins failed
  have excused := path.obeys (answers_program env calls[i] Err.Decided fun _ due => due)
  rcases after_excusing excused.2 with decided | ⟨step, member, due⟩
  · exact Or.inl decided
  · obtain ⟨move, listed, rfl, rfl⟩ := Pool.mem_exchanges member
    rcases Due.reason sharded (behind.steps move listed) (routed_commands behind move listed) due with
      decided | reason
    · exact Or.inl decided
    · exact Or.inr (reason.accounted run listed)

/-- Two requests for the list of guests, on one instance. -/
def listing : Clients 2 := clients twoShards onTwoShards [.sample .findGuests 1, .sample .findGuests 2]

/-- The first request loses its connection, and the instance marks the primary down before the
second one asks. -/
theorem errors_accounted_turnedAway : ∃ trace last,
    Run ((primaryHealth fun _ => 0).Step World.exec DriverFaults) (.start listing) trace last ∧
    last.pool.clients[1]? = some (.raise (.serviceUnavailable (text "Жоден вузол БД недоступний"))) ∧
    AccountedFor twoShards (fun _ => 0) trace 1
      (.serviceUnavailable (text "Жоден вузол БД недоступний")) := by
  let fault : Fault Err := .refused (.db .connection)
  let raised : Async 2 Response := .raise (.serviceUnavailable (text "Жоден вузол БД недоступний"))
  let sent : Instances 2 :=
    { Guarded.start listing with admitted := Function.update (fun _ => false) 0 true }
  let failed : Instances 2 :=
    { sent with
      pool := ⟨listing.state, listing.clients.set 0 raised⟩
      admitted := Function.update sent.admitted 0 false
      tripped := Function.update sent.tripped 0 true }
  let down : Instances 2 :=
    { failed with
      opened := Function.update failed.opened 0 true
      tripped := Function.update failed.tripped 0 false }
  obtain ⟨next, found, raises⟩ : ∃ next, listing.clients[0]? = some (.call (.guests .findMany) next) ∧
      next (.error (.db .connection)) = raised := ⟨_, rfl, rfl⟩
  have refused : Pool.Step World.exec DriverFaults listing ⟨0, .guests .findMany, fault⟩
      ⟨listing.state, listing.clients.set 0 raised⟩ := by
    rw [← raises]
    exact .serve found rfl
  have admitted : (primaryHealth fun _ => 0).Step World.exec DriverFaults (.start listing)
      (.grant 0) sent := .grant ⟨⟨_, rfl⟩, rfl, rfl, rfl⟩ rfl
  have served : (primaryHealth fun _ => 0).Step World.exec DriverFaults sent
      (.serve ⟨0, .guests .findMany, fault⟩) failed := .serve refused (fun _ => rfl) rfl
  have noticed : (primaryHealth fun _ => 0).Step World.exec DriverFaults failed (.trip 0) down :=
    .trip rfl
  obtain ⟨last, turned, ended⟩ : ∃ last, (primaryHealth fun _ => 0).Step World.exec DriverFaults down
      (.turnAway 1 (.guests .findMany)) last ∧ last.pool.clients[1]? = some raised :=
    ⟨_, .turnAway ⟨⟨_, rfl⟩, rfl, rfl, rfl⟩ rfl (.serve rfl trivial), rfl⟩
  have run := (((Run.start.next admitted).next served).next noticed).next turned
  refine ⟨_, last, run, ended, ?_⟩
  rcases errors_accounted twoShards rfl _ onTwoShards (fun _ => 0) run ended with
    ⟨verdict, due, same | ⟨_, _, _, same⟩⟩ | accounted
  · subst same
    exact absurd due (by decide : 503 ∉ [400, 404, 409])
  · cases same
  · exact accounted

end HotelBooking
