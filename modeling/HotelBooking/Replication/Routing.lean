import HotelBooking.Replication.DbRouter

/-! Where the calls of a router go: which node, when its health flag allows it, and that reads
find a node that answers. -/
namespace HotelBooking
open Effect
variable {C : Type} {db : DbRouter}

section Rules
variable {protocol : Protocol (routerSignature C) RouterErr} {phase : protocol.Phase}

theorem obeys_sync {op : SyncOp C} {ends : protocol.Phase → Except RouterErr op.Answer → Prop}
    (allowed : protocol.allows phase (.sync db.self op))
    (final : ∀ reply, ends (protocol.next phase (.sync db.self op) reply) reply) :
    (db.sync op).Obeys protocol ends phase :=
  Program.obeys_perform (S := routerSignature C) allowed final

theorem obeys_await {op : AwaitOp C} {ends : protocol.Phase → Except RouterErr op.Answer → Prop}
    (allowed : protocol.allows phase (.await db.self op))
    (final : ∀ reply, ends (protocol.next phase (.await db.self op) reply) reply) :
    (db.await op).Obeys protocol ends phase :=
  Program.obeys_perform (S := routerSignature C) allowed final

end Rules

def AwaitOp.isEntry : AwaitOp C → Bool
  | .getEntry _ | .setEntry .. => true
  | _ => false

def RouterCmd.isEntry : RouterCmd C → Bool
  | .await _ op => op.isEntry
  | _ => false

/-- Commands of an instance that ask nodes for allowed calls only. -/
structure RouterCmd.Asks (i : Nat) (entries : Prop) (allowed : DbNode → NodeCall C → Prop)
    (cmd : RouterCmd C) : Prop where
  owned : cmd.self? = some i
  cached : cmd.isEntry = true → entries
  send : ∀ node call, cmd = .sync i (.send node call) → allowed node call
  answer : ∀ node call, cmd = .await i (.answer node call) → allowed node call

def RouterCall.asks : RouterCall C → DbNode → NodeCall C → Prop
  | .write _, node, .mutation _ => node = .primary
  | .read .strong, node, .query _ => node = .primary
  | .read _, node, .query route | .getOrSet _, node, .query route =>
    node = .replica → route = .eventual ∨ route = .degraded
  | .probe _, _, .probe => True
  | _, _, _ => False

/-- Whether the call touches the entries of the cache. -/
def RouterCall.caches : RouterCall C → Prop
  | .getOrSet _ => True
  | _ => False

def Task.issues : Task C → RouterCmd C → Prop
  | .serve i _ call, cmd => cmd.Asks i call.caches call.asks
  | .advance _, cmd | .replay, cmd => cmd.self? = none

namespace Routing
section Uses
variable {entries : Prop} {allowed : DbNode → NodeCall C → Prop}

theorem uses_sync {op : SyncOp C} (unsent : ∀ node call, op ≠ .send node call) :
    (db.sync op).Uses (RouterCmd.Asks db.self entries allowed) := by
  refine Program.uses_perform ⟨rfl, nofun, ?_, nofun⟩
  rintro node call ⟨⟩
  exact absurd rfl (unsent node call)

theorem uses_await {op : AwaitOp C} (unasked : ∀ node call, op ≠ .answer node call)
    (cached : op.isEntry = true → entries) :
    (db.await op).Uses (RouterCmd.Asks db.self entries allowed) := by
  refine Program.uses_perform ⟨rfl, cached, nofun, ?_⟩
  rintro node call ⟨⟩
  exact absurd rfl (unasked node call)

theorem uses_ask {node : DbNode} {call : NodeCall C} (permitted : allowed node call) :
    (db.ask node call).Uses (RouterCmd.Asks db.self entries allowed) := by
  refine Program.uses_bind (Program.uses_perform ⟨rfl, nofun, ?_, nofun⟩) fun _ =>
    Program.uses_perform ⟨rfl, nofun, nofun, ?_⟩
  · rintro _ _ ⟨⟩
    exact permitted
  · rintro _ _ ⟨⟩
    exact permitted

theorem uses_readDegraded {route : Route}
    (degraded : route = .sticky ∨ route = .primaryPreferred → allowed .replica (.query .degraded)) :
    (db.readDegraded route : Loop C (List C)).Uses (RouterCmd.Asks db.self entries allowed) := by
  unfold DbRouter.readDegraded
  split
  · next served =>
    refine Program.uses_bind (uses_sync nofun) fun up => ?_
    split
    · exact Program.uses_bind (uses_ask (degraded served.1)) fun _ =>
        Program.uses_bind (uses_sync nofun) fun _ => trivial
    · trivial
  · trivial

theorem uses_readPrimary {route : Route} (primary : allowed .primary (.query route))
    (degraded : route = .sticky ∨ route = .primaryPreferred → allowed .replica (.query .degraded)) :
    (db.readPrimary route : Loop C (List C)).Uses (RouterCmd.Asks db.self entries allowed) := by
  refine Program.uses_bind (uses_sync nofun) fun up => ?_
  split
  · refine Program.uses_recover (Program.uses_bind (uses_ask primary) fun _ =>
      Program.uses_bind (uses_sync nofun) fun _ => trivial) fun err => ?_
    split
    · trivial
    · exact Program.uses_bind (uses_sync nofun) fun _ => uses_readDegraded degraded
  · exact uses_readDegraded degraded

theorem uses_hasFlag (session : Text) :
    (db.hasFlag session : Loop C (Option Bool)).Uses (RouterCmd.Asks db.self entries allowed) :=
  Program.uses_recover (Program.uses_bind (uses_await nofun nofun) fun _ => trivial)
    fun _ => trivial

theorem uses_isSticky : (db.isSticky : Loop C Bool).Uses (RouterCmd.Asks db.self entries allowed) := by
  unfold DbRouter.isSticky
  split
  · trivial
  · split
    · trivial
    · refine Program.uses_bind (uses_sync nofun) fun here => ?_
      split
      · trivial
      · exact Program.uses_bind (uses_hasFlag _) fun _ => trivial

/-- A read that is not strong may ask both nodes. -/
theorem uses_weak {consistency : Consistency} (weak : consistency ≠ .strong)
    (queries : ∀ node route, (node = .replica → route = .eventual ∨ route = .degraded) →
      allowed node (.query route)) :
    (db.read consistency : Loop C (List C)).Uses (RouterCmd.Asks db.self entries allowed) := by
  have primary (route : Route) : (db.readPrimary route : Loop C (List C)).Uses
      (RouterCmd.Asks db.self entries allowed) := uses_readPrimary (queries _ _ nofun)
        fun _ => queries _ _ fun _ => Or.inr rfl
  cases consistency with
  | strong => exact absurd rfl weak
  | primaryPreferred => exact primary _
  | eventual =>
    unfold DbRouter.read
    dsimp only
    split
    · exact primary _
    · refine Program.uses_bind uses_isSticky fun sticky => ?_
      split
      · exact primary _
      · refine Program.uses_bind (uses_sync nofun) fun up => ?_
        split
        · exact primary _
        · refine Program.uses_recover (Program.uses_bind (uses_ask (queries _ _ fun _ => Or.inl rfl)) fun _ =>
            Program.uses_bind (uses_sync nofun) fun _ => trivial) fun err => ?_
          split
          · exact Program.uses_bind (uses_sync nofun) fun _ => primary _
          · split
            · exact primary _
            · trivial

theorem uses_rememberWrite :
    (db.rememberWrite : Loop C Unit).Uses (RouterCmd.Asks db.self entries allowed) := by
  unfold DbRouter.rememberWrite
  split
  · trivial
  · split
    · trivial
    · exact Program.uses_bind (uses_sync nofun) fun _ =>
        Program.uses_recover (uses_await nofun nofun) fun _ => trivial

theorem uses_write {change : C} (mutates : allowed .primary (.mutation change)) :
    (db.write change : Loop C Unit).Uses (RouterCmd.Asks db.self entries allowed) := by
  refine Program.uses_bind (uses_sync nofun) fun up => ?_
  split
  · trivial
  · refine Program.uses_bind (Program.uses_recover (uses_ask mutates) fun err => ?_) fun _ => ?_
    · split
      · trivial
      · exact Program.uses_bind (uses_sync nofun) fun _ => trivial
    · exact Program.uses_bind (uses_sync nofun) fun _ => uses_rememberWrite

theorem uses_probed (probes : ∀ node, allowed node .probe) (nodes : List DbNode) :
    (db.probed nodes : Loop C Unit).Uses (RouterCmd.Asks db.self entries allowed) := by
  induction nodes with
  | nil => trivial
  | cons node rest ih =>
    have answer : (db.await (.answer node .probe) : Loop C Unit).Uses
        (RouterCmd.Asks db.self entries allowed) := by
      refine Program.uses_perform ⟨rfl, nofun, nofun, ?_⟩
      rintro _ _ ⟨⟩
      exact probes node
    refine Program.uses_bind (Program.uses_recover (Program.uses_bind answer fun _ =>
      uses_sync nofun) fun err => ?_) fun _ => ih
    split
    · exact uses_sync nofun
    · trivial

theorem uses_probeNodes (probes : ∀ node, allowed node .probe) (replicaFirst : Bool) :
    (db.probeNodes replicaFirst : Loop C Unit).Uses (RouterCmd.Asks db.self entries allowed) := by
  have send (node : DbNode) : (db.sync (.send node .probe) : Loop C Unit).Uses
      (RouterCmd.Asks db.self entries allowed) := by
    refine Program.uses_perform ⟨rfl, nofun, ?_, nofun⟩
    rintro _ _ ⟨⟩
    exact probes node
  refine Program.uses_bind (uses_sync nofun) fun _ => Program.uses_bind (send _) fun _ => ?_
  split
  · exact Program.uses_bind (send _) fun _ => uses_probed probes _
  · exact uses_probed probes _

theorem uses_getOrSet (queries : ∀ node route,
    (node = .replica → route = .eventual ∨ route = .degraded) → allowed node (.query route))
    (key : Text) (cached : entries) :
    (db.getOrSet key : Loop C (List C)).Uses (RouterCmd.Asks db.self entries allowed) := by
  have entry : (db.getEntry key : Loop C (Except RouterErr (Option (List C)))).Uses
      (RouterCmd.Asks db.self entries allowed) :=
    Program.uses_recover (Program.uses_bind (uses_await nofun fun _ => cached) fun _ => trivial)
      fun _ => trivial
  refine Program.uses_bind entry fun look => ?_
  split
  · exact uses_weak nofun queries
  · trivial
  · refine Program.uses_bind (uses_weak nofun queries) fun data => ?_
    exact Program.uses_bind (Program.uses_recover (uses_await nofun fun _ => cached)
      fun _ => trivial) fun _ => trivial

theorem uses_call (call : RouterCall C) :
    (call.program db).Uses (RouterCmd.Asks db.self call.caches call.asks) := by
  cases call with
  | write change => exact Program.uses_bind (uses_write rfl) fun _ => trivial
  | probe replicaFirst =>
    exact Program.uses_bind (uses_probeNodes (fun _ => trivial) _) fun _ => trivial
  | getOrSet key => exact Program.uses_bind (uses_getOrSet (fun _ _ route => route) _ trivial) fun _ => trivial
  | read consistency =>
    refine Program.uses_bind ?_ fun _ => trivial
    cases consistency with
    | strong =>
      refine uses_readPrimary rfl fun served => ?_
      rcases served with served | served <;> cases served
    | eventual => exact uses_weak nofun fun _ _ route => route
    | primaryPreferred => exact uses_weak nofun fun _ _ route => route

theorem uses_task (config : RouterConfig) (task : Task C) :
    (task.program config).Uses task.issues := by
  cases task with
  | advance ms => exact ⟨rfl, fun reply => by cases reply <;> trivial⟩
  | replay => exact ⟨rfl, fun reply => by cases reply <;> trivial⟩
  | serve self session call =>
    have served : ((config.router self session).await .request : Loop C Unit).Uses
        (RouterCmd.Asks self call.caches call.asks) :=
      @uses_await C (config.router self session) call.caches call.asks .request nofun nofun
    exact Program.uses_bind served fun _ => @uses_call C (config.router self session) call

/-- Each client issues what its task issues. -/
theorem uses_tasks (config : RouterConfig) (cluster : Cluster C) (tasks : List (Task C)) :
    (config.start cluster tasks).UsesEach fun i cmd =>
      ∃ task, tasks[i]? = some task ∧ task.issues cmd := by
  intro i program found
  simp only [RouterConfig.start, List.getElem?_map] at found
  obtain ⟨task, here, rfl⟩ := Option.map_eq_some_iff.mp found
  exact (uses_task config task).mono fun cmd issued => ⟨task, here, issued⟩

end Uses
end Routing

/-- What a turn has just found out. -/
inductive Found where
  | healthy (self : Nat) (node : DbNode)
  | probed (self : Nat) (node : DbNode)

def RouterCmd.finds : (cmd : RouterCmd C) → Except RouterErr cmd.Answer → Option Found
  | .sync self (.healthy node), .ok up => if up then some (.healthy self node) else none
  | .await self (.answer node .probe), .ok _ => some (.probed self node)
  | _, _ => none

/-- A call is dispatched to a node right after its flag was found up, and a flag is raised right
after a probe was answered. -/
structure TurnAllows (found : Option Found) (cmd : RouterCmd C) : Prop where
  send : ∀ self node call, cmd = .sync self (.send node call) →
    call = .probe ∨ found = some (.healthy self node)
  markUp : ∀ self node, cmd = .sync self (.markUp node) → found = some (.probed self node)

abbrev turnProtocol (C : Type) : Protocol (routerSignature C) RouterErr where
  Phase := Option Found
  allows := TurnAllows
  next _ cmd reply := cmd.finds reply

namespace Routing
variable {found : Option Found}

abbrev Any : Option Found → Except RouterErr α → Prop := fun _ _ => True

theorem plain_sync {op : SyncOp C} (unsent : ∀ node call, op ≠ .send node call)
    (unmarked : ∀ node, op ≠ .markUp node) :
    (db.sync op).Obeys (turnProtocol C) Any found := by
  refine obeys_sync ⟨?_, ?_⟩ fun _ => trivial
  · rintro self node call ⟨⟩
    exact absurd rfl (unsent node call)
  · rintro self node ⟨⟩
    exact absurd rfl (unmarked node)

theorem plain_await {op : AwaitOp C} : (db.await op).Obeys (turnProtocol C) Any found :=
  obeys_await ⟨nofun, nofun⟩ fun _ => trivial

theorem then_any {program : Loop C α} {next : α → Loop C β}
    (head : program.Obeys (turnProtocol C) Any found)
    (tail : ∀ found value, (next value).Obeys (turnProtocol C) Any found) :
    (program.bind next).Obeys (turnProtocol C) Any found :=
  Program.obeys_bind head (fun after value _ => tail after value) fun _ _ _ => trivial

theorem else_any {program : Loop C α} {handler : RouterErr → Loop C α}
    (head : program.Obeys (turnProtocol C) Any found)
    (rescue : ∀ found err, (handler err).Obeys (turnProtocol C) Any found) :
    (program.recover handler).Obeys (turnProtocol C) Any found :=
  Program.obeys_recover head (fun after err _ => rescue after err) fun _ _ _ => trivial

/-- The branches that follow a check of a flag. -/
theorem checked_obeys {node : DbNode} {next : Bool → Loop C α}
    (up : (next true).Obeys (turnProtocol C) Any (some (.healthy db.self node)))
    (down : (next false).Obeys (turnProtocol C) Any none) :
    ((db.sync (.healthy node)).bind next).Obeys (turnProtocol C) Any found := by
  refine ⟨⟨nofun, nofun⟩, fun reply => ?_⟩
  rcases reply with error | up | down
  · trivial
  · exact down
  · exact up

theorem ask_obeys {node : DbNode} {call : NodeCall C}
    (ready : call = .probe ∨ found = some (.healthy db.self node)) :
    (db.ask node call).Obeys (turnProtocol C) Any found := by
  refine then_any (obeys_sync ⟨?_, nofun⟩ fun _ => trivial) fun _ _ => plain_await
  rintro self node call ⟨⟩
  exact ready

theorem readDegraded_obeys (route : Route) :
    (db.readDegraded route : Loop C (List C)).Obeys (turnProtocol C) Any found := by
  unfold DbRouter.readDegraded
  split
  · refine checked_obeys ?_ trivial
    refine then_any (ask_obeys (Or.inr rfl)) fun _ result => ?_
    exact then_any (plain_sync nofun nofun) fun _ _ => trivial
  · trivial

theorem readPrimary_obeys (route : Route) :
    (db.readPrimary route : Loop C (List C)).Obeys (turnProtocol C) Any found := by
  refine checked_obeys ?_ (readDegraded_obeys route)
  refine else_any (then_any (ask_obeys (Or.inr rfl)) fun _ result => ?_) fun _ err => ?_
  · exact then_any (plain_sync nofun nofun) fun _ _ => trivial
  · split
    · trivial
    · exact then_any (plain_sync nofun nofun) fun _ _ => readDegraded_obeys route

theorem isSticky_obeys : (db.isSticky : Loop C Bool).Obeys (turnProtocol C) Any found := by
  unfold DbRouter.isSticky
  split
  · trivial
  · split
    · trivial
    · refine then_any (plain_sync nofun nofun) fun _ local_ => ?_
      split
      · trivial
      · refine then_any (else_any ?_ fun _ _ => trivial) fun _ _ => trivial
        exact then_any plain_await fun _ _ => trivial

theorem rememberWrite_obeys : (db.rememberWrite : Loop C Unit).Obeys (turnProtocol C) Any found := by
  unfold DbRouter.rememberWrite
  split
  · trivial
  · split
    · trivial
    · exact then_any (plain_sync nofun nofun) fun _ _ => else_any plain_await fun _ _ => trivial

theorem readEventual_obeys :
    (db.readEventual : Loop C (List C)).Obeys (turnProtocol C) Any found := by
  refine checked_obeys ?_ (readPrimary_obeys _)
  refine else_any (then_any (ask_obeys (Or.inr rfl)) fun _ result => ?_) fun _ err => ?_
  · exact then_any (plain_sync nofun nofun) fun _ _ => trivial
  · split
    · exact then_any (plain_sync nofun nofun) fun _ _ => readPrimary_obeys _
    · split
      · exact readPrimary_obeys _
      · trivial

theorem read_obeys (consistency : Consistency) :
    (db.read consistency : Loop C (List C)).Obeys (turnProtocol C) Any found := by
  unfold DbRouter.read
  split
  · exact readPrimary_obeys _
  · exact readPrimary_obeys _
  · split
    · exact readPrimary_obeys _
    · refine then_any isSticky_obeys fun _ sticky => ?_
      split
      · exact readPrimary_obeys _
      · exact readEventual_obeys

theorem write_obeys (change : C) :
    (db.write change : Loop C Unit).Obeys (turnProtocol C) Any found := by
  refine checked_obeys ?_ trivial
  refine then_any (else_any (ask_obeys (Or.inr rfl)) fun _ err => ?_) fun _ _ => ?_
  · split
    · trivial
    · exact then_any (plain_sync nofun nofun) fun _ _ => trivial
  · exact then_any (plain_sync nofun nofun) fun _ _ => rememberWrite_obeys

theorem probed_obeys (nodes : List DbNode) :
    (db.probed nodes : Loop C Unit).Obeys (turnProtocol C) Any found := by
  induction nodes generalizing found with
  | nil => trivial
  | cons node rest ih =>
    refine then_any (else_any ?_ fun _ err => ?_) fun _ _ => ih
    · have answered : (db.await (.answer node .probe) : Loop C Unit).Obeys (turnProtocol C)
          (fun after reply => ∀ value, reply = .ok value → after = some (.probed db.self node))
          found := by
        refine obeys_await ⟨nofun, nofun⟩ ?_
        rintro _ value rfl
        rfl
      refine Program.obeys_bind answered (fun after value reached => ?_) fun _ _ _ => trivial
      refine obeys_sync ⟨nofun, ?_⟩ fun _ => trivial
      rintro self node ⟨⟩
      exact reached value rfl
    · split
      · exact plain_sync nofun nofun
      · trivial

theorem probeNodes_obeys (replicaFirst : Bool) :
    (db.probeNodes replicaFirst : Loop C Unit).Obeys (turnProtocol C) Any found := by
  have send {found : Option Found} (node : DbNode) :
      (db.sync (.send node .probe) : Loop C Unit).Obeys (turnProtocol C) Any found := by
    refine obeys_sync ⟨?_, nofun⟩ fun _ => trivial
    rintro self node call ⟨⟩
    exact Or.inl rfl
  refine then_any (plain_sync nofun nofun) fun _ _ => then_any (send _) fun _ _ => ?_
  split
  · exact then_any (send _) fun _ _ => probed_obeys _
  · exact probed_obeys _

theorem getOrSet_obeys (key : Text) :
    (db.getOrSet key : Loop C (List C)).Obeys (turnProtocol C) Any found := by
  have entry {found : Option Found} : (db.getEntry key : Loop C _).Obeys (turnProtocol C) Any found :=
    else_any (then_any plain_await fun _ _ => trivial) fun _ _ => trivial
  refine then_any entry fun _ cached => ?_
  split
  · exact read_obeys _
  · trivial
  · refine then_any (read_obeys _) fun _ data => ?_
    exact then_any (else_any plain_await fun _ _ => trivial) fun _ _ => trivial

theorem task_obeys (config : RouterConfig) (task : Task C) :
    (task.program config).Obeys (turnProtocol C) Any found := by
  cases task with
  | advance ms => exact ⟨⟨nofun, nofun⟩, fun reply => by cases reply <;> trivial⟩
  | replay => exact ⟨⟨nofun, nofun⟩, fun reply => by cases reply <;> trivial⟩
  | serve self session call =>
    refine then_any plain_await fun _ _ => ?_
    cases call with
    | write change => exact then_any (write_obeys change) fun _ _ => trivial
    | read consistency => exact then_any (read_obeys consistency) fun _ _ => trivial
    | probe replicaFirst => exact then_any (probeNodes_obeys replicaFirst) fun _ _ => trivial
    | getOrSet key => exact then_any (getOrSet_obeys key) fun _ _ => trivial

theorem tasks_obey (config : RouterConfig) (cluster : Cluster C) (tasks : List (Task C)) :
    (config.start cluster tasks).Obeys (turnProtocol C) (fun _ => Any) fun _ => none := by
  intro i program found
  simp only [RouterConfig.start, List.getElem?_map] at found
  obtain ⟨task, _, rfl⟩ := Option.map_eq_some_iff.mp found
  exact task_obeys config task

/-- Nobody is in the middle of a turn at the start. -/
theorem tasks_idle (config : RouterConfig) (cluster : Cluster C) (tasks : List (Task C)) :
    ∀ program ∈ (config.start cluster tasks).clients, ∀ self,
      ¬ (routerLoops C).MidTurn self program := by
  intro program member self busy
  obtain ⟨task, _, rfl⟩ := List.mem_map.mp member
  cases task <;> exact Bool.noConfusion busy.1

section Run
variable {redis : Fault RouterErr → Prop} {config : RouterConfig} {cluster : Cluster C}
  {tasks : List (Task C)} {trace : List (RouterMove C)} {last : Tasks C}

/-- The last move of a client in the middle of a turn has found out what the turn acts on. -/
theorem turn_found (run : RouterRun redis (config.start cluster tasks) trace last) {early late}
    {move : RouterMove C} (split : trace = early ++ move :: late) {self : Nat} {op : SyncOp C}
    (issued : move.event.cmd = .sync self op) :
    ∃ prior seen middle, early = prior ++ seen :: middle ∧
      TurnAllows (seen.event.cmd.finds (Pool.reply Cluster.exec seen)) move.event.cmd ∧
      ∀ other ∈ middle, other.event.cmd.self? ≠ some self := by
  have before := run.cut split
  have step := (run.steps move (split ▸ List.mem_append_right _ List.mem_cons_self)).step
  obtain ⟨next, here⟩ := EventLoop.waiting step
  have busy : (routerLoops C).MidTurn self (.call move.event.cmd next) :=
    ⟨congrArg (routerLoops C).sync issued, congrArg RouterCmd.self? issued⟩
  obtain ⟨prior, seen, middle, rfl, own, quiet⟩ :=
    EventLoop.own_turn before (tasks_idle config cluster tasks) here busy
  have allowed := Pool.run_allows (tasks_obey config cluster tasks) (EventLoop.run_pool run) split
  rw [EventLoop.phase_own own fun other member => (quiet other member).1] at allowed
  exact ⟨prior, seen, middle, rfl, allowed, fun other member => (quiet other member).2⟩

/-- Only calls to nodes and commands of Redis fail. -/
theorem sync_effect {move : RouterMove C} {self : Nat} {op : SyncOp C}
    (step : Pool.Step Cluster.exec (RouterFaults redis) move.before move.event move.after)
    (issued : move.event.cmd = .sync self op) :
    move.event.fault = .none ∧
      move.after.state = (Cluster.execSync self op move.before.state).2 := by
  obtain ⟨before, ⟨client, cmd, fault⟩, after⟩ := move
  obtain ⟨permitted, result⟩ := step.state_eq
  cases issued
  cases permitted with
  | answered => exact ⟨rfl, result⟩
  | redis isRedis _ => cases isRedis

theorem found_check {cmd : RouterCmd C} {reply : Except RouterErr cmd.Answer} {self : Nat}
    {node : DbNode} (found : cmd.finds reply = some (.healthy self node)) :
    cmd = .sync self (.healthy node) := by
  unfold RouterCmd.finds at found
  split at found
  · split at found
    · cases found
      rfl
    · cases found
  · cases found
  · cases found

/-- A health check found the flag as it is. -/
theorem found_healthy {move : RouterMove C}
    (step : Pool.Step Cluster.exec (RouterFaults redis) move.before move.event move.after)
    {self : Nat} {node : DbNode}
    (found : move.event.cmd.finds (Pool.reply Cluster.exec move) = some (.healthy self node)) :
    (move.after.state.instances self).healthy node = true := by
  obtain ⟨before, ⟨client, cmd, fault⟩, after⟩ := move
  obtain rfl : cmd = .sync self (.healthy node) := found_check found
  obtain ⟨plain, result⟩ := sync_effect step rfl
  obtain rfl : fault = .none := plain
  change (if (before.state.instances self).healthy node = true then
    some (Found.healthy self node) else none) = some (.healthy self node) at found
  rw [result]
  split at found
  · next up => exact up
  · cases found

theorem found_probed {cmd : RouterCmd C} {reply : Except RouterErr cmd.Answer} {self : Nat}
    {node : DbNode} (found : cmd.finds reply = some (.probed self node)) :
    cmd = .await self (.answer node .probe) ∧ reply.isOk := by
  unfold RouterCmd.finds at found
  split at found
  · split at found <;> cases found
  · cases found
    exact ⟨rfl, rfl⟩
  · cases found

/-- One step. The flag of a node is changed by the marks of its own instance. -/
theorem healthy_step {move : RouterMove C}
    (step : Pool.Step Cluster.exec (RouterFaults redis) move.before move.event move.after)
    (self : Nat) (node : DbNode) :
    (move.after.state.instances self).healthy node =
        (move.before.state.instances self).healthy node ∨
      (move.event.cmd = .sync self (.markUp node) ∧
        (move.after.state.instances self).healthy node = true) ∨
      (move.event.cmd = .sync self (.markDown node) ∧
        (move.after.state.instances self).healthy node = false) := by
  have kept {inst : Nat → Instance} {i : Nat} {new : Instance}
      (same : new.healthy = (inst i).healthy) :
      (Function.update inst i new self).healthy node = (inst self).healthy node := by
    by_cases here : self = i
    · subst here
      rw [Function.update_self, same]
    · rw [Function.update_of_ne here]
  have marked {inst : Nat → Instance} {i : Nat} {other : DbNode} {up : Bool} :
      (Function.update inst i ((inst i).mark other up) self).healthy node =
          (inst self).healthy node ∨ (self = i ∧ node = other ∧
        (Function.update inst i ((inst i).mark other up) self).healthy node = up) := by
    by_cases here : self = i
    · subst here
      rw [Function.update_self]
      by_cases same : node = other
      · subst same
        exact Or.inr ⟨rfl, rfl, Function.update_self ..⟩
      · exact Or.inl (Function.update_of_ne same ..)
    · rw [Function.update_of_ne here]
      exact Or.inl rfl
  obtain ⟨before, ⟨client, cmd, fault⟩, after⟩ := move
  obtain ⟨_, result⟩ := step.state_eq
  rcases fault.apply_state Cluster.exec cmd before.state with executed | unchanged
  · rw [show after.state = _ from result.trans executed]
    cases cmd with
    | sync i op =>
      cases op with
      | markUp other =>
        refine marked.imp_right fun ⟨here, same, up⟩ => Or.inl ⟨?_, up⟩
        rw [here, same]
      | markDown other =>
        refine marked.imp_right fun ⟨here, same, down⟩ => Or.inr ⟨?_, down⟩
        rw [here, same]
      | setSticky session ttlMs => exact Or.inl (kept rfl)
      | purge => exact Or.inl (kept rfl)
      | healthy | sticks | track | send => exact Or.inl rfl
    | await i op =>
      cases op with
      | answer asked call => cases call <;> exact Or.inl rfl
      | _ => exact Or.inl rfl
    | advance ms => exact Or.inl rfl
    | replay => exact Or.inl rfl
  · exact Or.inl (by rw [show after.state = _ from result.trans unchanged])

/-- A flag that is down stays down until it is raised. -/
theorem stays_down {start : Tasks C}
    (run : Run (Pool.Step Cluster.exec (RouterFaults redis)) start trace last) {self : Nat}
    {node : DbNode} (down : (start.state.instances self).healthy node = false)
    (unmarked : ∀ move ∈ trace, move.event.cmd ≠ .sync self (.markUp node)) :
    (last.state.instances self).healthy node = false := by
  refine (run.carries (fun pool => (pool.state.instances self).healthy node = false) down ?_).2
  intro move member down
  rcases healthy_step (run.steps move member) self node with same | ⟨raised, _⟩ | ⟨_, lowered⟩
  · exact same.trans down
  · exact absurd raised (unmarked move member)
  · exact lowered

/-- Nobody else changes the flags of an instance. -/
theorem quiet_keeps {start : Tasks C}
    (run : Run (Pool.Step Cluster.exec (RouterFaults redis)) start trace last) {self : Nat}
    {node : DbNode} (up : (start.state.instances self).healthy node = true)
    (quiet : ∀ move ∈ trace, move.event.cmd.self? ≠ some self) :
    (last.state.instances self).healthy node = true := by
  refine (run.carries (fun pool => (pool.state.instances self).healthy node = true) up ?_).2
  intro move member up
  rcases healthy_step (run.steps move member) self node with same | ⟨raised, _⟩ | ⟨lowered, _⟩
  · exact same.trans up
  · exact absurd (congrArg RouterCmd.self? raised) (quiet move member)
  · exact absurd (congrArg RouterCmd.self? lowered) (quiet move member)

/-- A node is called only while its flag is up. -/
theorem sent_healthy (run : RouterRun redis (config.start cluster tasks) trace last) {early late}
    {move : RouterMove C} (split : trace = early ++ move :: late) {self : Nat} {node : DbNode}
    {call : NodeCall C} (issued : move.event.cmd = .sync self (.send node call))
    (request : call ≠ .probe) : (move.before.state.instances self).healthy node = true := by
  obtain ⟨prior, seen, middle, rfl, allowed, quiet⟩ := turn_found run split issued
  have found := (allowed.send self node call issued).resolve_left request
  have before := EventLoop.run_pool (run.cut split)
  obtain ⟨_, since⟩ := before.resume rfl
  have step := before.steps seen (List.mem_append_right _ List.mem_cons_self)
  exact quiet_keeps since (found_healthy step found) quiet

/-- A flag is raised right after a probe was answered. -/
theorem raised_probed (run : RouterRun redis (config.start cluster tasks) trace last) {early late}
    {move : RouterMove C} (split : trace = early ++ move :: late) {self : Nat} {node : DbNode}
    (issued : move.event.cmd = .sync self (.markUp node)) :
    ∃ prior probe middle, early = prior ++ probe :: middle ∧
      probe.event.cmd = .await self (.answer node .probe) ∧
      (Pool.reply Cluster.exec probe).isOk ∧
      ∀ other ∈ middle, other.event.cmd.self? ≠ some self := by
  obtain ⟨prior, seen, middle, here, allowed, quiet⟩ := turn_found run split issued
  obtain ⟨probe, answered⟩ := found_probed (allowed.markUp self node issued)
  exact ⟨prior, seen, middle, here, probe, answered, quiet⟩

/-- Of two moves in one trace, the one that no later part contains comes first. -/
theorem later_of_not_mem {β : Type} {early prior middle rest : List β} {down probe : β}
    (same : early ++ down :: rest = prior ++ probe :: middle) (other : down ≠ probe)
    (before : down ∉ middle) : probe ∈ rest := by
  rcases List.append_eq_append_iff.mp same with ⟨more, _, place⟩ | ⟨more, _, place⟩
  · cases more with
    | nil => exact absurd (List.cons.inj place).1 other
    | cons head more =>
      rw [(List.cons.inj place).2]
      exact List.mem_append_right _ List.mem_cons_self
  · cases more with
    | nil => exact absurd (List.cons.inj place).1 fun equal => other equal.symm
    | cons head more =>
      rw [(List.cons.inj place).2] at before
      exact absurd (List.mem_append_right _ List.mem_cons_self) before

/-- After a node was marked down, its instance calls it again only when a probe was answered. -/
theorem down_until_probe (run : RouterRun redis (config.start cluster tasks) trace last)
    {early middle late : List (RouterMove C)} {down sent : RouterMove C}
    (split : trace = early ++ down :: (middle ++ sent :: late)) {self : Nat} {node : DbNode}
    {call : NodeCall C} (marks : down.event.cmd = .sync self (.markDown node))
    (issued : sent.event.cmd = .sync self (.send node call)) (request : call ≠ .probe) :
    ∃ probe ∈ middle, probe.event.cmd = .await self (.answer node .probe) ∧
      (Pool.reply Cluster.exec probe).isOk := by
  have place : trace = (early ++ down :: middle) ++ sent :: late := by simp [split]
  have up := sent_healthy run place issued request
  have before := EventLoop.run_pool (run.cut place)
  have step := before.steps down (List.mem_append_right _ List.mem_cons_self)
  have lowered : (down.after.state.instances self).healthy node = false := by
    rw [(sync_effect step marks).2]
    simp only [Cluster.execSync, Cluster.setInstance, Function.update_self, Instance.mark]
  obtain ⟨_, since⟩ := before.resume rfl
  have raised : ∃ move ∈ middle, move.event.cmd = .sync self (.markUp node) := by
    by_contra never
    have still := stays_down since lowered fun move member marked => never ⟨move, member, marked⟩
    rw [still] at up
    cases up
  obtain ⟨move, member, raises⟩ := raised
  obtain ⟨first, rest, rfl⟩ := List.append_of_mem member
  have here : trace = (early ++ down :: first) ++ move :: (rest ++ sent :: late) := by simp [split]
  obtain ⟨prior, probe, between, same, probes, answered, quiet⟩ := raised_probed run here raises
  refine ⟨probe, List.mem_append_left _ (later_of_not_mem same ?_ ?_), probes, answered⟩
  · rintro rfl
    cases marks.symm.trans probes
  · exact fun inside => quiet down inside (congrArg RouterCmd.self? marks)

end Run
end Routing
end HotelBooking
