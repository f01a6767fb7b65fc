import HotelBooking.Effect.Bounded
import HotelBooking.Replication.Routing

/-! Reads find a node that answers, and the safety of routing over whole runs. -/
namespace HotelBooking
open Effect
variable {C : Type} {db : DbRouter}

/-- The reply speaks against a node that is flagged healthy and answers, while failing nodes fail
with connection errors. -/
def RouterCmd.Defies (self : Nat) (node : DbNode) : (cmd : RouterCmd C) → Except RouterErr cmd.Answer → Prop
  | .sync i (.healthy asked), .ok up => i = self ∧ asked = node ∧ up = false
  | .sync .., .error _ => True
  | .await _ .request, .error _ => True
  | .await _ (.answer asked (.query _)), .error err => asked = node ∨ err.isConnection = false
  | _, _ => False

/-- A client remembers whether some reply has spoken against the node. -/
abbrev defying (C : Type) (self : Nat) (node : DbNode) : Protocol (routerSignature C) RouterErr where
  Phase := Prop
  allows _ _ := True
  next defied cmd reply := defied ∨ cmd.Defies self node reply

namespace Availability
variable {node : DbNode} {defied : Prop}

def Resolves (defied : Prop) (result : Except RouterErr α) : Prop := defied ∨ result.isOk

theorem resolves_then {self : Nat} {program : Loop C α} {next : α → Loop C β}
    (head : program.Obeys (defying C self node) Resolves defied)
    (tail : ∀ after value, (next value).Obeys (defying C self node) Resolves after) :
    (program.bind next).Obeys (defying C self node) Resolves defied := by
  refine Program.obeys_bind head (fun after value _ => tail after value) fun after error failed => ?_
  exact Or.inl (failed.resolve_right Bool.false_ne_true)

theorem resolves_sync {op : SyncOp C} :
    (db.sync op).Obeys (defying C db.self node) Resolves defied := by
  refine obeys_sync trivial fun reply => ?_
  cases reply with
  | ok value => exact Or.inr rfl
  | error error =>
    refine Or.inl (Or.inr ?_)
    cases op <;> trivial

/-- Nothing has to be shown any more. -/
theorem resolves_defied {self : Nat} (program : Loop C α) (here : defied) :
    program.Obeys (defying C self node) Resolves defied := by
  induction program generalizing defied with
  | ret value => exact Or.inl here
  | raise error => exact Or.inl here
  | call cmd next ih => exact ⟨trivial, fun reply => ih reply (Or.inl here)⟩

/-- The branches that follow a check of a flag. -/
theorem checked_resolves {asked : DbNode} {next : Bool → Loop C α}
    (up : ∀ after, (next true).Obeys (defying C db.self node) Resolves after)
    (down : asked ≠ node → ∀ after, (next false).Obeys (defying C db.self node) Resolves after) :
    ((db.sync (.healthy asked)).bind next).Obeys (defying C db.self node) Resolves defied := by
  refine ⟨trivial, fun reply => ?_⟩
  rcases reply with error | unhealthy | healthy
  · exact Or.inl (Or.inr trivial)
  · by_cases same : asked = node
    · exact resolves_defied _ (Or.inr ⟨rfl, same, rfl⟩)
    · exact down same _
  · exact up _

theorem obeys_vacuous {self : Nat} (program : Loop C α) {ends : Prop → Except RouterErr α → Prop}
    (vacuous : ∀ after result, ends after result) :
    program.Obeys (defying C self node) ends defied := by
  induction program generalizing defied with
  | ret value => exact vacuous _ _
  | raise error => exact vacuous _ _
  | call cmd next ih => exact ⟨trivial, fun reply => ih reply⟩

/-- A query fails with a connection error at most, and not on the given node. -/
theorem ask_resolves (asked : DbNode) (route : Route) :
    (db.ask asked (.query route) : Loop C (List C)).Obeys (defying C db.self node)
      (fun after result => Resolves after result ∨
        asked ≠ node ∧ ∃ err, result = .error err ∧ err.isConnection = true) defied := by
  refine Program.obeys_bind resolves_sync (fun after value _ => ?_) fun _ _ failed => Or.inl ?_
  · refine obeys_await trivial fun reply => ?_
    cases reply with
    | ok value => exact Or.inl (Or.inr rfl)
    | error err =>
      by_cases other : asked = node
      · exact Or.inl (Or.inl (Or.inr (Or.inl other)))
      · cases connection : err.isConnection with
        | true => exact Or.inr ⟨other, err, rfl, connection⟩
        | false => exact Or.inl (Or.inl (Or.inr (Or.inr connection)))
  · exact Or.inl (failed.resolve_right Bool.false_ne_true)

theorem tracked_resolves (asked : DbNode) (route : Route) (result : List C) :
    ((db.sync (.track asked route)).bind fun _ => .ret result : Loop C (List C)).Obeys
      (defying C db.self node) Resolves defied :=
  Program.obeys_bind resolves_sync (fun _ _ _ => Or.inr rfl) fun _ _ failed =>
    Or.inl (failed.resolve_right Bool.false_ne_true)

/-- A query, with what happens when it fails. -/
theorem tried_resolves {asked : DbNode} {route tracked : Route}
    {handler : RouterErr → Loop C (List C)}
    (rescue : asked ≠ node → ∀ after err, err.isConnection = true →
      (handler err).Obeys (defying C db.self node) Resolves after) :
    (((db.ask asked (.query route)).bind fun result =>
      (db.sync (.track asked tracked)).bind fun _ => .ret result).recover handler).Obeys
        (defying C db.self node) Resolves defied := by
  let failing (after : Prop) (result : Except RouterErr (List C)) : Prop := Resolves after result ∨
    asked ≠ node ∧ ∃ err, result = .error err ∧ err.isConnection = true
  have body : ((db.ask asked (.query route)).bind fun result =>
      (db.sync (.track asked tracked)).bind fun _ => .ret result : Loop C (List C)).Obeys
        (defying C db.self node) failing defied := by
    refine Program.obeys_bind (ask_resolves asked route) (fun after result _ => ?_)
      fun after error failed => ?_
    · exact (tracked_resolves asked tracked result).mono fun _ _ => Or.inl
    · refine failed.imp_right fun ⟨other, err, same, connection⟩ => ⟨other, err, ?_, connection⟩
      rw [Except.error.inj same]
  refine Program.obeys_recover body (fun after err failed => ?_) fun after value _ => Or.inr rfl
  rcases failed with resolved | ⟨other, err, same, connection⟩
  · exact resolves_defied _ (resolved.resolve_right Bool.false_ne_true)
  · obtain rfl := Except.error.inj same
    exact rescue other after err connection

/-- The node that this path ends at, when the primary fails. -/
def Rescued (db : DbRouter) (node : DbNode) (route : Route) : Prop :=
  node = .replica ∧ (route = .sticky ∨ route = .primaryPreferred) ∧ db.replicaEnabled = true

theorem readDegraded_resolves {route : Route} (rescued : Rescued db node route) :
    (db.readDegraded route : Loop C (List C)).Obeys (defying C db.self node) Resolves defied := by
  obtain ⟨rfl, served, enabled⟩ := rescued
  rw [DbRouter.readDegraded, if_pos ⟨served, enabled⟩]
  refine checked_resolves (fun after => ?_) fun other => absurd rfl other
  · refine resolves_then ((ask_resolves .replica .degraded).mono fun after result reached => ?_)
      fun _ result => tracked_resolves _ _ result
    exact reached.resolve_right fun other => other.1 rfl

theorem readPrimary_resolves {route : Route} (rescued : node = .primary ∨ Rescued db node route) :
    (db.readPrimary route : Loop C (List C)).Obeys (defying C db.self node) Resolves defied := by
  refine checked_resolves (fun after => ?_) fun other after => ?_
  · refine tried_resolves fun other after err connection => ?_
    rw [connection]
    refine resolves_then resolves_sync fun _ _ => readDegraded_resolves ?_
    exact rescued.resolve_left fun same => other same.symm
  · exact readDegraded_resolves (rescued.resolve_left fun same => other same.symm)

theorem readEventual_resolves :
    (db.readEventual : Loop C (List C)).Obeys (defying C db.self node) Resolves defied := by
  have primary (other : DbNode.replica ≠ node) : node = .primary := by
    cases node with
    | primary => rfl
    | replica => exact absurd rfl other
  refine checked_resolves (fun after => ?_) fun other after => ?_
  · refine tried_resolves fun other after err connection => ?_
    rw [connection]
    exact resolves_then resolves_sync fun _ _ => readPrimary_resolves (Or.inl (primary other))
  · exact readPrimary_resolves (Or.inl (primary other))

theorem isSticky_resolves : (db.isSticky : Loop C Bool).Obeys (defying C db.self node) Resolves defied := by
  unfold DbRouter.isSticky
  split
  · exact Or.inr rfl
  · split
    · exact Or.inr rfl
    · refine resolves_then resolves_sync fun _ here => ?_
      split
      · exact Or.inr rfl
      · refine resolves_then ⟨trivial, fun reply => ?_⟩ fun _ _ => Or.inr rfl
        cases reply <;> exact Or.inr rfl

theorem read_resolves {consistency : Consistency} (weak : consistency ≠ .strong)
    (configured : node = .replica → db.replicaEnabled = true) :
    (db.read consistency : Loop C (List C)).Obeys (defying C db.self node) Resolves defied := by
  have rescued (route : Route) (served : route = .sticky ∨ route = .primaryPreferred) :
      node = .primary ∨ Rescued db node route := by
    cases same : node with
    | primary => exact Or.inl rfl
    | replica => exact Or.inr ⟨rfl, served, configured same⟩
  cases consistency with
  | strong => exact absurd rfl weak
  | primaryPreferred => exact readPrimary_resolves (rescued _ (Or.inr rfl))
  | eventual =>
    unfold DbRouter.read
    dsimp only
    split
    · next single =>
      refine readPrimary_resolves (Or.inl ?_)
      cases same : node with
      | primary => rfl
      | replica => simp [configured same] at single
    · refine resolves_then isSticky_resolves fun _ sticky => ?_
      split
      · exact readPrimary_resolves (rescued _ (Or.inl rfl))
      · exact readEventual_resolves

theorem task_resolves {config : RouterConfig} {self : Nat} {session : Option Text}
    {consistency : Consistency} (weak : consistency ≠ .strong)
    (configured : node = .replica → config.replicaEnabled = true) :
    ((Task.serve self session (.read consistency)).program config : Loop C _).Obeys
      (defying C self node) Resolves defied := by
  let db := config.router self session
  have served : (db.await .request : Loop C Unit).Obeys (defying C db.self node) Resolves defied := by
    refine obeys_await trivial fun reply => ?_
    cases reply with
    | ok value => exact Or.inr rfl
    | error error => exact Or.inl (Or.inr trivial)
  exact resolves_then served fun _ _ =>
    resolves_then (@read_resolves C db node _ _ weak configured) fun _ _ => Or.inr rfl

section Bound

theorem sync_within (op : SyncOp C) : (db.sync op).Within 1 := Program.within_perform _

theorem await_within (op : AwaitOp C) : (db.await op).Within 1 := Program.within_perform _

theorem ask_within (node : DbNode) (call : NodeCall C) : (db.ask node call).Within 2 :=
  Program.within_bind (sync_within _) fun _ => await_within _

theorem answered_within (node : DbNode) (route tracked : Route) :
    ((db.ask node (.query route)).bind fun result =>
      (db.sync (.track node tracked)).bind fun _ => .ret result : Loop C (List C)).Within 3 := by
  refine Program.within_bind (k := 1) (ask_within _ _) fun result => ?_
  refine Program.within_bind (k := 0) (sync_within _) fun _ => ?_
  trivial

theorem readDegraded_within (route : Route) :
    (db.readDegraded route : Loop C (List C)).Within 4 := by
  unfold DbRouter.readDegraded
  split
  · refine Program.within_bind (k := 3) (sync_within _) fun up => ?_
    split
    · exact answered_within _ _ _
    · trivial
  · trivial

theorem readPrimary_within (route : Route) :
    (db.readPrimary route : Loop C (List C)).Within 9 := by
  refine Program.within_bind (k := 8) (sync_within _) fun up => ?_
  split
  · refine Program.within_recover (k := 5) (answered_within _ _ _) fun err => ?_
    split
    · trivial
    · exact Program.within_bind (sync_within _) fun _ => readDegraded_within route
  · exact (readDegraded_within route).mono (by decide)

theorem readEventual_within : (db.readEventual : Loop C (List C)).Within 14 := by
  refine Program.within_bind (k := 13) (sync_within _) fun up => ?_
  split
  · exact (readPrimary_within _).mono (by decide)
  · refine Program.within_recover (k := 10) (answered_within _ _ _) fun err => ?_
    split
    · exact Program.within_bind (sync_within _) fun _ => readPrimary_within _
    · split
      · exact (readPrimary_within _).mono (by decide)
      · trivial

theorem hasFlag_within (session : Text) : (db.hasFlag session : Loop C (Option Bool)).Within 1 := by
  refine Program.within_recover (k := 0) (Program.within_bind (k := 0) (await_within _) fun _ => ?_)
    fun _ => ?_
  · trivial
  · trivial

theorem isSticky_within : (db.isSticky : Loop C Bool).Within 2 := by
  unfold DbRouter.isSticky
  split
  · trivial
  · split
    · trivial
    · refine Program.within_bind (k := 1) (sync_within _) fun here => ?_
      split
      · trivial
      · refine Program.within_bind (k := 0) (hasFlag_within _) fun _ => ?_
        trivial

theorem read_within (consistency : Consistency) :
    (db.read consistency : Loop C (List C)).Within 16 := by
  cases consistency with
  | strong => exact (readPrimary_within _).mono (by decide)
  | primaryPreferred => exact (readPrimary_within _).mono (by decide)
  | eventual =>
    unfold DbRouter.read
    dsimp only
    split
    · exact (readPrimary_within _).mono (by decide)
    · refine Program.within_bind (k := 14) isSticky_within fun sticky => ?_
      split
      · exact (readPrimary_within _).mono (by decide)
      · exact readEventual_within

theorem task_within (config : RouterConfig) (self : Nat) (session : Option Text)
    (consistency : Consistency) :
    ((Task.serve self session (.read consistency)).program config : Loop C _).Within 17 :=
  Program.within_bind (k := 16) (await_within _) fun _ =>
    Program.within_bind (k := 0) (read_within _) fun _ => trivial

end Bound
end Availability

section Run
variable {redis : Fault RouterErr → Prop} {config : RouterConfig} {cluster : Cluster C}
  {tasks : List (Task C)} {trace : List (RouterMove C)} {last : Tasks C}

/-- While this client runs, the node is flagged healthy on the instance and answers the client,
and calls that fail do so with connection errors. -/
structure Serving (trace : List (RouterMove C)) (reader i : Nat) (node : DbNode) : Prop where
  healthy : ∀ move ∈ trace, move.event.client = reader →
    (move.before.state.instances i).healthy node = true
  answers : ∀ move ∈ trace, move.event.client = reader → ∀ call,
    move.event.cmd = .await i (.answer node call) → move.event.fault = .none
  connections : ∀ move ∈ trace, move.event.client = reader → ∀ err,
    move.event.fault = .refused (.prisma err) ∨ move.event.fault = .lost (.prisma err) →
    err.isConnectionError = true

namespace Availability

/-- Nothing speaks against a node that serves a client. -/
theorem undefied {reader self : Nat} {node : DbNode} (serving : Serving trace reader self node)
    {move : RouterMove C} (member : move ∈ trace) (mine : move.event.client = reader)
    (owned : move.event.cmd.self? = some self)
    (step : Pool.Step Cluster.exec (RouterFaults redis) move.before move.event move.after) :
    ¬ move.event.cmd.Defies self node (Pool.reply Cluster.exec move) := by
  have up := serving.healthy move member mine
  have answers := serving.answers move member mine
  have connections := serving.connections move member mine
  obtain ⟨before, ⟨client, cmd, fault⟩, after⟩ := move
  obtain ⟨permitted, _⟩ := step.state_eq
  intro defies
  cases permitted with
  | answered =>
    cases cmd with
    | sync i op =>
      cases op with
      | healthy asked =>
        obtain ⟨rfl, rfl, down⟩ := defies
        cases up.symm.trans down
      | _ => cases defies
    | await i op =>
      cases op with
      | answer asked call => cases call <;> cases defies
      | _ => cases defies
    | advance ms => cases defies
    | replay => cases defies
  | @refused _ i asked call err =>
    cases call with
    | query route =>
      rcases defies with rfl | weak
      · cases owned
        cases answers _ rfl
      · cases weak.symm.trans (connections err (Or.inl rfl))
    | _ => cases defies
  | @lost _ i asked call err =>
    cases call with
    | query route =>
      rcases defies with rfl | weak
      · cases owned
        cases answers _ rfl
      · cases weak.symm.trans (connections err (Or.inr rfl))
    | _ => cases defies
  | redis isRedis _ =>
    cases cmd with
    | sync => cases isRedis
    | await i op =>
      cases op with
      | request | answer => cases isRedis
      | setFlag | hasFlag | getEntry | setEntry =>
        unfold RouterCmd.Defies at defies
        split at defies <;> first | exact defies | rename_i same _; cases same
    | advance => cases isRedis
    | replay => cases isRedis

theorem unasked {i : Nat} {entries : Prop} {allowed : DbNode → NodeCall C → Prop} {cmd : RouterCmd C}
    {node : DbNode} {call : NodeCall C} (refuses : ¬ allowed node call)
    (asks : cmd.Asks i entries allowed) (self : Nat) :
    cmd ≠ .sync self (.send node call) ∧ cmd ≠ .await self (.answer node call) := by
  constructor
  · rintro rfl
    cases asks.owned
    exact refuses (asks.send node call rfl)
  · rintro rfl
    cases asks.owned
    exact refuses (asks.answer node call rfl)

theorem unmutated {task : Task C} {cmd : RouterCmd C} (issued : task.issues cmd) (self : Nat)
    (change : C) : cmd ≠ .sync self (.send .replica (.mutation change)) ∧
      cmd ≠ .await self (.answer .replica (.mutation change)) := by
  cases task with
  | serve i session call =>
    refine unasked (fun asked => ?_) issued self
    cases call with
    | read consistency => cases consistency <;> cases asked
    | write | probe | getOrSet => cases asked
  | advance | replay =>
    constructor
    · rintro rfl
      cases issued
    · rintro rfl
      cases issued

/-- A read that is not strong and that a node serves never rejects, and has an answer after at
most 17 steps. -/
theorem served_resolves (run : RouterRun redis (config.start cluster tasks) trace last)
    {reader self : Nat} {session : Option Text} {consistency : Consistency} {node : DbNode}
    (reads : tasks[reader]? = some (.serve self session (.read consistency)))
    (weak : consistency ≠ .strong) (configured : node = .replica → config.replicaEnabled = true)
    (serving : Serving trace reader self node) :
    (trace.filter fun move => move.event.client = reader).length ≤ 17 ∧
      ∀ result, last.clients[reader]? = some (.ofExcept result) → result.isOk := by
  have pool := EventLoop.run_pool run
  have here : (config.start cluster tasks).clients[reader]? =
      some ((Task.serve self session (.read consistency)).program config) := by
    rw [RouterConfig.start, List.getElem?_map, reads]
    rfl
  constructor
  · have within (program : Loop C (Option (List C)))
        (found : (config.start cluster tasks).clients[reader]? = some program) :
        program.Within 17 := by
      obtain rfl := Option.some.inj (here.symm.trans found)
      exact task_within config self session consistency
    obtain ⟨left, spent, _⟩ := Pool.run_within within pool
    exact Nat.le_trans (Nat.le_add_right _ left) spent
  · intro result finished
    let ends (i : Nat) (after : Prop) (outcome : Except RouterErr (Option (List C))) : Prop :=
      i = reader → Resolves after outcome
    have obeys : (config.start cluster tasks).Obeys (defying C self node) ends fun _ => False := by
      intro i program found
      by_cases same : i = reader
      · subst same
        obtain rfl := Option.some.inj (here.symm.trans found)
        exact (task_resolves weak configured).mono fun _ _ resolved _ => resolved
      · exact obeys_vacuous program fun _ _ mine => absurd mine same
    have clean : ¬ Pool.phases (defying C self node) Cluster.exec (fun _ => False) trace reader := by
      refine Pool.phases_rule (defying C self node) (fun phase => ¬ phase) not_false trace ?_
      intro move member mine phase before after
      refine after.elim before (undefied serving member mine ?_ (pool.steps move member))
      obtain ⟨task, here, issued⟩ :=
        Pool.run_issues (Routing.uses_tasks config cluster tasks) pool move member
      rw [mine, reads] at here
      cases here
      exact issued.owned
    exact (Pool.run_ends obeys pool finished rfl).resolve_left clean

end Availability

/-- Over every run, whatever fails: no mutation goes to the replica, a strong read asks the
primary only, and an instance that has marked the primary down calls it again only when a probe
was answered. A weaker read resolves as long as some configured node serves it. -/
theorem routing_over_runs (config : RouterConfig) (cluster : Cluster C) (tasks : List (Task C))
    (redis : Fault RouterErr → Prop) {trace : List (RouterMove C)} {last : Tasks C}
    (run : RouterRun redis (config.start cluster tasks) trace last) :
    (∀ move ∈ trace, ∀ self change,
      move.event.cmd ≠ .sync self (.send .replica (.mutation change)) ∧
      move.event.cmd ≠ .await self (.answer .replica (.mutation change))) ∧
    (∀ move ∈ trace, ∀ self session,
      tasks[move.event.client]? = some (.serve self session (.read .strong)) → ∀ i call,
      move.event.cmd ≠ .sync i (.send .replica call) ∧
      move.event.cmd ≠ .await i (.answer .replica call)) ∧
    (∀ early down middle sent late self call, trace = early ++ down :: (middle ++ sent :: late) →
      down.event.cmd = .sync self (.markDown .primary) →
      sent.event.cmd = .sync self (.send .primary call) → call ≠ .probe →
      ∃ probe ∈ middle, probe.event.cmd = .await self (.answer .primary .probe) ∧
        (Pool.reply Cluster.exec probe).isOk) ∧
    (∀ reader self session consistency node,
      tasks[reader]? = some (.serve self session (.read consistency)) → consistency ≠ .strong →
      (node = .replica → config.replicaEnabled = true) → Serving trace reader self node →
      (trace.filter fun move => move.event.client = reader).length ≤ 17 ∧
        ∀ result, last.clients[reader]? = some (.ofExcept result) → result.isOk) := by
  have issues := Pool.run_issues (Routing.uses_tasks config cluster tasks) (EventLoop.run_pool run)
  refine ⟨fun move member self change => ?_, fun move member self session reads i call => ?_, ?_, ?_⟩
  · obtain ⟨task, _, issued⟩ := issues move member
    exact Availability.unmutated issued self change
  · obtain ⟨task, here, issued⟩ := issues move member
    cases reads.symm.trans here
    refine Availability.unasked (fun asked => ?_) issued i
    cases call <;> cases asked
  · intro early down middle sent late self call split marks issued request
    exact Routing.down_until_probe run split marks issued request
  · intro reader self session consistency node reads weak configured serving
    exact Availability.served_resolves run reads weak configured serving

end Run

def withReplica : RouterConfig := ⟨true, 5000⟩

def RouterConfig.record (config : RouterConfig) (tasks : List (Task Nat))
    (turns : List (Nat × Fault RouterErr)) : List (RouterMove Nat) × Tasks Nat :=
  (config.start (.init config.replicaEnabled) tasks).record Cluster.exec turns

/-- Redis works, nodes fail as they like, and turns are kept. -/
def RouterMove.admissible (move : RouterMove C) : Bool :=
  (routerLoops C).turnKept move.before move.event &&
    match move.event.cmd, move.event.fault with
    | _, .none => true
    | .await _ (.answer ..), .refused (.prisma _) | .await _ (.answer ..), .lost (.prisma _) => true
    | _, _ => false

theorem RouterMove.permitted {move : RouterMove C} (admissible : move.admissible = true) :
    RouterFaults (· = .none) move.before.state move.event.cmd move.event.fault := by
  obtain ⟨before, ⟨client, cmd, fault⟩, after⟩ := move
  have shape := (Bool.and_eq_true_iff.mp admissible).2
  dsimp only at shape ⊢
  split at shape
  · cases redis : RouterCmd.isRedis cmd with
    | true => exact .redis redis rfl
    | false => exact .answered redis
  · exact .refused
  · exact .lost
  · cases shape

theorem run_recorded (start : Tasks C) (turns : List (Nat × Fault RouterErr))
    (admissible : ∀ move ∈ (start.record Cluster.exec turns).1, RouterMove.admissible move = true) :
    RouterRun (· = .none) start (start.record Cluster.exec turns).1
      (start.record Cluster.exec turns).2 :=
  EventLoop.run_turns (Pool.run_record fun move member =>
    RouterMove.permitted (admissible move member)) fun move member =>
      (Bool.and_eq_true_iff.mp (admissible move member)).1

/-- What a client has returned. -/
def answered? (pool : Tasks C) (client : Nat) : Option (Option (List C)) :=
  match pool.clients[client]? with
  | some (.ret answer) => some answer
  | _ => none

theorem answered?_eq {pool : Tasks C} {client : Nat} {answer : Option (List C)}
    (answered : answered? pool client = some answer) :
    pool.clients[client]? = some (.ret answer) := by
  unfold answered? at answered
  split at answered
  · next same =>
    obtain rfl := Option.some.inj answered
    exact same
  · cases answered

def unreachable : PrismaError := .knownRequest (text "P1001") (text "Can't reach database server")

def RouterCmd.asksPrimary : RouterCmd C → Bool
  | .await _ (.answer .primary _) => true
  | _ => false

/-- The replica does not answer an eventual read, the primary does. -/
def fallingBack : List (RouterMove Nat) × Tasks Nat :=
  withReplica.record [.serve 0 none (.read .eventual)]
    [(0, .none), (0, .none), (0, .none), (0, .refused (.prisma unreachable)), (0, .none),
      (0, .none), (0, .none), (0, .none), (0, .none)]

theorem routing_over_runs_fallingBack : ∃ trace last,
    RouterRun (· = .none) (withReplica.start (.init true) [.serve 0 none (.read .eventual)]) trace
      last ∧ (last.state.instances 0).healthy .replica = false ∧
    ∀ result, last.clients[0]? = some (.ofExcept result) →
      (result : Except RouterErr (Option (List Nat))).isOk := by
  have run := run_recorded _ _ (by decide +kernel :
    ∀ move ∈ fallingBack.1, RouterMove.admissible move = true)
  have serving : Serving fallingBack.1 0 0 .primary := by
    have faults : ∀ move ∈ fallingBack.1, move.event.fault = .none ∨
        move.event.fault = .refused (.prisma unreachable) := by
      intro move member
      have listed := Pool.record_turns move member
      simp only [List.mem_cons, Prod.mk.injEq, List.not_mem_nil, or_false] at listed
      tauto
    refine ⟨fun move member _ => ?_, fun move member _ call asks => ?_, fun move member _ err failed => ?_⟩
    · exact (by decide +kernel : ∀ move ∈ fallingBack.1,
        (move.before.state.instances 0).healthy .primary = true) move member
    · have refusals := (by decide +kernel : ∀ move ∈ fallingBack.1,
        move.event.fault.isRefused = true → move.event.cmd.asksPrimary = false) move member
      rw [asks] at refusals
      exact (faults move member).resolve_right fun refused => by
        cases refusals (by rw [refused]; rfl)
    · rcases faults move member with none | refused
      · rw [none] at failed
        rcases failed with failed | failed <;> cases failed
      · rw [refused] at failed
        rcases failed with failed | failed <;> cases failed
        decide +kernel
  refine ⟨_, _, run, by decide +kernel, ?_⟩
  exact ((routing_over_runs withReplica _ _ _ run).2.2.2 0 0 none .eventual .primary rfl nofun nofun
    serving).2

end HotelBooking
