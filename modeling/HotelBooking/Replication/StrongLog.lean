import HotelBooking.Effect.Linearization
import HotelBooking.Replication.CacheFills

/-! Writes and STRONG reads over many instances are operations on one log. Each asks the primary
once, and takes effect when the primary answers: whatever fails, no write is executed twice, and
what the requests answer is explained by some sequential order of them. -/
namespace HotelBooking
open Effect
variable {C : Type} {db : DbRouter}

/-- An operation on the log of commits. -/
inductive LogOp (C : Type) where
  | append (change : C)
  | readAll
  deriving DecidableEq

/-- A write answers nothing, a read all that was committed. -/
def logObject : SeqObject (LogOp C) (List C) (Option (List C))
  | .append change, log => (none, log ++ [change])
  | .readAll, log => (some log, log)

def Task.logOp? : Task C → Option (LogOp C)
  | .serve _ _ (.write change) => some (.append change)
  | .serve _ _ (.read .strong) => some .readAll
  | _ => none

def logOps (tasks : List (Task C)) (i : Nat) : Option (LogOp C) := tasks[i]?.bind Task.logOp?

/-- What the operations have returned. -/
def logAnswered (tasks : List (Task C)) (last : Tasks C) (i : Nat) : Option (Option (List C)) :=
  (logOps tasks i).bind fun _ => answered? last i

/-- The command at which an operation may take effect. -/
def LogOp.asks : Option (LogOp C) → RouterCmd C → Bool
  | some (.append _), .await _ (.answer _ (.mutation _)) => true
  | some .readAll, .await _ (.answer _ (.query _)) => true
  | _, _ => false

/-- Whether the primary has answered the operation, and what. -/
inductive Asked (C : Type) where
  | never
  | answered (result : Option (List C))
  | failed
  deriving DecidableEq

def RouterCmd.asked : (cmd : RouterCmd C) → Except RouterErr cmd.Answer → Asked C
  | .await _ (.answer _ (.mutation _)), .ok _ => .answered none
  | .await _ (.answer _ (.query _)), .ok rows => .answered (some rows)
  | _, _ => .failed

structure LogPhase (C : Type) where
  op : Option (LogOp C)
  asked : Asked C

/-- Mutations come from writes; an operation asks the primary, and once. -/
structure LogAllows (phase : LogPhase C) (cmd : RouterCmd C) : Prop where
  mutation : ∀ i node change, cmd = .await i (.answer node (.mutation change)) →
    phase.op = some (.append change)
  primary : ∀ i node call, cmd = .await i (.answer node call) → phase.op.isSome → node = .primary
  once : LogOp.asks phase.op cmd = true → phase.asked = .never

abbrev logProtocol (C : Type) : Protocol (routerSignature C) RouterErr where
  Phase := LogPhase C
  allows := LogAllows
  next phase cmd reply :=
    if LogOp.asks phase.op cmd then { phase with asked := cmd.asked reply } else phase

namespace StrongLog

/-- A result that is returned is the answer of the primary. -/
abbrev Answers (phase : LogPhase C) (result : Except RouterErr (Option (List C))) : Prop :=
  phase.op.isSome → ∀ answer, result = .ok answer → phase.asked = .answered answer

section Client
variable {op : LogOp C} {asked : Asked C}

abbrev Same (phase : LogPhase C) (after : LogPhase C) (_ : Except RouterErr α) : Prop :=
  after = phase

theorem sync_same {phase : LogPhase C} {sync : SyncOp C} :
    (db.sync sync).Obeys (logProtocol C) (Same phase) phase := by
  have unasked : LogOp.asks phase.op (.sync db.self sync) = false := by
    rcases phase with ⟨_ | _ | _, _⟩ <;> rfl
  refine obeys_sync ⟨nofun, nofun, fun asks => ?_⟩ fun reply => ?_
  · rw [unasked] at asks
    cases asks
  · change ite _ _ _ = phase
    rw [unasked, if_neg Bool.false_ne_true]

/-- A command that awaits no node. -/
theorem await_same {phase : LogPhase C} {op : AwaitOp C}
    (unasked : ∀ node call, op ≠ .answer node call) :
    (db.await op).Obeys (logProtocol C) (Same phase) phase := by
  have quiet : LogOp.asks phase.op (.await db.self op) = false := by
    cases op with
    | answer node call => exact absurd rfl (unasked node call)
    | _ => rcases phase with ⟨_ | _ | _, _⟩ <;> rfl
  refine obeys_await ⟨?_, ?_, fun asks => ?_⟩ fun reply => ?_
  · rintro _ _ _ ⟨⟩
    exact absurd rfl (unasked _ _)
  · rintro _ _ _ ⟨⟩
    exact absurd rfl (unasked _ _)
  · rw [quiet] at asks
    cases asks
  · change ite _ _ _ = phase
    rw [quiet, if_neg Bool.false_ne_true]

theorem then_same {phase : LogPhase C} {program : Loop C α} {next : α → Loop C β}
    {ends : LogPhase C → Except RouterErr β → Prop}
    (head : program.Obeys (logProtocol C) (Same phase) phase)
    (tail : ∀ value, (next value).Obeys (logProtocol C) ends phase)
    (fails : ∀ error, ends phase (.error error)) :
    (program.bind next).Obeys (logProtocol C) ends phase := by
  refine Program.obeys_bind head (fun after value same => ?_) fun after error same => ?_
  · obtain rfl : after = phase := same
    exact tail value
  · obtain rfl : after = phase := same
    exact fails error

/-- The mutation of a write, which is answered or fails. -/
theorem ask_mutation {change : C} :
    (db.ask .primary (.mutation change) : Loop C Unit).Obeys (logProtocol C)
      (fun after result => after.op = some (.append change) ∧
        (result.isOk = true → after.asked = .answered none)) ⟨some (.append change), .never⟩ := by
  refine then_same sync_same (fun _ => ?_) fun error => ⟨rfl, nofun⟩
  refine obeys_await ⟨?_, ?_, fun _ => rfl⟩ fun reply => ?_
  · rintro _ _ _ ⟨⟩
    rfl
  · rintro _ _ _ ⟨⟩ _
    rfl
  · cases reply with
    | ok _ => exact ⟨rfl, fun _ => rfl⟩
    | error error => exact ⟨rfl, nofun⟩

theorem rememberWrite_same {phase : LogPhase C} :
    (db.rememberWrite : Loop C Unit).Obeys (logProtocol C) (Same phase) phase := by
  unfold DbRouter.rememberWrite
  split
  · rfl
  · split
    · rfl
    · refine then_same sync_same (fun _ => ?_) fun error => rfl
      refine Program.obeys_recover (await_same nofun) (fun after error same => same) fun _ _ same => same

/-- A mutation that succeeds was answered. -/
abbrev Committed (after : LogPhase C) (result : Except RouterErr Unit) : Prop :=
  result.isOk = true → after.asked = .answered none

theorem committed_or_raised {change : C} {handler : RouterErr → Loop C Unit}
    (raises : ∀ phase error, (handler error).Obeys (logProtocol C) Committed phase) :
    ((db.ask .primary (.mutation change)).recover handler : Loop C Unit).Obeys (logProtocol C)
      Committed ⟨some (.append change), .never⟩ :=
  Program.obeys_recover ask_mutation (fun after error _ => raises after error)
    fun _ _ told => told.2

theorem write_obeys {change : C} : (RouterCall.program db (.write change)).Obeys (logProtocol C)
    Answers ⟨some (.append change), .never⟩ := by
  have written : (db.write change : Loop C Unit).Obeys (logProtocol C)
      Committed ⟨some (.append change), .never⟩ := by
    refine then_same sync_same (fun up => ?_) fun error => nofun
    split
    · exact nofun
    · refine Program.obeys_bind (committed_or_raised fun _ error => ?_) (fun after _ told => ?_)
        fun _ _ _ => nofun
      · split
        · exact nofun
        · exact then_same sync_same (fun _ => nofun) fun _ => nofun
      · refine then_same sync_same (fun _ => ?_) fun _ => nofun
        refine rememberWrite_same.mono fun last result same _ => ?_
        obtain rfl : last = after := same
        exact told rfl
  refine Program.obeys_bind written (fun after _ told => ?_) fun _ _ _ => nofun
  rintro _ _ ⟨⟩
  exact told rfl

/-- Rows that are read are the answer of the primary. -/
abbrev Shown (after : LogPhase C) (result : Except RouterErr (List C)) : Prop :=
  ∀ rows, result = .ok rows → after.asked = .answered (some rows)

theorem degraded_fails {phase : LogPhase C} :
    (db.readDegraded .strong : Loop C (List C)).Obeys (logProtocol C) Shown phase := by
  unfold DbRouter.readDegraded
  rw [if_neg (by simp)]
  exact nofun

theorem ask_strong {tracked : Route} :
    ((db.ask .primary (.query .strong)).bind fun result =>
      (db.sync (.track .primary tracked)).bind fun _ => .ret result : Loop C (List C)).Obeys
        (logProtocol C) Shown ⟨some .readAll, .never⟩ := by
  have asked : (db.ask .primary (.query .strong) : Loop C (List C)).Obeys (logProtocol C) Shown
      ⟨some .readAll, .never⟩ := by
    refine then_same sync_same (fun _ => ?_) fun error => nofun
    refine obeys_await ⟨nofun, ?_, fun _ => rfl⟩ fun reply => ?_
    · rintro _ _ _ ⟨⟩ _
      rfl
    · rintro rows rfl
      rfl
  refine Program.obeys_bind asked (fun after rows told => ?_) fun _ _ _ => nofun
  refine then_same sync_same (fun _ => ?_) fun _ => nofun
  rintro _ ⟨⟩
  exact told rows rfl

theorem strong_obeys : (RouterCall.program db (.read .strong)).Obeys (logProtocol C)
    Answers ⟨some .readAll, .never⟩ := by
  have reads : (db.read .strong : Loop C (List C)).Obeys (logProtocol C) Shown
      ⟨some .readAll, .never⟩ := by
    refine then_same sync_same (fun up => ?_) fun error => nofun
    split
    · refine Program.obeys_recover ask_strong (fun after error _ => ?_) fun _ _ told => told
      split
      · exact nofun
      · exact then_same sync_same (fun _ => degraded_fails) fun _ => nofun
    · exact degraded_fails
  refine Program.obeys_bind reads (fun after rows told => ?_) fun _ _ _ => nofun
  rintro _ _ ⟨⟩
  exact told rows rfl

end Client
theorem next_op (phase : LogPhase C) (cmd : RouterCmd C) (reply : Except RouterErr cmd.Answer) :
    ((logProtocol C).next phase cmd reply).op = phase.op := by
  change (ite _ _ _ : LogPhase C).op = _
  split <;> rfl

/-- Other requests never mutate. -/
theorem other_obeys {program : Loop C (Option (List C))} {i : Nat} {entries : Prop}
    {allowed : DbNode → NodeCall C → Prop} (uses : program.Uses (RouterCmd.Asks i entries allowed))
    (silent : ∀ node change, ¬ allowed node (.mutation change)) :
    program.Obeys (logProtocol C) Answers ⟨none, .never⟩ := by
  let foreign (phase : LogPhase C) : Prop := phase.op = none
  refine uses.obeys foreign (fun phase cmd unset asks => ?_) ?_ ?_ rfl
  · refine ⟨?_, ?_, ?_⟩
    · rintro j node change rfl
      obtain rfl : j = i := Option.some.inj asks.owned
      exact absurd (asks.answer node _ rfl) (silent node change)
    · intro _ _ _ _ present
      rw [unset] at present
      cases present
    · intro asked
      rw [unset] at asked
      cases asked
  · intro phase cmd reply unset _
    exact (next_op phase cmd reply).trans unset
  · intro phase result unset present
    rw [unset] at present
    cases present

theorem task_obeys (config : RouterConfig) (task : Task C) :
    (task.program config).Obeys (logProtocol C) Answers ⟨task.logOp?, .never⟩ := by
  cases task with
  | advance ms => exact ⟨⟨nofun, nofun, nofun⟩, fun reply => by cases reply <;> exact nofun⟩
  | replay => exact ⟨⟨nofun, nofun, nofun⟩, fun reply => by cases reply <;> exact nofun⟩
  | serve self session call =>
    refine then_same (await_same nofun) (fun _ => ?_) fun _ _ => nofun
    have uses : (call.program (config.router self session)).Uses _ := Routing.uses_call call
    cases call with
    | write change => exact write_obeys
    | probe replicaFirst => exact other_obeys uses fun _ _ => nofun
    | getOrSet key => exact other_obeys uses fun _ _ => nofun
    | read consistency =>
      cases consistency with
      | strong => exact strong_obeys
      | eventual => exact other_obeys uses fun _ _ => nofun
      | primaryPreferred => exact other_obeys uses fun _ _ => nofun

def begins (tasks : List (Task C)) (i : Nat) : LogPhase C := ⟨logOps tasks i, .never⟩

theorem tasks_obey (config : RouterConfig) (cluster : Cluster C) (tasks : List (Task C)) :
    (config.start cluster tasks).Obeys (logProtocol C) (fun _ => Answers) (begins tasks) := by
  intro i program found
  simp only [RouterConfig.start, List.getElem?_map] at found
  obtain ⟨task, here, rfl⟩ := Option.map_eq_some_iff.mp found
  rw [begins, logOps, here]
  exact task_obeys config task

theorem spent_stays (phase : LogPhase C) (cmd : RouterCmd C) (reply : Except RouterErr cmd.Answer)
    (spent : phase.asked ≠ .never) : ((logProtocol C).next phase cmd reply).asked ≠ .never := by
  change (ite _ _ _ : LogPhase C).asked ≠ _
  split
  · unfold RouterCmd.asked
    split <;> exact nofun
  · exact spent

section Run
variable {config : RouterConfig} {cluster : Cluster C} {tasks : List (Task C)}
  {redis : Fault RouterErr → Prop} {trace : List (RouterMove C)} {last : Tasks C}

theorem phase_op (early : List (RouterMove C)) (i : Nat) :
    (Pool.phases (logProtocol C) Cluster.exec (begins tasks) early i).op = logOps tasks i :=
  Pool.phases_rule (logProtocol C) (fun phase => phase.op = logOps tasks i) rfl early
    fun move _ _ phase here => (next_op phase move.event.cmd _).trans here

theorem allows (run : Run (Pool.Step Cluster.exec (RouterFaults redis)) (config.start cluster tasks)
    trace last) {move : RouterMove C} (member : move ∈ trace) :
    ∃ phase : LogPhase C, phase.op = logOps tasks move.event.client ∧ LogAllows phase move.event.cmd := by
  obtain ⟨early, late, split⟩ := List.append_of_mem member
  exact ⟨_, phase_op early _, Pool.run_allows (tasks_obey config cluster tasks) run split⟩

/-- Only mutations add to the log. -/
theorem commits_kept {cmd : RouterCmd C} {state : Cluster C}
    (silent : ∀ i node change, cmd ≠ .await i (.answer node (.mutation change))) :
    (Cluster.exec cmd state).2.commits = state.commits := by
  cases cmd with
  | sync i op => cases op <;> rfl
  | advance ms => rfl
  | replay => rfl
  | await i op =>
    cases op with
    | answer node call =>
      cases call with
      | mutation change => exact absurd rfl (silent i node change)
      | _ => rfl
    | _ => rfl

/-- An operation takes effect when its command does. -/
def point (tasks : List (Task C)) (move : RouterMove C) : Bool :=
  LogOp.asks (logOps tasks move.event.client) move.event.cmd && !move.event.fault.isRefused

theorem point_acts (run : Run (Pool.Step Cluster.exec (RouterFaults redis))
    (config.start cluster tasks) trace last) {move : RouterMove C} (member : move ∈ trace)
    (pointed : point tasks move = true) : ∃ op, logOps tasks move.event.client = some op ∧
      move.after.state.commits = (logObject op move.before.state.commits).2 := by
  obtain ⟨phase, op, allowed⟩ := allows run member
  obtain ⟨asks, effective⟩ := Bool.and_eq_true_iff.mp pointed
  have result := ((run.steps move member).state_eq).2
  obtain ⟨before, ⟨client, cmd, fault⟩, after⟩ := move
  have executed : after.state = (Cluster.exec cmd before.state).2 := by
    cases fault with
    | none => exact result
    | lost error => exact result
    | refused error => cases effective
  dsimp only at op asks ⊢
  rw [executed]
  unfold LogOp.asks at asks
  split at asks
  · next change i node other here =>
    obtain rfl : change = other := by
      have same := allowed.mutation i node other rfl
      rw [op, here] at same
      cases same
      rfl
    exact ⟨_, here, rfl⟩
  · next i node route here => exact ⟨_, here, rfl⟩
  · cases asks

theorem point_rests (run : Run (Pool.Step Cluster.exec (RouterFaults redis))
    (config.start cluster tasks) trace last) {move : RouterMove C} (member : move ∈ trace)
    (pointed : point tasks move = false) :
    move.after.state.commits = move.before.state.commits := by
  obtain ⟨phase, op, allowed⟩ := allows run member
  have result := ((run.steps move member).state_eq).2
  obtain ⟨before, ⟨client, cmd, fault⟩, after⟩ := move
  dsimp only at result op ⊢
  rw [result]
  cases refused : fault.isRefused with
  | true =>
    cases fault with
    | refused error => rfl
    | none => cases refused
    | lost error => cases refused
  | false =>
    have silent : ∀ i node change, cmd ≠ .await i (.answer node (.mutation change)) := by
      rintro i node change rfl
      have same := allowed.mutation i node change rfl
      rw [op] at same
      simp only [point, same, refused] at pointed
      cases pointed
    rcases fault.apply_state Cluster.exec cmd before.state with same | same
    · rw [same, commits_kept silent]
    · rw [same]

theorem point_once (run : Run (Pool.Step Cluster.exec (RouterFaults redis))
    (config.start cluster tasks) trace last) :
    trace.Pairwise fun move again => point tasks move = true → point tasks again = true →
      move.event.client ≠ again.event.client := by
  refine (Pool.spent_once (tasks_obey config cluster tasks) run
    (fun i phase => phase.op = logOps tasks i) (fun phase => phase.asked ≠ .never)
    (fun i cmd => LogOp.asks (logOps tasks i) cmd = true) (fun _ => rfl)
    (fun i phase cmd reply here => (next_op phase cmd reply).trans here) spent_stays ?_ ?_).imp ?_
  · intro i phase cmd reply here spends
    change (ite _ _ _ : LogPhase C).asked ≠ _
    rw [here, if_pos spends]
    unfold RouterCmd.asked
    split <;> exact nofun
  · intro i phase cmd here spends allowed spent
    rw [← here] at spends
    exact spent (allowed.once spends)
  · intro move again distinct first second
    exact distinct (Bool.and_eq_true_iff.mp first).1 (Bool.and_eq_true_iff.mp second).1

theorem asked_error (cmd : RouterCmd C) (error : RouterErr) : cmd.asked (.error error) = .failed := by
  unfold RouterCmd.asked
  split
  · next same => cases same
  · next same => cases same
  · rfl

/-- An answer that a client has got was given at one of its moves. -/
theorem asked_shown {i : Nat} {result : Option (List C)}
    (told : (Pool.phases (logProtocol C) Cluster.exec (begins tasks) trace i).asked =
      .answered result) : ∃ move ∈ trace, move.event.client = i ∧
    LogOp.asks (logOps tasks i) move.event.cmd = true ∧
    move.event.cmd.asked (Pool.reply Cluster.exec move) = .answered result := by
  let shown (phase : LogPhase C) : Prop := phase.op = logOps tasks i ∧
    ∀ result, phase.asked = .answered result → ∃ move ∈ trace, move.event.client = i ∧
      LogOp.asks (logOps tasks i) move.event.cmd = true ∧
      move.event.cmd.asked (Pool.reply Cluster.exec move) = .answered result
  refine (Pool.phases_rule (logProtocol C) shown ⟨rfl, fun _ same => by cases same⟩ trace ?_).2
    result told
  rintro move listed own phase ⟨same, known⟩
  refine ⟨(next_op phase _ _).trans same, fun result told => ?_⟩
  change (ite _ _ _ : LogPhase C).asked = _ at told
  split at told
  · next asks => exact ⟨move, listed, own, same ▸ asks, told⟩
  · exact known result told

theorem point_answers (run : Run (Pool.Step Cluster.exec (RouterFaults redis))
    (config.start cluster tasks) trace last) {i : Nat} {answer : Option (List C)}
    (told : logAnswered tasks last i = some answer) : ∃ move ∈ trace, point tasks move = true ∧
      move.event.client = i ∧ ∀ op, logOps tasks i = some op →
        answer = (logObject op move.before.state.commits).1 := by
  obtain ⟨op, called, returned⟩ := Option.bind_eq_some_iff.mp told
  have ended : Answers (Pool.phases (logProtocol C) Cluster.exec (begins tasks) trace i)
      (.ok answer) := Pool.run_ends (tasks_obey config cluster tasks) run (answered?_eq returned)
  have asked := ended (by rw [phase_op, called]; rfl) answer rfl
  obtain ⟨move, listed, rfl, asks, replied⟩ := asked_shown asked
  obtain ⟨phase, same, allowed⟩ := allows run listed
  obtain ⟨before, ⟨client, cmd, fault⟩, after⟩ := move
  dsimp only at asks called same allowed ⊢
  have plain : fault = .none := by
    cases fault with
    | none => rfl
    | refused error => cases (asked_error cmd error).symm.trans replied
    | lost error => cases (asked_error cmd error).symm.trans replied
  subst plain
  refine ⟨_, listed, Bool.and_eq_true_iff.mpr ⟨asks, rfl⟩, rfl, fun other found => ?_⟩
  obtain rfl := Option.some.inj (called.symm.trans found)
  rw [called] at asks
  unfold LogOp.asks at asks
  split at asks
  · next change i node given here =>
    cases here
    cases replied
    rfl
  · next i node route here =>
    cases here
    obtain rfl : node = .primary := allowed.primary i node _ rfl (by rw [same, called]; rfl)
    cases replied
    rfl
  · cases asks

end Run
end StrongLog

/-- Whatever fails and however the instances interleave, writes and STRONG reads are linearizable:
each takes effect at most once, and a read returns all that was committed before it. -/
theorem strong_linearizable (config : RouterConfig) (cluster : Cluster C) (tasks : List (Task C))
    (redis : Fault RouterErr → Prop) {trace : List (RouterMove C)} {last : Tasks C}
    (run : RouterRun redis (config.start cluster tasks) trace last) :
    ∃ order, Pool.Linearizes logObject (logOps tasks) (logAnswered tasks last) trace
      cluster.commits last.state.commits order := by
  have pool := EventLoop.run_pool run
  have points : Pool.Points logObject (logOps tasks) (logAnswered tasks last) Cluster.commits
      (StrongLog.point tasks) trace :=
    ⟨fun move member pointed => StrongLog.point_acts pool member pointed,
      fun move member pointed => StrongLog.point_rests pool member pointed,
      StrongLog.point_once pool, fun i r told => StrongLog.point_answers pool told⟩
  exact ⟨_, Pool.linearizes pool points⟩

/-- A write on one instance, whose reply is lost, and a STRONG read on another. -/
def lostWrite : List (RouterMove Nat) × Tasks Nat :=
  withReplica.record [.serve 0 none (.write 7), .serve 1 none (.read .strong)]
    (Pool.faultless [0, 1, 0, 0] ++ (0, .lost (.prisma unreachable)) ::
      Pool.faultless [0, 1, 1, 1, 1])

/-- The write rejects, and the read sees it. -/
theorem strong_linearizable_lost : ∃ order,
    Pool.Linearizes logObject (logOps [.serve 0 none (.write 7), .serve 1 none (.read .strong)])
      (logAnswered [.serve 0 none (.write 7), .serve 1 none (.read .strong)] lostWrite.2)
      lostWrite.1 [] lostWrite.2.state.commits order := by
  have run := run_recorded _ _ (by decide +kernel :
    ∀ move ∈ lostWrite.1, RouterMove.admissible move = true)
  exact strong_linearizable withReplica _ _ _ run

end HotelBooking
