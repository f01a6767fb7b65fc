import HotelBooking.Replication.Availability

/-! Reads of a session that has written. The router keeps each write twice, in the map of the
instance that accepted it and as a flag in Redis, and both outlive later writes and the purges
of the probes. -/
namespace HotelBooking
open Effect
variable {C : Type} {db : DbRouter} {config : RouterConfig}

/-- The local map had no current entry of the session. -/
def RouterCmd.deniedLocally : (cmd : RouterCmd C) → Except RouterErr cmd.Answer → Option (Nat × Text)
  | .sync i (.sticks session), .ok here => if here then none else some (i, session)
  | _, _ => none

/-- Redis had no flag of the session, or did not answer. -/
def RouterCmd.deniedByRedis : (cmd : RouterCmd C) → Except RouterErr cmd.Answer → Option (Nat × Text)
  | .await i (.hasFlag session), .ok here => if here then none else some (i, session)
  | .await i (.hasFlag session), .error _ => some (i, session)
  | _, _ => none

/-- A sticky session was found, in the map or in Redis. -/
def RouterCmd.affirmed : (cmd : RouterCmd C) → Except RouterErr cmd.Answer → Option Text
  | .sync _ (.sticks session), .ok here | .await _ (.hasFlag session), .ok here =>
    if here then some session else none
  | _, _ => none

/-- The instance had the primary marked down, or marks it down now. -/
def RouterCmd.primaryFailed : (cmd : RouterCmd C) → Except RouterErr cmd.Answer → Option Nat
  | .sync i (.healthy .primary), .ok up => if up then none else some i
  | .sync i (.markDown .primary), _ => some i
  | _, _ => none

structure StickyPhase where
  session : Option Text
  writes : Bool
  local_ : List (Nat × Text) := []
  shared : List (Nat × Text) := []
  stuck : List Text := []
  failed : List Nat := []
  /-- Sessions that are in the map and not yet in Redis. -/
  owes : List Text := []

def RouterCmd.owing (owes : List Text) : (cmd : RouterCmd C) → Except RouterErr cmd.Answer → List Text
  | .sync _ (.setSticky session _), .ok _ => session :: owes
  | .await _ (.setFlag session _), _ => owes.filter fun owed => owed ≠ session
  | _, _ => owes

structure StickyAllows (config : RouterConfig) (phase : StickyPhase) (cmd : RouterCmd C) : Prop where
  eventual : ∀ i, cmd = .sync i (.send .replica (.query .eventual)) →
    ∀ session, phase.session = some session → 0 < config.stickyTtlMs →
    (i, session) ∈ phase.local_ ∧ (i, session) ∈ phase.shared
  sticky : ∀ i node, cmd = .sync i (.send node (.query .sticky)) →
    ∃ session, phase.session = some session ∧ session ∈ phase.stuck
  degraded : ∀ i, cmd = .sync i (.send .replica (.query .degraded)) → i ∈ phase.failed
  setSticky : ∀ i session ttlMs, cmd = .sync i (.setSticky session ttlMs) →
    phase.session = some session ∧ phase.writes = true ∧ ttlMs = config.stickyTtlMs ∧ 0 < ttlMs
  setFlag : ∀ i session ttlMs, cmd = .await i (.setFlag session ttlMs) →
    phase.session = some session ∧ phase.writes = true ∧ ttlMs = config.stickyTtlMs

abbrev stickyProtocol (C : Type) (config : RouterConfig) : Protocol (routerSignature C) RouterErr where
  Phase := StickyPhase
  allows := StickyAllows config
  next phase cmd reply := { phase with
    local_ := phase.local_ ++ (cmd.deniedLocally reply).toList
    shared := phase.shared ++ (cmd.deniedByRedis reply).toList
    stuck := phase.stuck ++ (cmd.affirmed reply).toList
    failed := phase.failed ++ (cmd.primaryFailed reply).toList
    owes := cmd.owing phase.owes reply }

/-- Nothing that was learned is lost. -/
structure StickyPhase.Extends (before after : StickyPhase) : Prop where
  session : after.session = before.session
  writes : after.writes = before.writes
  local_ : before.local_ ⊆ after.local_
  shared : before.shared ⊆ after.shared
  stuck : before.stuck ⊆ after.stuck
  failed : before.failed ⊆ after.failed

namespace StickyPhase
variable {first second third : StickyPhase}

theorem Extends.refl (phase : StickyPhase) : phase.Extends phase :=
  ⟨rfl, rfl, fun _ => id, fun _ => id, fun _ => id, fun _ => id⟩

theorem Extends.trans (early : first.Extends second) (late : second.Extends third) :
    first.Extends third :=
  ⟨late.session.trans early.session, late.writes.trans early.writes,
    fun _ member => late.local_ (early.local_ member),
    fun _ member => late.shared (early.shared member),
    fun _ member => late.stuck (early.stuck member),
    fun _ member => late.failed (early.failed member)⟩

theorem extends_next (config : RouterConfig) (phase : StickyPhase) (cmd : RouterCmd C)
    (reply : Except RouterErr cmd.Answer) :
    phase.Extends ((stickyProtocol C config).next phase cmd reply) :=
  ⟨rfl, rfl, List.subset_append_left _ _, List.subset_append_left _ _,
    List.subset_append_left _ _, List.subset_append_left _ _⟩

end StickyPhase

namespace Sticky
open Routing
variable {phase : StickyPhase}

/-- The program loses nothing, and what it returns tells this about the phase. -/
abbrev Learns (phase : StickyPhase) (learned : StickyPhase → α → Prop) (after : StickyPhase)
    (result : Except RouterErr α) : Prop :=
  phase.Extends after ∧ (phase.owes = [] → after.owes = []) ∧
    ∀ value, result = .ok value → learned after value

abbrev Plain : StickyPhase → α → Prop := fun _ _ => True

theorem learns_then {program : Loop C α} {next : α → Loop C β}
    {middle : StickyPhase → α → Prop} {last : StickyPhase → β → Prop}
    (head : program.Obeys (stickyProtocol C config) (Learns phase middle) phase)
    (tail : ∀ after value, phase.Extends after → middle after value →
      (next value).Obeys (stickyProtocol C config) (Learns after last) after) :
    (program.bind next).Obeys (stickyProtocol C config) (Learns phase last) phase := by
  refine Program.obeys_bind head (fun after value ⟨extended, settled, learned⟩ => ?_)
    fun after error ⟨extended, settled, _⟩ => ⟨extended, settled, nofun⟩
  refine (tail after value extended (learned value rfl)).mono fun final result => ?_
  rintro ⟨further, kept, known⟩
  exact ⟨extended.trans further, fun none => kept (settled none), known⟩

theorem learns_else {program : Loop C α} {handler : RouterErr → Loop C α}
    {last : StickyPhase → α → Prop}
    (head : program.Obeys (stickyProtocol C config) (Learns phase last) phase)
    (rescue : ∀ after err, phase.Extends after →
      (handler err).Obeys (stickyProtocol C config) (Learns after last) after) :
    (program.recover handler).Obeys (stickyProtocol C config) (Learns phase last) phase := by
  refine Program.obeys_recover head (fun after err ⟨extended, settled, _⟩ => ?_)
    fun after value reached => reached
  refine (rescue after err extended).mono fun final result => ?_
  rintro ⟨further, kept, known⟩
  exact ⟨extended.trans further, fun none => kept (settled none), known⟩

theorem learns_ret {value : α} {last : StickyPhase → α → Prop} (known : last phase value) :
    (.ret value : Loop C α).Obeys (stickyProtocol C config) (Learns phase last) phase :=
  ⟨.refl phase, id, fun _ same => by cases same; exact known⟩

theorem learns_raise {error : RouterErr} {last : StickyPhase → α → Prop} :
    (.raise error : Loop C α).Obeys (stickyProtocol C config) (Learns phase last) phase :=
  ⟨.refl phase, id, nofun⟩

theorem learns_sync {op : SyncOp C} {last : StickyPhase → op.Answer → Prop}
    (allowed : StickyAllows config phase (.sync db.self op))
    (settled : ∀ reply, RouterCmd.owing [] (.sync db.self op) reply = [])
    (known : ∀ value, last ((stickyProtocol C config).next phase (.sync db.self op) (.ok value)) value) :
    (db.sync op).Obeys (stickyProtocol C config) (Learns phase last) phase := by
  refine obeys_sync allowed fun reply =>
    ⟨StickyPhase.extends_next config phase (.sync db.self op) reply, ?_, ?_⟩
  · intro none
    change RouterCmd.owing phase.owes (.sync db.self op) reply = []
    rw [none, settled]
  · rintro value rfl
    exact known value

theorem learns_await {op : AwaitOp C} {last : StickyPhase → op.Answer → Prop}
    (allowed : StickyAllows config phase (.await db.self op))
    (known : ∀ value, last ((stickyProtocol C config).next phase (.await db.self op) (.ok value)) value) :
    (db.await op).Obeys (stickyProtocol C config) (Learns phase last) phase := by
  refine obeys_await allowed fun reply =>
    ⟨StickyPhase.extends_next config phase (.await db.self op) reply, ?_, ?_⟩
  · intro none
    change RouterCmd.owing phase.owes (.await db.self op) reply = []
    rw [none]
    cases op <;> rfl
  · rintro value rfl
    exact known value

theorem plain_sync {op : SyncOp C} (unsent : ∀ node call, op ≠ .send node call)
    (unset : ∀ session ttlMs, op ≠ .setSticky session ttlMs) :
    (db.sync op).Obeys (stickyProtocol C config) (Learns phase Plain) phase := by
  refine learns_sync ⟨?_, ?_, ?_, ?_, nofun⟩ ?_ fun _ => trivial
  · rintro i ⟨⟩
    exact absurd rfl (unsent _ _)
  · rintro i node ⟨⟩
    exact absurd rfl (unsent _ _)
  · rintro i ⟨⟩
    exact absurd rfl (unsent _ _)
  · rintro i session ttlMs ⟨⟩
    exact absurd rfl (unset _ _)
  · cases op with
    | setSticky session ttlMs => exact absurd rfl (unset session ttlMs)
    | _ => exact fun _ => rfl

theorem plain_await {op : AwaitOp C} (unset : ∀ session ttlMs, op ≠ .setFlag session ttlMs) :
    (db.await op).Obeys (stickyProtocol C config) (Learns phase Plain) phase := by
  refine learns_await ⟨nofun, nofun, nofun, nofun, ?_⟩ fun _ => trivial
  rintro i session ttlMs ⟨⟩
  exact absurd rfl (unset _ _)

/-- What has to be known before a query takes its route. -/
def Fit (config : RouterConfig) (self : Nat) (phase : StickyPhase) : DbNode → Route → Prop
  | .replica, .eventual => ∀ session, phase.session = some session → 0 < config.stickyTtlMs →
      (self, session) ∈ phase.local_ ∧ (self, session) ∈ phase.shared
  | _, .sticky => ∃ session, phase.session = some session ∧ session ∈ phase.stuck
  | .replica, .degraded => self ∈ phase.failed
  | _, _ => True

theorem asked_learns {node : DbNode} {route tracked : Route}
    (fit : Fit config db.self phase node route) :
    ((db.ask node (.query route)).bind fun result =>
      (db.sync (.track node tracked)).bind fun _ => .ret result : Loop C (List C)).Obeys
        (stickyProtocol C config) (Learns phase Plain) phase := by
  have sent : (db.sync (.send node (.query route)) : Loop C Unit).Obeys (stickyProtocol C config)
      (Learns phase Plain) phase := by
    refine learns_sync ⟨?_, ?_, ?_, nofun, nofun⟩ (fun _ => rfl) fun _ => trivial
    · rintro i ⟨⟩
      exact fit
    · rintro i _ ⟨⟩
      cases node <;> exact fit
    · rintro i ⟨⟩
      exact fit
  have asked : (db.ask node (.query route) : Loop C (List C)).Obeys (stickyProtocol C config)
      (Learns phase Plain) phase := learns_then sent fun _ _ _ _ => plain_await nofun
  exact learns_then asked fun _ _ _ _ =>
    learns_then (plain_sync nofun nofun) fun _ _ _ _ => learns_ret trivial

theorem readDegraded_learns {route : Route} (failed : db.self ∈ phase.failed) :
    (db.readDegraded route : Loop C (List C)).Obeys (stickyProtocol C config) (Learns phase Plain)
      phase := by
  unfold DbRouter.readDegraded
  split
  · refine learns_then (plain_sync nofun nofun) fun after up extended _ => ?_
    split
    · exact asked_learns (extended.failed failed)
    · exact learns_raise
  · exact learns_raise

theorem readPrimary_learns {route : Route} (fit : Fit config db.self phase .primary route) :
    (db.readPrimary route : Loop C (List C)).Obeys (stickyProtocol C config) (Learns phase Plain)
      phase := by
  have checked : (db.sync (.healthy .primary) : Loop C Bool).Obeys (stickyProtocol C config)
      (Learns phase fun after up => up = false → db.self ∈ after.failed) phase := by
    refine learns_sync ⟨nofun, nofun, nofun, nofun, nofun⟩ (fun _ => rfl) ?_
    rintro up rfl
    exact List.mem_append_right _ List.mem_cons_self
  refine learns_then checked fun after up extended known => ?_
  cases up with
  | false => exact readDegraded_learns (known rfl)
  | true =>
    refine learns_else (asked_learns ?_) fun final err further => ?_
    · cases route with
      | sticky =>
        obtain ⟨session, own, stuck⟩ := fit
        exact ⟨session, extended.session.trans own, extended.stuck stuck⟩
      | _ => trivial
    · split
      · exact learns_raise
      · have marked : (db.sync (.markDown .primary) : Loop C Unit).Obeys (stickyProtocol C config)
            (Learns final fun last _ => db.self ∈ last.failed) final :=
          learns_sync ⟨nofun, nofun, nofun, nofun, nofun⟩ (fun _ => rfl) fun _ =>
            List.mem_append_right _ List.mem_cons_self
        exact learns_then marked fun _ _ _ failed => readDegraded_learns failed

theorem readEventual_learns (fit : Fit config db.self phase .replica .eventual) :
    (db.readEventual : Loop C (List C)).Obeys (stickyProtocol C config) (Learns phase Plain)
      phase := by
  refine learns_then (plain_sync nofun nofun) fun after up extended _ => ?_
  split
  · exact readPrimary_learns trivial
  · refine learns_else (asked_learns fun session own positive => ?_) fun final err further => ?_
    · obtain ⟨locally, shared⟩ := fit session (extended.session.symm.trans own) positive
      exact ⟨extended.local_ locally, extended.shared shared⟩
    · split
      · exact learns_then (plain_sync nofun nofun) fun _ _ _ _ => readPrimary_learns trivial
      · split
        · exact readPrimary_learns trivial
        · exact learns_raise

/-- The verdict of the sticky check is known to the phase. -/
theorem isSticky_learns (same : db.stickyTtlMs = config.stickyTtlMs)
    (own : phase.session = db.session) :
    (db.isSticky : Loop C Bool).Obeys (stickyProtocol C config)
      (Learns phase fun after sticky => if sticky then Fit config db.self after .primary .sticky
        else Fit config db.self after .replica .eventual) phase := by
  unfold DbRouter.isSticky
  split
  · next anonymous =>
    refine learns_ret fun session here _ => ?_
    cases (own.trans anonymous).symm.trans here
  · next session here =>
    split
    · next expired =>
      refine learns_ret fun other _ positive => ?_
      omega
    · have checked : (db.sync (.sticks session) : Loop C Bool).Obeys (stickyProtocol C config)
          (Learns phase fun after sticks => if sticks then session ∈ after.stuck
            else (db.self, session) ∈ after.local_) phase := by
        refine learns_sync ⟨nofun, nofun, nofun, nofun, nofun⟩ (fun _ => rfl) fun sticks => ?_
        cases sticks <;> exact List.mem_append_right _ List.mem_cons_self
      refine learns_then checked fun after sticks extended known => ?_
      cases sticks with
      | true =>
        exact learns_ret ⟨session, extended.session.trans (own.trans here), known⟩
      | false =>
        have flagged : (db.hasFlag session : Loop C (Option Bool)).Obeys (stickyProtocol C config)
            (Learns after fun final flag => if flag = some true then session ∈ final.stuck
              else (db.self, session) ∈ final.shared) after := by
          refine ⟨⟨nofun, nofun, nofun, nofun, nofun⟩, fun reply => ?_⟩
          have kept := StickyPhase.extends_next config after
            (.await db.self (.hasFlag session) : RouterCmd C) reply
          rcases reply with error | flag | flag <;> refine ⟨kept, id, fun value equal => ?_⟩ <;>
            cases equal <;> exact List.mem_append_right _ List.mem_cons_self
        refine learns_then flagged fun final flag further found => learns_ret ?_
        by_cases up : flag = some true
        · rw [if_pos up] at found
          simp only [up, decide_true, if_true]
          refine ⟨session, ?_, found⟩
          exact further.session.trans (extended.session.trans (own.trans here))
        · rw [if_neg up] at found
          simp only [up, decide_false, Bool.false_eq_true, if_false]
          intro other equal _
          rw [further.session, extended.session, own, here] at equal
          cases equal
          exact ⟨further.local_ known, found⟩

theorem read_learns (same : db.stickyTtlMs = config.stickyTtlMs)
    (own : phase.session = db.session) (consistency : Consistency) :
    (db.read consistency : Loop C (List C)).Obeys (stickyProtocol C config) (Learns phase Plain)
      phase := by
  cases consistency with
  | strong => exact readPrimary_learns trivial
  | primaryPreferred => exact readPrimary_learns trivial
  | eventual =>
    unfold DbRouter.read
    dsimp only
    split
    · exact readPrimary_learns trivial
    · refine learns_then (isSticky_learns same own) fun after sticky _ verdict => ?_
      cases sticky with
      | true => exact readPrimary_learns verdict
      | false => exact readEventual_learns verdict

theorem setFlag_obeys {session : Text} (own : phase.session = some session)
    (writes : phase.writes = true) (owed : ∀ other ∈ phase.owes, other = session) :
    (db.setFlag session config.stickyTtlMs : Loop C Unit).Obeys (stickyProtocol C config)
      (fun after _ => after.owes = []) phase := by
  refine ⟨⟨nofun, nofun, nofun, nofun, ?_⟩, fun reply => ?_⟩
  · rintro i other ttlMs ⟨⟩
    exact ⟨own, writes, rfl⟩
  · have paid : phase.owes.filter (fun owed => owed ≠ session) = [] := by
      rw [List.filter_eq_nil_iff]
      intro other member
      simp [owed other member]
    cases reply <;> exact paid

theorem rememberWrite_obeys (same : db.stickyTtlMs = config.stickyTtlMs)
    (own : phase.session = db.session) (writes : phase.writes = true) (settled : phase.owes = []) :
    (db.rememberWrite : Loop C Unit).Obeys (stickyProtocol C config)
      (fun after _ => after.owes = []) phase := by
  unfold DbRouter.rememberWrite
  split
  · exact settled
  · next session here =>
    split
    · exact settled
    · next positive =>
      rw [same] at positive ⊢
      have mine : phase.session = some session := own.trans here
      refine ⟨⟨nofun, nofun, nofun, ?_, nofun⟩, fun reply => ?_⟩
      · rintro i other ttlMs ⟨⟩
        exact ⟨mine, writes, rfl, by omega⟩
      · cases reply with
        | error error => exact settled
        | ok _ =>
          refine setFlag_obeys mine writes fun other member => ?_
          change other ∈ session :: phase.owes at member
          rw [settled] at member
          exact List.mem_singleton.mp member

/-- A request ends with every write of its session in Redis, or refused by it. -/
abbrev Settled : StickyPhase → Except RouterErr α → Prop := fun after _ => after.owes = []

theorem settled_then {program : Loop C α} {next : α → Loop C β} {middle : StickyPhase → α → Prop}
    (head : program.Obeys (stickyProtocol C config) (Learns phase middle) phase)
    (settled : phase.owes = [])
    (tail : ∀ after value, phase.Extends after → after.owes = [] →
      (next value).Obeys (stickyProtocol C config) Settled after) :
    (program.bind next).Obeys (stickyProtocol C config) Settled phase :=
  Program.obeys_bind head (fun after value ⟨extended, kept, _⟩ =>
    tail after value extended (kept settled)) fun _ _ ⟨_, kept, _⟩ => kept settled

theorem write_obeys (same : db.stickyTtlMs = config.stickyTtlMs)
    (own : phase.session = db.session) (writes : phase.writes = true) (settled : phase.owes = [])
    (change : C) :
    (db.write change : Loop C Unit).Obeys (stickyProtocol C config) Settled phase := by
  refine settled_then (plain_sync nofun nofun) settled fun after up extended none => ?_
  split
  · exact none
  · have sent {phase : StickyPhase} : (db.sync (.send .primary (.mutation change)) :
        Loop C Unit).Obeys (stickyProtocol C config) (Learns phase Plain) phase :=
      learns_sync ⟨nofun, nofun, nofun, nofun, nofun⟩ (fun _ => rfl) fun _ => trivial
    have asked : (db.ask .primary (.mutation change) : Loop C Unit).Obeys
        (stickyProtocol C config) (Learns after Plain) after :=
      learns_then sent fun _ _ _ _ => plain_await nofun
    refine settled_then (learns_else asked fun final err _ => ?_) none fun final _ further none => ?_
    · split
      · exact learns_raise
      · exact learns_then (plain_sync nofun nofun) fun _ _ _ _ => learns_raise
    · refine settled_then (plain_sync nofun nofun) none fun last _ tracked none => ?_
      have whole := (extended.trans further).trans tracked
      exact rememberWrite_obeys same (whole.session.trans own) (whole.writes.trans writes) none

theorem probeNodes_learns (replicaFirst : Bool) :
    (db.probeNodes replicaFirst : Loop C Unit).Obeys (stickyProtocol C config) (Learns phase Plain)
      phase := by
  have send {phase : StickyPhase} (node : DbNode) : (db.sync (.send node .probe) :
      Loop C Unit).Obeys (stickyProtocol C config) (Learns phase Plain) phase :=
    learns_sync ⟨nofun, nofun, nofun, nofun, nofun⟩ (fun _ => rfl) fun _ => trivial
  have probed {phase : StickyPhase} (nodes : List DbNode) : (db.probed nodes : Loop C Unit).Obeys
      (stickyProtocol C config) (Learns phase Plain) phase := by
    induction nodes generalizing phase with
    | nil => exact learns_ret trivial
    | cons node rest ih =>
      refine learns_then (learns_else (learns_then (plain_await nofun) fun _ _ _ _ =>
        plain_sync nofun nofun) fun _ err _ => ?_) fun _ _ _ _ => ih
      split
      · exact plain_sync nofun nofun
      · exact learns_ret trivial
  refine learns_then (plain_sync nofun nofun) fun _ _ _ _ => learns_then (send _) fun _ _ _ _ => ?_
  split
  · exact learns_then (send _) fun _ _ _ _ => probed _
  · exact probed _

theorem getOrSet_learns (same : db.stickyTtlMs = config.stickyTtlMs)
    (own : phase.session = db.session) (key : Text) :
    (db.getOrSet key : Loop C (List C)).Obeys (stickyProtocol C config) (Learns phase Plain)
      phase := by
  have entry : (db.getEntry key : Loop C (Except RouterErr (Option (List C)))).Obeys
      (stickyProtocol C config) (Learns phase Plain) phase :=
    learns_else (learns_then (plain_await nofun) fun _ _ _ _ => learns_ret trivial)
      fun _ _ _ => learns_ret trivial
  refine learns_then entry fun after cached extended _ => ?_
  split
  · exact read_learns same (extended.session.trans own) _
  · exact learns_ret trivial
  · refine learns_then (read_learns same (extended.session.trans own) _) fun _ data _ _ => ?_
    exact learns_then (learns_else (plain_await nofun) fun _ _ _ => learns_ret trivial)
      fun _ _ _ _ => learns_ret trivial

/-- Where a task begins. -/
def begins : Option (Task C) → StickyPhase
  | some (.serve _ session (.write _)) => ⟨session, true, [], [], [], [], []⟩
  | some (.serve _ session _) => ⟨session, false, [], [], [], [], []⟩
  | _ => ⟨none, false, [], [], [], [], []⟩

theorem task_obeys (config : RouterConfig) (task : Task C) :
    (task.program config).Obeys (stickyProtocol C config) Settled (begins (some task)) := by
  cases task with
  | advance ms =>
    exact ⟨⟨nofun, nofun, nofun, nofun, nofun⟩, fun reply => by cases reply <;> rfl⟩
  | replay => exact ⟨⟨nofun, nofun, nofun, nofun, nofun⟩, fun reply => by cases reply <;> rfl⟩
  | serve self session call =>
    let db := config.router self session
    have arrives {phase : StickyPhase} : (db.await .request : Loop C Unit).Obeys
        (stickyProtocol C config) (Learns phase Plain) phase := plain_await nofun
    have begun : (begins (some (Task.serve self session call))).owes = [] ∧
        (begins (some (Task.serve self session call))).session = session := by
      cases call <;> exact ⟨rfl, rfl⟩
    refine settled_then arrives begun.1 fun after _ extended none => ?_
    have own : after.session = db.session := extended.session.trans begun.2
    cases call with
    | write change =>
      have writes : after.writes = true := extended.writes
      exact Program.obeys_bind (@write_obeys C db config after rfl own writes none change)
        (fun _ _ reached => reached) fun _ _ reached => reached
    | read consistency =>
      refine settled_then (@read_learns C db config after rfl own consistency) none fun _ _ _ reached => ?_
      exact reached
    | probe replicaFirst =>
      refine settled_then (@probeNodes_learns C db config after replicaFirst) none fun _ _ _ reached => ?_
      exact reached
    | getOrSet key =>
      refine settled_then (@getOrSet_learns C db config after rfl own key) none fun _ _ _ reached => ?_
      exact reached

theorem tasks_obey (config : RouterConfig) (cluster : Cluster C) (tasks : List (Task C)) :
    (config.start cluster tasks).Obeys (stickyProtocol C config) (fun _ => Settled)
      fun i => begins tasks[i]? := by
  intro i program found
  simp only [RouterConfig.start, List.getElem?_map] at found
  obtain ⟨task, here, rfl⟩ := Option.map_eq_some_iff.mp found
  dsimp only
  rw [here]
  exact task_obeys config task

section Exec
variable {cluster : Cluster C} {cmd : RouterCmd C}

theorem clock_exec : cluster.clock ≤ (Cluster.exec cmd cluster).2.clock := by
  cases cmd with
  | sync i op => cases op <;> exact Nat.le_refl _
  | await i op =>
    cases op with
    | answer node call => cases call <;> exact Nat.le_refl _
    | _ => exact Nat.le_refl _
  | advance ms => exact Nat.le_add_right _ _
  | replay => exact Nat.le_refl _

/-- What a command does to the entry of a session in a map. -/
theorem local_exec (i : Nat) (session : Text) :
    (((Cluster.exec cmd cluster).2.instances i).localSticky session =
      (cluster.instances i).localSticky session) ∨
    (∃ ttlMs, cmd = .sync i (.setSticky session ttlMs) ∧
      ((Cluster.exec cmd cluster).2.instances i).localSticky session =
        some (cluster.clock + ttlMs)) ∨
    ((Cluster.exec cmd cluster).2.instances i).localSticky session =
      ((cluster.instances i).localSticky session).filter fun localUntil =>
        !decide (localUntil ≤ (cluster.clock : Instant)) := by
  cases cmd with
  | sync j op =>
    by_cases here : i = j
    · subst here
      cases op with
      | setSticky other ttlMs =>
        by_cases same : session = other
        · subst same
          refine Or.inr (Or.inl ⟨ttlMs, rfl, ?_⟩)
          simp only [Cluster.exec, Cluster.execSync, Cluster.setInstance, Function.update_self,
            Instance.setSticky]
        · apply Or.inl
          simp only [Cluster.exec, Cluster.execSync, Cluster.setInstance, Function.update_self,
            Instance.setSticky, Function.update_of_ne same]
      | purge =>
        refine Or.inr (Or.inr ?_)
        simp only [Cluster.exec, Cluster.execSync, Cluster.setInstance, Function.update_self,
          Instance.purge]
      | markDown node | markUp node =>
        apply Or.inl
        simp only [Cluster.exec, Cluster.execSync, Cluster.setInstance, Function.update_self,
          Instance.mark]
      | healthy | sticks | track | send => exact Or.inl rfl
    · apply Or.inl
      cases op with
      | setSticky | purge | markDown | markUp =>
        simp only [Cluster.exec, Cluster.execSync, Cluster.setInstance, Function.update_of_ne here]
      | healthy | sticks | track | send => rfl
  | await j op =>
    apply Or.inl
    cases op with
    | answer node call => cases call <;> rfl
    | _ => rfl
  | advance ms => exact Or.inl rfl
  | replay => exact Or.inl rfl

theorem flags_exec (session : Text) :
    (Cluster.exec cmd cluster).2.flags session = cluster.flags session ∨
    ∃ i ttlMs, cmd = .await i (.setFlag session ttlMs) ∧
      (Cluster.exec cmd cluster).2.flags session = some (cluster.clock + ttlMs) := by
  cases cmd with
  | sync j op => cases op <;> exact Or.inl rfl
  | await j op =>
    cases op with
    | setFlag other ttlMs =>
      by_cases same : session = other
      · subst same
        exact Or.inr ⟨j, ttlMs, rfl, Function.update_self ..⟩
      · exact Or.inl (Function.update_of_ne same ..)
    | answer node call => cases call <;> exact Or.inl rfl
    | _ => exact Or.inl rfl
  | advance ms => exact Or.inl rfl
  | replay => exact Or.inl rfl

end Exec

section Kept
variable {t : Nat} {i : Nat} {session : Text} {redis : Fault RouterErr → Prop}

/-- A write of the session at time `t` is in the map of the instance until its TTL ends. -/
structure KeptLocally (config : RouterConfig) (t i : Nat) (session : Text) (cluster : Cluster C) :
    Prop where
  past : t ≤ cluster.clock
  kept : (cluster.clock : Int) < t + config.stickyTtlMs →
    ∃ localUntil : Int, (cluster.instances i).localSticky session = some localUntil ∧
      t + config.stickyTtlMs ≤ localUntil

structure KeptShared (config : RouterConfig) (t : Nat) (session : Text) (cluster : Cluster C) :
    Prop where
  past : t ≤ cluster.clock
  kept : (cluster.clock : Int) < t + config.stickyTtlMs →
    ∃ expiry : Int, cluster.flags session = some expiry ∧ t + config.stickyTtlMs ≤ expiry

theorem local_kept {cluster : Cluster C} {cmd : RouterCmd C}
    (kept : KeptLocally config t i session cluster)
    (ttl : ∀ ttlMs, cmd = .sync i (.setSticky session ttlMs) → ttlMs = config.stickyTtlMs) :
    KeptLocally config t i session (Cluster.exec cmd cluster).2 := by
  have later := @clock_exec C cluster cmd
  refine ⟨Nat.le_trans kept.past later, fun before => ?_⟩
  have earlier : (cluster.clock : Int) < t + config.stickyTtlMs := by omega
  obtain ⟨localUntil, here, reaches⟩ := kept.kept earlier
  rcases local_exec i session with same | ⟨ttlMs, sets, now⟩ | purged
  · exact ⟨localUntil, same.trans here, reaches⟩
  · have past := kept.past
    rw [ttl ttlMs sets] at now
    exact ⟨_, now, by omega⟩
  · refine ⟨localUntil, ?_, reaches⟩
    rw [purged, here, Option.filter_some, if_pos]
    have current : ¬ (localUntil : Int) ≤ (cluster.clock : Int) := by omega
    rw [decide_eq_false current]
    rfl

theorem shared_kept {cluster : Cluster C} {cmd : RouterCmd C}
    (kept : KeptShared config t session cluster)
    (ttl : ∀ j ttlMs, cmd = .await j (.setFlag session ttlMs) → ttlMs = config.stickyTtlMs) :
    KeptShared config t session (Cluster.exec cmd cluster).2 := by
  have later := @clock_exec C cluster cmd
  refine ⟨Nat.le_trans kept.past later, fun before => ?_⟩
  obtain ⟨expiry, here, reaches⟩ := kept.kept (by omega)
  rcases flags_exec session with same | ⟨j, ttlMs, sets, now⟩
  · exact ⟨expiry, same.trans here, reaches⟩
  · have past := kept.past
    rw [ttl j ttlMs sets] at now
    exact ⟨_, now, by omega⟩

theorem redis_answers {move : RouterMove C} (working : ∀ fault, redis fault → fault = .none)
    (step : Pool.Step Cluster.exec (RouterFaults redis) move.before move.event move.after)
    (isRedis : move.event.cmd.isRedis = true) : move.event.fault = .none := by
  obtain ⟨before, ⟨client, cmd, fault⟩, after⟩ := move
  obtain ⟨permitted, _⟩ := step.state_eq
  cases permitted with
  | answered => rfl
  | refused => cases isRedis
  | lost => cases isRedis
  | redis _ struck => exact working _ struck

theorem of_deniedLocally {cmd : RouterCmd C} {reply : Except RouterErr cmd.Answer}
    (denied : cmd.deniedLocally reply = some (i, session)) : cmd = .sync i (.sticks session) := by
  unfold RouterCmd.deniedLocally at denied
  split at denied
  · split at denied <;> cases denied
    rfl
  · cases denied

theorem of_deniedByRedis {cmd : RouterCmd C} {reply : Except RouterErr cmd.Answer}
    (denied : cmd.deniedByRedis reply = some (i, session)) : cmd = .await i (.hasFlag session) := by
  unfold RouterCmd.deniedByRedis at denied
  split at denied
  · split at denied <;> cases denied
    rfl
  · cases denied
    rfl
  · cases denied

/-- While the map keeps the write, the local check finds it. -/
theorem local_found {move : RouterMove C}
    (step : Pool.Step Cluster.exec (RouterFaults redis) move.before move.event move.after)
    (kept : KeptLocally config t i session move.before.state)
    (soon : (move.before.state.clock : Int) < t + config.stickyTtlMs) :
    move.event.cmd.deniedLocally (Pool.reply Cluster.exec move) ≠ some (i, session) := by
  intro denied
  obtain ⟨before, ⟨client, cmd, fault⟩, after⟩ := move
  obtain rfl : cmd = .sync i (.sticks session) := of_deniedLocally denied
  obtain ⟨plain, _⟩ := sync_effect step rfl
  obtain rfl : fault = .none := plain
  obtain ⟨localUntil, here, reaches⟩ := kept.kept soon
  have sticks : (before.state.instances i).sticks session before.state.clock = true := by
    dsimp only at here soon
    have later : (localUntil : Int) > (before.state.clock : Int) := by omega
    have nonzero : (localUntil : Int) ≠ 0 := by omega
    rw [Instance.sticks, here]
    exact Bool.and_eq_true_iff.mpr ⟨decide_eq_true nonzero, decide_eq_true later⟩
  change (if (before.state.instances i).sticks session before.state.clock = true then none
    else some (i, session)) = some (i, session) at denied
  rw [if_pos sticks] at denied
  cases denied

theorem shared_found {move : RouterMove C} (working : ∀ fault, redis fault → fault = .none)
    (step : Pool.Step Cluster.exec (RouterFaults redis) move.before move.event move.after)
    (kept : KeptShared config t session move.before.state)
    (soon : (move.before.state.clock : Int) < t + config.stickyTtlMs) :
    move.event.cmd.deniedByRedis (Pool.reply Cluster.exec move) ≠ some (i, session) := by
  intro denied
  obtain ⟨before, ⟨client, cmd, fault⟩, after⟩ := move
  obtain rfl : cmd = .await i (.hasFlag session) := of_deniedByRedis denied
  obtain rfl : fault = .none := redis_answers working step rfl
  obtain ⟨expiry, here, reaches⟩ := kept.kept soon
  have flagged : ((before.state.flags session).any fun expiry =>
      decide ((before.state.clock : Instant) < expiry)) = true := by
    dsimp only at here soon
    have later : (before.state.clock : Int) < (expiry : Int) := by omega
    rw [here]
    exact decide_eq_true later
  change (if ((before.state.flags session).any fun expiry =>
    decide ((before.state.clock : Instant) < expiry)) = true then none
    else some (i, session)) = some (i, session) at denied
  rw [if_pos flagged] at denied
  cases denied

end Kept
section Run
variable {redis : Fault RouterErr → Prop} {cluster : Cluster C} {tasks : List (Task C)}
  {trace : List (RouterMove C)} {last : Tasks C}

abbrev phaseAfter (config : RouterConfig) (tasks : List (Task C)) (trace : List (RouterMove C))
    (client : Nat) : StickyPhase :=
  Pool.phases (stickyProtocol C config) Cluster.exec (fun i => begins tasks[i]?) trace client

theorem run_stickyAllows (run : Run (Pool.Step Cluster.exec (RouterFaults redis))
    (config.start cluster tasks) trace last) {early late : List (RouterMove C)}
    {move : RouterMove C} (split : trace = early ++ move :: late) :
    StickyAllows config (phaseAfter config tasks early move.event.client) move.event.cmd :=
  Pool.run_allows (tasks_obey config cluster tasks) run split

theorem phase_session (config : RouterConfig) (tasks : List (Task C)) (trace : List (RouterMove C))
    (client : Nat) :
    (phaseAfter config tasks trace client).session = (begins tasks[client]?).session ∧
      (phaseAfter config tasks trace client).writes = (begins tasks[client]?).writes :=
  Pool.phases_rule (stickyProtocol C config) (fun phase =>
    phase.session = (begins tasks[client]?).session ∧
      phase.writes = (begins tasks[client]?).writes) ⟨rfl, rfl⟩ trace fun _ _ _ _ kept => kept

/-- The TTL of the configuration is the only one that writes use. -/
theorem set_ttl (run : Run (Pool.Step Cluster.exec (RouterFaults redis))
    (config.start cluster tasks) trace last) {move : RouterMove C} (member : move ∈ trace) :
    (∀ i session ttlMs, move.event.cmd = .sync i (.setSticky session ttlMs) →
      ttlMs = config.stickyTtlMs) ∧
    (∀ i session ttlMs, move.event.cmd = .await i (.setFlag session ttlMs) →
      ttlMs = config.stickyTtlMs) := by
  obtain ⟨early, late, split⟩ := List.append_of_mem member
  have allows := run_stickyAllows run split
  exact ⟨fun i session ttlMs sets => (allows.setSticky i session ttlMs sets).2.2.1,
    fun i session ttlMs sets => (allows.setFlag i session ttlMs sets).2.2⟩

/-- The write of the record is in the map of its instance, until its TTL ends. -/
theorem recorded_locally (run : Run (Pool.Step Cluster.exec (RouterFaults redis))
    (config.start cluster tasks) trace last) {early late : List (RouterMove C)}
    {record : RouterMove C} (split : trace = early ++ record :: late) {i : Nat} {session : Text}
    {ttlMs : Int} (records : record.event.cmd = .sync i (.setSticky session ttlMs)) :
    (∀ move ∈ late, KeptLocally config record.before.state.clock i session move.before.state) ∧
      KeptLocally config record.before.state.clock i session last.state := by
  have member : record ∈ trace := split ▸ List.mem_append_right _ List.mem_cons_self
  refine Pool.kept_since run split ?_ fun move listed kept => ?_
  · rw [(sync_effect (run.steps record member) records).2, (set_ttl run member).1 i session ttlMs
      records]
    refine ⟨Nat.le_refl _, fun _ => ⟨record.before.state.clock + config.stickyTtlMs, ?_, Int.le_refl _⟩⟩
    simp only [Cluster.execSync, Cluster.setInstance, Function.update_self, Instance.setSticky]
  · have here : move ∈ trace := split ▸ List.mem_append_right _ (List.mem_cons_of_mem _ listed)
    exact local_kept kept fun ttlMs sets => (set_ttl run here).1 i session ttlMs sets

/-- Once a writer has set its flag, Redis has it until the TTL of the write ends. -/
theorem flagged_shared (run : Run (Pool.Step Cluster.exec (RouterFaults redis))
    (config.start cluster tasks) trace last) (working : ∀ fault, redis fault → fault = .none)
    {early late : List (RouterMove C)} {flag : RouterMove C}
    (split : trace = early ++ flag :: late) {t j : Nat} {session : Text} {ttlMs : Int}
    (flags : flag.event.cmd = .await j (.setFlag session ttlMs))
    (past : t ≤ flag.before.state.clock) :
    (∀ move ∈ late, KeptShared config t session move.before.state) ∧
      KeptShared config t session last.state := by
  have member : flag ∈ trace := split ▸ List.mem_append_right _ List.mem_cons_self
  refine Pool.kept_since run split ?_ fun move listed kept => ?_
  · have step := run.steps flag member
    have answered := redis_answers working step (by rw [flags]; rfl)
    have ttl := (set_ttl run member).2 j session ttlMs flags
    obtain ⟨before, ⟨client, cmd, fault⟩, after⟩ := flag
    obtain rfl : fault = .none := answered
    obtain rfl : cmd = .await j (.setFlag session ttlMs) := flags
    rw [show after.state = _ from step.state_eq.2]
    refine ⟨past, fun _ => ⟨before.state.clock + ttlMs, Function.update_self .., ?_⟩⟩
    dsimp only at past
    omega
  · have here : move ∈ trace := split ▸ List.mem_append_right _ (List.mem_cons_of_mem _ listed)
    exact shared_kept kept fun j ttlMs sets => (set_ttl run here).2 j session ttlMs sets

theorem owing_keeps {owes : List Text} {session : Text} {cmd : RouterCmd C}
    {reply : Except RouterErr cmd.Answer} (member : session ∈ owes)
    (unset : ∀ j ttlMs, cmd ≠ .await j (.setFlag session ttlMs)) :
    session ∈ cmd.owing owes reply := by
  unfold RouterCmd.owing
  split
  · exact List.mem_cons_of_mem _ member
  · next j other ttlMs _ =>
    refine List.mem_filter.mpr ⟨member, decide_eq_true ?_⟩
    rintro rfl
    exact unset j ttlMs rfl
  · exact member

theorem owing_recorded {owes : List Text} {record : RouterMove C} {i : Nat} {session : Text}
    {ttlMs : Int} (records : record.event.cmd = .sync i (.setSticky session ttlMs))
    (plain : record.event.fault = .none) :
    session ∈ record.event.cmd.owing owes (Pool.reply Cluster.exec record) := by
  obtain ⟨before, ⟨client, cmd, fault⟩, after⟩ := record
  obtain rfl : fault = .none := plain
  obtain rfl : cmd = .sync i (.setSticky session ttlMs) := records
  exact List.mem_cons_self

/-- A writer that has returned has sent its flag to Redis. -/
theorem returned_flagged (run : Run (Pool.Step Cluster.exec (RouterFaults redis))
    (config.start cluster tasks) trace last) {early late : List (RouterMove C)}
    {record : RouterMove C} (split : trace = early ++ record :: late) {i : Nat} {session : Text}
    {ttlMs : Int} (records : record.event.cmd = .sync i (.setSticky session ttlMs))
    {result : Except RouterErr (Option (List C))}
    (returned : last.clients[record.event.client]? = some (.ofExcept result)) :
    ∃ flag ∈ late, ∃ j ttlMs, flag.event.cmd = .await j (.setFlag session ttlMs) := by
  by_contra never
  have settled := Pool.run_ends (tasks_obey config cluster tasks) run returned
  have owes : session ∈ (phaseAfter config tasks trace record.event.client).owes := by
    rw [phaseAfter, split, List.append_cons, Pool.phases_append]
    refine Pool.phases_rule (stickyProtocol C config) (fun phase => session ∈ phase.owes) ?_ late ?_
    · rw [Pool.phases_concat, Pool.advance, Function.update_self]
      have step := run.steps record (split ▸ List.mem_append_right _ List.mem_cons_self)
      exact owing_recorded records (sync_effect step records).1
    · exact fun move member _ phase here =>
        owing_keeps here fun j ttlMs flags => never ⟨move, member, j, ttlMs, flags⟩
  rw [show (phaseAfter config tasks trace record.event.client).owes = [] from settled] at owes
  cases owes

/-- An eventual read whose checks find the session asks the replica only when the primary failed. -/
theorem replica_asked (run : Run (Pool.Step Cluster.exec (RouterFaults redis))
    (config.start cluster tasks) trace last) {early late : List (RouterMove C)}
    {move : RouterMove C} (split : trace = early ++ move :: late) {j : Nat} {session : Text}
    (reads : tasks[move.event.client]? = some (.serve j (some session) (.read .eventual)))
    (positive : 0 < config.stickyTtlMs) {call : NodeCall C}
    (sends : move.event.cmd = .sync j (.send .replica call))
    (found : (∀ check ∈ early, check.event.client = move.event.client →
        check.event.cmd.deniedLocally (Pool.reply Cluster.exec check) ≠ some (j, session)) ∨
      ∀ check ∈ early, check.event.client = move.event.client →
        check.event.cmd.deniedByRedis (Pool.reply Cluster.exec check) ≠ some (j, session)) :
    call = .query .degraded ∧ ∃ failure ∈ early, failure.event.client = move.event.client ∧
      failure.event.cmd.primaryFailed (Pool.reply Cluster.exec failure) = some j := by
  have member : move ∈ trace := split ▸ List.mem_append_right _ List.mem_cons_self
  obtain ⟨task, here, issued⟩ := Pool.run_issues (uses_tasks config cluster tasks) run move member
  cases reads.symm.trans here
  have asked := issued.send _ _ sends
  have allows := run_stickyAllows run split
  have blank : begins tasks[move.event.client]? = ⟨some session, false, [], [], [], [], []⟩ := by
    rw [reads]
    rfl
  cases call with
  | mutation change => cases asked
  | probe => cases asked
  | query route =>
    rcases asked rfl with rfl | rfl
    · have own := (phase_session config tasks early move.event.client).1
      rw [blank] at own
      obtain ⟨locally, shared⟩ := allows.eventual j sends session own positive
      obtain ⟨first, firstIn, firstOwn, firstDenied⟩ := Pool.learned (stickyProtocol C config)
        StickyPhase.local_ RouterCmd.deniedLocally (fun _ _ _ => rfl) (by rw [blank]) locally
      obtain ⟨second, secondIn, secondOwn, secondDenied⟩ := Pool.learned (stickyProtocol C config)
        StickyPhase.shared RouterCmd.deniedByRedis (fun _ _ _ => rfl) (by rw [blank]) shared
      rcases found with found | found
      · exact absurd firstDenied (found first firstIn firstOwn)
      · exact absurd secondDenied (found second secondIn secondOwn)
    · obtain ⟨failure, failureIn, failureOwn, failed⟩ := Pool.learned (stickyProtocol C config)
        StickyPhase.failed RouterCmd.primaryFailed (fun _ _ _ => rfl) (by rw [blank])
        (allows.degraded j sends)
      exact ⟨rfl, failure, failureIn, failureOwn, failed⟩

/-- No map and no flag has the session. -/
def Unknown (session : Text) (cluster : Cluster C) : Prop :=
  (∀ i, (cluster.instances i).localSticky session = none) ∧ cluster.flags session = none

/-- Nobody writes in the session. -/
def Unwritten (tasks : List (Task C)) (session : Text) : Prop :=
  ∀ task ∈ tasks, ∀ i change, task ≠ .serve i (some session) (.write change)

theorem begins_writes {task : Option (Task C)} {session : Text}
    (own : (begins task).session = some session) (writes : (begins task).writes = true) :
    ∃ i change, task = some (.serve i (some session) (.write change)) := by
  cases task with
  | none => cases own
  | some task =>
    cases task with
    | serve i other call =>
      cases call with
      | write change =>
        obtain rfl : other = some session := own
        exact ⟨i, change, rfl⟩
      | read | probe | getOrSet => cases writes
    | advance | replay => cases own

theorem stays_unknown (run : Run (Pool.Step Cluster.exec (RouterFaults redis))
    (config.start cluster tasks) trace last) {session : Text} (unwritten : Unwritten tasks session)
    (unknown : Unknown session cluster) : ∀ move ∈ trace, Unknown session move.before.state := by
  have unset (move : RouterMove C) (member : move ∈ trace) :
      (∀ i ttlMs, move.event.cmd ≠ .sync i (.setSticky session ttlMs)) ∧
        ∀ i ttlMs, move.event.cmd ≠ .await i (.setFlag session ttlMs) := by
    obtain ⟨early, late, split⟩ := List.append_of_mem member
    have allows := run_stickyAllows run split
    have same := phase_session config tasks early move.event.client
    have refuse (own : (phaseAfter config tasks early move.event.client).session = some session)
        (writes : (phaseAfter config tasks early move.event.client).writes = true) : False := by
      rw [same.1] at own
      rw [same.2] at writes
      obtain ⟨i, change, task⟩ := begins_writes own writes
      exact unwritten _ (List.mem_of_getElem? task) i change rfl
    constructor
    · intro i ttlMs sets
      have set := allows.setSticky i session ttlMs sets
      exact refuse set.1 set.2.1
    · intro i ttlMs sets
      have set := allows.setFlag i session ttlMs sets
      exact refuse set.1 set.2.1
  have keeps : ∀ move ∈ trace, Unknown session move.before.state →
      Unknown session move.after.state := by
    intro move member ⟨locally, shared⟩
    refine (run.steps move member).keeps ⟨locally, shared⟩ ⟨fun i => ?_, ?_⟩
    · rcases local_exec i session with same | ⟨ttlMs, sets, _⟩ | purged
      · rw [same, locally i]
      · exact absurd sets ((unset move member).1 i ttlMs)
      · rw [purged, locally i]
        rfl
    · rcases flags_exec session with same | ⟨i, ttlMs, sets, _⟩
      · rw [same, shared]
      · exact absurd sets ((unset move member).2 i ttlMs)
  intro move member
  obtain ⟨early, late, split⟩ := List.append_of_mem member
  refine ((run.cut split).carries (fun pool => Unknown session pool.state) unknown
    fun other inside => ?_).2
  exact keeps other (split ▸ List.mem_append_left _ inside)

theorem of_affirmed {cmd : RouterCmd C} {reply : Except RouterErr cmd.Answer} {session : Text}
    (affirmed : cmd.affirmed reply = some session) :
    ∃ i, cmd = .sync i (.sticks session) ∨ cmd = .await i (.hasFlag session) := by
  unfold RouterCmd.affirmed at affirmed
  split at affirmed
  · next i other here =>
    split at affirmed <;> cases affirmed
    exact ⟨i, Or.inl rfl⟩
  · next i other here =>
    split at affirmed <;> cases affirmed
    exact ⟨i, Or.inr rfl⟩
  · cases affirmed

/-- An unknown session is not found. -/
theorem unknown_unaffirmed {move : RouterMove C} {session : Text}
    (unknown : Unknown session move.before.state) :
    move.event.cmd.affirmed (Pool.reply Cluster.exec move) ≠ some session := by
  intro affirmed
  obtain ⟨before, ⟨client, cmd, fault⟩, after⟩ := move
  obtain ⟨locally, shared⟩ := unknown
  obtain ⟨i, same⟩ := of_affirmed affirmed
  dsimp only at same locally shared
  rcases same with rfl | rfl
  · cases fault with
    | none =>
      have absent : (before.state.instances i).sticks session before.state.clock = false := by
        rw [Instance.sticks, locally i]
      change (if (before.state.instances i).sticks session before.state.clock = true then
        some session else none) = some session at affirmed
      rw [absent] at affirmed
      cases affirmed
    | refused error => cases affirmed
    | lost error => cases affirmed
  · cases fault with
    | none =>
      change (if ((before.state.flags session).any fun expiry =>
        decide ((before.state.clock : Instant) < expiry)) = true then some session else none) =
          some session at affirmed
      rw [shared] at affirmed
      cases affirmed
    | refused error => cases affirmed
    | lost error => cases affirmed

end Run
end Sticky

section Run
variable {cluster : Cluster C} {tasks : List (Task C)}

/-- Whether the command is part of a sticky check. -/
def RouterCmd.checks : RouterCmd C → Prop
  | .sync _ (.sticks _) | .await _ (.hasFlag _) => True
  | _ => False

/-- Reads after a write of their session. While the TTL of a write that has returned lasts, an
eventual read of its session goes to the replica only when the primary has failed, if Redis works
or the read is on the instance that accepted the write. A session without writes never sticks. -/
theorem reads_own_writes (config : RouterConfig) (cluster : Cluster C) (tasks : List (Task C))
    (redis : Fault RouterErr → Prop) {before after : List (RouterMove C)} {mid last : Tasks C}
    (first : RouterRun redis (config.start cluster tasks) before mid)
    (second : RouterRun redis mid after last) :
    (∀ record ∈ before, ∀ i session ttlMs result,
      record.event.cmd = .sync i (.setSticky session ttlMs) →
      mid.clients[record.event.client]? = some (.ofExcept result) →
      ∀ reader j, tasks[reader]? = some (.serve j (some session) (.read .eventual)) →
      (∀ move ∈ before, move.event.client = reader → ¬ move.event.cmd.checks) →
      (∀ move ∈ after, move.event.client = reader → move.event.cmd.checks →
        (move.before.state.clock : Int) < record.before.state.clock + config.stickyTtlMs) →
      (∀ fault, redis fault → fault = .none) ∨ j = i →
      ∀ early move late call, before ++ after = early ++ move :: late →
      move.event.client = reader → move.event.cmd = .sync j (.send .replica call) →
      call = .query .degraded ∧ ∃ failure ∈ early, failure.event.client = reader ∧
        failure.event.cmd.primaryFailed (Pool.reply Cluster.exec failure) = some j) ∧
    ∀ session, Sticky.Unknown session cluster → Sticky.Unwritten tasks session →
      ∀ move ∈ before ++ after, ∀ i call,
      tasks[move.event.client]? = some (.serve i (some session) call) → ∀ j node,
      move.event.cmd ≠ .sync j (.send node (.query .sticky)) := by
  have whole := EventLoop.run_pool (first.append second)
  have early := EventLoop.run_pool first
  constructor
  · rintro record recorded i session ttlMs result records returned _ j reads unchecked soon served
      prior move late call split rfl sends
    obtain ⟨begun, rest, cut⟩ := List.append_of_mem recorded
    have place : before ++ after = begun ++ record :: (rest ++ after) := by simp [cut]
    obtain ⟨locally, _⟩ := Sticky.recorded_locally whole place records
    obtain ⟨_, _, ttl, positive⟩ := (Sticky.run_stickyAllows whole place).setSticky i session ttlMs
      records
    rw [ttl] at positive
    -- every check of the reader comes after the write has returned, and before its TTL ends
    have timely (check : RouterMove C) (listed : check ∈ prior)
        (mine : check.event.client = move.event.client) (checks : check.event.cmd.checks) :
        check ∈ after ∧ (check.before.state.clock : Int) <
          record.before.state.clock + config.stickyTtlMs := by
      have inside : check ∈ before ++ after := split ▸ List.mem_append_left _ listed
      have later := (List.mem_append.mp inside).resolve_left fun early =>
        unchecked check early mine checks
      exact ⟨later, soon check later mine checks⟩
    refine Sticky.replica_asked whole split reads positive sends ?_
    rcases served with working | rfl
    · obtain ⟨flag, flagged, k, flagTtl, flags⟩ :=
        Sticky.returned_flagged early cut records returned
      obtain ⟨between, since, cutFlag⟩ := List.append_of_mem flagged
      have placeFlag : before ++ after =
          (begun ++ record :: between) ++ flag :: (since ++ after) := by simp [cut, cutFlag]
      have past := (locally flag (List.mem_append_left _ flagged)).past
      obtain ⟨shared, _⟩ := Sticky.flagged_shared whole working placeFlag flags past
      refine Or.inr fun check listed mine denied => ?_
      have checks : check.event.cmd.checks := by
        rw [Sticky.of_deniedByRedis denied]
        trivial
      obtain ⟨later, inTime⟩ := timely check listed mine checks
      have step := whole.steps check (List.mem_append_right _ later)
      exact Sticky.shared_found working step (shared check (List.mem_append_right _ later)) inTime
        denied
    · refine Or.inl fun check listed mine denied => ?_
      have checks : check.event.cmd.checks := by
        rw [Sticky.of_deniedLocally denied]
        trivial
      obtain ⟨later, inTime⟩ := timely check listed mine checks
      have step := whole.steps check (List.mem_append_right _ later)
      exact Sticky.local_found step (locally check (List.mem_append_right _ later)) inTime denied
  · intro session unknown unwritten move member i call serves j node sends
    obtain ⟨prior, late, split⟩ := List.append_of_mem member
    obtain ⟨other, own, stuck⟩ := (Sticky.run_stickyAllows whole split).sticky j node sends
    have blank : (Sticky.begins tasks[move.event.client]?).stuck = [] ∧
        (Sticky.begins tasks[move.event.client]?).session = some session := by
      rw [serves]
      cases call <;> exact ⟨rfl, rfl⟩
    rw [(Sticky.phase_session config tasks prior move.event.client).1, blank.2] at own
    cases own
    obtain ⟨check, listed, _, affirmed⟩ := Pool.learned (stickyProtocol C config)
      StickyPhase.stuck RouterCmd.affirmed (fun _ _ _ => rfl) blank.1 stuck
    have inside : check ∈ before ++ after := split ▸ List.mem_append_left _ listed
    exact Sticky.unknown_unaffirmed (Sticky.stays_unknown whole unwritten unknown check inside)
      affirmed

end Run

def alice : Text := text "alice"

/-- A write on one instance, and a read of its session on the other. -/
def writtenThenRead : List (Task Nat) :=
  [.serve 0 (some alice) (.write 7), .serve 1 (some alice) (.read .eventual)]

def wrote : List (RouterMove Nat) × Tasks Nat :=
  withReplica.record writtenThenRead (Pool.faultless (List.replicate 7 0))

def readBack : List (RouterMove Nat) × Tasks Nat :=
  wrote.2.record Cluster.exec (Pool.faultless (List.replicate 7 1))

def RouterCmd.setsSticky (session : Text) (ttlMs : Int) : RouterCmd C → Bool
  | .sync _ (.setSticky other otherTtl) => decide (other = session ∧ otherTtl = ttlMs)
  | _ => false

theorem RouterCmd.of_setsSticky {session : Text} {ttlMs : Int} {cmd : RouterCmd C}
    (sets : cmd.setsSticky session ttlMs = true) : ∃ i, cmd = .sync i (.setSticky session ttlMs) := by
  unfold RouterCmd.setsSticky at sets
  split at sets
  · next i other otherTtl =>
    obtain ⟨rfl, rfl⟩ := of_decide_eq_true sets
    exact ⟨i, rfl⟩
  · cases sets

/-- The replica has applied nothing, and the read sees the write. -/
theorem reads_own_writes_alice : ∃ before after mid last,
    RouterRun (· = .none) (withReplica.start (.init true) writtenThenRead) before mid ∧
    RouterRun (· = .none) mid after last ∧ last.state.applied = [] ∧
    last.clients[1]? = some (.ret (some [7])) ∧
    ∀ early move late call, before ++ after = early ++ move :: late → move.event.client = 1 →
      move.event.cmd = .sync 1 (.send .replica call) → call = .query .degraded := by
  have first := run_recorded _ _ (by decide +kernel :
    ∀ move ∈ wrote.1, RouterMove.admissible move = true)
  have second := run_recorded _ _ (by decide +kernel :
    ∀ move ∈ readBack.1, RouterMove.admissible move = true)
  obtain ⟨record, recorded, sets⟩ := List.any_eq_true.mp (by decide +kernel :
    wrote.1.any (fun move => move.event.cmd.setsSticky alice 5000) = true)
  obtain ⟨i, records⟩ := RouterCmd.of_setsSticky sets
  have writer := (by decide +kernel : ∀ move ∈ wrote.1, move.event.client = 0)
  have clock := (by decide +kernel : ∀ move ∈ readBack.1, move.before.state.clock = 0)
  have returned : wrote.2.clients[0]? = some (.ofExcept (.ok none)) :=
    answered?_eq (by decide +kernel)
  have answered : readBack.2.clients[1]? = some (.ret (some [7])) := answered?_eq (by decide +kernel)
  refine ⟨_, _, _, _, first, second, by decide +kernel, answered, ?_⟩
  intro early move late call split mine sends
  refine ((reads_own_writes withReplica _ writtenThenRead _ first second).1 record recorded i alice
    5000 (.ok none) records ?_ 1 1 rfl ?_ ?_ (Or.inl fun _ none => none) early move late call split mine
    sends).1
  · rw [writer record recorded]
    exact returned
  · intro move member reader
    cases (writer move member).symm.trans reader
  · intro move member _ _
    rw [clock move member]
    have bound : (0 : Int) < record.before.state.clock + 5000 := by omega
    exact bound

end HotelBooking
