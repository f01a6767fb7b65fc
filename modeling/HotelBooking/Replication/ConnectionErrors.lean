import HotelBooking.Effect.Ensures
import HotelBooking.Replication.DbRouter

/-! Connection errors inside one call of the router: which of them the caller sees, and which
nodes are flagged for them. -/
namespace HotelBooking
open Effect
variable {C : Type}

/-- What becomes of the queries of a call: the error of each node, and whether Redis answers. -/
structure Outcomes where
  error : DbNode → Option PrismaError
  redis : Bool

namespace Outcomes
variable (outcomes : Outcomes)

/-- The node fails with a connection error. -/
def Unreachable (node : DbNode) : Prop := ∃ err ∈ outcomes.error node, err.isConnectionError = true

/-- A query that fails may have had its effect or not. -/
def permits : Policy (routerSignature C) RouterErr (Cluster C) := fun _ cmd fault =>
  match cmd with
  | .await _ (.answer node _) =>
    match outcomes.error node with
    | none => fault = .none
    | some err => fault = .refused (.prisma err) ∨ fault = .lost (.prisma err)
  | cmd => fault = .none ↔ (cmd.isRedis = false ∨ outcomes.redis = true)

/-- Each command meets a fault of its outcome. -/
theorem permits_total (cluster : Cluster C) (cmd : RouterCmd C) :
    ∃ fault, outcomes.permits cluster cmd fault := by
  have other (known : outcomes.permits cluster cmd =
      fun fault => (fault = .none ↔ (cmd.isRedis = false ∨ outcomes.redis = true))) :
      ∃ fault, outcomes.permits cluster cmd fault := by
    rw [known]
    by_cases clear : cmd.isRedis = false ∨ outcomes.redis = true
    · exact ⟨.none, iff_of_true rfl clear⟩
    · exact ⟨.refused .redis, iff_of_false nofun clear⟩
  cases cmd with
  | await i op =>
    cases op with
    | answer node call =>
      cases outcome : outcomes.error node with
      | none => exact ⟨.none, by simp only [permits, outcome]⟩
      | some err => exact ⟨.refused (.prisma err), by simp [permits, outcome]⟩
    | request | setFlag | hasFlag | getEntry | setEntry => exact other rfl
  | sync | advance | replay => exact other rfl

end Outcomes

abbrev NodeAttempt (C : Type) : Type := Attempt (routerSignature C) RouterErr (Cluster C)

/-- The node was asked and failed with a connection error. -/
def Cut (i : Nat) (attempts : List (NodeAttempt C)) (node : DbNode) : Prop :=
  ∃ attempt ∈ attempts, ∃ call err, attempt.cmd = .await i (.answer node call) ∧
    (attempt.fault = .refused (.prisma err) ∨ attempt.fault = .lost (.prisma err)) ∧
    err.isConnectionError = true

/-- A node was asked and returned the rows. -/
def Returned (i : Nat) (attempts : List (NodeAttempt C)) (rows : List C) : Prop :=
  ∃ attempt ∈ attempts, ∃ node route, attempt.cmd = .await i (.answer node (.query route)) ∧
    attempt.fault = .none ∧ rows = attempt.before.snapshot node

/-- The primary was asked for the mutation and confirmed it. -/
def Confirmed (i : Nat) (change : C) (attempts : List (NodeAttempt C)) : Prop :=
  ∃ attempt ∈ attempts, attempt.cmd = .await i (.answer .primary (.mutation change)) ∧
    attempt.fault = .none

/-- A value as `returned` says, a 503, or an error that is no connection error. -/
def Reported (returned : α → Prop) : Except RouterErr α → Prop
  | .ok value => returned value
  | .error (.serviceUnavailable ..) => True
  | .error err => err.isConnection = false

/-- Every node that failed with a connection error is flagged unhealthy. -/
def Flagged (i : Nat) (attempts : List (NodeAttempt C)) (last : Cluster C) : Prop :=
  ∀ node, Cut i attempts node → (last.instances i).healthy node = false

/-- The read that `DbRouter.read` makes of the replica outside any `try` finds it gone: the primary
is unavailable, and the read is sticky or primary-preferred. -/
def Degrades (db : DbRouter) (outcomes : Outcomes) (cluster : Cluster C) (route : Route) : Prop :=
  ((cluster.instances db.self).healthy .primary = false ∨ outcomes.Unreachable .primary) ∧
    (route = .sticky ∨ route = .primaryPreferred) ∧ db.replicaEnabled = true ∧
    (cluster.instances db.self).healthy .replica = true ∧ outcomes.Unreachable .replica

/-- The session wrote lately, as far as this instance or Redis knows. -/
def DbRouter.Sticks (db : DbRouter) (outcomes : Outcomes) (cluster : Cluster C) : Prop :=
  0 < db.stickyTtlMs ∧ ∃ session ∈ db.session,
    (cluster.instances db.self).sticks session cluster.clock = true ∨ outcomes.redis = true ∧
      (cluster.flags session).any (fun expiry => decide ((cluster.clock : Instant) < expiry)) = true

/-- The route on which a read comes to the primary as its first node. -/
def DbRouter.Degradable (db : DbRouter) (outcomes : Outcomes) (cluster : Cluster C)
    (consistency : Consistency) : Prop :=
  match consistency with
  | .strong => False
  | .primaryPreferred => Degrades db outcomes cluster .primaryPreferred
  | .eventual => db.Sticks outcomes cluster ∧ Degrades db outcomes cluster .sticky

namespace ConnectionErrors
variable {db : DbRouter} {outcomes : Outcomes} {start mid last : Cluster C}

/-- What a part of a call does to the flags: it flags what it has to, and takes no flag back. -/
structure Handled (i : Nat) (start : Cluster C) (attempts : List (NodeAttempt C))
    (last : Cluster C) : Prop where
  flagged : Flagged i attempts last
  stays : ∀ node, (start.instances i).healthy node = false → (last.instances i).healthy node = false

theorem cut_append {i : Nat} {first rest : List (NodeAttempt C)} {node : DbNode} :
    Cut i (first ++ rest) node ↔ Cut i first node ∨ Cut i rest node := by
  simp only [Cut, List.mem_append, or_and_right, exists_or]

theorem Returned.after {i : Nat} {first rest : List (NodeAttempt C)} {rows : List C}
    (returned : Returned i rest rows) : Returned i (first ++ rest) rows := by
  obtain ⟨attempt, member, found⟩ := returned
  exact ⟨attempt, List.mem_append_right _ member, found⟩

theorem Handled.append {i : Nat} {first rest : List (NodeAttempt C)}
    (early : Handled i start first mid) (late : Handled i mid rest last) :
    Handled i start (first ++ rest) last := by
  refine ⟨fun node cut => ?_, fun node down => late.stays node (early.stays node down)⟩
  rcases cut_append.mp cut with before | after
  · exact late.stays node (early.flagged node before)
  · exact late.flagged node after

/-- A command that asks no node and takes no flag back. -/
theorem Handled.step {i : Nat} {attempt : NodeAttempt C}
    (silent : ∀ node call, attempt.cmd ≠ .await i (.answer node call))
    (stays : ∀ node, (start.instances i).healthy node = false →
      (last.instances i).healthy node = false) : Handled i start [attempt] last := by
  refine ⟨fun node cut => ?_, stays⟩
  obtain ⟨other, member, call, err, same, _⟩ := cut
  obtain rfl := List.mem_singleton.mp member
  exact absurd same (silent node call)

theorem Handled.nil {i : Nat} : Handled i start [] start :=
  ⟨fun _ ⟨_, member, _⟩ => absurd member List.not_mem_nil, fun _ down => down⟩

theorem mark_healthy (inst : Instance) (node asked : DbNode) :
    (inst.mark node false).healthy asked = false ↔ asked = node ∨ inst.healthy asked = false := by
  by_cases same : asked = node <;> simp [Instance.mark, same]

/-- One command of a router. -/
theorem ensures_command {policy : Policy (routerSignature C) RouterErr (Cluster C)} (cmd : RouterCmd C)
    (post : List (NodeAttempt C) → Except RouterErr cmd.Answer → Cluster C → Prop)
    (holds : ∀ fault, policy start cmd fault → post [⟨start, cmd, fault⟩]
      (fault.apply Cluster.exec cmd start).1 (fault.apply Cluster.exec cmd start).2) :
    (Program.perform (S := routerSignature C) cmd).Ensures Cluster.exec policy post start :=
  Program.ensures_perform holds

/-- A synchronous operation: it has its effect, and marks no node up. -/
theorem sync_ensures {op : SyncOp C} (notUp : ∀ node, op ≠ .markUp node) :
    (db.sync op).Ensures Cluster.exec outcomes.permits (fun attempts result last =>
      Handled db.self start attempts last ∧ result = .ok (Cluster.execSync db.self op start).1 ∧
        last = (Cluster.execSync db.self op start).2) start := by
  refine ensures_command (.sync db.self op) _ fun fault permitted => ?_
  obtain rfl : fault = .none := permitted.mpr (Or.inl rfl)
  refine ⟨Handled.step (fun _ _ same => by cases same) fun node down => ?_, rfl, rfl⟩
  cases op with
  | markUp other => exact absurd rfl (notUp other)
  | markDown other =>
    have marked := (mark_healthy (start.instances db.self) other node).mpr (Or.inr down)
    simpa [Fault.apply, Cluster.exec, Cluster.execSync, Cluster.setInstance] using marked
  | healthy | sticks | track | send => exact down
  | setSticky | purge =>
    simpa [Fault.apply, Cluster.exec, Cluster.execSync, Cluster.setInstance, Instance.setSticky,
      Instance.purge] using down

/-- Only this node was asked, and the flags are as they were. -/
structure Touched (db : DbRouter) (outcomes : Outcomes) (node : DbNode) (start : Cluster C)
    (attempts : List (NodeAttempt C)) (last : Cluster C) : Prop where
  instances : last.instances = start.instances
  cut : ∀ other, Cut db.self attempts other → other = node ∧ outcomes.Unreachable node

/-- What a node that was asked does to the call. -/
structure Replied (db : DbRouter) (outcomes : Outcomes) (node : DbNode) (call : NodeCall C)
    (start : Cluster C) (attempts : List (NodeAttempt C)) (result : Except RouterErr call.Answer)
    (last : Cluster C) : Prop extends Touched db outcomes node start attempts last where
  reply : match outcomes.error node with
    | none => result = .ok (start.answer node call).1 ∧
        ∃ attempt ∈ attempts, attempt.cmd = .await db.self (.answer node call) ∧
          attempt.fault = .none ∧ attempt.before = start
    | some err => result = .error (.prisma err)

theorem answer_ensures (node : DbNode) (call : NodeCall C) :
    (db.await (.answer node call)).Ensures Cluster.exec outcomes.permits
      (Replied db outcomes node call start) start := by
  refine ensures_command (.await db.self (.answer node call)) _ fun fault permitted => ?_
  have kept : (start.answer node call).2.instances = start.instances := by cases call <;> rfl
  unfold Outcomes.permits at permitted
  cases outcome : outcomes.error node with
  | none =>
    simp only [outcome] at permitted
    subst permitted
    refine ⟨⟨kept, fun other cut => ?_⟩, ?_⟩
    · obtain ⟨attempt, member, _, err, _, failed, _⟩ := cut
      obtain rfl := List.mem_singleton.mp member
      rcases failed with failed | failed <;> cases failed
    · rw [outcome]
      exact ⟨rfl, _, List.mem_singleton_self _, rfl, rfl, rfl⟩
  | some err =>
    simp only [outcome] at permitted
    have cuts : ∀ other, Cut db.self [⟨start, .await db.self (.answer node call), fault⟩] other →
        other = node ∧ outcomes.Unreachable node := by
      intro other cut
      obtain ⟨attempt, member, _, found, same, failed, connection⟩ := cut
      obtain rfl := List.mem_singleton.mp member
      cases same
      refine ⟨rfl, err, outcome, ?_⟩
      rcases permitted with rfl | rfl <;> rcases failed with failed | failed <;> cases failed <;>
        exact connection
    rcases permitted with rfl | rfl
    · exact ⟨⟨rfl, cuts⟩, by rw [outcome]; rfl⟩
    · exact ⟨⟨kept, cuts⟩, by rw [outcome]; rfl⟩

/-- A query of one node, and its header. -/
structure Asked (db : DbRouter) (outcomes : Outcomes) (node : DbNode) (start : Cluster C)
    (attempts : List (NodeAttempt C)) (result : Except RouterErr (List C)) (last : Cluster C) :
    Prop extends Touched db outcomes node start attempts last where
  reply : match outcomes.error node with
    | none => ∃ rows, result = .ok rows ∧ Returned db.self attempts rows
    | some err => result = .error (.prisma err)

theorem Cut.answer {i : Nat} {attempt : NodeAttempt C} {node : DbNode}
    (silent : ∀ node call, attempt.cmd ≠ .await i (.answer node call)) : ¬ Cut i [attempt] node := by
  rintro ⟨other, member, call, err, same, _⟩
  obtain rfl := List.mem_singleton.mp member
  exact silent node call same

theorem ask_ensures (node : DbNode) (call : NodeCall C) :
    (db.ask node call).Ensures Cluster.exec outcomes.permits
      (Replied db outcomes node call start) start := by
  refine Program.ensures_bind (ensures_command (.sync db.self (.send node call))
    (fun attempts result last => attempts = [⟨start, .sync db.self (.send node call), .none⟩] ∧
      result = .ok () ∧ last = start) fun fault permitted => ?_) ?_ ?_
  · obtain rfl : fault = .none := permitted.mpr (Or.inl rfl)
    exact ⟨rfl, rfl, rfl⟩
  · rintro first _ mid ⟨rfl, _, rfl⟩
    refine (answer_ensures node call).mono fun rest result last replied => ?_
    refine ⟨⟨replied.instances, fun other cut => ?_⟩, ?_⟩
    · exact replied.cut other ((cut_append.mp cut).resolve_left
        (Cut.answer fun _ _ same => by cases same))
    · have reply := replied.reply
      cases outcome : outcomes.error node with
      | none =>
        rw [outcome] at reply
        obtain ⟨same, attempt, member, found⟩ := reply
        exact ⟨same, attempt, List.mem_append_right _ member, found⟩
      | some err =>
        rw [outcome] at reply
        exact reply
  · rintro _ _ _ ⟨_, failed, _⟩
    cases failed

theorem tracked_ensures (node : DbNode) (route tracked : Route) :
    ((db.ask node (.query route)).bind fun result =>
      (db.sync (.track node tracked)).bind fun _ => .ret result).Ensures Cluster.exec outcomes.permits
      (Asked db outcomes node start) start := by
  refine Program.ensures_bind (ask_ensures node (.query route)) (fun first rows mid replied => ?_)
    fun attempts error last replied => ?_
  · have reply := replied.reply
    cases outcome : outcomes.error node with
    | some err =>
      rw [outcome] at reply
      cases reply
    | none =>
      rw [outcome] at reply
      obtain ⟨same, attempt, member, found, clear, here⟩ := reply
      refine Program.ensures_bind (ensures_command (.sync db.self (.track node tracked))
        (fun attempts result last => attempts = [⟨mid, .sync db.self (.track node tracked), .none⟩] ∧
          result = .ok () ∧ last = mid) fun fault permitted => ?_) ?_ ?_
      · obtain rfl : fault = .none := permitted.mpr (Or.inl rfl)
        exact ⟨rfl, rfl, rfl⟩
      · rintro header _ _ ⟨rfl, _, rfl⟩
        refine Program.ensures_ret ⟨⟨replied.instances, fun other cut => ?_⟩, ?_⟩
        · rw [List.append_nil] at cut
          exact replied.cut other ((cut_append.mp cut).resolve_right
            (Cut.answer fun _ _ same => by cases same))
        · rw [outcome]
          refine ⟨rows, rfl, attempt, List.mem_append_left _ member, node, route, found, clear, ?_⟩
          rw [here]
          exact Except.ok.inj same
      · rintro _ _ _ ⟨_, failed, _⟩
        cases failed
  · refine ⟨replied.toTouched, ?_⟩
    have reply := replied.reply
    cases outcome : outcomes.error node with
    | none =>
      rw [outcome] at reply
      cases reply.1
    | some err =>
      rw [outcome] at reply
      exact congrArg _ (Except.error.inj reply)

/-- The end of a read: contained, unless it leaks the error of the degraded query. -/
structure Verdict (leaks : Prop) (i : Nat) (start : Cluster C) (attempts : List (NodeAttempt C))
    (result : Except RouterErr (List C)) (last : Cluster C) : Prop where
  handled : ¬ leaks → Handled i start attempts last
  reported : ¬ leaks → Reported (Returned i attempts) result
  leaked : leaks → ∃ err, result = .error (.prisma err) ∧ err.isConnectionError = true

theorem Verdict.after {leaks : Prop} {i : Nat} {first rest : List (NodeAttempt C)}
    {result : Except RouterErr (List C)} (early : Handled i start first mid)
    (late : Verdict leaks i mid rest result last) : Verdict leaks i start (first ++ rest) result last := by
  refine ⟨fun sound => early.append (late.handled sound), fun sound => ?_, late.leaked⟩
  have reported := late.reported sound
  rcases result with err | rows
  · cases err <;> exact reported
  · exact Returned.after reported

/-- A synchronous operation before the rest of a read. -/
theorem then_sync {leaks : Prop} {op : SyncOp C} {next : op.Answer → Loop C (List C)}
    (notUp : ∀ node, op ≠ .markUp node)
    (tail : (next (Cluster.execSync db.self op start).1).Ensures Cluster.exec outcomes.permits
      (Verdict leaks db.self (Cluster.execSync db.self op start).2) (Cluster.execSync db.self op start).2) :
    ((db.sync op).bind next).Ensures Cluster.exec outcomes.permits (Verdict leaks db.self start) start := by
  refine Program.ensures_bind (sync_ensures notUp) ?_ ?_
  · rintro first value mid ⟨handled, same, rfl⟩
    obtain rfl := Except.ok.inj same
    exact tail.mono fun rest result last verdict => verdict.after handled
  · rintro _ _ _ ⟨_, failed, _⟩
    cases failed

theorem Touched.handled {node : DbNode} {attempts : List (NodeAttempt C)}
    (touched : Touched db outcomes node start attempts last) (reached : ¬ outcomes.Unreachable node) :
    Handled db.self start attempts last := by
  refine ⟨fun other cut => absurd (touched.cut other cut).2 reached, fun other down => ?_⟩
  rw [touched.instances]
  exact down

theorem Asked.returned {node : DbNode} {attempts : List (NodeAttempt C)} {rows : List C}
    (asked : Asked db outcomes node start attempts (.ok rows) last) :
    ¬ outcomes.Unreachable node ∧ Returned db.self attempts rows := by
  have reply := asked.reply
  cases outcome : outcomes.error node with
  | none =>
    rw [outcome] at reply
    obtain ⟨found, same, returned⟩ := reply
    obtain rfl := Except.ok.inj same
    refine ⟨?_, returned⟩
    rintro ⟨err, failed, _⟩
    exact absurd (outcome.symm.trans failed) (by simp)
  | some err =>
    rw [outcome] at reply
    cases reply

theorem Asked.verdict {leaks : Prop} {node : DbNode} {attempts : List (NodeAttempt C)} {rows : List C}
    (asked : Asked db outcomes node start attempts (.ok rows) last) (sound : ¬ leaks) :
    Verdict leaks db.self start attempts (.ok rows) last :=
  ⟨fun _ => asked.handled asked.returned.1, fun _ => asked.returned.2, fun leaks => absurd leaks sound⟩

theorem Asked.failed {node : DbNode} {attempts : List (NodeAttempt C)} {error : RouterErr}
    (asked : Asked db outcomes node start attempts (.error error) last) :
    ∃ err, error = .prisma err ∧ outcomes.error node = some err := by
  have reply := asked.reply
  cases outcome : outcomes.error node with
  | none =>
    rw [outcome] at reply
    obtain ⟨_, same, _⟩ := reply
    cases same
  | some err =>
    rw [outcome] at reply
    exact ⟨err, Except.error.inj reply, rfl⟩

theorem Outcomes.unreachable_iff {node : DbNode} {err : PrismaError}
    (failed : outcomes.error node = some err) :
    outcomes.Unreachable node ↔ err.isConnectionError = true := by
  constructor
  · rintro ⟨other, found, lost⟩
    obtain rfl := Option.some.inj (failed.symm.trans found)
    exact lost
  · exact fun lost => ⟨err, failed, lost⟩

theorem primaryUnavailable_verdict {leaks : Prop} (route : Route) (sound : ¬ leaks) {i : Nat} :
    (Program.raise (DbRouter.primaryUnavailable route) : Loop C (List C)).Ensures Cluster.exec
      outcomes.permits (Verdict leaks i start) start :=
  Program.ensures_raise ⟨fun _ => Handled.nil, fun _ => trivial, fun leaks => absurd leaks sound⟩

theorem readDegraded_ensures (route : Route) :
    (db.readDegraded route).Ensures Cluster.exec outcomes.permits
      (Verdict ((route = .sticky ∨ route = .primaryPreferred) ∧ db.replicaEnabled = true ∧
        (start.instances db.self).healthy .replica = true ∧ outcomes.Unreachable .replica) db.self start)
      start := by
  unfold DbRouter.readDegraded
  split
  · next chosen =>
    refine then_sync nofun ?_
    cases up : (start.instances db.self).healthy .replica with
    | false =>
      simp only [Cluster.execSync, up]
      exact primaryUnavailable_verdict route fun leaks => Bool.false_ne_true leaks.2.2.1
    | true =>
      simp only [Cluster.execSync, up]
      refine (tracked_ensures .replica .degraded .degraded).mono fun attempts result last asked => ?_
      rcases result with error | rows
      · obtain ⟨err, rfl, failed⟩ := asked.failed
        rw [Outcomes.unreachable_iff failed]
        by_cases connection : err.isConnectionError = true
        · refine ⟨fun sound => absurd ⟨chosen.1, chosen.2, trivial, connection⟩ sound,
            fun sound => absurd ⟨chosen.1, chosen.2, trivial, connection⟩ sound, ?_⟩
          exact fun _ => ⟨err, rfl, connection⟩
        · exact ⟨fun _ => asked.handled (mt (Outcomes.unreachable_iff failed).mp connection),
            fun _ => Bool.eq_false_iff.mpr connection, fun leaks => absurd leaks.2.2.2 connection⟩
      · exact asked.verdict fun leaks => asked.returned.1 leaks.2.2.2
  · next other =>
    exact primaryUnavailable_verdict route fun leaks => other ⟨leaks.1, leaks.2.1⟩

/-- A node that failed with a connection error, and is flagged for it at once. -/
theorem Touched.marked {node : DbNode} {first header : List (NodeAttempt C)}
    (touched : Touched db outcomes node start first mid)
    (handled : Handled db.self mid header (mid.setInstance db.self ((mid.instances db.self).mark node false))) :
    Handled db.self start (first ++ header)
      (mid.setInstance db.self ((mid.instances db.self).mark node false)) := by
  refine ⟨fun other cut => ?_, fun other down => handled.stays other (touched.instances ▸ down)⟩
  rcases cut_append.mp cut with before | after
  · obtain ⟨rfl, _⟩ := touched.cut other before
    simp [Cluster.setInstance, Instance.mark]
  · exact handled.flagged other after

/-- A call that failed marks its node down before the read goes on. -/
theorem marked_then {leaks : Prop} {node : DbNode} {first : List (NodeAttempt C)} {error : RouterErr}
    {next : Loop C (List C)} (asked : Asked db outcomes node start first (.error error) mid)
    (tail : ∀ after : Cluster C, after.instances db.self = (start.instances db.self).mark node false →
      next.Ensures Cluster.exec outcomes.permits (Verdict leaks db.self after) after) :
    ((db.sync (.markDown node)).bind fun _ => next).Ensures Cluster.exec outcomes.permits
      (fun rest => Verdict leaks db.self start (first ++ rest)) mid := by
  refine Program.ensures_bind (sync_ensures nofun) ?_ ?_
  · rintro header _ _ ⟨handled, _, rfl⟩
    refine (tail _ ?_).mono fun rest result last verdict => ?_
    · rw [← asked.instances]
      exact Function.update_self ..
    · rw [← List.append_assoc]
      exact verdict.after (asked.toTouched.marked handled)
  · rintro _ _ _ ⟨_, failed, _⟩
    cases failed

theorem readPrimary_ensures (route : Route) :
    (db.readPrimary route).Ensures Cluster.exec outcomes.permits
      (Verdict (Degrades db outcomes start route) db.self start) start := by
  refine then_sync nofun ?_
  cases up : (start.instances db.self).healthy .primary with
  | false =>
    simp only [Cluster.execSync, up]
    refine (readDegraded_ensures route).mono fun attempts result last verdict => ?_
    have degrades : Degrades db outcomes start route ↔ _ := and_iff_right (Or.inl up)
    rwa [← degrades] at verdict
  | true =>
    simp only [Cluster.execSync, up]
    have sound (reached : ¬ outcomes.Unreachable .primary) : ¬ Degrades db outcomes start route := by
      rintro ⟨down | lost, _⟩
      · rw [up] at down
        cases down
      · exact reached lost
    refine Program.ensures_recover (tracked_ensures .primary route route) ?_ ?_
    · intro first error mid asked
      obtain ⟨err, rfl, failed⟩ := asked.failed
      by_cases connection : err.isConnectionError = true
      · have lost := (Outcomes.unreachable_iff failed).mpr connection
        rw [if_neg (by simpa [RouterErr.isConnection] using connection)]
        refine marked_then asked fun after marked => ?_
        refine (readDegraded_ensures route).mono fun attempts result last verdict => ?_
        have degrades : Degrades db outcomes start route ↔ _ := and_iff_right (Or.inr lost)
        rw [marked] at verdict
        rw [degrades]
        simpa [Instance.mark] using verdict
      · have reached := mt (Outcomes.unreachable_iff failed).mp connection
        rw [if_pos (by simpa [RouterErr.isConnection] using connection)]
        apply Program.ensures_raise
        rw [List.append_nil]
        exact ⟨fun _ => asked.handled reached, fun _ => Bool.eq_false_iff.mpr connection,
          fun leaks => absurd leaks (sound reached)⟩
    · exact fun attempts rows last asked => asked.verdict (sound asked.returned.1)

theorem fallback_ensures :
    (db.readPrimary .fallback).Ensures Cluster.exec outcomes.permits (Verdict False db.self start)
      start := by
  refine (readPrimary_ensures .fallback).mono fun attempts result last verdict => ?_
  have sound : ¬ Degrades db outcomes start .fallback := by
    rintro ⟨_, chosen | chosen, _⟩ <;> cases chosen
  rwa [iff_false_intro sound] at verdict

theorem readEventual_ensures :
    (db.readEventual : Loop C (List C)).Ensures Cluster.exec outcomes.permits
      (Verdict False db.self start) start := by
  refine then_sync nofun ?_
  cases up : (start.instances db.self).healthy .replica with
  | false =>
    simp only [Cluster.execSync, up]
    exact fallback_ensures
  | true =>
    simp only [Cluster.execSync, up]
    refine Program.ensures_recover (tracked_ensures .replica .eventual .eventual) ?_ ?_
    · intro first error mid asked
      obtain ⟨err, rfl, failed⟩ := asked.failed
      by_cases connection : err.isConnectionError = true
      · rw [if_pos (by simpa [RouterErr.isConnection] using connection)]
        exact marked_then asked fun after _ => fallback_ensures
      · have handled := asked.handled (mt (Outcomes.unreachable_iff failed).mp connection)
        rw [if_neg (by simpa [RouterErr.isConnection] using connection)]
        split
        · exact fallback_ensures.mono fun rest result last verdict => verdict.after handled
        · apply Program.ensures_raise
          rw [List.append_nil]
          exact ⟨fun _ => handled, fun _ => Bool.eq_false_iff.mpr connection, False.elim⟩
    · exact fun attempts rows last asked => asked.verdict not_false

/-- What Redis, when it answers, says of the flag of the session. -/
def flagged? (outcomes : Outcomes) (cluster : Cluster C) (session : Text) : Option Bool :=
  if outcomes.redis then
    some ((cluster.flags session).any fun expiry => decide ((cluster.clock : Instant) < expiry))
  else none

theorem hasFlag_ensures (session : Text) :
    (db.hasFlag session : Loop C (Option Bool)).Ensures Cluster.exec outcomes.permits
      (fun attempts result last => Handled db.self start attempts last ∧ last = start ∧
        result = .ok (flagged? outcomes start session)) start := by
  have asked : (db.await (.hasFlag session) : Loop C Bool).Ensures Cluster.exec outcomes.permits
      (fun attempts result last => Handled db.self start attempts last ∧ last = start ∧
        result.toOption = flagged? outcomes start session) start := by
    refine ensures_command (.await db.self (.hasFlag session)) _ fun fault permitted => ?_
    have kept : (fault.apply Cluster.exec (.await db.self (.hasFlag session)) start).2 = start := by
      cases fault <;> rfl
    refine ⟨Handled.step (fun _ _ same => by cases same) fun node down => ?_, kept, ?_⟩
    · rwa [kept]
    · cases redis : outcomes.redis with
      | true =>
        obtain rfl : fault = .none := permitted.mpr (Or.inr redis)
        simp only [flagged?, redis]
        rfl
      | false =>
        have failed : fault ≠ .none := by
          intro none
          rcases permitted.mp none with other | answers
          · cases other
          · rw [redis] at answers
            cases answers
        simp only [flagged?, redis]
        cases fault with
        | none => exact absurd rfl failed
        | refused error => rfl
        | lost error => rfl
  have tried : ((db.await (.hasFlag session)).bind fun flag => .ret (some flag) :
      Loop C (Option Bool)).Ensures Cluster.exec outcomes.permits (fun attempts result last =>
        Handled db.self start attempts last ∧ last = start ∧
          (result = .ok (flagged? outcomes start session) ∨
            (∃ error, result = .error error) ∧ flagged? outcomes start session = none)) start := by
    refine Program.ensures_bind asked ?_ ?_
    · rintro first flag mid ⟨handled, rfl, known⟩
      apply Program.ensures_ret
      rw [List.append_nil]
      exact ⟨handled, rfl, Or.inl (congrArg _ known)⟩
    · rintro first error mid ⟨handled, rfl, known⟩
      exact ⟨handled, rfl, Or.inr ⟨⟨error, rfl⟩, known.symm⟩⟩
  refine Program.ensures_recover tried ?_ ?_
  · rintro first error mid ⟨handled, rfl, same | ⟨_, none⟩⟩
    · cases same
    · apply Program.ensures_ret
      rw [List.append_nil, none]
      exact ⟨handled, rfl, rfl⟩
  · rintro attempts value last ⟨handled, rfl, same | ⟨⟨error, same⟩, _⟩⟩
    · exact ⟨handled, rfl, same⟩
    · cases same

theorem isSticky_ensures :
    (db.isSticky : Loop C Bool).Ensures Cluster.exec outcomes.permits
      (fun attempts result last => Handled db.self start attempts last ∧ last = start ∧
        ∃ sticky, result = .ok sticky ∧ (sticky = true ↔ db.Sticks outcomes start)) start := by
  have unknown (never : ¬ db.Sticks outcomes start) :
      (Program.ret false : Loop C Bool).Ensures Cluster.exec outcomes.permits
        (fun attempts result last => Handled db.self start attempts last ∧ last = start ∧
          ∃ sticky, result = .ok sticky ∧ (sticky = true ↔ db.Sticks outcomes start)) start :=
    Program.ensures_ret ⟨Handled.nil, rfl, false, rfl, by simpa using never⟩
  unfold DbRouter.isSticky
  split
  · next anonymous =>
    apply unknown
    rintro ⟨_, session, found, _⟩
    rw [anonymous] at found
    cases found
  · next session known =>
    split
    · next off => exact unknown fun sticks => absurd sticks.1 (Int.not_lt.mpr off)
    · next on =>
      have positive : 0 < db.stickyTtlMs := Int.not_le.mp on
      have sticks : db.Sticks outcomes start ↔
          (start.instances db.self).sticks session start.clock = true ∨
            flagged? outcomes start session = some true := by
        unfold DbRouter.Sticks flagged?
        rw [known, and_iff_right positive]
        simp
      refine Program.ensures_bind (sync_ensures nofun) ?_ ?_
      · rintro first here mid ⟨early, same, rfl⟩
        obtain rfl := Except.ok.inj same
        split
        · next stuck =>
          apply Program.ensures_ret
          rw [List.append_nil]
          exact ⟨early, rfl, true, rfl, by simpa using sticks.mpr (Or.inl stuck)⟩
        · next loose =>
          refine Program.ensures_bind (hasFlag_ensures session) ?_ ?_
          · rintro rest flag last ⟨late, rfl, same⟩
            apply Program.ensures_ret
            rw [List.append_nil, sticks]
            refine ⟨early.append late, rfl, _, rfl, ?_⟩
            rw [decide_eq_true_iff, Except.ok.inj same]
            exact (or_iff_right loose).symm
          · rintro _ _ _ ⟨_, _, failed⟩
            cases failed
      · rintro _ _ _ ⟨_, failed, _⟩
        cases failed

theorem read_ensures (consistency : Consistency) :
    (db.read consistency).Ensures Cluster.exec outcomes.permits
      (Verdict (db.Degradable outcomes start consistency) db.self start) start := by
  have other (route : Route) (weak : route ≠ .sticky) (filled : route ≠ .primaryPreferred)
      {leaks : Prop} (sound : ¬ leaks) : (db.readPrimary route).Ensures Cluster.exec outcomes.permits
        (Verdict leaks db.self start) start := by
    refine (readPrimary_ensures route).mono fun attempts result last verdict => ?_
    have never : ¬ Degrades db outcomes start route := fun degrades => degrades.2.1.elim weak filled
    rwa [iff_false_intro never, ← iff_false_intro sound] at verdict
  cases consistency with
  | strong => exact other .strong nofun nofun not_false
  | primaryPreferred => exact readPrimary_ensures .primaryPreferred
  | eventual =>
    unfold DbRouter.read
    dsimp only
    split
    · next alone =>
      refine other .primaryOnly nofun nofun fun leaks => ?_
      have enabled := leaks.2.2.2.1
      rw [enabled] at alone
      cases alone
    · refine Program.ensures_bind isSticky_ensures ?_ ?_
      · rintro first sticky mid ⟨handled, rfl, known, same, sticks⟩
        obtain rfl := Except.ok.inj same
        split
        · next stuck =>
          refine (readPrimary_ensures .sticky).mono fun rest result last verdict => ?_
          have leaks : db.Degradable outcomes mid .eventual ↔ Degrades db outcomes mid .sticky :=
            and_iff_right (sticks.mp stuck)
          rw [leaks]
          exact verdict.after handled
        · next loose =>
          refine readEventual_ensures.mono fun rest result last verdict => ?_
          have never : ¬ db.Degradable outcomes mid .eventual :=
            fun leaks => loose (sticks.mpr leaks.1)
          rw [iff_false_intro never]
          exact verdict.after handled
      · rintro _ _ _ ⟨_, _, _, failed, _⟩
        cases failed

/-- Commands of a write after its mutation. -/
def Settled (db : DbRouter) (start : Cluster C) (attempts : List (NodeAttempt C))
    (result : Except RouterErr Unit) (last : Cluster C) : Prop :=
  Handled db.self start attempts last ∧ result = .ok ()

theorem setFlag_ensures (session : Text) (ttlMs : Int) :
    (db.setFlag session ttlMs : Loop C Unit).Ensures Cluster.exec outcomes.permits
      (Settled db start) start := by
  unfold DbRouter.setFlag
  refine Program.ensures_recover (ensures_command (.await db.self (.setFlag session ttlMs))
    (fun attempts result last => Handled db.self start attempts last) fun fault permitted => ?_) ?_ ?_
  · have kept : (fault.apply Cluster.exec (.await db.self (.setFlag session ttlMs)) start).2.instances =
        start.instances := by
      cases fault <;> rfl
    refine Handled.step (fun _ _ same => by cases same) fun node down => ?_
    rwa [kept]
  · intro first error mid handled
    apply Program.ensures_ret
    rw [List.append_nil]
    exact ⟨handled, rfl⟩
  · exact fun attempts value last handled => ⟨handled, rfl⟩

theorem settled_then {op : SyncOp C} {next : Loop C Unit} (notUp : ∀ node, op ≠ .markUp node)
    (tail : ∀ mid : Cluster C, next.Ensures Cluster.exec outcomes.permits (Settled db mid) mid) :
    ((db.sync op).bind fun _ => next).Ensures Cluster.exec outcomes.permits (Settled db start) start := by
  refine Program.ensures_bind (sync_ensures notUp) ?_ ?_
  · rintro first _ _ ⟨early, _, rfl⟩
    exact (tail _).mono fun rest result last ⟨late, same⟩ => ⟨early.append late, same⟩
  · rintro _ _ _ ⟨_, failed, _⟩
    cases failed

theorem rememberWrite_ensures :
    (db.rememberWrite : Loop C Unit).Ensures Cluster.exec outcomes.permits (Settled db start) start := by
  unfold DbRouter.rememberWrite
  split
  · exact Program.ensures_ret ⟨Handled.nil, rfl⟩
  · split
    · exact Program.ensures_ret ⟨Handled.nil, rfl⟩
    · exact settled_then nofun fun mid => setFlag_ensures _ _

/-- A mutation that failed ends the write, with the primary flagged where it is unreachable. -/
theorem mutation_ensures (change : C) :
    ((db.ask .primary (.mutation change)).recover fun err =>
      if !err.isConnection then .raise err
      else (db.sync (.markDown .primary)).bind fun _ => .raise DbRouter.readOnlyError).Ensures
      Cluster.exec outcomes.permits (fun attempts result last => Handled db.self start attempts last ∧
        Reported (fun _ => Confirmed db.self change attempts) result) start := by
  refine Program.ensures_recover (ask_ensures .primary (.mutation change)) ?_ ?_
  · intro first error mid replied
    have reply := replied.reply
    cases outcome : outcomes.error .primary with
    | none =>
      rw [outcome] at reply
      cases reply.1
    | some err =>
      rw [outcome] at reply
      obtain rfl := Except.error.inj reply
      by_cases connection : err.isConnectionError = true
      · rw [if_neg (by simpa [RouterErr.isConnection] using connection)]
        refine Program.ensures_bind (sync_ensures nofun) ?_ ?_
        · rintro header _ _ ⟨handled, _, rfl⟩
          apply Program.ensures_raise
          rw [List.append_nil]
          exact ⟨replied.toTouched.marked handled, trivial⟩
        · rintro _ _ _ ⟨_, failed, _⟩
          cases failed
      · rw [if_pos (by simpa [RouterErr.isConnection] using connection)]
        apply Program.ensures_raise
        rw [List.append_nil]
        exact ⟨replied.handled (mt (Outcomes.unreachable_iff outcome).mp connection),
          Bool.eq_false_iff.mpr connection⟩
  · intro attempts value last replied
    have reply := replied.reply
    cases outcome : outcomes.error .primary with
    | some err =>
      rw [outcome] at reply
      cases reply
    | none =>
      rw [outcome] at reply
      obtain ⟨_, attempt, member, found, clear, _⟩ := reply
      refine ⟨replied.handled ?_, attempt, member, found, clear⟩
      rintro ⟨err, failed, _⟩
      exact absurd (outcome.symm.trans failed) (by simp)

theorem write_ensures (change : C) :
    (db.write change).Ensures Cluster.exec outcomes.permits (fun attempts result last =>
      Handled db.self start attempts last ∧
        Reported (fun _ => Confirmed db.self change attempts) result) start := by
  refine Program.ensures_bind (sync_ensures nofun) ?_ ?_
  · rintro first up mid ⟨early, _, rfl⟩
    split
    · apply Program.ensures_raise
      rw [List.append_nil]
      exact ⟨early, trivial⟩
    · refine Program.ensures_bind (mutation_ensures change) ?_ ?_
      · rintro second _ mid ⟨written, attempt, member, found⟩
        have remembered : ((db.sync (.track .primary .write)).bind fun _ => db.rememberWrite).Ensures
            Cluster.exec outcomes.permits (Settled db mid) mid :=
          settled_then nofun fun _ => rememberWrite_ensures
        refine remembered.mono ?_
        rintro rest _ last ⟨late, rfl⟩
        refine ⟨early.append (written.append late), attempt, ?_, found⟩
        exact List.mem_append_right _ (List.mem_append_left _ member)
      · rintro attempts error last ⟨written, reported⟩
        refine ⟨early.append written, ?_⟩
        cases error <;> exact reported
  · rintro _ _ _ ⟨_, failed, _⟩
    cases failed

end ConnectionErrors

/-- The router contains the connection errors of its nodes, unless the replica fails in the read
that stands in for an unavailable primary. -/
theorem connectionErrors_contained_iff (db : DbRouter) (outcomes : Outcomes) (start : Cluster C) :
    (∀ consistency attempts result last,
      (db.read consistency).Runs Cluster.exec outcomes.permits start attempts result last →
        (Reported (Returned db.self attempts) result ∧ Flagged db.self attempts last ↔
          ¬ db.Degradable outcomes start consistency)) ∧
    ∀ change attempts result last,
      (db.write change).Runs Cluster.exec outcomes.permits start attempts result last →
        Reported (fun _ => Confirmed db.self change attempts) result ∧
          Flagged db.self attempts last := by
  constructor
  · intro consistency attempts result last runs
    have verdict := ConnectionErrors.read_ensures consistency _ _ _ runs
    constructor
    · rintro ⟨reported, _⟩ leaks
      obtain ⟨err, rfl, connection⟩ := verdict.leaked leaks
      rw [show err.isConnectionError = false from reported] at connection
      cases connection
    · exact fun sound => ⟨verdict.reported sound, (verdict.handled sound).flagged⟩
  · intro change attempts result last runs
    have ended := ConnectionErrors.write_ensures change _ _ _ runs
    exact ⟨ended.2, ended.1.flagged⟩

/-- The replica is gone and the primary answers. -/
def replicaGone : Outcomes :=
  ⟨fun node => if node = .replica then some (.knownRequest (text "P1001") (text "Can't reach database server"))
    else none, true⟩

theorem connectionErrors_contained_fallback : ∃ attempts result last,
    (DbRouter.read ⟨true, 5000, 0, none⟩ .eventual).Runs Cluster.exec replicaGone.permits
      (Cluster.init true : Cluster Nat) attempts result last ∧
    Reported (Returned 0 attempts) result ∧ Flagged 0 attempts last := by
  obtain ⟨attempts, result, last, runs⟩ : ∃ attempts result last,
      (DbRouter.read ⟨true, 5000, 0, none⟩ .eventual).Runs Cluster.exec replicaGone.permits
        (Cluster.init true : Cluster Nat) attempts result last :=
    Program.exists_runs replicaGone.permits_total _ _
  refine ⟨attempts, result, last, runs, ((connectionErrors_contained_iff _ _ _).1 _ _ _ _ runs).mpr ?_⟩
  rintro ⟨⟨_, session, known, _⟩, _⟩
  cases known

/-- Both nodes are gone. -/
def bothGone : Outcomes :=
  ⟨fun _ => some (.knownRequest (text "P1001") (text "Can't reach database server")), true⟩

/-- A primary-preferred read throws the replica's P1001. -/
theorem connectionError_leaks : ∃ attempts result last,
    (DbRouter.read ⟨true, 5000, 0, none⟩ .primaryPreferred).Runs Cluster.exec bothGone.permits
      (Cluster.init true : Cluster Nat) attempts result last ∧
    ¬ Reported (Returned 0 attempts) result := by
  obtain ⟨attempts, result, last, runs⟩ : ∃ attempts result last,
      (DbRouter.read ⟨true, 5000, 0, none⟩ .primaryPreferred).Runs Cluster.exec bothGone.permits
        (Cluster.init true : Cluster Nat) attempts result last :=
    Program.exists_runs bothGone.permits_total _ _
  refine ⟨attempts, result, last, runs, fun reported => ?_⟩
  have lost (node : DbNode) : bothGone.Unreachable node := ⟨_, rfl, by decide⟩
  obtain ⟨err, rfl, connection⟩ := (ConnectionErrors.read_ensures .primaryPreferred _ _ _ runs).leaked
    ⟨Or.inr (lost .primary), Or.inr rfl, rfl, rfl, lost .replica⟩
  rw [show err.isConnectionError = false from reported] at connection
  cases connection

end HotelBooking
