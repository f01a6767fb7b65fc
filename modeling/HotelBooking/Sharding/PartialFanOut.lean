import HotelBooking.Replication.DbRouter
import HotelBooking.Services.FanOut

/-! What a fan-out with `allowPartial` makes of the outcomes of its reads. The reads are any
programs here: those of physical shards, or the single read of `DbRouter` behind the global shard. -/
namespace HotelBooking
open Effect
variable {S : Signature} {ε α β σ : Type} {n : Nat}

/-- `Promise.allSettled` over the reads. -/
def settleReads (reads : Fin n → Program S ε α) : List (Fin n) → Program S ε (List (Fin n × Except ε α))
  | [] => return []
  | i :: rest => do
    let outcome ← tryCatch (do return .ok (← reads i)) fun error => return .error error
    return (i, outcome) :: (← settleReads reads rest)

/-- The outcomes in the order of the shards: without `allowPartial` the first error rejects. -/
def gatherReads (allowPartial : Bool) (settled : List (Fin n × Except ε α)) :
    List (Fin n) → Except ε (FanOutResult n α)
  | [] => .ok ⟨[], []⟩
  | i :: rest => do
    match settled.find? fun outcome => outcome.1 = i with
    | some (_, .ok result) =>
      let others ← gatherReads allowPartial settled rest
      return { others with parts := (i, result) :: others.parts }
    | some (_, .error error) =>
      if !allowPartial then throw error
      let others ← gatherReads allowPartial settled rest
      return { others with failed := i :: others.failed }
    | none => gatherReads allowPartial settled rest

/-- `fanOut` over the given reads, which take effect in the given order. -/
def fanOutReads (reads : Fin n → Program S ε α) (order : List (Fin n)) (allowPartial : Bool) :
    Program S ε (FanOutResult n α) := do
  Program.ofExcept (gatherReads allowPartial (← settleReads reads order) (List.finRange n))

/-- `fanOutList` without SHARD_URLS: the only shard is `global`, its read is `DbRouter.read`. -/
def globalFanOutList {C : Type} (db : DbRouter) (consistency : Consistency) (allowPartial : Bool) :
    Loop C (List C) := do
  let result ← fanOutReads (n := 1) (fun _ => db.read consistency) [0] allowPartial
  return result.parts.flatMap fun part => part.2

theorem gather_eq (allowPartial : Bool) (settled : List (Fin n × Except Err α))
    (shards : List (Fin n)) :
    ShardRouter.gather allowPartial settled shards = gatherReads allowPartial settled shards := by
  induction shards with
  | nil => rfl
  | cons i rest ih =>
    rw [ShardRouter.gather, gatherReads, ih]
    cases settled.find? fun outcome => outcome.1 = i with
    | none => rfl
    | some found =>
      obtain ⟨j, outcome⟩ := found
      cases outcome <;> rfl

/-- The fan-out of the shard router is the one over the reads of its shards. -/
theorem fanOut_eq (router : ShardRouter n) (schedule : Schedule n) (stmt : Stmt) (allowPartial : Bool) :
    router.fanOut schedule stmt allowPartial =
      fanOutReads (fun i => router.read i stmt) schedule.order allowPartial := by
  have settled (order : List (Fin n)) :
      router.settle stmt order = settleReads (fun i => router.read i stmt) order := by
    induction order with
    | nil => rfl
    | cons i rest ih => rw [ShardRouter.settle, settleReads, ih]; rfl
  unfold ShardRouter.fanOut fanOutReads
  rw [settled]
  congr 1
  funext outcomes
  rw [gather_eq]

/-- The parts that answered, and the shards that failed. -/
def partsOf (outcomes : Fin n → Except ε α) : FanOutResult n α where
  parts := (List.finRange n).filterMap fun i => (outcomes i).toOption.map fun result => (i, result)
  failed := (List.finRange n).filter fun i => !(outcomes i).isOk

theorem gatherReads_tolerant (outcomes : Fin n → Except ε α) {order : List (Fin n)}
    (shards : List (Fin n)) (listed : ∀ i ∈ shards, i ∈ order) :
    gatherReads true (order.map fun i => (i, outcomes i)) shards = .ok
      ⟨shards.filterMap fun i => (outcomes i).toOption.map fun result => (i, result),
        shards.filter fun i => !(outcomes i).isOk⟩ := by
  induction shards with
  | nil => rfl
  | cons i rest ih =>
    obtain ⟨here, later⟩ := List.forall_mem_cons.mp listed
    unfold gatherReads
    rw [find?_settled here, ih later]
    cases outcome : outcomes i with
    | ok result => simp [outcome, Except.toOption, Except.isOk, Except.toBool]
    | error err => simp [outcome, Except.toOption, Except.isOk, Except.toBool]

section Law
variable {exec : Executor S ε σ} {policy : Policy S ε σ} {state : σ} {reads : Fin n → Program S ε α}
  {outcomes : Fin n → Except ε α}

/-- A settled program ends with its outcome as a value. -/
theorem settled_ensures (program : Program S ε α) :
    ((program.bind fun result => .ret (.ok result)).recover fun error => .ret (.error error) :
      Program S ε (Except ε α)).Ensures exec policy (fun attempts result last =>
        ∃ inner, program.Runs exec policy state attempts inner last ∧ result = .ok inner) state := by
  have value : (program.bind fun result => .ret (.ok result) : Program S ε (Except ε α)).Ensures exec
      policy (fun attempts result last => ∃ inner, program.Runs exec policy state attempts inner last ∧
        result = inner.map Except.ok) state := by
    refine Program.ensures_bind (fun attempts inner last runs => runs) ?_ ?_
    · intro first answer mid runs
      refine Program.ensures_ret ⟨.ok answer, ?_, rfl⟩
      rwa [List.append_nil]
    · exact fun attempts error last runs => ⟨.error error, runs, rfl⟩
  refine Program.ensures_recover value ?_ ?_
  · rintro first error mid ⟨inner, runs, same⟩
    cases inner with
    | ok answer => cases same
    | error other =>
      obtain rfl := Except.error.inj same
      refine Program.ensures_ret ⟨.error error, ?_, rfl⟩
      rwa [List.append_nil]
  · rintro attempts outcome last ⟨inner, runs, same⟩
    cases inner with
    | ok answer => exact ⟨.ok answer, runs, same⟩
    | error other => cases same

theorem settleReads_ensures (each : ∀ i, (reads i).Ensures exec policy
      (fun _ result last => result = outcomes i ∧ last = state) state) (order : List (Fin n)) :
    (settleReads reads order).Ensures exec policy (fun _ result last =>
      result = .ok (order.map fun i => (i, outcomes i)) ∧ last = state) state := by
  induction order with
  | nil => exact Program.ensures_ret ⟨rfl, rfl⟩
  | cons i rest ih =>
    refine Program.ensures_bind (settled_ensures (reads i)) ?_ ?_
    · rintro first outcome mid ⟨inner, runs, same⟩
      obtain rfl := Except.ok.inj same
      obtain ⟨rfl, rfl⟩ := each i _ _ _ runs
      refine Program.ensures_bind ih ?_ ?_
      · rintro later others last ⟨same, rfl⟩
        obtain rfl := Except.ok.inj same
        exact Program.ensures_ret ⟨rfl, rfl⟩
      · rintro _ _ _ ⟨same, _⟩
        cases same
    · rintro _ _ _ ⟨_, _, same⟩
      cases same

theorem fanOutReads_ensures (each : ∀ i, (reads i).Ensures exec policy
      (fun _ result last => result = outcomes i ∧ last = state) state) {order : List (Fin n)}
    (complete : ∀ i, i ∈ order) :
    (fanOutReads reads order true).Ensures exec policy
      (fun _ result last => result = .ok (partsOf outcomes) ∧ last = state) state := by
  refine Program.ensures_bind (settleReads_ensures each order) ?_ ?_
  · rintro first settled mid ⟨same, rfl⟩
    obtain rfl := Except.ok.inj same
    rw [gatherReads_tolerant outcomes _ fun i _ => complete i]
    exact Program.ensures_ret ⟨rfl, rfl⟩
  · rintro _ _ _ ⟨same, _⟩
    cases same

/-- Where the call resolves, some read answered, and every shard that is left out failed because it
is unavailable. -/
def HidesUnavailable (unavailable : ε → Prop) (outcomes : Fin n → Except ε α)
    (result : Except ε (FanOutResult n α)) : Prop :=
  ∀ value, result = .ok value → (∃ i answer, outcomes i = .ok answer) ∧
    ∀ i, (∀ part ∈ value.parts, part.1 ≠ i) → ∃ err, outcomes i = .error err ∧ unavailable err

theorem partsOf_hides_iff {unavailable : ε → Prop} :
    HidesUnavailable unavailable outcomes (.ok (partsOf outcomes)) ↔
      (∃ i answer, outcomes i = .ok answer) ∧ ∀ i err, outcomes i = .error err → unavailable err := by
  have omitted (i : Fin n) : (∀ part ∈ (partsOf outcomes).parts, part.1 ≠ i) ↔
      ∃ err, outcomes i = .error err := by
    constructor
    · intro absent
      cases outcome : outcomes i with
      | error err => exact ⟨err, rfl⟩
      | ok answer =>
        refine absurd rfl (absent (i, answer) (List.mem_filterMap.mpr ⟨i, List.mem_finRange i, ?_⟩))
        rw [outcome]
        rfl
    · rintro ⟨err, failed⟩ part member rfl
      obtain ⟨i, _, found⟩ := List.mem_filterMap.mp member
      cases outcome : outcomes i with
      | ok answer =>
        rw [outcome] at found
        obtain rfl := Option.some.inj found
        exact absurd (outcome.symm.trans failed) (by simp)
      | error other =>
        rw [outcome] at found
        cases found
  constructor
  · intro hides
    obtain ⟨answered, left⟩ := hides _ rfl
    refine ⟨answered, fun i err failed => ?_⟩
    obtain ⟨other, same, down⟩ := left i ((omitted i).mpr ⟨err, failed⟩)
    obtain rfl := Except.error.inj (failed.symm.trans same)
    exact down
  · rintro ⟨answered, down⟩ value same
    obtain rfl := Except.ok.inj same
    refine ⟨answered, fun i absent => ?_⟩
    obtain ⟨err, failed⟩ := (omitted i).mp absent
    exact ⟨err, failed, down i err failed⟩

end Law

section Shards
variable {router : ShardRouter n} {errors : Fin n → Option Err} {stmt : Stmt} {world : World n}

/-- The query of a fan-out fails on the shards that have an error here, and is answered by the
others. -/
def ShardErrors (errors : Fin n → Option Err) : Policy (signature n) Err (World n) := fun _ cmd fault =>
  match cmd with
  | .shard i _ =>
    match errors i with
    | none => fault = .none
    | some err => fault = .refused err ∨ fault = .lost err
  | _ => fault = .none

theorem shardErrors_total (world : World n) (cmd : Cmd n) : ∃ fault, ShardErrors errors world cmd fault := by
  cases cmd with
  | shard i stmt =>
    cases failed : errors i with
    | none => exact ⟨.none, by simp only [ShardErrors, failed]⟩
    | some err => exact ⟨.refused err, by simp [ShardErrors, failed]⟩
  | guests | cache => exact ⟨.none, rfl⟩

/-- The outcome of the query on a shard. -/
def World.queried (world : World n) (errors : Fin n → Option Err) (stmt : Stmt) (i : Fin n) :
    Except Err stmt.Answer :=
  match errors i with
  | none => world.answer stmt i
  | some err => .error err

/-- What `shard.read` ends with: `run` turns a connection error into a 503. -/
def ShardRouter.readOutcome (router : ShardRouter n) (errors : Fin n → Option Err) (world : World n)
    (stmt : Stmt) (i : Fin n) : Except Err stmt.Answer :=
  (world.queried errors stmt i).mapError fun err =>
    if err.isConnection then .serviceUnavailable (text "Шард " ++ router.name i ++
      text " недоступний: дані інших шардів продовжують обслуговуватися")
    else err

/-- A ServiceUnavailableException. -/
def Err.Unavailable (err : Err) : Prop := ∃ message, err = .serviceUnavailable message

theorem read_outcome (read : stmt.isRead = true) (i : Fin n) :
    (router.read i stmt).Ensures World.exec (ShardErrors errors)
      (fun _ result last => result = router.readOutcome errors world stmt i ∧ last = world) world := by
  have asked : (issue (.shard i stmt)).Ensures World.exec (ShardErrors errors)
      (fun _ result last => result = world.queried errors stmt i ∧ last = world) world := by
    refine ensures_issue (.shard i stmt) _ fun fault permitted => ?_
    have kept : (World.exec (.shard i stmt) world).2 = world := by rw [exec_isRead read]
    unfold World.queried
    unfold ShardErrors at permitted
    cases failed : errors i with
    | none =>
      simp only [failed] at permitted
      subst permitted
      exact ⟨rfl, kept⟩
    | some err =>
      simp only [failed] at permitted
      rcases permitted with rfl | rfl
      · exact ⟨rfl, rfl⟩
      · exact ⟨rfl, kept⟩
  refine Program.ensures_recover asked ?_ ?_
  · rintro first error mid ⟨same, rfl⟩
    unfold ShardRouter.readOutcome
    rw [← same]
    by_cases connection : error.isConnection = true
    · rw [if_pos connection]
      exact Program.ensures_raise ⟨by simp [Except.mapError, connection], rfl⟩
    · rw [if_neg connection]
      exact Program.ensures_raise ⟨by simp [Except.mapError, connection], rfl⟩
  · rintro attempts answer last ⟨same, rfl⟩
    refine ⟨?_, rfl⟩
    unfold ShardRouter.readOutcome
    rw [← same]
    rfl

theorem fanOut_ensures (read : stmt.isRead = true) (schedule : Schedule n) :
    (router.fanOut schedule stmt true).Ensures World.exec (ShardErrors errors) (fun _ result last =>
      result = .ok (partsOf (router.readOutcome errors world stmt)) ∧ last = world) world := by
  rw [fanOut_eq]
  exact fanOutReads_ensures (read_outcome read) fun i => schedule.listed i

end Shards

section Global
variable {C : Type} {db : DbRouter} {policy : Policy (routerSignature C) RouterErr (Cluster C)}
  {start last : Cluster C} {attempts : List (Attempt (routerSignature C) RouterErr (Cluster C))}

/-- Over the global shard the list resolves in any case, with no rows where the read rejects. -/
theorem globalFanOutList_resolves {consistency : Consistency} {result : Except RouterErr (List C)}
    (runs : (globalFanOutList db consistency true).Runs Cluster.exec policy start attempts result last) :
    ∃ inner, (db.read consistency).Runs Cluster.exec policy start attempts inner last ∧
      result = .ok (inner.toOption.getD []) := by
  have settled : (settleReads (n := 1) (fun _ => db.read consistency) [0]).Ensures Cluster.exec policy
      (fun attempts result last => ∃ inner,
        (db.read consistency).Runs Cluster.exec policy start attempts inner last ∧
          result = .ok [(0, inner)]) start := by
    refine Program.ensures_bind (settled_ensures (db.read consistency)) ?_ ?_
    · rintro first outcome mid ⟨inner, inside, same⟩
      obtain rfl := Except.ok.inj same
      refine Program.ensures_ret ⟨outcome, ?_, rfl⟩
      rwa [List.append_nil]
    · rintro _ _ _ ⟨_, _, same⟩
      cases same
  have gathered : (fanOutReads (n := 1) (fun _ => db.read consistency) [0] true).Ensures Cluster.exec
      policy (fun attempts result last => ∃ inner,
        (db.read consistency).Runs Cluster.exec policy start attempts inner last ∧
          result = .ok (partsOf fun _ => inner)) start := by
    refine Program.ensures_bind settled ?_ ?_
    · rintro first outcomes mid ⟨inner, inside, same⟩
      obtain rfl := Except.ok.inj same
      rw [show [((0 : Fin 1), inner)] = [0].map fun i => (i, inner) from rfl,
        gatherReads_tolerant (fun _ => inner) _ fun i _ => List.mem_singleton.mpr (Subsingleton.elim i 0)]
      refine Program.ensures_ret ⟨inner, ?_, rfl⟩
      rwa [List.append_nil]
    · rintro _ _ _ ⟨_, _, same⟩
      cases same
  have list : (globalFanOutList db consistency true).Ensures Cluster.exec policy
      (fun attempts result last => ∃ inner,
        (db.read consistency).Runs Cluster.exec policy start attempts inner last ∧
          result = .ok (inner.toOption.getD [])) start := by
    refine Program.ensures_bind gathered ?_ ?_
    · rintro first value mid ⟨inner, inside, same⟩
      obtain rfl := Except.ok.inj same
      refine Program.ensures_ret ⟨inner, ?_, ?_⟩
      · rwa [List.append_nil]
      · cases inner with
        | ok rows => exact congrArg Except.ok (List.append_nil rows)
        | error err => rfl
    · rintro _ _ _ ⟨_, _, same⟩
      cases same
  exact list _ _ _ runs

end Global

/-- A fan-out with `allowPartial` hides what it should exactly where some shard answers and the
others are unavailable. Over the global shard it rejects with `DbRouter.read` only where that
does not reject. -/
theorem fanOut_partial_iff {n : Nat} (router : ShardRouter n) (schedule : Schedule n) (stmt : Stmt)
    (read : stmt.isRead = true) (errors : Fin n → Option Err) (world : World n) {C : Type}
    (db : DbRouter) (consistency : Consistency)
    (policy : Policy (routerSignature C) RouterErr (Cluster C)) (start : Cluster C) :
    (∀ attempts result last,
      (router.fanOut schedule stmt true).Runs World.exec (ShardErrors errors) world attempts result last →
      (HidesUnavailable Err.Unavailable (router.readOutcome errors world stmt) result ↔
        (∃ i answer, router.readOutcome errors world stmt i = .ok answer) ∧
          ∀ i err, router.readOutcome errors world stmt i = .error err → err.Unavailable)) ∧
    ∀ attempts result last,
      (globalFanOutList db consistency true).Runs Cluster.exec policy start attempts result last →
      ∃ inner, (db.read consistency).Runs Cluster.exec policy start attempts inner last ∧
        (((∃ err, result = .error err) ↔ ∃ err, inner = .error err) ↔ ∃ rows, inner = .ok rows) := by
  constructor
  · intro attempts result last runs
    obtain ⟨rfl, rfl⟩ := fanOut_ensures read schedule _ _ _ runs
    exact partsOf_hides_iff
  · intro attempts result last runs
    obtain ⟨inner, inside, rfl⟩ := globalFanOutList_resolves runs
    refine ⟨inner, inside, ?_⟩
    cases inner <;> simp

/-- The second shard of two is unreachable. -/
def secondGone : Fin 2 → Option Err := fun i => if i = 1 then some (.db .connection) else none

theorem fanOut_partial_secondGone : ∃ attempts result last,
    ((Env.sample 2 .hash).router.fanOut (.inOrder 2) .bookingFindMany true).Runs World.exec
      (ShardErrors secondGone) (World.empty 2) attempts result last ∧
    HidesUnavailable Err.Unavailable
      ((Env.sample 2 .hash).router.readOutcome secondGone (World.empty 2) .bookingFindMany) result := by
  obtain ⟨attempts, result, last, runs⟩ : ∃ attempts result last,
      ((Env.sample 2 .hash).router.fanOut (.inOrder 2) .bookingFindMany true).Runs World.exec
        (ShardErrors secondGone) (World.empty 2) attempts result last :=
    Program.exists_runs shardErrors_total _ _
  have law := fanOut_partial_iff (Env.sample 2 .hash).router (.inOrder 2) .bookingFindMany rfl secondGone
    (World.empty 2) ⟨false, 0, 0, none⟩ .eventual (fun _ _ fault => fault = .none)
    (Cluster.init false : Cluster Unit)
  refine ⟨attempts, result, last, runs, (law.1 attempts result last runs).mpr ⟨?_, ?_⟩⟩
  · exact ⟨0, [], rfl⟩
  · intro i err failed
    rcases Fin.exists_fin_two.mp ⟨i, rfl⟩ with rfl | rfl
    · cases failed
    · exact ⟨_, (Except.error.inj failed).symm⟩

/-- Both shards are unreachable, and the list of bookings is reported as if there were none. -/
theorem fanOut_hides_everything : ∃ attempts result last,
    ((Env.sample 2 .hash).router.fanOut (.inOrder 2) .bookingFindMany true).Runs World.exec
      (ShardErrors fun _ => some (.db .connection)) (World.empty 2) attempts result last ∧
    ¬ HidesUnavailable Err.Unavailable ((Env.sample 2 .hash).router.readOutcome
      (fun _ => some (.db .connection)) (World.empty 2) .bookingFindMany) result := by
  obtain ⟨attempts, result, last, runs⟩ : ∃ attempts result last,
      ((Env.sample 2 .hash).router.fanOut (.inOrder 2) .bookingFindMany true).Runs World.exec
        (ShardErrors fun _ => some (.db .connection)) (World.empty 2) attempts result last :=
    Program.exists_runs shardErrors_total _ _
  refine ⟨attempts, result, last, runs, fun hides => ?_⟩
  have read : Stmt.bookingFindMany.isRead = true := rfl
  obtain ⟨same, _⟩ := fanOut_ensures read (.inOrder 2) _ _ _ runs
  obtain ⟨⟨i, answer, found⟩, _⟩ := hides _ same
  cases found

end HotelBooking
