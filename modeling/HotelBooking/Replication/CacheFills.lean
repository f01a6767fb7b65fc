import HotelBooking.Replication.Availability

/-! What `getOrSet` stores. The loader reads with PRIMARY_PREFERRED; in the degraded mode the
replica answers, which may lag behind writes that were acknowledged. -/
namespace HotelBooking
open Effect
variable {C : Type} {db : DbRouter} {config : RouterConfig}

/-- A node that has answered a query, the route of the query and the answer. -/
abbrev Answered (C : Type) : Type := DbNode × Route × List C

def RouterCmd.answers : (cmd : RouterCmd C) → Except RouterErr cmd.Answer → Option (Answered C)
  | .await _ (.answer node (.query route)), .ok rows => some (node, route, rows)
  | _, _ => none

/-- A client before its GET, after a miss with the answers since, and after anything else. In
`broken` a synchronous operation has failed, which does not happen. -/
inductive FillPhase (C : Type) where
  | looking
  | missed (key : Text) (answers : List (Answered C))
  | over
  | broken

def RouterCmd.fills (phase : FillPhase C) : (cmd : RouterCmd C) → Except RouterErr cmd.Answer →
    FillPhase C
  | .sync .., .error _ => .broken
  | .await _ (.getEntry key), .ok none => match phase with
    | .broken => .broken
    | _ => .missed key []
  | .await _ (.getEntry _), _ | .await _ (.setEntry ..), _ => match phase with
    | .broken => .broken
    | _ => .over
  | cmd, reply => match phase with
    | .missed key answers => .missed key (answers ++ (cmd.answers reply).toList)
    | phase => phase

/-- A SET stores what one node has answered since the GET of the key. -/
def LoadAllows (phase : FillPhase C) (cmd : RouterCmd C) : Prop :=
  ∀ i key data, cmd = .await i (.setEntry key data) →
    phase = .missed key [(.primary, .primaryPreferred, data)] ∨
    phase = .missed key [(.replica, .degraded, data)] ∨ phase = .broken

abbrev loadProtocol (C : Type) : Protocol (routerSignature C) RouterErr where
  Phase := FillPhase C
  allows := LoadAllows
  next phase cmd reply := cmd.fills phase reply

namespace CacheFills
open Routing
variable {phase : FillPhase C}

abbrev Any (_ : FillPhase C) (_ : Except RouterErr α) : Prop := True

/-- Commands that do not touch the entries are allowed everywhere. -/
theorem obeys_any {program : Loop C α} {i : Nat} {allowed : DbNode → NodeCall C → Prop}
    (uses : program.Uses (RouterCmd.Asks i False allowed)) :
    program.Obeys (loadProtocol C) Any phase := by
  refine uses.obeys (fun _ => True) (fun phase cmd _ asks => ?_) (fun _ _ _ _ _ => trivial)
    (fun _ _ _ => trivial) trivial
  rintro j key data rfl
  exact (asks.cached rfl).elim

/-- From `broken` on nothing has to be shown. -/
theorem obeys_broken (program : Loop C α) : program.Obeys (loadProtocol C)
    (fun after _ => after = .broken) .broken := by
  induction program with
  | ret value => rfl
  | raise error => rfl
  | call cmd next ih =>
    refine ⟨fun _ _ _ _ => Or.inr (Or.inr rfl), fun reply => ?_⟩
    have stays : cmd.fills .broken reply = .broken := by
      unfold RouterCmd.fills
      split <;> rfl
    change (next reply).Obeys (loadProtocol C) _ (cmd.fills .broken reply)
    rw [stays]
    exact ih reply

/-- What is shown of the answers, unless the phase is broken. -/
abbrev After (key : Text) (known : List (Answered C) → Except RouterErr α → Prop)
    (after : FillPhase C) (result : Except RouterErr α) : Prop :=
  after = .broken ∨ ∃ answers, after = .missed key answers ∧ known answers result

theorem after_then {key : Text} {program : Loop C α} {next : α → Loop C β}
    {middle : List (Answered C) → Except RouterErr α → Prop}
    {last : List (Answered C) → Except RouterErr β → Prop}
    (head : program.Obeys (loadProtocol C) (After key middle) phase)
    (tail : ∀ answers value, middle answers (.ok value) →
      (next value).Obeys (loadProtocol C) (After key last) (.missed key answers))
    (fails : ∀ answers error, middle answers (.error error) → last answers (.error error)) :
    (program.bind next).Obeys (loadProtocol C) (After key last) phase := by
  refine Program.obeys_bind head (fun after value reached => ?_) fun after error reached => ?_
  · rcases reached with rfl | ⟨answers, rfl, known⟩
    · exact (obeys_broken (next value)).mono fun _ _ same => Or.inl same
    · exact tail answers value known
  · exact reached.imp_right fun ⟨answers, same, known⟩ => ⟨answers, same, fails answers error known⟩

theorem after_else {key : Text} {program : Loop C α} {handler : RouterErr → Loop C α}
    {middle last : List (Answered C) → Except RouterErr α → Prop}
    (head : program.Obeys (loadProtocol C) (After key middle) phase)
    (rescue : ∀ answers error, middle answers (.error error) →
      (handler error).Obeys (loadProtocol C) (After key last) (.missed key answers))
    (returns : ∀ answers value, middle answers (.ok value) → last answers (.ok value)) :
    (program.recover handler).Obeys (loadProtocol C) (After key last) phase := by
  refine Program.obeys_recover head (fun after error reached => ?_) fun after value reached => ?_
  · rcases reached with rfl | ⟨answers, rfl, known⟩
    · exact (obeys_broken (handler error)).mono fun _ _ same => Or.inl same
    · exact rescue answers error known
  · exact reached.imp_right fun ⟨answers, same, known⟩ => ⟨answers, same, returns answers value known⟩

section Loader
variable {key : Text} {answers : List (Answered C)}

/-- The answers stay as they are, and nothing fails. -/
abbrev Same (answers : List (Answered C)) (after : List (Answered C)) (result : Except RouterErr α) :
    Prop := after = answers ∧ result.isOk = true

theorem sync_same {op : SyncOp C} : (db.sync op).Obeys (loadProtocol C) (After key (Same answers))
    (.missed key answers) := by
  refine obeys_sync nofun fun reply => ?_
  cases reply with
  | error error => exact Or.inl rfl
  | ok value => exact Or.inr ⟨answers ++ [], rfl, List.append_nil answers, rfl⟩

/-- One more answer when the query succeeds. -/
abbrev OneMore (answers : List (Answered C)) (node : DbNode) (route : Route)
    (after : List (Answered C)) (result : Except RouterErr (List C)) : Prop :=
  match result with
  | .ok rows => after = answers ++ [(node, route, rows)]
  | .error _ => after = answers

theorem asked_more (node : DbNode) (route tracked : Route) :
    ((db.ask node (.query route)).bind fun result =>
      (db.sync (.track node tracked)).bind fun _ => .ret result : Loop C (List C)).Obeys
        (loadProtocol C) (After key (OneMore answers node route)) (.missed key answers) := by
  have asked : (db.ask node (.query route) : Loop C (List C)).Obeys (loadProtocol C)
      (After key (OneMore answers node route)) (.missed key answers) := by
    refine after_then sync_same (fun same _ known => ?_) fun _ _ known => ?_
    · obtain rfl : same = answers := known.1
      refine obeys_await nofun fun reply => Or.inr ?_
      cases reply with
      | ok rows => exact ⟨_, rfl, rfl⟩
      | error error => exact ⟨_, rfl, List.append_nil same⟩
    · exact absurd known.2 Bool.false_ne_true
  refine after_then asked (fun after result more => ?_) fun _ _ known => known
  refine after_then sync_same (fun last _ known => ?_) fun _ _ known => ?_
  · exact Or.inr ⟨last, rfl, known.1.trans more⟩
  · exact absurd known.2 Bool.false_ne_true

/-- The loader returns the one answer that it got. -/
abbrev Loaded (after : List (Answered C)) (result : Except RouterErr (List C)) : Prop :=
  ∀ rows, result = .ok rows →
    after = [(.primary, .primaryPreferred, rows)] ∨ after = [(.replica, .degraded, rows)]

theorem readDegraded_loaded : (db.readDegraded .primaryPreferred : Loop C (List C)).Obeys
    (loadProtocol C) (After key Loaded) (.missed key []) := by
  unfold DbRouter.readDegraded
  split
  · refine after_then sync_same (fun after up known => ?_) fun _ _ _ => nofun
    obtain rfl : after = [] := known.1
    split
    · refine (asked_more .replica .degraded .degraded).mono fun phase result reached => ?_
      refine reached.imp_right fun ⟨answers, same, more⟩ => ⟨answers, same, ?_⟩
      rintro rows rfl
      exact Or.inr more
    · exact Or.inr ⟨[], rfl, nofun⟩
  · exact Or.inr ⟨[], rfl, nofun⟩

theorem readPrimary_loaded : (db.readPrimary .primaryPreferred : Loop C (List C)).Obeys
    (loadProtocol C) (After key Loaded) (.missed key []) := by
  refine after_then sync_same (fun after up known => ?_) fun _ _ _ => nofun
  obtain rfl : after = [] := known.1
  split
  · refine after_else (asked_more .primary .primaryPreferred .primaryPreferred)
      (fun after error none => ?_) fun after rows more => ?_
    · obtain rfl : after = [] := none
      split
      · exact Or.inr ⟨[], rfl, nofun⟩
      · refine after_then sync_same (fun after _ known => ?_) fun _ _ _ => nofun
        obtain rfl : after = [] := known.1
        exact readDegraded_loaded
    · rintro _ ⟨⟩
      exact Or.inl more
  · exact readDegraded_loaded

end Loader

theorem getOrSet_obeys (key : Text) : (db.getOrSet key : Loop C (List C)).Obeys (loadProtocol C)
    Any .looking := by
  have entry : (db.getEntry key : Loop C (Except RouterErr (Option (List C)))).Obeys
      (loadProtocol C) (fun after cached => ∃ reply, cached = .ok reply ∧
        (reply = .ok none → after = .missed key [])) .looking := by
    refine ⟨nofun, fun reply => ?_⟩
    rcases reply with error | entry | data
    · exact ⟨_, rfl, nofun⟩
    · exact ⟨_, rfl, fun _ => rfl⟩
    · exact ⟨_, rfl, nofun⟩
  refine Program.obeys_bind entry (fun after cached known => ?_) fun _ _ _ => trivial
  obtain ⟨reply, same, missed⟩ := known
  cases same
  split
  · have bypass : (db.read .eventual : Loop C (List C)).Uses
        (RouterCmd.Asks db.self False fun _ _ => True) := uses_weak nofun fun _ _ _ => trivial
    exact obeys_any bypass
  · trivial
  · rw [missed rfl]
    refine Program.obeys_bind readPrimary_loaded (fun after data loaded => ?_) fun _ _ _ => trivial
    have stored : (db.await (.setEntry key data) : Loop C Unit).Obeys (loadProtocol C) Any after := by
      refine obeys_await ?_ fun _ => trivial
      rintro i _ _ ⟨⟩
      rcases loaded with rfl | ⟨answers, rfl, known⟩
      · exact Or.inr (Or.inr rfl)
      · exact (known data rfl).imp (congrArg _) fun same => Or.inl (congrArg _ same)
    have caught : ((db.await (.setEntry key data)).recover fun _ => .ret () : Loop C Unit).Obeys
        (loadProtocol C) Any after :=
      Program.obeys_recover stored (fun _ _ _ => trivial) fun _ _ _ => trivial
    exact Program.obeys_bind caught (fun _ _ _ => trivial) fun _ _ _ => trivial

theorem task_obeys (config : RouterConfig) (task : Task C) :
    (task.program config).Obeys (loadProtocol C) Any .looking := by
  cases task with
  | advance ms => exact ⟨nofun, fun reply => by cases reply <;> trivial⟩
  | replay => exact ⟨nofun, fun reply => by cases reply <;> trivial⟩
  | serve self session call =>
    have arrived : ((config.router self session).await .request : Loop C Unit).Obeys
        (loadProtocol C) (fun after result => result.isOk → after = .looking) .looking := by
      refine obeys_await nofun fun reply => ?_
      cases reply with
      | ok _ => exact fun _ => rfl
      | error error => exact nofun
    refine Program.obeys_bind arrived (fun after _ here => ?_) fun _ _ _ => trivial
    rw [here rfl]
    cases call with
    | getOrSet key =>
      exact Program.obeys_bind (getOrSet_obeys key) (fun _ _ _ => trivial) fun _ _ _ => trivial
    | write change => exact obeys_any (uses_call (.write change))
    | read consistency => exact obeys_any (uses_call (.read consistency))
    | probe replicaFirst => exact obeys_any (uses_call (.probe replicaFirst))

theorem tasks_obey (config : RouterConfig) (cluster : Cluster C) (tasks : List (Task C)) :
    (config.start cluster tasks).Obeys (loadProtocol C) (fun _ => Any) fun _ => .looking := by
  intro i program found
  simp only [RouterConfig.start, List.getElem?_map] at found
  obtain ⟨task, _, rfl⟩ := Option.map_eq_some_iff.mp found
  exact task_obeys config task

section Run
variable {redis : Fault RouterErr → Prop} {cluster : Cluster C} {tasks : List (Task C)}
  {trace : List (RouterMove C)} {last : Tasks C}

/-- The log of the primary only grows. -/
theorem commits_grow {start : Tasks C}
    (run : Run (Pool.Step Cluster.exec (RouterFaults redis)) start trace last) :
    start.state.commits <+: last.state.commits := by
  refine (run.carries (fun pool => start.state.commits <+: pool.state.commits) (List.prefix_refl _)
    fun move member grown => grown.trans ?_).2
  let Grows (state : Cluster C) : Prop := move.before.state.commits <+: state.commits
  have kept : Grows (Cluster.exec move.event.cmd move.before.state).2 := by
    generalize move.event.cmd = cmd
    cases cmd with
    | sync i op => cases op <;> exact List.prefix_refl _
    | await i op =>
      cases op with
      | answer node call =>
        cases call with
        | mutation change => exact List.prefix_append _ _
        | _ => exact List.prefix_refl _
      | _ => exact List.prefix_refl _
    | advance ms => exact List.prefix_refl _
    | replay => exact List.prefix_refl _
  have held : Grows move.before.state := List.prefix_refl _
  exact (run.steps move member).keeps held kept

theorem of_answers {cmd : RouterCmd C} {reply : Except RouterErr cmd.Answer} {node : DbNode}
    {route : Route} {rows : List C} (answers : cmd.answers reply = some (node, route, rows)) :
    ∃ i, cmd = .await i (.answer node (.query route)) := by
  unfold RouterCmd.answers at answers
  split at answers
  · cases answers
    exact ⟨_, rfl⟩
  · cases answers

/-- An answer is what the node has applied at that time. -/
theorem answers_cases {move : RouterMove C} {node : DbNode} {route : Route} {rows : List C} :
    move.event.cmd.answers (Pool.reply Cluster.exec move) = some (node, route, rows) ↔
      ∃ i, move.event.cmd = .await i (.answer node (.query route)) ∧ move.event.fault = .none ∧
        rows = move.before.state.snapshot node := by
  obtain ⟨before, ⟨client, cmd, fault⟩, after⟩ := move
  constructor
  · intro answers
    obtain ⟨i, issued⟩ := of_answers answers
    obtain rfl : cmd = .await i (.answer node (.query route)) := issued
    cases fault with
    | none =>
      cases answers
      exact ⟨i, rfl, rfl, rfl⟩
    | refused error => cases answers
    | lost error => cases answers
  · rintro ⟨i, issued, plain, rfl⟩
    obtain rfl : cmd = .await i (.answer node (.query route)) := issued
    obtain rfl : fault = .none := plain
    rfl

theorem fills_unbroken {cmd : RouterCmd C} {reply : Except RouterErr cmd.Answer}
    (unbroken : phase ≠ .broken) (answered : ∀ i op, cmd = .sync i op → reply.isOk = true) :
    cmd.fills phase reply ≠ .broken := by
  unfold RouterCmd.fills
  split
  · exact absurd (answered _ _ rfl) Bool.false_ne_true
  · split
    · exact unbroken
    · exact fun same => by cases same
  · split
    · exact unbroken
    · exact fun same => by cases same
  · split
    · exact unbroken
    · exact fun same => by cases same
  · split
    · exact fun same => by cases same
    · exact unbroken

/-- Nothing synchronous fails. -/
theorem phase_unbroken (run : Run (Pool.Step Cluster.exec (RouterFaults redis))
    (config.start cluster tasks) trace last) (client : Nat) :
    Pool.phases (loadProtocol C) Cluster.exec (fun _ => .looking) trace client ≠ .broken := by
  refine Pool.phases_rule (loadProtocol C) (fun phase => phase ≠ .broken)
    (fun same => by cases same) trace fun move member _ phase unbroken => ?_
  refine fills_unbroken unbroken fun i op issued => ?_
  obtain ⟨plain, _⟩ := sync_effect (run.steps move member) issued
  obtain ⟨before, ⟨client, cmd, fault⟩, after⟩ := move
  obtain rfl : fault = .none := plain
  obtain rfl : cmd = .sync i op := issued
  rfl

theorem fills_missed {cmd : RouterCmd C} {reply : Except RouterErr cmd.Answer} {key : Text}
    {answers : List (Answered C)} (missed : cmd.fills phase reply = .missed key answers) :
    (∃ i, cmd = .await i (.getEntry key) ∧ answers = []) ∨
      ∃ before, phase = .missed key before ∧ answers = before ++ (cmd.answers reply).toList := by
  unfold RouterCmd.fills at missed
  split at missed
  · cases missed
  · split at missed <;> cases missed
    exact Or.inl ⟨_, rfl, rfl⟩
  · split at missed <;> cases missed
  · split at missed <;> cases missed
  · split at missed
    · cases missed
      exact Or.inr ⟨_, rfl, rfl⟩
    · next other => exact absurd missed (other _ _)

/-- What a client has missed, its last GET has, and the answers came since. -/
theorem missed_cases {client : Nat} {key : Text} {answers : List (Answered C)}
    (missed : Pool.phases (loadProtocol C) Cluster.exec (fun _ => .looking) trace client =
      .missed key answers) :
    ∃ early look middle i, trace = early ++ look :: middle ∧ look.event.client = client ∧
      look.event.cmd = .await i (.getEntry key) ∧
      ∀ answer, answer ∈ answers ↔ ∃ move ∈ middle, move.event.client = client ∧
        move.event.cmd.answers (Pool.reply Cluster.exec move) = some answer := by
  induction trace using List.reverseRecOn generalizing answers with
  | nil => cases missed
  | append_singleton trace move ih =>
    rw [Pool.phases_concat] at missed
    by_cases mine : move.event.client = client
    · subst mine
      rw [Pool.advance, Function.update_self] at missed
      rcases fills_missed missed with ⟨i, looks, rfl⟩ | ⟨before, earlier, rfl⟩
      · refine ⟨trace, move, [], i, rfl, rfl, looks, fun answer => ?_⟩
        simp
      · obtain ⟨early, look, middle, i, rfl, own, looks, since⟩ := ih earlier
        refine ⟨early, look, middle ++ [move], i, by simp, own, looks, fun answer => ?_⟩
        simp only [List.mem_append, since, Option.mem_toList, List.mem_singleton,
          or_and_right, exists_or, exists_eq_left, true_and]
    · rw [Pool.advance, Function.update_of_ne fun same => mine same.symm] at missed
      obtain ⟨early, look, middle, i, rfl, own, looks, since⟩ := ih missed
      refine ⟨early, look, middle ++ [move], i, by simp, own, looks, fun answer => ?_⟩
      simp only [List.mem_append, since, List.mem_singleton, or_and_right, exists_or,
        exists_eq_left, mine, false_and, or_false]

/-- A request issues all its commands on the instance that serves it. -/
theorem one_instance (run : Run (Pool.Step Cluster.exec (RouterFaults redis))
    (config.start cluster tasks) trace last) {first second : RouterMove C} (earlier : first ∈ trace)
    (later : second ∈ trace) (same : first.event.client = second.event.client) {i j : Nat}
    {op other : AwaitOp C} (issues : first.event.cmd = .await i op)
    (reissues : second.event.cmd = .await j other) : i = j := by
  have uses := Routing.uses_tasks config cluster tasks
  obtain ⟨task, here, asks⟩ := Pool.run_issues uses run first earlier
  obtain ⟨_, there, again⟩ := Pool.run_issues uses run second later
  rw [same] at here
  cases here.symm.trans there
  rw [issues] at asks
  rw [reissues] at again
  cases task with
  | serve own session call => exact Option.some.inj (asks.owned.trans again.owned.symm)
  | advance ms => cases asks
  | replay => cases asks

end Run
end CacheFills

section Run
variable {tasks : List (Task C)} {trace : List (RouterMove C)} {last : Tasks C}

/-- A commit before the loader starts, right after its GET, whose writer has returned by then. -/
structure Acknowledged (early : List (RouterMove C)) (look commit : RouterMove C) (change : C) :
    Prop where
  committed : commit ∈ early
  mutates : ∃ i, commit.event.cmd = .await i (.answer .primary (.mutation change))
  effective : commit.event.fault = .none
  returned : look.after.clients[commit.event.client]? = some (.ret none)

/-- The log up to the commit is part of the data. -/
def Reflects (data : List C) (commit : RouterMove C) : Prop := commit.after.state.commits <+: data

/-- Each stored value reflects the acknowledged writes of its key exactly when a replica that has
served it in the degraded mode had applied them. -/
theorem fill_current_iff (config : RouterConfig) (cluster : Cluster C) (tasks : List (Task C))
    (redis : Fault RouterErr → Prop) (concerns : Text → C → Prop)
    (run : RouterRun redis (config.start cluster tasks) trace last)
    {prior late : List (RouterMove C)} {store : RouterMove C} (split : trace = prior ++ store :: late)
    {self : Nat} {key : Text} {data : List C}
    (stores : store.event.cmd = .await self (.setEntry key data)) :
    ∃ early look middle, prior = early ++ look :: middle ∧
      look.event.client = store.event.client ∧ look.event.cmd = .await self (.getEntry key) ∧
      ((∀ commit change, Acknowledged early look commit change → concerns key change →
          Reflects data commit) ↔
        ∀ degraded ∈ middle, degraded.event.client = store.event.client →
          degraded.event.cmd = .await self (.answer .replica (.query .degraded)) →
          degraded.event.fault = .none →
          ∀ commit change, Acknowledged early look commit change → concerns key change →
          commit.after.state.commits <+: degraded.before.state.applied) := by
  have pool := EventLoop.run_pool run
  have member : store ∈ trace := split ▸ List.mem_append_right _ List.mem_cons_self
  have allowed := Pool.run_allows (CacheFills.tasks_obey config cluster tasks) pool split
  have unbroken := CacheFills.phase_unbroken (pool.cut split) store.event.client
  have owner (move : RouterMove C) (listed : move ∈ trace)
      (mine : move.event.client = store.event.client) {i : Nat} {op : AwaitOp C}
      (issued : move.event.cmd = .await i op) : i = self :=
    CacheFills.one_instance pool listed member mine issued stores
  obtain ⟨node, route, missed, from_⟩ : ∃ node route, Pool.phases (loadProtocol C) Cluster.exec
      (fun _ => .looking) prior store.event.client = .missed key [(node, route, data)] ∧
      (node = .primary ∨ (node = .replica ∧ route = .degraded)) := by
    rcases allowed self key data stores with primary | replica | broken
    · exact ⟨_, _, primary, Or.inl rfl⟩
    · exact ⟨_, _, replica, Or.inr ⟨rfl, rfl⟩⟩
    · exact absurd broken unbroken
  obtain ⟨early, look, middle, i, rfl, own, looks, since⟩ := CacheFills.missed_cases missed
  obtain rfl := owner look (split ▸ by simp) own looks
  refine ⟨early, look, middle, rfl, own, looks, ?_⟩
  have only (degraded : RouterMove C) (inside : degraded ∈ middle)
      (mine : degraded.event.client = store.event.client)
      (issued : degraded.event.cmd = .await i (.answer .replica (.query .degraded)))
      (plain : degraded.event.fault = .none) :
      node = .replica ∧ degraded.before.state.applied = data := by
    have answers := CacheFills.answers_cases.mpr ⟨i, issued, plain, rfl⟩
    have listed := (since _).mpr ⟨degraded, inside, mine, answers⟩
    have same := List.mem_singleton.mp listed
    exact ⟨(congrArg Prod.fst same).symm, congrArg (fun answer => answer.2.2) same⟩
  obtain ⟨answer, inside, mine, answers⟩ := (since (node, route, data)).mp List.mem_cons_self
  obtain ⟨j, issued, plain, loaded⟩ := CacheFills.answers_cases.mp answers
  obtain rfl := owner answer (split ▸ by simp [inside]) mine issued
  rcases from_ with rfl | ⟨rfl, rfl⟩
  · -- the primary has answered, with everything that was committed before
    refine iff_of_true (fun commit change acked _ => ?_) fun degraded here same asks none => ?_
    · obtain ⟨first, rest, rfl⟩ := List.append_of_mem acked.committed
      obtain ⟨between, others, rfl⟩ := List.append_of_mem inside
      have place : trace = first ++ commit :: (rest ++ look :: (between ++ answer ::
          (others ++ store :: late))) := by simp [split]
      have here : rest ++ look :: (between ++ answer :: (others ++ store :: late)) =
          (rest ++ look :: between) ++ answer :: (others ++ store :: late) := by simp
      rw [loaded]
      exact CacheFills.commits_grow ((pool.resume place).2.cut here)
    · cases (only degraded here same asks none).1
  · constructor
    · intro reflects degraded here same asks none commit change acked concerned
      rw [(only degraded here same asks none).2]
      exact reflects commit change acked concerned
    · intro applied commit change acked concerned
      rw [loaded]
      exact applied answer inside mine issued plain commit change acked concerned

end Run

def cardKey : Text := text "hotel"

/-- A write on one instance and a fill on the other one. -/
def writeAndFill : List (Task Nat) := [.serve 0 none (.write 7), .serve 1 none (.getOrSet cardKey)]

/-- The write is acknowledged before the fill begins. -/
def filled : List (RouterMove Nat) × Tasks Nat :=
  withReplica.record writeAndFill (Pool.faultless (List.replicate 5 0 ++ List.replicate 7 1))

/-- The instance of the fill does not reach the primary, and the replica has applied nothing yet. -/
def filledDegraded : List (RouterMove Nat) × Tasks Nat :=
  withReplica.record writeAndFill (Pool.faultless (List.replicate 5 0 ++ List.replicate 4 1) ++
    (1, .refused (.prisma unreachable)) :: Pool.faultless (List.replicate 6 1))

theorem getElem?_split {β : Type} {l : List β} {k : Nat} {x : β} (here : l[k]? = some x) :
    l = l.take k ++ x :: l.drop (k + 1) := by
  obtain ⟨bound, rfl⟩ := List.getElem?_eq_some_iff.mp here
  rw [← List.drop_eq_getElem_cons bound, List.take_append_drop]

theorem fault_none {fault : Fault RouterErr} (kept : fault.isRefused = false)
    (arrived : fault.isLost = false) : fault = .none := by
  cases fault with
  | none => rfl
  | refused error => cases kept
  | lost error => cases arrived

/-- The fill stores what the replica has, without the write that was acknowledged before. -/
theorem degraded_fill_stale : ∃ trace last early look middle store late data commit,
    RouterRun (· = .none) (withReplica.start (.init true) writeAndFill) trace last ∧
    trace = early ++ look :: (middle ++ store :: late) ∧
    look.event.client = store.event.client ∧ look.event.cmd = .await 1 (.getEntry cardKey) ∧
    store.event.cmd = .await 1 (.setEntry cardKey data) ∧
    Acknowledged early look commit 7 ∧ ¬ Reflects data commit := by
  have run := run_recorded _ _ (by decide +kernel :
    ∀ move ∈ filledDegraded.1, RouterMove.admissible move = true)
  obtain ⟨look, hereLook⟩ := Option.isSome_iff_exists.mp
    (by decide +kernel : (filledDegraded.1[6]?).isSome = true)
  obtain ⟨store, hereStore⟩ := Option.isSome_iff_exists.mp
    (by decide +kernel : ((filledDegraded.1.drop 7)[8]?).isSome = true)
  obtain ⟨commit, hereCommit⟩ := Option.isSome_iff_exists.mp
    (by decide +kernel : ((filledDegraded.1.take 6)[3]?).isSome = true)
  have looks : (filledDegraded.1[6]?).all fun look => look.event.client = 1 ∧
      look.event.cmd = .await 1 (.getEntry cardKey) ∧
      answered? look.after 0 = some none := by decide +kernel
  have stores : ((filledDegraded.1.drop 7)[8]?).all fun store => store.event.client = 1 ∧
      store.event.cmd = .await 1 (.setEntry cardKey []) := by decide +kernel
  have commits : ((filledDegraded.1.take 6)[3]?).all fun commit => commit.event.client = 0 ∧
      commit.event.cmd = .await 0 (.answer .primary (.mutation 7)) ∧
      commit.event.fault.isRefused = false ∧ commit.event.fault.isLost = false ∧
      commit.after.state.commits = [7] := by decide +kernel
  rw [hereLook] at looks
  rw [hereStore] at stores
  rw [hereCommit] at commits
  obtain ⟨fills, looks, returned⟩ := of_decide_eq_true looks
  obtain ⟨same, stores⟩ := of_decide_eq_true stores
  obtain ⟨writer, mutates, kept, arrived, log⟩ := of_decide_eq_true commits
  refine ⟨_, _, filledDegraded.1.take 6, look, (filledDegraded.1.drop 7).take 8, store,
    (filledDegraded.1.drop 7).drop 9, [], commit, run, ?_, fills.trans same.symm, looks, stores, ?_, ?_⟩
  · rw [← getElem?_split hereStore]
    exact getElem?_split hereLook
  · exact ⟨List.mem_of_getElem? hereCommit, ⟨0, mutates⟩, fault_none kept arrived,
      writer ▸ answered?_eq returned⟩
  · rw [Reflects, log]
    decide

theorem fill_current_iff_filled : ∃ trace last prior store late,
    RouterRun (· = .none) (withReplica.start (.init true) writeAndFill) trace last ∧
    trace = prior ++ store :: late ∧ store.event.cmd = .await 1 (.setEntry cardKey [7]) ∧
    ∃ early look middle, prior = early ++ look :: middle ∧
      look.event.cmd = .await 1 (.getEntry cardKey) ∧
      ∀ commit change, Acknowledged early look commit change → Reflects [7] commit := by
  have run := run_recorded _ _ (by decide +kernel :
    ∀ move ∈ filled.1, RouterMove.admissible move = true)
  obtain ⟨store, here⟩ := Option.isSome_iff_exists.mp
    (by decide +kernel : (filled.1[11]?).isSome = true)
  have stores : (filled.1[11]?).all fun store =>
      store.event.cmd = .await 1 (.setEntry cardKey [7]) := by decide +kernel
  have primary : ∀ move ∈ filled.1.take 11,
      move.event.cmd ≠ .await 1 (.answer .replica (.query .degraded)) := by decide +kernel
  rw [here] at stores
  have stores := of_decide_eq_true stores
  obtain ⟨early, look, middle, split, _, looks, exact_⟩ := fill_current_iff withReplica _
    writeAndFill _ (fun _ _ => True) run (getElem?_split here) stores
  refine ⟨_, _, _, store, _, run, getElem?_split here, stores, early, look, middle, split, looks, ?_⟩
  intro commit change acked
  refine exact_.mpr (fun degraded inside _ asks => ?_) commit change acked trivial
  exact absurd asks (primary degraded (split ▸ List.mem_append_right _
    (List.mem_cons_of_mem _ inside)))

end HotelBooking
