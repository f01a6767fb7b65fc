import HotelBooking.Effect.Execution
import Mathlib.Data.List.Basic
import Mathlib.Logic.Function.Basic

/-! Circuit breakers. The commands of some kind pass a breaker on their way out. A breaker that is
open turns the client away: no command is issued, and the client sees a refusal. A client whose
command came back with a tripping fault opens its breaker before it goes on. Probes close and open
breakers at any time. -/
namespace Effect
variable {S : Signature} {ε α σ K : Type}

/-- The breakers between the clients and what they command. Several clients may share one. -/
structure CircuitBreaker (S : Signature) (ε K : Type) where
  guards : S.Cmd → Bool
  owner : Nat → K
  trips : Fault ε → Bool
  refusal : ε

/-- A pool behind breakers. A client that has been admitted has not yet had its command executed;
one that has tripped has not yet opened its breaker. -/
structure Guarded (S : Signature) (ε α σ K : Type) where
  pool : Pool S ε α σ
  opened : K → Bool
  admitted : Nat → Bool
  tripped : Nat → Bool

inductive GuardedEvent (S : Signature) (ε K : Type) where
  | serve (event : Event S ε)
  | turnAway (client : Nat) (cmd : S.Cmd)
  | grant (client : Nat)
  | trip (client : Nat)
  | probe (breaker : K) (up : Bool)

namespace Guarded

/-- Nobody is on the way. -/
def atRest (pool : Pool S ε α σ) (opened : K → Bool) : Guarded S ε α σ K :=
  ⟨pool, opened, fun _ => false, fun _ => false⟩

/-- All breakers are closed. -/
def start (pool : Pool S ε α σ) : Guarded S ε α σ K := atRest pool fun _ => false

end Guarded

namespace CircuitBreaker
variable [DecidableEq K] {breaker : CircuitBreaker S ε K} {exec : Executor S ε σ}
  {policy wider : Policy S ε σ}

/-- The client waits for the reply to a guarded command, and is not on its way. -/
structure Waits (breaker : CircuitBreaker S ε K) (state : Guarded S ε α σ K) (client : Nat)
    (cmd : S.Cmd) : Prop where
  found : ∃ next, state.pool.clients[client]? = some (.call cmd next)
  guarded : breaker.guards cmd = true
  fresh : state.admitted client = false
  settled : state.tripped client = false

inductive Step (breaker : CircuitBreaker S ε K) (exec : Executor S ε σ) (policy : Policy S ε σ) :
    Guarded S ε α σ K → GuardedEvent S ε K → Guarded S ε α σ K → Prop where
  | serve {state : Guarded S ε α σ K} {event : Event S ε} {pool : Pool S ε α σ} :
      Pool.Step exec policy state.pool event pool →
      (breaker.guards event.cmd = true → state.admitted event.client = true) →
      state.tripped event.client = false →
      Step breaker exec policy state (.serve event)
        { state with
          pool
          admitted := Function.update state.admitted event.client false
          tripped := Function.update state.tripped event.client
            (breaker.guards event.cmd && breaker.trips event.fault) }
  | turnAway {state : Guarded S ε α σ K} {client : Nat} {cmd : S.Cmd} {pool : Pool S ε α σ} :
      breaker.Waits state client cmd → state.opened (breaker.owner client) = true →
      Pool.Step exec AnyFault state.pool ⟨client, cmd, .refused breaker.refusal⟩ pool →
      Step breaker exec policy state (.turnAway client cmd) { state with pool }
  | grant {state : Guarded S ε α σ K} {client : Nat} {cmd : S.Cmd} :
      breaker.Waits state client cmd → state.opened (breaker.owner client) = false →
      Step breaker exec policy state (.grant client)
        { state with admitted := Function.update state.admitted client true }
  | trip {state : Guarded S ε α σ K} {client : Nat} : state.tripped client = true →
      Step breaker exec policy state (.trip client)
        { state with
          opened := Function.update state.opened (breaker.owner client) true
          tripped := Function.update state.tripped client false }
  | probe {state : Guarded S ε α σ K} {breaker' : K} {up : Bool} :
      Step breaker exec policy state (.probe breaker' up)
        { state with opened := Function.update state.opened breaker' !up }

/-- What a client asked for, and the fault that it saw. -/
def call? (breaker : CircuitBreaker S ε K) : GuardedEvent S ε K → Option (Event S ε)
  | .serve event => some event
  | .turnAway client cmd => some ⟨client, cmd, .refused breaker.refusal⟩
  | .grant _ | .trip _ | .probe .. => none

section Projection
variable {start last : Guarded S ε α σ K}
  {trace : List (Transition (Guarded S ε α σ K) (GuardedEvent S ε K))}

/-- The step of the pool behind the breakers. -/
def move? (breaker : CircuitBreaker S ε K)
    (move : Transition (Guarded S ε α σ K) (GuardedEvent S ε K)) :
    Option (Transition (Pool S ε α σ) (Event S ε)) :=
  (breaker.call? move.event).map fun event => ⟨move.before.pool, event, move.after.pool⟩

omit [DecidableEq K] in
/-- A step of the pool, under any policy that permits its fault. -/
theorem pool_step_under {before after : Pool S ε α σ} {event : Event S ε}
    (step : Pool.Step exec policy before event after)
    (permitted : wider before.state event.cmd event.fault) :
    Pool.Step exec wider before event after := by
  cases step with
  | serve found _ => exact .serve found permitted

/-- A client that is turned away sees what it would see if its command were refused. -/
theorem Step.pool {before after : Guarded S ε α σ K} {event : GuardedEvent S ε K}
    (widens : ∀ state cmd fault, policy state cmd fault → wider state cmd fault)
    (refuses : ∀ state cmd, breaker.guards cmd = true →
      wider state cmd (.refused breaker.refusal))
    (step : breaker.Step exec policy before event after) :
    (∃ called, breaker.call? event = some called ∧
        Pool.Step exec wider before.pool called after.pool) ∨
      (breaker.call? event = none ∧ after.pool = before.pool) := by
  cases step with
  | serve served admitted settled =>
    exact Or.inl ⟨_, rfl, pool_step_under served (widens _ _ _ served.state_eq.1)⟩
  | turnAway waits opened served =>
    exact Or.inl ⟨_, rfl, pool_step_under served (refuses _ _ waits.guarded)⟩
  | grant | trip | probe => exact Or.inr ⟨rfl, rfl⟩

/-- Behind the breakers a run of the pool takes place, in which a client that is turned away has
its command refused. -/
theorem run_pool (widens : ∀ state cmd fault, policy state cmd fault → wider state cmd fault)
    (refuses : ∀ state cmd, breaker.guards cmd = true →
      wider state cmd (.refused breaker.refusal))
    (run : Run (breaker.Step exec policy) start trace last) :
    Run (Pool.Step exec wider) start.pool (trace.filterMap breaker.move?) last.pool := by
  induction run with
  | start => exact .start
  | @next trace mid event last earlier stepped ih =>
    rcases stepped.pool widens refuses with ⟨called, isCall, served⟩ | ⟨noCall, same⟩
    · have moved : breaker.move? ⟨mid, event, last⟩ = some ⟨mid.pool, called, last.pool⟩ := by
        rw [move?, isCall]
        rfl
      rw [List.filterMap_append, List.filterMap_cons_some moved]
      exact .next ih served
    · have still : breaker.move? ⟨mid, event, last⟩ = none := by
        rw [move?, noCall]
        rfl
      rw [List.filterMap_append, List.filterMap_cons_none still, List.filterMap_nil,
        List.append_nil, same]
      exact ih

omit [DecidableEq K] in
theorem events_pool : (trace.filterMap breaker.move?).map Transition.event =
    (trace.map Transition.event).filterMap breaker.call? := by
  rw [List.map_filterMap, List.filterMap_map]
  congr 1
  funext move
  simp [move?, Function.comp_def]

omit [DecidableEq K] in
/-- Keeping the events of some calls keeps these calls. -/
theorem map_call?_filter (keep : Event S ε → Bool) (events : List (GuardedEvent S ε K)) :
    (events.filter fun event => (breaker.call? event).any keep).map breaker.call? =
      ((events.filterMap breaker.call?).filter keep).map some := by
  induction events with
  | nil => rfl
  | cons event rest ih =>
    cases called : breaker.call? event with
    | none => simp [called, ih]
    | some call =>
      cases kept : keep call with
      | true => simp [called, kept, ih]
      | false => simp [called, kept, ih]

end Projection

section Causes
variable {start last : Guarded S ε α σ K}
  {trace : List (Transition (Guarded S ε α σ K) (GuardedEvent S ε K))}

/-- A guarded command of the client came back with a tripping fault. -/
def Struck (breaker : CircuitBreaker S ε K) (client : Nat)
    (trace : List (Transition (Guarded S ε α σ K) (GuardedEvent S ε K))) : Prop :=
  ∃ move ∈ trace, ∃ event, move.event = .serve event ∧ event.client = client ∧
    breaker.guards event.cmd = true ∧ breaker.trips event.fault = true

/-- A client of the breaker was struck and opened it, or a probe did. -/
def Opens (breaker : CircuitBreaker S ε K) (key : K)
    (early : List (Transition (Guarded S ε α σ K) (GuardedEvent S ε K)))
    (event : GuardedEvent S ε K) : Prop :=
  event = .probe key false ∨
    ∃ client, breaker.owner client = key ∧ event = .trip client ∧ breaker.Struck client early

/-- Something opened the breaker, and no probe has closed it since. -/
def OpenSince (breaker : CircuitBreaker S ε K) (key : K)
    (trace : List (Transition (Guarded S ε α σ K) (GuardedEvent S ε K))) : Prop :=
  ∃ early move late, trace = early ++ move :: late ∧ breaker.Opens key early move.event ∧
    ∀ later ∈ late, later.event ≠ .probe key true

/-- A client that has tripped was struck. -/
theorem struck_of_tripped (calm : ∀ client, start.tripped client = false)
    (run : Run (breaker.Step exec policy) start trace last) {client : Nat}
    (tripped : last.tripped client = true) : breaker.Struck client trace := by
  have longer : ∀ {trace : List (Transition (Guarded S ε α σ K) (GuardedEvent S ε K))} {move},
      breaker.Struck client trace → breaker.Struck client (trace ++ [move]) :=
    fun ⟨move, listed, struck⟩ => ⟨move, List.mem_append_left _ listed, struck⟩
  induction run with
  | start => cases (calm client).symm.trans tripped
  | @next trace mid event last earlier stepped ih =>
    cases stepped with
    | @serve event pool served admitted settled =>
      dsimp only at tripped
      by_cases mine : client = event.client
      · subst mine
        rw [Function.update_self] at tripped
        obtain ⟨guarded, struck⟩ := Bool.and_eq_true_iff.mp tripped
        exact ⟨_, List.mem_append_right _ List.mem_cons_self, event, rfl, rfl, guarded, struck⟩
      · rw [Function.update_of_ne mine] at tripped
        exact longer (ih tripped)
    | @trip other _ =>
      dsimp only at tripped
      by_cases mine : client = other
      · subst mine
        rw [Function.update_self] at tripped
        cases tripped
      · rw [Function.update_of_ne mine] at tripped
        exact longer (ih tripped)
    | turnAway | grant | probe => exact longer (ih tripped)

omit [DecidableEq K] in
theorem OpenSince.later {key : K} {move : Transition (Guarded S ε α σ K) (GuardedEvent S ε K)}
    (since : breaker.OpenSince key trace) (other : move.event ≠ .probe key true) :
    breaker.OpenSince key (trace ++ [move]) := by
  obtain ⟨early, cause, late, rfl, opens, quiet⟩ := since
  refine ⟨early, cause, late ++ [move], by simp, opens, fun later member => ?_⟩
  rcases List.mem_append.mp member with old | new
  · exact quiet later old
  · obtain rfl := List.mem_singleton.mp new
    exact other

omit [DecidableEq K] in
theorem Opens.since {key : K} {move : Transition (Guarded S ε α σ K) (GuardedEvent S ε K)}
    (opens : breaker.Opens key trace move.event) : breaker.OpenSince key (trace ++ [move]) :=
  ⟨trace, move, [], rfl, opens, fun _ member => absurd member List.not_mem_nil⟩

/-- A breaker is open because something opened it. -/
theorem openSince (pool : Pool S ε α σ)
    (run : Run (breaker.Step exec policy) (.start pool) trace last) {key : K}
    (opened : last.opened key = true) : breaker.OpenSince key trace := by
  induction run with
  | start => cases opened
  | @next trace mid event last earlier stepped ih =>
    cases stepped with
    | serve | turnAway | grant => exact OpenSince.later (ih opened) nofun
    | @trip client tripped =>
      dsimp only at opened
      by_cases mine : key = breaker.owner client
      · exact Opens.since (Or.inr ⟨client, mine.symm, rfl,
          struck_of_tripped (fun _ => rfl) earlier tripped⟩)
      · rw [Function.update_of_ne mine] at opened
        exact OpenSince.later (ih opened) nofun
    | @probe probed up =>
      dsimp only at opened
      by_cases mine : key = probed
      · subst mine
        rw [Function.update_self] at opened
        obtain rfl := Bool.not_eq_true' up ▸ opened
        exact Opens.since (Or.inl rfl)
      · rw [Function.update_of_ne mine] at opened
        refine OpenSince.later (ih opened) ?_
        rintro ⟨⟩
        exact mine rfl

theorem Step.turned {before after : Guarded S ε α σ K} {client : Nat} {cmd : S.Cmd}
    (step : breaker.Step exec policy before (.turnAway client cmd) after) :
    breaker.guards cmd = true ∧ before.opened (breaker.owner client) = true := by
  cases step with
  | turnAway waits opened served => exact ⟨waits.guarded, opened⟩

/-- Who is turned away finds a breaker that something has opened. -/
theorem openSince_turned (pool : Pool S ε α σ)
    (run : Run (breaker.Step exec policy) (.start pool) trace last)
    {early late : List (Transition (Guarded S ε α σ K) (GuardedEvent S ε K))}
    {move : Transition (Guarded S ε α σ K) (GuardedEvent S ε K)}
    (split : trace = early ++ move :: late) {client : Nat} {cmd : S.Cmd}
    (turned : move.event = .turnAway client cmd) :
    breaker.OpenSince (breaker.owner client) early := by
  have step := run.steps move (split ▸ List.mem_append_right _ List.mem_cons_self)
  rw [turned] at step
  exact openSince pool (run.cut split) step.turned.2

end Causes

section Realization
variable {pool after : Pool S ε α σ}

/-- The events by which a client gets an answer. -/
def calls (breaker : CircuitBreaker S ε K)
    (trace : List (Transition (Guarded S ε α σ K) (GuardedEvent S ε K))) :
    List (GuardedEvent S ε K) :=
  (trace.map Transition.event).filter fun event => (breaker.call? event).isSome

theorem realize_unguarded (opened : K → Bool) {event : Event S ε}
    (passes : breaker.guards event.cmd = false) (step : Pool.Step exec AnyFault pool event after) :
    breaker.Step exec AnyFault (.atRest pool opened) (.serve event) (.atRest after opened) := by
  have served : breaker.Step exec AnyFault (.atRest pool opened) (.serve event) _ :=
    .serve step (fun guarded => by cases passes.symm.trans guarded) rfl
  simpa [Guarded.atRest, passes] using served

/-- A probe closes the breaker, the client is admitted, and opens the breaker again if it must. -/
theorem realize_guarded (opened : K → Bool) {event : Event S ε}
    (passes : breaker.guards event.cmd = true) (step : Pool.Step exec AnyFault pool event after) :
    ∃ trace opened', Run (breaker.Step exec AnyFault) (.atRest pool opened) trace
      (.atRest after opened') ∧ breaker.calls trace = [.serve event] := by
  have found : ∃ next, pool.clients[event.client]? = some (.call event.cmd next) := by
    cases step with
    | serve found permitted => exact ⟨_, found⟩
  let closed : Guarded S ε α σ K :=
    .atRest pool (Function.update opened (breaker.owner event.client) false)
  let sent := { closed with admitted := Function.update closed.admitted event.client true }
  let back := { sent with
    pool := after
    admitted := Function.update sent.admitted event.client false
    tripped := Function.update sent.tripped event.client
      (breaker.guards event.cmd && breaker.trips event.fault) }
  have probed : breaker.Step exec AnyFault (.atRest pool opened)
      (.probe (breaker.owner event.client) true) closed := .probe
  have admitted : breaker.Step exec AnyFault closed (.grant event.client) sent :=
    .grant ⟨found, passes, rfl, rfl⟩ (Function.update_self ..)
  have served : breaker.Step exec AnyFault sent (.serve event) back :=
    .serve step (fun _ => Function.update_self ..) rfl
  have run := ((Run.start.next probed).next admitted).next served
  have arrived : back.admitted = fun _ => false := by
    simp only [back, sent, closed, Guarded.atRest, Function.update_idem, Function.update_eq_self]
  cases trips : breaker.trips event.fault with
  | false =>
    have calm : back = .atRest after closed.opened := by
      simp only [back, Guarded.atRest, Guarded.mk.injEq, true_and]
      exact ⟨rfl, arrived, by simp [trips, sent, closed, Guarded.atRest]⟩
    exact ⟨_, closed.opened, calm ▸ run, rfl⟩
  | true =>
    have struck : back.tripped event.client = true := by simp [back, passes, trips]
    have noticed := run.next (.trip struck)
    have calm : { back with
        opened := Function.update back.opened (breaker.owner event.client) true
        tripped := Function.update back.tripped event.client false } = Guarded.atRest after
          (Function.update back.opened (breaker.owner event.client) true) := by
      simp only [Guarded.atRest, Guarded.mk.injEq, true_and]
      exact ⟨rfl, arrived, by simp [back, sent, closed, Guarded.atRest]⟩
    exact ⟨_, _, calm ▸ noticed, rfl⟩

/-- A probe opens the breaker, and the client is turned away. -/
theorem realize_turnAway (opened : K → Bool) {client : Nat} {cmd : S.Cmd}
    (passes : breaker.guards cmd = true)
    (step : Pool.Step exec AnyFault pool ⟨client, cmd, .refused breaker.refusal⟩ after) :
    ∃ trace opened', Run (breaker.Step exec AnyFault) (.atRest pool opened) trace
      (.atRest after opened') ∧ breaker.calls trace = [.turnAway client cmd] := by
  have found : ∃ next, pool.clients[client]? = some (.call cmd next) := by
    cases step with
    | serve found permitted => exact ⟨_, found⟩
  let shut : Guarded S ε α σ K :=
    .atRest pool (Function.update opened (breaker.owner client) true)
  have probed : breaker.Step exec AnyFault (.atRest pool opened)
      (.probe (breaker.owner client) false) shut := .probe
  have turned : breaker.Step exec AnyFault shut (.turnAway client cmd) { shut with pool := after } :=
    .turnAway ⟨found, passes, rfl, rfl⟩ (Function.update_self ..) step
  exact ⟨_, _, (Run.start.next probed).next turned, rfl⟩

/-- Any run of the pool takes place behind breakers that probes set as it needs them: its refusals
may each be one of a node or of a breaker. -/
theorem realize {start last : Pool S ε α σ} {moves : List (Transition (Pool S ε α σ) (Event S ε))}
    (run : Run (Pool.Step exec AnyFault) start moves last) {events : List (GuardedEvent S ε K)}
    (same : events.map breaker.call? = moves.map fun move => some move.event)
    (guarded : ∀ client cmd, .turnAway client cmd ∈ events → breaker.guards cmd = true)
    (opened : K → Bool) :
    ∃ trace opened', Run (breaker.Step exec AnyFault) (.atRest start opened) trace
      (.atRest last opened') ∧ breaker.calls trace = events := by
  induction run generalizing events with
  | start =>
    obtain rfl := List.map_eq_nil_iff.mp same
    exact ⟨[], opened, .start, rfl⟩
  | @next moves mid called last earlier stepped ih =>
    rw [List.map_append] at same
    obtain ⟨before, final, rfl, old, new⟩ := List.map_eq_append_iff.mp same
    obtain ⟨event, rest, rfl, isCall, none⟩ := List.map_eq_cons_iff.mp new
    obtain rfl := List.map_eq_nil_iff.mp none
    obtain ⟨trace, between, run, calls⟩ := ih old fun client cmd member =>
      guarded client cmd (List.mem_append_left _ member)
    have last : ∃ more opened', Run (breaker.Step exec AnyFault) (.atRest mid between) more
        (.atRest last opened') ∧ breaker.calls more = [event] := by
      cases event with
      | grant | trip | probe => cases isCall
      | turnAway client cmd =>
        obtain rfl := Option.some.inj isCall
        exact realize_turnAway between
          (guarded client cmd (List.mem_append_right _ List.mem_cons_self)) stepped
      | serve event =>
        obtain rfl := Option.some.inj isCall
        cases passes : breaker.guards event.cmd with
        | true => exact realize_guarded between passes stepped
        | false => exact ⟨_, between, .next .start (realize_unguarded between passes stepped), rfl⟩
    obtain ⟨more, opened', further, answered⟩ := last
    refine ⟨trace ++ more, opened', run.append further, ?_⟩
    rw [CircuitBreaker.calls, List.map_append, List.filter_append]
    exact congrArg₂ (· ++ ·) calls answered

/-- Any run of the pool takes place behind breakers that turn nobody away. -/
theorem realize_served (breaker : CircuitBreaker S ε K) {start last : Pool S ε α σ}
    {moves : List (Transition (Pool S ε α σ) (Event S ε))}
    (run : Run (Pool.Step exec AnyFault) start moves last) :
    ∃ trace final, Run (breaker.Step exec AnyFault) (.start start) trace final ∧ final.pool = last ∧
      breaker.calls trace = moves.map fun move => .serve move.event := by
  have nobody : ∀ client cmd, .turnAway client cmd ∈
      moves.map (fun move => (.serve move.event : GuardedEvent S ε K)) →
        breaker.guards cmd = true := by
    intro client cmd member
    obtain ⟨move, _, other⟩ := List.mem_map.mp member
    cases other
  obtain ⟨trace, opened, realized, served⟩ :=
    realize run (by simp [call?, Function.comp_def]) nobody fun _ => false
  exact ⟨trace, _, realized, rfl, served⟩

end Realization
end CircuitBreaker
end Effect
