import HotelBooking.Effect.Program

/-! Executions of programs: one program under faults, and any number of clients
whose commands interleave over one state. Every command is atomic. A fault
replaces the reply, with or without the effect of the command. -/
namespace Effect

inductive Fault (ε : Type) where
  | none
  | refused (error : ε)
  | lost (error : ε)

variable {S : Signature} {ε α β σ : Type}

/-- `refused` has no effect, `lost` has the effect but reports an error. -/
def Fault.apply (fault : Fault ε) (exec : Executor S ε σ) (cmd : S.Cmd) (state : σ) :
    Except ε (S.Answer cmd) × σ :=
  match fault with
  | .none => exec cmd state
  | .refused error => (.error error, state)
  | .lost error => (.error error, (exec cmd state).2)

theorem Fault.apply_state (fault : Fault ε) (exec : Executor S ε σ) (cmd : S.Cmd) (state : σ) :
    (fault.apply exec cmd state).2 = (exec cmd state).2 ∨ (fault.apply exec cmd state).2 = state := by
  cases fault with
  | none => exact Or.inl rfl
  | refused error => exact Or.inr rfl
  | lost error => exact Or.inl rfl

/-- The command had its effect and its reply did not arrive. -/
def Fault.isLost : Fault ε → Bool
  | .lost _ => true
  | _ => false

/-- The command had no effect. -/
def Fault.isRefused : Fault ε → Bool
  | .refused _ => true
  | _ => false

/-- Which faults may strike a command, depending on the state it finds. -/
abbrev Policy (S : Signature) (ε σ : Type) : Type := σ → S.Cmd → Fault ε → Prop

/-- Every command may fail at any time, before or after its effect. -/
def AnyFault {S : Signature} {ε σ : Type} : Policy S ε σ := fun _ _ _ => True

structure Transition (s e : Type) where
  before : s
  event : e
  after : s

/-- Labelled runs, extended at their end. The trace keeps every state visited. -/
inductive Run {s e : Type} (step : s → e → s → Prop) (start : s) :
    List (Transition s e) → s → Prop where
  | start : Run step start [] start
  | next : Run step start trace mid → step mid event last →
      Run step start (trace ++ [⟨mid, event, last⟩]) last

namespace Run
variable {s e : Type} {step : s → e → s → Prop} {start last : s}
  {trace : List (Transition s e)}

theorem steps (run : Run step start trace last) :
    ∀ move ∈ trace, step move.before move.event move.after := by
  induction run with
  | start => intro move member; contradiction
  | next earlier stepped ih =>
    intro move member
    rcases List.mem_append.mp member with old | new
    · exact ih move old
    · obtain rfl := List.mem_singleton.mp new
      exact stepped

theorem mono {wider : s → e → s → Prop} (run : Run step start trace last)
    (implies : ∀ {before event after}, step before event after → wider before event after) :
    Run wider start trace last := by
  induction run with
  | start => exact .start
  | next earlier stepped ih => exact .next ih (implies stepped)

theorem invariant {holds : s → Prop}
    (preserves : ∀ {before event after}, holds before → step before event after → holds after)
    (initial : holds start) (run : Run step start trace last) : holds last := by
  induction run with
  | start => exact initial
  | next earlier stepped ih => exact preserves ih stepped

theorem visits_last (run : Run step start trace last) (good : s → Prop) (initial : good start)
    (visited : ∀ move ∈ trace, good move.after) : good last := by
  cases run with
  | start => exact initial
  | next earlier stepped => exact visited _ (List.mem_append_right _ List.mem_cons_self)

/-- Cutting a run at any of its steps leaves a run up to that step. -/
theorem cut (run : Run step start trace last) {early late : List (Transition s e)}
    {move : Transition s e} (split : trace = early ++ move :: late) :
    Run step start early move.before := by
  induction run generalizing late with
  | start => simp at split
  | @next trace mid event last earlier stepped ih =>
    rcases List.eq_nil_or_concat late with rfl | ⟨late', final, rfl⟩
    · obtain ⟨rfl, same⟩ := List.append_inj' split rfl
      obtain rfl := List.singleton_inj.mp same
      exact earlier
    · have longer : trace ++ [⟨mid, event, last⟩] = (early ++ move :: late') ++ [final] := by
        simpa using split
      exact ih (List.append_inj' longer rfl).1

theorem invariant_before {holds : s → Prop}
    (preserves : ∀ {before event after}, holds before → step before event after → holds after)
    (initial : holds start) (run : Run step start trace last) :
    ∀ move ∈ trace, holds move.before := by
  intro move member
  obtain ⟨early, late, split⟩ := List.append_of_mem member
  exact (run.cut split).invariant preserves initial

theorem split {early late : List (Transition s e)} (run : Run step start (early ++ late) last) :
    ∃ mid, Run step start early mid ∧ Run step mid late last := by
  generalize whole : early ++ late = trace at run
  induction run generalizing late with
  | start =>
    obtain ⟨rfl, rfl⟩ := List.append_eq_nil_iff.mp whole
    exact ⟨start, .start, .start⟩
  | @next trace mid event last earlier stepped ih =>
    rcases List.eq_nil_or_concat late with rfl | ⟨late', final, rfl⟩
    · rw [List.append_nil] at whole
      exact ⟨last, whole ▸ .next earlier stepped, .start⟩
    · rw [List.concat_eq_append, ← List.append_assoc] at whole
      rw [List.concat_eq_append]
      obtain ⟨same, lastMove⟩ := List.append_inj' whole rfl
      obtain rfl := List.singleton_inj.mp lastMove
      obtain ⟨between, first, second⟩ := ih same
      exact ⟨between, first, .next second stepped⟩

/-- A run goes on from the state after each of its steps. -/
theorem resume (run : Run step start trace last) {early late : List (Transition s e)}
    {move : Transition s e} (split : trace = early ++ move :: late) :
    Run step start (early ++ [move]) move.after ∧ Run step move.after late last := by
  rw [List.append_cons] at split
  subst split
  obtain ⟨mid, first, second⟩ := run.split
  have reached : mid = move.after := by
    generalize whole : early ++ [move] = trace at first
    cases first with
    | start => simp at whole
    | next earlier stepped =>
      obtain ⟨_, same⟩ := List.append_inj' whole rfl
      obtain rfl := List.singleton_inj.mp same
      rfl
  exact ⟨reached ▸ first, reached ▸ second⟩

theorem append {middle : s} {early late : List (Transition s e)}
    (first : Run step start early middle) (second : Run step middle late last) :
    Run step start (early ++ late) last := by
  induction second with
  | start =>
    rw [List.append_nil]
    exact first
  | next earlier stepped ih =>
    rw [← List.append_assoc]
    exact .next ih stepped

theorem extend {next : s → e → s} {events : List e}
    (permits : ∀ event ∈ events, ∀ state, step state event (next state event))
    (run : Run step start trace last) :
    ∃ longer, Run step start (trace ++ longer) (events.foldl next last) ∧
      longer.map Transition.event = events := by
  induction events generalizing trace last with
  | nil => exact ⟨[], by simpa using run, rfl⟩
  | cons event events ih =>
    have here := Run.next run (permits event List.mem_cons_self last)
    obtain ⟨longer, run, labels⟩ :=
      ih (fun other member => permits other (List.mem_cons_of_mem event member)) here
    refine ⟨⟨last, event, next last event⟩ :: longer, ?_, by simp [labels]⟩
    simpa using run

/-- A function that the step relation permits, applied to events one after another. -/
theorem foldl {next : s → e → s} {events : List e}
    (permits : ∀ event ∈ events, ∀ state, step state event (next state event)) (start : s) :
    ∃ trace, Run step start trace (events.foldl next start) ∧
      trace.map Transition.event = events :=
  extend permits .start

theorem eq_of_nil (run : Run step start [] last) : last = start := by
  generalize empty : ([] : List (Transition s e)) = trace at run
  cases run with
  | start => rfl
  | next earlier stepped => simp at empty

theorem before_head (run : Run step start trace last) {first : Transition s e}
    (head : trace.head? = some first) : first.before = start := by
  cases trace with
  | nil => cases head
  | cons move rest =>
    cases head
    exact eq_of_nil (run.cut (List.nil_append _).symm)

/-- What every step of one run keeps, by whatever that step's move says, holds along it. -/
theorem carries (run : Run step start trace last) (holds : s → Prop) (initial : holds start)
    (keeps : ∀ move ∈ trace, holds move.before → holds move.after) :
    (∀ move ∈ trace, holds move.after) ∧ holds last := by
  induction run with
  | start => exact ⟨fun move member => absurd member List.not_mem_nil, initial⟩
  | @next trace mid event last earlier stepped ih =>
    obtain ⟨visited, here⟩ := ih fun move member => keeps move (List.mem_append_left _ member)
    have final := keeps _ (List.mem_append_right _ List.mem_cons_self) here
    refine ⟨?_, final⟩
    intro move member
    rcases List.mem_append.mp member with old | new
    · exact visited move old
    · obtain rfl := List.mem_singleton.mp new
      exact final

/-- When a step keeps `good` exactly under `safe`, and an auxiliary invariant
holds throughout, a run visits only good states iff all its steps are safe. -/
theorem visits_iff {invariant good : s → Prop} {safe : s → e → Prop}
    (run : Run step start trace last)
    (keeps : ∀ {before event after}, invariant before → step before event after → invariant after)
    (exact_step : ∀ {before event after}, invariant before → good before →
      step before event after → (good after ↔ safe before event))
    (initial : invariant start) (good_start : good start) :
    (∀ move ∈ trace, good move.after) ↔ ∀ move ∈ trace, safe move.before move.event := by
  suffices both : ((∀ move ∈ trace, good move.after) ↔
      ∀ move ∈ trace, safe move.before move.event) ∧
      ((∀ move ∈ trace, good move.after) → good last) by exact both.1
  induction run with
  | start => simp [good_start]
  | @next trace mid event last earlier stepped ih =>
    have inv : invariant mid := by
      refine earlier.invariant ?_ initial
      exact keeps
    simp only [List.forall_mem_append, List.forall_mem_singleton]
    refine ⟨⟨?_, ?_⟩, fun visited => visited.2⟩
    · rintro ⟨visited, final⟩
      exact ⟨ih.1.mp visited, (exact_step inv (ih.2 visited) stepped).mp final⟩
    · rintro ⟨safe_all, final⟩
      have visited := ih.1.mpr safe_all
      exact ⟨visited, (exact_step inv (ih.2 visited) stepped).mpr final⟩

/-- Something happens in an extended trace in its old part or at its last step. -/
theorem exists_split_concat {happens : List (Transition s e) → Transition s e → Prop}
    (trace : List (Transition s e)) (last : Transition s e) :
    (∃ early move late, trace ++ [last] = early ++ move :: late ∧ happens early move) ↔
      (∃ early move late, trace = early ++ move :: late ∧ happens early move) ∨
        happens trace last := by
  constructor
  · rintro ⟨early, move, late, split, here⟩
    rcases List.eq_nil_or_concat late with rfl | ⟨late', final, rfl⟩
    · obtain ⟨rfl, same⟩ := List.append_inj' split rfl
      obtain rfl := List.singleton_inj.mp same
      exact Or.inr here
    · have longer : trace ++ [last] = (early ++ move :: late') ++ [final] := by
        simpa using split
      exact Or.inl ⟨early, move, late', (List.append_inj' longer rfl).1, here⟩
  · rintro (⟨early, move, late, rfl, here⟩ | here)
    · exact ⟨early, move, late ++ [last], by simp, here⟩
    · exact ⟨trace, last, [], rfl, here⟩

end Run

/-- One command issued by a program running alone. -/
structure Attempt (S : Signature) (ε σ : Type) where
  before : σ
  cmd : S.Cmd
  fault : Fault ε

def Attempt.reply (attempt : Attempt S ε σ) (exec : Executor S ε σ) :
    Except ε (S.Answer attempt.cmd) :=
  (attempt.fault.apply exec attempt.cmd attempt.before).1

def Attempt.after (attempt : Attempt S ε σ) (exec : Executor S ε σ) : σ :=
  (attempt.fault.apply exec attempt.cmd attempt.before).2

namespace Program

/-- Executions of one program on its own, under the faults a policy permits. -/
inductive Runs (exec : Executor S ε σ) (policy : Policy S ε σ) :
    Program S ε α → σ → List (Attempt S ε σ) → Except ε α → σ → Prop where
  | ret : Runs exec policy (.ret value) state [] (.ok value) state
  | raise : Runs exec policy (.raise error) state [] (.error error) state
  | call : policy state cmd fault →
      Runs exec policy (next (fault.apply exec cmd state).1) (fault.apply exec cmd state).2
        attempts result last →
      Runs exec policy (.call cmd next) state (⟨state, cmd, fault⟩ :: attempts) result last

section Runs
variable {exec : Executor S ε σ} {policy : Policy S ε σ} {state last : σ}
  {attempts : List (Attempt S ε σ)}

theorem runs_ofExcept {reply : Except ε α} {result : Except ε α}
    (runs : Runs exec policy (ofExcept reply) state attempts result last) :
    attempts = [] ∧ result = reply ∧ last = state := by
  cases reply <;> cases runs <;> exact ⟨rfl, rfl, rfl⟩

theorem runs_perform {cmd : S.Cmd} {result : Except ε (S.Answer cmd)}
    (runs : Runs exec policy (perform cmd) state attempts result last) :
    ∃ fault, policy state cmd fault ∧ attempts = [⟨state, cmd, fault⟩] ∧
      (result, last) = fault.apply exec cmd state := by
  cases runs with
  | call permitted rest =>
    obtain ⟨rfl, rfl, rfl⟩ := runs_ofExcept rest
    exact ⟨_, permitted, rfl, rfl⟩

theorem runs_bind {program : Program S ε α} {next : α → Program S ε β} {result : Except ε β}
    (runs : Runs exec policy (program.bind next) state attempts result last) :
    (∃ value mid first rest, attempts = first ++ rest ∧
      Runs exec policy program state first (.ok value) mid ∧
      Runs exec policy (next value) mid rest result last) ∨
    (∃ error, result = .error error ∧
      Runs exec policy program state attempts (.error error) last) := by
  induction program generalizing state attempts with
  | ret value => exact Or.inl ⟨value, state, [], attempts, rfl, .ret, runs⟩
  | raise error =>
    cases runs
    exact Or.inr ⟨error, rfl, .raise⟩
  | call cmd rest ih =>
    cases runs with
    | call permitted tail =>
      rcases ih _ tail with ⟨value, mid, first, more, rfl, head, final⟩ | ⟨error, rfl, head⟩
      · exact Or.inl ⟨value, mid, _ :: first, more, rfl, .call permitted head, final⟩
      · exact Or.inr ⟨error, rfl, .call permitted head⟩

theorem runs_recover {program : Program S ε α} {handler : ε → Program S ε α}
    {result : Except ε α}
    (runs : Runs exec policy (program.recover handler) state attempts result last) :
    (∃ error mid first rest, attempts = first ++ rest ∧
      Runs exec policy program state first (.error error) mid ∧
      Runs exec policy (handler error) mid rest result last) ∨
    (∃ value, result = .ok value ∧
      Runs exec policy program state attempts (.ok value) last) := by
  induction program generalizing state attempts with
  | ret value =>
    cases runs
    exact Or.inr ⟨value, rfl, .ret⟩
  | raise error => exact Or.inl ⟨error, state, [], attempts, rfl, .raise, runs⟩
  | call cmd rest ih =>
    cases runs with
    | call permitted tail =>
      rcases ih _ tail with ⟨error, mid, first, more, rfl, head, final⟩ | ⟨value, rfl, head⟩
      · exact Or.inl ⟨error, mid, _ :: first, more, rfl, .call permitted head, final⟩
      · exact Or.inr ⟨value, rfl, .call permitted head⟩

theorem Runs.mono {wider : Policy S ε σ} (implies : ∀ state cmd fault, policy state cmd fault →
    wider state cmd fault) {program : Program S ε α} {result : Except ε α}
    (runs : Runs exec policy program state attempts result last) :
    Runs exec wider program state attempts result last := by
  induction runs with
  | ret => exact .ret
  | raise => exact .raise
  | call permitted rest ih => exact .call (implies _ _ _ permitted) ih

theorem Runs.permitted {program : Program S ε α} {result : Except ε α}
    (runs : Runs exec policy program state attempts result last) :
    ∀ attempt ∈ attempts, policy attempt.before attempt.cmd attempt.fault := by
  induction runs with
  | ret | raise => exact fun attempt member => absurd member List.not_mem_nil
  | call permitted rest ih => exact List.forall_mem_cons.mpr ⟨permitted, ih⟩

theorem Runs.issued {allowed : S.Cmd → Prop} {program : Program S ε α} {result : Except ε α}
    (runs : Runs exec policy program state attempts result last) (uses : program.Uses allowed) :
    ∀ attempt ∈ attempts, allowed attempt.cmd := by
  induction runs with
  | ret | raise => exact fun attempt member => absurd member List.not_mem_nil
  | call permitted rest ih => exact List.forall_mem_cons.mpr ⟨uses.1, ih (uses.2 _)⟩

/-- What every attempt keeps, the whole execution keeps. -/
theorem Runs.carries {program : Program S ε α} {result : Except ε α}
    (runs : Runs exec policy program state attempts result last) (holds : σ → Prop)
    (initial : holds state)
    (keeps : ∀ attempt ∈ attempts, holds attempt.before → holds (attempt.after exec)) :
    holds last := by
  induction runs with
  | ret | raise => exact initial
  | call permitted rest ih =>
    obtain ⟨here, later⟩ := List.forall_mem_cons.mp keeps
    exact ih (here initial) later

/-- The execution in which the attempts meet the given faults, in their order, and no others. -/
def replay (exec : Executor S ε σ) :
    Program S ε α → List (Fault ε) → σ → List (Attempt S ε σ) × Except ε α × σ
  | .ret value, _, state => ([], .ok value, state)
  | .raise error, _, state => ([], .error error, state)
  | .call cmd next, faults, state =>
    let fault := faults.headD .none
    let (reply, after) := fault.apply exec cmd state
    let (attempts, ending) := (next reply).replay exec faults.tail after
    (⟨state, cmd, fault⟩ :: attempts, ending)

theorem runs_replay {program : Program S ε α} {faults : List (Fault ε)}
    (permits : ∀ attempt ∈ (program.replay exec faults state).1,
      policy attempt.before attempt.cmd attempt.fault) :
    Runs exec policy program state (program.replay exec faults state).1
      (program.replay exec faults state).2.1 (program.replay exec faults state).2.2 := by
  induction program generalizing faults state with
  | ret value => exact .ret
  | raise error => exact .raise
  | call cmd next ih =>
    obtain ⟨here, later⟩ := List.forall_mem_cons.mp permits
    exact .call here (ih _ later)

theorem replay_faultless (exec : Executor S ε σ) (program : Program S ε α) (state : σ) :
    ∀ attempt ∈ (program.replay exec [] state).1, attempt.fault = .none := by
  induction program generalizing state with
  | ret value => exact fun attempt member => absurd member List.not_mem_nil
  | raise error => exact fun attempt member => absurd member List.not_mem_nil
  | call cmd next ih =>
    intro attempt member
    rcases List.mem_cons.mp member with rfl | later
    · rfl
    · exact ih _ _ attempt later

end Runs
end Program

/-- A state shared by clients, each at some point of its own program. -/
structure Pool (S : Signature) (ε α σ : Type) where
  state : σ
  clients : List (Program S ε α)

structure Event (S : Signature) (ε : Type) where
  client : Nat
  cmd : S.Cmd
  fault : Fault ε

namespace Pool
variable {exec : Executor S ε σ} {policy : Policy S ε σ}

/-- Any client that waits for a command may be the next one served. -/
inductive Step (exec : Executor S ε σ) (policy : Policy S ε σ) :
    Pool S ε α σ → Event S ε → Pool S ε α σ → Prop where
  | serve {s : σ} {waiting : List (Program S ε α)} {i : Nat} {cmd : S.Cmd}
      {next : Except ε (S.Answer cmd) → Program S ε α} {fault : Fault ε} :
      waiting[i]? = some (.call cmd next) → policy s cmd fault →
      Step exec policy ⟨s, waiting⟩ ⟨i, cmd, fault⟩
        ⟨(fault.apply exec cmd s).2, waiting.set i (next (fault.apply exec cmd s).1)⟩

def Uses (allowed : S.Cmd → Prop) (pool : Pool S ε α σ) : Prop :=
  ∀ client ∈ pool.clients, client.Uses allowed

theorem Step.state_eq {before after : Pool S ε α σ} {event : Event S ε}
    (step : Step exec policy before event after) :
    policy before.state event.cmd event.fault ∧
      after.state = (event.fault.apply exec event.cmd before.state).2 := by
  cases step with
  | serve found permitted => exact ⟨permitted, rfl⟩

/-- What every command keeps is kept by a step: a fault executes its command or it does not. -/
theorem Step.keeps {holds : σ → Prop} {before after : Pool S ε α σ} {event : Event S ε}
    (step : Step exec policy before event after) (held : holds before.state)
    (kept : holds (exec event.cmd before.state).2) : holds after.state := by
  rw [step.state_eq.2]
  rcases event.fault.apply_state exec event.cmd before.state with executed | unchanged
  · rw [executed]
    exact kept
  · rw [unchanged]
    exact held

/-- What holds after a move, and is kept by the commands since then, holds at each of them and at
the end. -/
theorem kept_since {holds : σ → Prop} {start last : Pool S ε α σ}
    {trace early late : List (Transition (Pool S ε α σ) (Event S ε))}
    {move : Transition (Pool S ε α σ) (Event S ε)} (run : Run (Step exec policy) start trace last)
    (split : trace = early ++ move :: late) (initial : holds move.after.state)
    (keeps : ∀ other ∈ late, holds other.before.state →
      holds (exec other.event.cmd other.before.state).2) :
    (∀ other ∈ late, holds other.before.state) ∧ holds last.state := by
  obtain ⟨_, since⟩ := run.resume split
  have stepped : ∀ other ∈ late, holds other.before.state → holds other.after.state :=
    fun other listed held => (since.steps other listed).keeps held (keeps other listed held)
  obtain ⟨_, final⟩ := since.carries (fun pool => holds pool.state) initial stepped
  refine ⟨fun other listed => ?_, final⟩
  obtain ⟨first, rest, cut⟩ := List.append_of_mem listed
  refine ((since.cut cut).carries (fun pool => holds pool.state) initial fun inner inside => ?_).2
  exact stepped inner (cut ▸ List.mem_append_left _ inside)

theorem Step.issued {allowed : S.Cmd → Prop} {before after : Pool S ε α σ} {event : Event S ε}
    (uses : before.Uses allowed) (step : Step exec policy before event after) :
    allowed event.cmd ∧ after.Uses allowed := by
  cases step with
  | serve found permitted =>
    have waiting := uses _ (List.mem_of_getElem? found)
    refine ⟨waiting.1, ?_⟩
    intro client member
    rcases List.mem_or_eq_of_mem_set member with old | rfl
    · exact uses client old
    · exact waiting.2 _

theorem run_length {start last : Pool S ε α σ}
    {trace : List (Transition (Pool S ε α σ) (Event S ε))}
    (run : Run (Step exec policy) start trace last) :
    last.clients.length = start.clients.length := by
  induction run with
  | start => rfl
  | next earlier stepped ih =>
    cases stepped with
    | serve found permitted => exact (List.length_set ..).trans ih

theorem run_issued {allowed : S.Cmd → Prop} {start last : Pool S ε α σ}
    {trace : List (Transition (Pool S ε α σ) (Event S ε))} (uses : start.Uses allowed)
    (run : Run (Step exec policy) start trace last) : ∀ move ∈ trace, allowed move.event.cmd := by
  intro move member
  have before : move.before.Uses allowed :=
    run.invariant_before (fun held step => (step.issued held).2) uses move member
  exact ((run.steps move member).issued before).1

/-- Each client issues the commands of its own footprint. -/
def UsesEach (allowed : Nat → S.Cmd → Prop) (pool : Pool S ε α σ) : Prop :=
  ∀ (i : Nat) (program : Program S ε α), pool.clients[i]? = some program →
    program.Uses (allowed i)

theorem Step.issues {allowed : Nat → S.Cmd → Prop} {before after : Pool S ε α σ}
    {event : Event S ε} (uses : before.UsesEach allowed)
    (step : Step exec policy before event after) :
    allowed event.client event.cmd ∧ after.UsesEach allowed := by
  cases step with
  | @serve state waiting i cmd next fault found permitted =>
    have waits := uses i _ found
    refine ⟨waits.1, fun j program here => ?_⟩
    by_cases same : j = i
    · subst same
      have bound : j < waiting.length := (List.getElem?_eq_some_iff.mp found).1
      obtain rfl : next (fault.apply exec cmd state).1 = program := by
        simpa [List.getElem?_set, bound] using here
      exact waits.2 _
    · rw [List.getElem?_set_ne fun other => same other.symm] at here
      exact uses j program here

theorem run_issues {allowed : Nat → S.Cmd → Prop} {start last : Pool S ε α σ}
    {trace : List (Transition (Pool S ε α σ) (Event S ε))} (uses : start.UsesEach allowed)
    (run : Run (Step exec policy) start trace last) :
    ∀ move ∈ trace, allowed move.event.client move.event.cmd := by
  intro move member
  have before : move.before.UsesEach allowed :=
    run.invariant_before (fun held step => (step.issues held).2) uses move member
  exact ((run.steps move member).issues before).1

/-- Serves one client without a fault, if it waits for a command. -/
def serve (exec : Executor S ε σ) (pool : Pool S ε α σ) (i : Nat) : Pool S ε α σ :=
  match pool.clients[i]? with
  | some (.call cmd next) =>
    ⟨(exec cmd pool.state).2, pool.clients.set i (next (exec cmd pool.state).1)⟩
  | _ => pool

/-- Serves the clients in the given order. -/
def play (exec : Executor S ε σ) (pool : Pool S ε α σ) (order : List Nat) : Pool S ε α σ :=
  order.foldl (serve exec) pool

theorem run_serve (faultless : ∀ state cmd, policy state cmd .none) {start pool : Pool S ε α σ}
    {trace : List (Transition (Pool S ε α σ) (Event S ε))}
    (run : Run (Step exec policy) start trace pool) (i : Nat) :
    ∃ more, Run (Step exec policy) start (trace ++ more) (pool.serve exec i) ∧
      (∀ move ∈ more, move.before = pool ∧ move.after = pool.serve exec i) ∧
      (more = [] → pool.serve exec i = pool) := by
  obtain ⟨state, waiting⟩ := pool
  unfold serve
  split
  · next cmd rest found =>
    refine ⟨[⟨_, ⟨i, cmd, .none⟩, _⟩], .next run (.serve found (faultless state cmd)), ?_, ?_⟩
    · intro move member
      obtain rfl := List.mem_singleton.mp member
      exact ⟨rfl, rfl⟩
    · intro empty
      cases empty
  · exact ⟨[], by rwa [List.append_nil], fun move member => absurd member List.not_mem_nil, fun _ => rfl⟩

/-- Serves the clients in the given order, each turn under its fault. -/
def record (exec : Executor S ε σ) : Pool S ε α σ → List (Nat × Fault ε) →
    List (Transition (Pool S ε α σ) (Event S ε)) × Pool S ε α σ
  | pool, [] => ([], pool)
  | pool, (i, fault) :: turns =>
    match pool.clients[i]? with
    | some (.call cmd next) =>
      let after : Pool S ε α σ := ⟨(fault.apply exec cmd pool.state).2,
        pool.clients.set i (next (fault.apply exec cmd pool.state).1)⟩
      let (moves, last) := after.record exec turns
      (⟨pool, ⟨i, cmd, fault⟩, after⟩ :: moves, last)
    | _ => pool.record exec turns

theorem extend_record {start pool : Pool S ε α σ} {turns : List (Nat × Fault ε)}
    {trace : List (Transition (Pool S ε α σ) (Event S ε))}
    (earlier : Run (Step exec policy) start trace pool)
    (permits : ∀ move ∈ (pool.record exec turns).1,
      policy move.before.state move.event.cmd move.event.fault) :
    Run (Step exec policy) start (trace ++ (pool.record exec turns).1)
      (pool.record exec turns).2 := by
  induction turns generalizing pool trace with
  | nil => simpa only [record, List.append_nil] using earlier
  | cons turn turns ih =>
    obtain ⟨i, fault⟩ := turn
    obtain ⟨state, waiting⟩ := pool
    cases found : waiting[i]? with
    | none =>
      simp only [record, found] at permits ⊢
      exact ih earlier permits
    | some program =>
      cases program with
      | call cmd next =>
        simp only [record, found] at permits ⊢
        obtain ⟨here, later⟩ := List.forall_mem_cons.mp permits
        have served := ih (.next earlier (.serve found here)) later
        rwa [List.append_assoc, List.singleton_append] at served
      | ret value =>
        simp only [record, found] at permits ⊢
        exact ih earlier permits
      | raise error =>
        simp only [record, found] at permits ⊢
        exact ih earlier permits

theorem run_record {pool : Pool S ε α σ} {turns : List (Nat × Fault ε)}
    (permits : ∀ move ∈ (pool.record exec turns).1,
      policy move.before.state move.event.cmd move.event.fault) :
    Run (Step exec policy) pool (pool.record exec turns).1 (pool.record exec turns).2 :=
  extend_record .start permits

theorem record_turns {pool : Pool S ε α σ} {turns : List (Nat × Fault ε)} :
    ∀ move ∈ (pool.record exec turns).1, (move.event.client, move.event.fault) ∈ turns := by
  induction turns generalizing pool with
  | nil => exact fun move member => absurd member List.not_mem_nil
  | cons turn turns ih =>
    intro move member
    unfold record at member
    split at member
    · rcases List.mem_cons.mp member with rfl | later
      · exact List.mem_cons_self
      · exact List.mem_cons_of_mem _ (ih move later)
    · exact List.mem_cons_of_mem _ (ih move member)

/-- The given order of service without faults. -/
def faultless (order : List Nat) : List (Nat × Fault ε) := order.map fun i => (i, .none)

theorem run_faultless (permits : ∀ state cmd, policy state cmd .none) (pool : Pool S ε α σ)
    (order : List Nat) :
    Run (Step exec policy) pool (pool.record exec (faultless order)).1
      (pool.record exec (faultless order)).2 := by
  refine run_record fun move member => ?_
  obtain ⟨i, _, same⟩ := List.mem_map.mp (record_turns move member)
  rw [← (Prod.mk.inj same).2]
  exact permits _ _

/-- No client waits for a command. -/
def Finished (pool : Pool S ε α σ) : Prop :=
  ∀ program ∈ pool.clients, program.result?.isSome = true

instance (pool : Pool S ε α σ) : Decidable pool.Finished :=
  inferInstanceAs (Decidable (∀ program ∈ pool.clients, program.result?.isSome = true))

theorem Finished.result {pool : Pool S ε α σ} (finished : pool.Finished) {i : Nat}
    (bound : i < pool.clients.length) : ∃ result, pool.clients[i]? = some (.ofExcept result) := by
  obtain ⟨result, ended⟩ := Option.isSome_iff_exists.mp (finished _ (List.getElem_mem bound))
  exact ⟨result, by rw [List.getElem?_eq_getElem bound, Program.eq_ofExcept ended]⟩

/-- Every order of service is a run. -/
theorem run_play (faultless : ∀ state cmd, policy state cmd .none) (start : Pool S ε α σ)
    (order : List Nat) : ∃ trace, Run (Step exec policy) start trace (start.play exec order) := by
  have extend : ∀ (order : List Nat) (pool : Pool S ε α σ)
      (trace : List (Transition (Pool S ε α σ) (Event S ε))),
      Run (Step exec policy) start trace pool →
        ∃ trace, Run (Step exec policy) start trace (pool.play exec order) := by
    intro order
    induction order with
    | nil => exact fun pool trace run => ⟨trace, run⟩
    | cons i order ih =>
      intro pool trace run
      obtain ⟨longer, run, _⟩ := run_serve faultless run i
      exact ih _ _ run
  exact extend order start [] .start

end Pool
end Effect
