import HotelBooking.Effect.Protocol

/-! Programs that issue commands on the side and ignore how these end. Without the commands on
the side such a program runs like its core: a run of a pool, with these commands left out, is a
run of the pool of the cores. -/
namespace Effect
variable {S : Signature} {ε α β σ : Type}

/-- A command and the reply that the program got to it. -/
structure Exchange (S : Signature) (ε : Type) where
  cmd : S.Cmd
  reply : Except ε (S.Answer cmd)

namespace Program

/-- One way through the program, to its end. -/
inductive Path : Program S ε α → List (Exchange S ε) → Except ε α → Prop where
  | ret {value : α} : Path (.ret value) [] (.ok value)
  | raise {error : ε} : Path (.raise error) [] (.error error)
  | call {cmd : S.Cmd} {next : Except ε (S.Answer cmd) → Program S ε α}
      {reply : Except ε (S.Answer cmd)} : Path (next reply) steps result →
      Path (.call cmd next) (⟨cmd, reply⟩ :: steps) result

/-- A way through a program that obeys a protocol ends in a phase that admits its result. -/
theorem Path.obeys {protocol : Protocol S ε} {ends : protocol.Phase → Except ε α → Prop}
    {program : Program S ε α} {steps : List (Exchange S ε)} {result : Except ε α}
    (path : program.Path steps result) {phase : protocol.Phase}
    (obeys : program.Obeys protocol ends phase) :
    ends (steps.foldl (fun before step => protocol.next before step.cmd step.reply) phase) result := by
  induction path generalizing phase with
  | ret => exact obeys
  | raise => exact obeys
  | call _ ih => exact ih (obeys.2 _)

theorem path_ofExcept (result : Except ε α) : (ofExcept result : Program S ε α).Path [] result := by
  cases result with
  | ok value => exact .ret
  | error error => exact .raise

/-- The program when every command on the side is refused at once. -/
def refusing (aside : S.Cmd → Bool) (refusal : ε) : Program S ε α → Program S ε α
  | .ret value => .ret value
  | .raise error => .raise error
  | .call cmd next =>
    if aside cmd then (next (.error refusal)).refusing aside refusal
    else .call cmd fun reply => (next reply).refusing aside refusal

/-- The program follows its core, whatever is replied to commands on the side. Where `early` is
allowed it may return before the core has ended. -/
inductive Covers (aside : S.Cmd → Bool) (early : Prop) :
    Program S ε α → Program S ε α → Prop where
  | ret {value : α} : Covers aside early (.ret value) (.ret value)
  | raise {error : ε} : Covers aside early (.raise error) (.raise error)
  | stop {value : α} {core : Program S ε α} : early → Covers aside early (.ret value) core
  | call {cmd : S.Cmd} {next core : Except ε (S.Answer cmd) → Program S ε α} :
      aside cmd = false → (∀ reply, Covers aside early (next reply) (core reply)) →
      Covers aside early (.call cmd next) (.call cmd core)
  | skip {cmd : S.Cmd} {next : Except ε (S.Answer cmd) → Program S ε α} {core : Program S ε α} :
      aside cmd = true → (∀ reply, Covers aside early (next reply) core) →
      Covers aside early (.call cmd next) core

section Covers
variable {aside : S.Cmd → Bool} {early : Prop}

/-- A program without commands on the side, and what follows it. -/
theorem covers_after {program : Program S ε α} (uses : program.Uses fun cmd => aside cmd = false)
    {next core : α → Program S ε β} (rest : ∀ value, Covers aside early (next value) (core value)) :
    Covers aside early (program.bind next) (program.bind core) := by
  induction program with
  | ret value => exact rest value
  | raise error => exact .raise
  | call cmd follow ih => exact .call uses.1 fun reply => ih reply (uses.2 reply)

/-- What follows a program that may return early must return as well, whatever it is given. -/
theorem covers_bind {program core : Program S ε α} (head : Covers aside early program core)
    {next follow : α → Program S ε β} (rest : ∀ value, Covers aside early (next value) (follow value))
    (final : early → ∀ value, ∃ last, next value = .ret last) :
    Covers aside early (program.bind next) (core.bind follow) := by
  induction head with
  | ret => exact rest _
  | raise => exact .raise
  | @stop value core allowed =>
    obtain ⟨last, same⟩ := final allowed value
    rw [ret_bind, same]
    exact .stop allowed
  | call plain _ ih => exact .call plain ih
  | skip side _ ih => exact .skip side ih

theorem covers_ite {c : Prop} {first second : Decidable c} {yes no coreYes coreNo : Program S ε α}
    (positive : c → Covers aside early yes coreYes) (negative : ¬ c → Covers aside early no coreNo) :
    Covers aside early (@ite _ c first yes no) (@ite _ c second coreYes coreNo) := by
  by_cases holds : c
  · rw [if_pos holds, if_pos holds]
    exact positive holds
  · rw [if_neg holds, if_neg holds]
    exact negative holds

/-- A program that has ended and its core have the same result, or it has returned early. -/
theorem Covers.ended {result : Except ε α} {core : Program S ε α}
    (covers : (ofExcept result).Covers aside early core) :
    core = ofExcept result ∨ early ∧ result.isOk = true := by
  cases result with
  | error error =>
    cases covers with
    | raise => exact Or.inl rfl
  | ok value =>
    cases covers with
    | ret => exact Or.inl rfl
    | stop allowed => exact Or.inr ⟨allowed, rfl⟩

/-- A core that is never cut short issues no commands on the side. -/
theorem Covers.core_uses {program core : Program S ε α} (covers : Covers aside early program core)
    (ends : ¬ early) (refusal : ε) : core.Uses fun cmd => aside cmd = false := by
  induction covers with
  | ret => trivial
  | raise => trivial
  | stop allowed => exact absurd allowed ends
  | call plain _ ih => exact ⟨plain, ih⟩
  | skip _ _ ih => exact ih (.error refusal)

/-- The exchanges that are not on the side are a way through the core, to the same end. -/
theorem Covers.path {program core : Program S ε α} (covers : Covers aside early program core)
    {steps : List (Exchange S ε)} {result : Except ε α} (path : program.Path steps result)
    (ends : ¬ early) : core.Path (steps.filter fun step => !aside step.cmd) result := by
  induction covers generalizing steps with
  | ret =>
    cases path
    exact .ret
  | raise =>
    cases path
    exact .raise
  | stop allowed => exact absurd allowed ends
  | call plain _ ih =>
    cases path with
    | call rest =>
      rw [List.filter_cons_of_pos (by simp [plain])]
      exact .call (ih _ rest)
  | skip side _ ih =>
    cases path with
    | call rest =>
      rw [List.filter_cons_of_neg (by simp [side])]
      exact ih _ rest

variable {refusal : ε}

theorem covers_refusing {program : Program S ε α}
    (uses : program.Uses fun cmd => aside cmd = false) :
    program.Covers aside early (program.refusing aside refusal) := by
  induction program with
  | ret value => exact .ret
  | raise error => exact .raise
  | call cmd next ih =>
    unfold refusing
    rw [if_neg (by simp [uses.1])]
    exact .call uses.1 fun reply => ih reply (uses.2 reply)

theorem refusing_bind (program : Program S ε α) (next : α → Program S ε β) :
    (program.bind next).refusing aside refusal =
      (program.refusing aside refusal).bind fun value => (next value).refusing aside refusal := by
  induction program with
  | ret value => rfl
  | raise error => rfl
  | call cmd follow ih =>
    simp only [bind, refusing]
    split
    · exact ih _
    · simp only [bind]
      congr 1
      funext reply
      exact ih reply

theorem covers_refusing_bind {program : Program S ε α} {next : α → Program S ε β}
    (head : program.Covers aside False (program.refusing aside refusal))
    (rest : ∀ value, (next value).Covers aside False ((next value).refusing aside refusal)) :
    (program.bind next).Covers aside False ((program.bind next).refusing aside refusal) := by
  rw [refusing_bind]
  exact covers_bind head rest nofun

end Covers
end Program

/-- What the commands on the side neither change nor show to the other commands. -/
structure Hidden (exec : Executor S ε σ) (aside : S.Cmd → Bool) (same : σ → σ → Prop) : Prop where
  kept {cmd : S.Cmd} {state core : σ} : aside cmd = true → same state core →
    same (exec cmd state).2 core
  agree {cmd : S.Cmd} {state core : σ} : aside cmd = false → same state core →
    (exec cmd state).1 = (exec cmd core).1 ∧ same (exec cmd state).2 (exec cmd core).2

theorem Hidden.fault {exec : Executor S ε σ} {aside : S.Cmd → Bool} {same : σ → σ → Prop}
    (hidden : Hidden exec aside same) (fault : Fault ε) {cmd : S.Cmd}
    {state core : σ} (here : same state core) :
    (aside cmd = true → same (fault.apply exec cmd state).2 core) ∧
    (aside cmd = false → (fault.apply exec cmd state).1 = (fault.apply exec cmd core).1 ∧
      same (fault.apply exec cmd state).2 (fault.apply exec cmd core).2) := by
  cases fault with
  | none => exact ⟨fun side => hidden.kept side here, fun plain => hidden.agree plain here⟩
  | refused error => exact ⟨fun _ => here, fun _ => ⟨rfl, here⟩⟩
  | lost error =>
    exact ⟨fun side => hidden.kept side here, fun plain => ⟨rfl, (hidden.agree plain here).2⟩⟩

namespace Pool
variable {exec : Executor S ε σ} {policy : Policy S ε σ} {aside : S.Cmd → Bool}
  {same : σ → σ → Prop} {early : Nat → Prop}

/-- Each client of the pool covers the client in its place. Where there is none it issues commands
on the side only. -/
structure Covers (aside : S.Cmd → Bool) (same : σ → σ → Prop) (early : Nat → Prop)
    (pool core : Pool S ε α σ) : Prop where
  state : same pool.state core.state
  clients {i : Nat} {program : Program S ε α} : pool.clients[i]? = some program →
    (∃ left, core.clients[i]? = some left ∧ program.Covers aside (early i) left) ∨
      (core.clients[i]? = none ∧ program.Uses fun cmd => aside cmd = true)

/-- A step of the pool is the same step of the cores, or none. -/
theorem Covers.step (hidden : Hidden exec aside same) {before core after : Pool S ε α σ}
    {event : Event S ε} (covers : before.Covers aside same early core)
    (step : Step exec policy before event after) :
    (aside event.cmd = true ∧ after.Covers aside same early core) ∨
    (aside event.cmd = false ∧ ∃ mid, Step exec AnyFault core event mid ∧
      after.Covers aside same early mid) := by
  cases step with
  | @serve state waiting i cmd next fault found permitted =>
    have bound : i < waiting.length := (List.getElem?_eq_some_iff.mp found).1
    have unmoved (side : aside cmd = true)
        (follows : (∃ left, core.clients[i]? = some left ∧
            (next (fault.apply exec cmd state).1).Covers aside (early i) left) ∨
          (core.clients[i]? = none ∧
            (next (fault.apply exec cmd state).1).Uses fun cmd => aside cmd = true)) :
        Covers aside same early ⟨(fault.apply exec cmd state).2,
          waiting.set i (next (fault.apply exec cmd state).1)⟩ core := by
      refine ⟨(hidden.fault fault covers.state).1 side, fun {j} {program} here => ?_⟩
      by_cases mine : i = j
      · subst mine
        obtain rfl : next (fault.apply exec cmd state).1 = program := by simpa [bound] using here
        exact follows
      · rw [List.getElem?_set_ne mine] at here
        exact covers.clients here
    rcases covers.clients found with ⟨left, there, covered⟩ | ⟨none, uses⟩
    · cases covered with
      | skip side rest => exact Or.inl ⟨side, unmoved side (Or.inl ⟨left, there, rest _⟩)⟩
      | @call _ _ follow plain rest =>
        obtain ⟨database, others⟩ := core
        obtain ⟨replied, kept⟩ := (hidden.fault fault covers.state).2 plain
        refine Or.inr ⟨plain, _, .serve there trivial, kept, fun {j} {program} here => ?_⟩
        have within : i < others.length := (List.getElem?_eq_some_iff.mp there).1
        by_cases mine : i = j
        · subst mine
          obtain rfl : next (fault.apply exec cmd state).1 = program := by simpa [bound] using here
          refine Or.inl ⟨follow (fault.apply exec cmd database).1, by simp [within], ?_⟩
          rw [replied]
          exact rest _
        · rw [List.getElem?_set_ne mine] at here
          rw [List.getElem?_set_ne mine]
          exact covers.clients here
    · exact Or.inl ⟨uses.1, unmoved uses.1 (Or.inr ⟨none, uses.2 _⟩)⟩

/-- A run, without its commands on the side, is a run of the cores: the same commands of the
same clients meet the same faults. -/
theorem Covers.run (hidden : Hidden exec aside same) {start core last : Pool S ε α σ}
    {trace : List (Transition (Pool S ε α σ) (Event S ε))}
    (covers : start.Covers aside same early core) (run : Run (Step exec policy) start trace last) :
    ∃ others final, Run (Step exec AnyFault) core others final ∧
      others.map Transition.event =
        (trace.map Transition.event).filter (fun event => !aside event.cmd) ∧
      last.Covers aside same early final := by
  induction run with
  | start => exact ⟨[], core, .start, rfl, covers⟩
  | next earlier stepped ih =>
    obtain ⟨others, final, runs, events, covered⟩ := ih
    rcases covered.step hidden stepped with ⟨side, after⟩ | ⟨plain, mid, moves, after⟩
    · exact ⟨others, final, runs, by simp [events, side], after⟩
    · exact ⟨_, mid, .next runs moves, by simp [events, plain], after⟩

/-- A client that has ended, unless early, has the result of the client in its place. -/
theorem Covers.ended {pool core : Pool S ε α σ} (covers : pool.Covers aside same early core) {i : Nat}
    {result : Except ε α} (ended : pool.clients[i]? = some (.ofExcept result))
    (present : i < core.clients.length) (late : early i → result.isOk = false) :
    core.clients[i]? = some (.ofExcept result) := by
  rcases covers.clients ended with ⟨left, there, follows⟩ | ⟨absent, _⟩
  · rcases follows.ended with rfl | ⟨allowed, ok⟩
    · exact there
    · cases ok.symm.trans (late allowed)
  · exact absurd present (Nat.not_lt_of_le (List.getElem?_eq_none_iff.mp absent))

/-- What a client has exchanged in a run. -/
def exchanges (exec : Executor S ε σ) (trace : List (Transition (Pool S ε α σ) (Event S ε)))
    (client : Nat) : List (Exchange S ε) :=
  (trace.filter fun move => move.event.client = client).map fun move =>
    ⟨move.event.cmd, reply exec move⟩

/-- What a client has exchanged leads through its program to the program that it has left. -/
theorem run_path {start last : Pool S ε α σ}
    {trace : List (Transition (Pool S ε α σ) (Event S ε))}
    (run : Run (Step exec policy) start trace last) {i : Nat} {program : Program S ε α}
    (begins : start.clients[i]? = some program) :
    ∃ now, last.clients[i]? = some now ∧ ∀ steps result, now.Path steps result →
      program.Path (exchanges exec trace i ++ steps) result := by
  induction run with
  | start => exact ⟨program, begins, fun _ _ path => path⟩
  | next earlier stepped ih =>
    obtain ⟨now, here, reaches⟩ := ih
    cases stepped with
    | @serve state waiting j cmd next fault found permitted =>
      by_cases mine : j = i
      · subst mine
        obtain rfl := Option.some.inj (here.symm.trans found)
        have bound : j < waiting.length := (List.getElem?_eq_some_iff.mp found).1
        refine ⟨next (fault.apply exec cmd state).1, by simp [bound], fun steps result path => ?_⟩
        have longer := reaches _ _ (.call path)
        simpa [exchanges, reply] using longer
      · refine ⟨now, ?_, fun steps result path => ?_⟩
        · rw [List.getElem?_set_ne mine]
          exact here
        · simpa [exchanges, mine] using reaches steps result path

/-- The exchanges of a client that has finished are a way through its program. -/
theorem run_exchanges {start last : Pool S ε α σ}
    {trace : List (Transition (Pool S ε α σ) (Event S ε))}
    (run : Run (Step exec policy) start trace last) {i : Nat} {program : Program S ε α}
    (begins : start.clients[i]? = some program) {result : Except ε α}
    (ends : last.clients[i]? = some (.ofExcept result)) :
    program.Path (exchanges exec trace i) result := by
  obtain ⟨now, here, reaches⟩ := run_path run begins
  obtain rfl := Option.some.inj (here.symm.trans ends)
  simpa using reaches [] result (Program.path_ofExcept result)

end Pool
end Effect
