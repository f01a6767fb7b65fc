import HotelBooking.Effect.Execution

/-! What every execution of a lone program leads to, by rules that follow its syntax. -/
namespace Effect.Program
variable {S : Signature} {ε α β σ : Type} {exec : Executor S ε σ} {policy : Policy S ε σ} {state : σ}

/-- Every execution from the state ends as `post` admits: the attempts, the result, the last
state. -/
def Ensures (exec : Executor S ε σ) (policy : Policy S ε σ)
    (post : List (Attempt S ε σ) → Except ε α → σ → Prop) (program : Program S ε α) (state : σ) :
    Prop :=
  ∀ attempts result last, program.Runs exec policy state attempts result last →
    post attempts result last

/-- A policy that permits some fault of every command lets every program run to its end. -/
theorem exists_runs (total : ∀ state cmd, ∃ fault, policy state cmd fault) (program : Program S ε α)
    (state : σ) : ∃ attempts result last, program.Runs exec policy state attempts result last := by
  induction program generalizing state with
  | ret value => exact ⟨_, _, _, .ret⟩
  | raise error => exact ⟨_, _, _, .raise⟩
  | call cmd next ih =>
    obtain ⟨fault, permitted⟩ := total state cmd
    obtain ⟨attempts, result, last, runs⟩ := ih _ (fault.apply exec cmd state).2
    exact ⟨_, _, _, .call permitted runs⟩

section Rules
variable {post middle : List (Attempt S ε σ) → Except ε α → σ → Prop}

theorem ensures_ret {value : α} (holds : post [] (.ok value) state) :
    (Program.ret value).Ensures exec policy post state := by
  intro attempts result last runs
  cases runs
  exact holds

theorem ensures_raise {error : ε} (holds : post [] (.error error) state) :
    (Program.raise error).Ensures exec policy post state := by
  intro attempts result last runs
  cases runs
  exact holds

theorem ensures_perform {cmd : S.Cmd} {post : List (Attempt S ε σ) → Except ε (S.Answer cmd) → σ → Prop}
    (holds : ∀ fault, policy state cmd fault →
      post [⟨state, cmd, fault⟩] (fault.apply exec cmd state).1 (fault.apply exec cmd state).2) :
    (perform cmd).Ensures exec policy post state := by
  intro attempts result last runs
  obtain ⟨fault, permitted, rfl, applied⟩ := runs_perform runs
  obtain ⟨rfl, rfl⟩ := Prod.mk.inj applied
  exact holds fault permitted

theorem Ensures.mono {program : Program S ε α} (ensures : program.Ensures exec policy middle state)
    (implies : ∀ attempts result last, middle attempts result last → post attempts result last) :
    program.Ensures exec policy post state :=
  fun _ _ _ runs => implies _ _ _ (ensures _ _ _ runs)

theorem ensures_bind {program : Program S ε β} {next : β → Program S ε α}
    {middle : List (Attempt S ε σ) → Except ε β → σ → Prop}
    (head : program.Ensures exec policy middle state)
    (tail : ∀ first value mid, middle first (.ok value) mid →
      (next value).Ensures exec policy (fun rest => post (first ++ rest)) mid)
    (fails : ∀ attempts error last, middle attempts (.error error) last →
      post attempts (.error error) last) :
    (program.bind next).Ensures exec policy post state := by
  intro attempts result last runs
  rcases runs_bind runs with ⟨value, mid, first, rest, rfl, before, after⟩ | ⟨error, rfl, before⟩
  · exact tail first value mid (head _ _ _ before) _ _ _ after
  · exact fails _ _ _ (head _ _ _ before)

theorem ensures_recover {program : Program S ε α} {handler : ε → Program S ε α}
    (head : program.Ensures exec policy middle state)
    (rescue : ∀ first error mid, middle first (.error error) mid →
      (handler error).Ensures exec policy (fun rest => post (first ++ rest)) mid)
    (returns : ∀ attempts value last, middle attempts (.ok value) last →
      post attempts (.ok value) last) :
    (program.recover handler).Ensures exec policy post state := by
  intro attempts result last runs
  rcases runs_recover runs with ⟨error, mid, first, rest, rfl, before, after⟩ | ⟨value, rfl, before⟩
  · exact rescue first error mid (head _ _ _ before) _ _ _ after
  · exact returns _ _ _ (head _ _ _ before)

end Rules
end Effect.Program
