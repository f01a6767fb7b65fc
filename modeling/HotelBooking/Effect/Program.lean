import Mathlib.Tactic.Common

/-! Programs that issue typed commands and continue with each reply. A reply is
an answer or an error. The syntax is free: no command has a meaning here, an
executor supplies one. Every program ends, loops are bounded by construction. -/
namespace Effect

/-- Commands, with the type of the answer a command gives when it succeeds. -/
structure Signature where
  Cmd : Type
  Answer : Cmd → Type

inductive Program (S : Signature) (ε α : Type) where
  | ret (value : α)
  | raise (error : ε)
  | call (cmd : S.Cmd) (next : Except ε (S.Answer cmd) → Program S ε α)

abbrev Executor (S : Signature) (ε σ : Type) : Type :=
  (cmd : S.Cmd) → σ → Except ε (S.Answer cmd) × σ

namespace Program
variable {S : Signature} {ε α β γ σ : Type}

def bind : Program S ε α → (α → Program S ε β) → Program S ε β
  | .ret value, next => next value
  | .raise error, _ => .raise error
  | .call cmd rest, next => .call cmd fun reply => (rest reply).bind next

/-- The handler covers the protected program only, not its own errors. -/
def recover : Program S ε α → (ε → Program S ε α) → Program S ε α
  | .ret value, _ => .ret value
  | .raise error, handler => handler error
  | .call cmd rest, handler => .call cmd fun reply => (rest reply).recover handler

def ofExcept : Except ε α → Program S ε α
  | .ok value => .ret value
  | .error error => .raise error

def perform (cmd : S.Cmd) : Program S ε (S.Answer cmd) := .call cmd ofExcept

instance : Monad (Program S ε) where
  pure := .ret
  bind := bind

instance : MonadExceptOf ε (Program S ε) where
  throw := .raise
  tryCatch := recover

@[simp] theorem pure_eq (value : α) : (pure value : Program S ε α) = .ret value := rfl

@[simp] theorem bind_eq (program : Program S ε α) (next : α → Program S ε β) :
    program >>= next = program.bind next := rfl

@[simp] theorem throw_eq (error : ε) : (throw error : Program S ε α) = .raise error := rfl

@[simp] theorem tryCatch_eq (program : Program S ε α) (handler : ε → Program S ε α) :
    tryCatch program handler = program.recover handler := rfl

@[simp] theorem ret_bind (value : α) (next : α → Program S ε β) :
    (Program.ret value).bind next = next value := rfl

@[simp] theorem raise_bind (error : ε) (next : α → Program S ε β) :
    (Program.raise error).bind next = .raise error := rfl

@[simp] theorem ret_recover (value : α) (handler : ε → Program S ε α) :
    (Program.ret value : Program S ε α).recover handler = .ret value := rfl

@[simp] theorem raise_recover (error : ε) (handler : ε → Program S ε α) :
    (Program.raise error : Program S ε α).recover handler = handler error := rfl

@[simp] theorem ofExcept_ok (value : α) : (ofExcept (.ok value) : Program S ε α) = .ret value := rfl

@[simp] theorem ofExcept_error (error : ε) :
    (ofExcept (.error error) : Program S ε α) = .raise error := rfl

theorem bind_assoc (program : Program S ε α) (first : α → Program S ε β)
    (second : β → Program S ε γ) :
    (program.bind first).bind second = program.bind fun value => (first value).bind second := by
  induction program with
  | ret value => rfl
  | raise error => rfl
  | call cmd rest ih =>
    simp only [bind]
    congr 1
    funext reply
    exact ih reply

/-- What the program returned or threw, once it waits for no more replies. -/
def result? : Program S ε α → Option (Except ε α)
  | .ret value => some (.ok value)
  | .raise error => some (.error error)
  | .call .. => none

theorem eq_ofExcept {program : Program S ε α} {result : Except ε α}
    (ended : program.result? = some result) : program = ofExcept result := by
  cases program with
  | ret value =>
    obtain rfl := Option.some.inj ended
    rfl
  | raise error =>
    obtain rfl := Option.some.inj ended
    rfl
  | call cmd next => cases ended

/-- Every command the program can issue, under every reply, is allowed. -/
def Uses (allowed : S.Cmd → Prop) : Program S ε α → Prop
  | .ret _ => True
  | .raise _ => True
  | .call cmd next => allowed cmd ∧ ∀ reply, (next reply).Uses allowed

section Uses
variable {allowed permitted : S.Cmd → Prop}

theorem uses_bind {program : Program S ε α} {next : α → Program S ε β}
    (head : program.Uses allowed) (tail : ∀ value, (next value).Uses allowed) :
    (program.bind next).Uses allowed := by
  induction program with
  | ret value => exact tail value
  | raise error => trivial
  | call cmd rest ih =>
    obtain ⟨issued, replies⟩ := head
    exact ⟨issued, fun reply => ih reply (replies reply)⟩

theorem uses_recover {program : Program S ε α} {handler : ε → Program S ε α}
    (head : program.Uses allowed) (rescue : ∀ error, (handler error).Uses allowed) :
    (program.recover handler).Uses allowed := by
  induction program with
  | ret value => trivial
  | raise error => exact rescue error
  | call cmd rest ih =>
    obtain ⟨issued, replies⟩ := head
    exact ⟨issued, fun reply => ih reply (replies reply)⟩

theorem uses_ofExcept (reply : Except ε α) : (ofExcept reply : Program S ε α).Uses allowed := by
  cases reply <;> trivial

theorem uses_perform {cmd : S.Cmd} (permitted : allowed cmd) :
    (perform cmd : Program S ε (S.Answer cmd)).Uses allowed :=
  ⟨permitted, uses_ofExcept⟩

theorem Uses.mono {program : Program S ε α} (uses : program.Uses allowed)
    (implies : ∀ cmd, allowed cmd → permitted cmd) : program.Uses permitted := by
  induction program with
  | ret value => trivial
  | raise error => trivial
  | call cmd next ih => exact ⟨implies cmd uses.1, fun reply => ih reply (uses.2 reply)⟩

theorem Uses.and {program : Program S ε α} (first : program.Uses allowed)
    (second : program.Uses permitted) : program.Uses fun cmd => allowed cmd ∧ permitted cmd := by
  induction program with
  | ret value => trivial
  | raise error => trivial
  | call cmd next ih =>
    exact ⟨⟨first.1, second.1⟩, fun reply => ih reply (first.2 reply) (second.2 reply)⟩

end Uses

/-- Uninterrupted execution: each command takes effect before the next is issued. -/
def run (exec : Executor S ε σ) : Program S ε α → σ → Except ε α × σ
  | .ret value, state => (.ok value, state)
  | .raise error, state => (.error error, state)
  | .call cmd next, state => (next (exec cmd state).1).run exec (exec cmd state).2

section Run
variable {exec : Executor S ε σ}

@[simp] theorem run_ret (value : α) (state : σ) :
    (Program.ret value : Program S ε α).run exec state = (.ok value, state) := rfl

@[simp] theorem run_raise (error : ε) (state : σ) :
    (Program.raise error : Program S ε α).run exec state = (.error error, state) := rfl

@[simp] theorem run_ofExcept (reply : Except ε α) (state : σ) :
    (ofExcept reply : Program S ε α).run exec state = (reply, state) := by
  cases reply <;> rfl

@[simp] theorem run_perform (cmd : S.Cmd) (state : σ) :
    (perform cmd).run exec state = exec cmd state := by
  simp only [perform, run, run_ofExcept]

theorem run_bind (program : Program S ε α) (next : α → Program S ε β) (state : σ) :
    (program.bind next).run exec state =
      match program.run exec state with
      | (.ok value, after) => (next value).run exec after
      | (.error error, after) => (.error error, after) := by
  induction program generalizing state with
  | ret value => rfl
  | raise error => rfl
  | call cmd rest ih => exact ih (exec cmd state).1 (exec cmd state).2

/-- What holds after the first program and is kept by the second holds after both. -/
theorem run_bind_rule {holds : σ → Prop} {program : Program S ε α} {next : α → Program S ε β}
    {state : σ} (head : holds (program.run exec state).2)
    (tail : ∀ value, (program.run exec state).1 = .ok value →
      holds ((next value).run exec (program.run exec state).2).2) :
    holds ((program.bind next).run exec state).2 := by
  rw [run_bind]
  cases done : program.run exec state with
  | mk reply after =>
    rw [done] at head tail
    cases reply with
    | ok value => exact tail value rfl
    | error error => exact head

theorem run_recover (program : Program S ε α) (handler : ε → Program S ε α) (state : σ) :
    (program.recover handler).run exec state =
      match program.run exec state with
      | (.ok value, after) => (.ok value, after)
      | (.error error, after) => (handler error).run exec after := by
  induction program generalizing state with
  | ret value => rfl
  | raise error => rfl
  | call cmd rest ih => exact ih (exec cmd state).1 (exec cmd state).2

/-- An invariant of every allowed command is an invariant of the whole program. -/
theorem run_preserves {allowed : S.Cmd → Prop} {invariant : σ → Prop}
    (step : ∀ cmd state, allowed cmd → invariant state → invariant (exec cmd state).2)
    {program : Program S ε α} (uses : program.Uses allowed) {state : σ}
    (initial : invariant state) : invariant (program.run exec state).2 := by
  induction program generalizing state with
  | ret value => exact initial
  | raise error => exact initial
  | call cmd next ih => exact ih _ (uses.2 _) (step cmd state uses.1 initial)

end Run
end Program
end Effect
