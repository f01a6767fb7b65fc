import HotelBooking.Effect.EventLoop

/-! Programs with a bound on the number of commands that they issue, whatever the replies. A
client of a pool makes at most that many moves. -/
namespace Effect
variable {S : Signature} {ε α β σ : Type}

namespace Program

/-- The program ends after at most `k` replies. -/
def Within : Program S ε α → Nat → Prop
  | .ret _, _ => True
  | .raise _, _ => True
  | .call _ next, k => ∃ j, k = j + 1 ∧ ∀ reply, (next reply).Within j

theorem Within.mono {program : Program S ε α} {j k : Nat} (within : program.Within j)
    (bound : j ≤ k) : program.Within k := by
  induction program generalizing j k with
  | ret value => trivial
  | raise error => trivial
  | call cmd next ih =>
    obtain ⟨i, rfl, rest⟩ := within
    exact ⟨k - 1, by omega, fun reply => ih reply (rest reply) (by omega)⟩

theorem within_bind {program : Program S ε α} {next : α → Program S ε β} {j k : Nat}
    (head : program.Within j) (tail : ∀ value, (next value).Within k) :
    (program.bind next).Within (j + k) := by
  induction program generalizing j with
  | ret value => exact (tail value).mono (Nat.le_add_left k j)
  | raise error => trivial
  | call cmd rest ih =>
    obtain ⟨i, rfl, replies⟩ := head
    exact ⟨i + k, by omega, fun reply => ih reply (replies reply)⟩

theorem within_recover {program : Program S ε α} {handler : ε → Program S ε α} {j k : Nat}
    (head : program.Within j) (rescue : ∀ error, (handler error).Within k) :
    (program.recover handler).Within (j + k) := by
  induction program generalizing j with
  | ret value => trivial
  | raise error => exact (rescue error).mono (Nat.le_add_left k j)
  | call cmd rest ih =>
    obtain ⟨i, rfl, replies⟩ := head
    exact ⟨i + k, by omega, fun reply => ih reply (replies reply)⟩

theorem within_perform (cmd : S.Cmd) :
    (perform cmd : Program S ε (S.Answer cmd)).Within 1 :=
  ⟨0, rfl, fun reply => by cases reply <;> trivial⟩

end Program

namespace Pool
variable {exec : Executor S ε σ} {policy : Policy S ε σ} {start last : Pool S ε α σ}
  {trace : List (Transition (Pool S ε α σ) (Event S ε))}

/-- Each move of a client uses up one of the replies that it may still get. -/
theorem run_within {i k : Nat}
    (within : ∀ program, start.clients[i]? = some program → program.Within k)
    (run : Run (Step exec policy) start trace last) :
    ∃ left, (trace.filter fun move => move.event.client = i).length + left ≤ k ∧
      ∀ program, last.clients[i]? = some program → program.Within left := by
  induction run with
  | start => exact ⟨k, Nat.le_of_eq (Nat.zero_add k), within⟩
  | @next trace mid event last earlier stepped ih =>
    obtain ⟨left, spent, here⟩ := ih
    rw [List.filter_append, List.length_append]
    by_cases mine : event.client = i
    · subst mine
      cases stepped with
      | @serve state waiting j cmd next fault found permitted =>
        obtain ⟨rest, rfl, replies⟩ := here _ found
        refine ⟨rest, ?_, fun program now => ?_⟩
        · simp only [List.filter_cons, List.filter_nil, decide_true, if_true, List.length_singleton]
          rw [Nat.add_assoc, Nat.add_comm 1]
          exact spent
        · have bound : j < waiting.length := (List.getElem?_eq_some_iff.mp found).1
          obtain rfl : next (fault.apply exec cmd state).1 = program := by
            simpa [List.getElem?_set, bound] using now
          exact replies _
    · refine ⟨left, ?_, fun program now => here program ?_⟩
      · rw [List.filter_cons_of_neg (by simpa using mine), List.filter_nil]
        exact spent
      · rw [EventLoop.others_keep stepped fun same => mine same.symm] at now
        exact now

end Pool
end Effect
