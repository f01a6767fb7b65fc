import HotelBooking.Effect.Erasure

/-! Lagging copies. Commands of some kind may be answered by a copy of the state, which holds what
the state was at some time before. It may also fail. Nothing that it answers changes the state. -/
namespace Effect
variable {S : Signature} {ε α σ : Type}

/-- A pool, with the states that its copy may still be at. -/
structure Copied (S : Signature) (ε α σ : Type) where
  pool : Pool S ε α σ
  past : List σ

inductive CopiedEvent (S : Signature) (ε : Type) where
  | serve (event : Event S ε)
  | copy (client : Nat) (exchange : Exchange S ε)

abbrev CopiedMove (S : Signature) (ε α σ : Type) : Type :=
  Transition (Copied S ε α σ) (CopiedEvent S ε)

namespace Copied
variable {reads : S.Cmd → Bool} {exec : Executor S ε σ} {policy : Policy S ε σ}

/-- The copy starts at the state itself, or at one of some earlier states. -/
def start (pool : Pool S ε α σ) (earlier : List σ) : Copied S ε α σ :=
  ⟨pool, pool.state :: earlier⟩

inductive Step (reads : S.Cmd → Bool) (exec : Executor S ε σ) (policy : Policy S ε σ) :
    Copied S ε α σ → CopiedEvent S ε → Copied S ε α σ → Prop where
  | serve {pool after : Pool S ε α σ} {past : List σ} {event : Event S ε} :
      Pool.Step exec policy pool event after →
      Step reads exec policy ⟨pool, past⟩ (.serve event) ⟨after, after.state :: past⟩
  | copy {state : σ} {waiting : List (Program S ε α)} {past : List σ} {i : Nat} {cmd : S.Cmd}
      {next : Except ε (S.Answer cmd) → Program S ε α} {reply : Except ε (S.Answer cmd)} :
      waiting[i]? = some (.call cmd next) → reads cmd = true →
      (∀ answer, reply = .ok answer → ∃ old ∈ past, (exec cmd old).1 = .ok answer) →
      Step reads exec policy ⟨⟨state, waiting⟩, past⟩ (.copy i ⟨cmd, reply⟩)
        ⟨⟨state, waiting.set i (next reply)⟩, past⟩

variable {start last : Copied S ε α σ} {trace : List (CopiedMove S ε α σ)}

/-- What the client exchanged in the move, with the pool or with the copy. -/
def exchange? (exec : Executor S ε σ) (client : Nat) (move : CopiedMove S ε α σ) :
    Option (Exchange S ε) :=
  match move.event with
  | .serve event => if event.client = client then
      some ⟨event.cmd, (event.fault.apply exec event.cmd move.before.pool.state).1⟩ else none
  | .copy other exchange => if other = client then some exchange else none

def exchanges (exec : Executor S ε σ) (trace : List (CopiedMove S ε α σ)) (client : Nat) :
    List (Exchange S ε) := trace.filterMap (exchange? exec client)

/-- What a client has exchanged leads through its program to the program that it has left. -/
theorem run_path (run : Run (Step reads exec policy) start trace last) {i : Nat}
    {program : Program S ε α} (begins : start.pool.clients[i]? = some program) :
    ∃ now, last.pool.clients[i]? = some now ∧ ∀ steps result, now.Path steps result →
      program.Path (exchanges exec trace i ++ steps) result := by
  -- a move of the client is one step of its path, any other one leaves it where it is
  have moves : ∀ {waiting : List (Program S ε α)} {now : Program S ε α} {j : Nat} {cmd : S.Cmd}
      {next : Except ε (S.Answer cmd) → Program S ε α} (reply : Except ε (S.Answer cmd)),
      waiting[i]? = some now → waiting[j]? = some (.call cmd next) →
      ∃ after, (waiting.set j (next reply))[i]? = some after ∧ ∀ steps result,
        after.Path steps result → now.Path
          ((if j = i then [(⟨cmd, reply⟩ : Exchange S ε)] else []) ++ steps) result := by
    intro waiting now j cmd next reply here found
    by_cases mine : j = i
    · subst mine
      obtain rfl := Option.some.inj (here.symm.trans found)
      have bound : j < waiting.length := (List.getElem?_eq_some_iff.mp found).1
      exact ⟨next reply, by simp [bound], fun steps result path => by simpa using .call path⟩
    · refine ⟨now, ?_, fun steps result path => by simpa [mine] using path⟩
      rw [List.getElem?_set_ne mine]
      exact here
  induction run with
  | start => exact ⟨program, begins, fun _ _ path => path⟩
  | next earlier stepped ih =>
    obtain ⟨now, here, reaches⟩ := ih
    cases stepped with
    | @serve pool after past event served =>
      cases served with
      | @serve state waiting j cmd next fault found permitted =>
        obtain ⟨left, there, path⟩ := moves (fault.apply exec cmd state).1 here found
        refine ⟨left, there, fun steps result further => ?_⟩
        have longer := reaches _ _ (path steps result further)
        by_cases mine : j = i <;> simpa [exchanges, exchange?, mine] using longer
    | @copy state waiting past j cmd next reply found readable answered =>
      obtain ⟨left, there, path⟩ := moves reply here found
      refine ⟨left, there, fun steps result further => ?_⟩
      have longer := reaches _ _ (path steps result further)
      by_cases mine : j = i <;> simpa [exchanges, exchange?, mine] using longer

/-- The exchanges of a client that has finished are a way through its program. -/
theorem run_exchanges (run : Run (Step reads exec policy) start trace last) {i : Nat}
    {program : Program S ε α} (begins : start.pool.clients[i]? = some program)
    {result : Except ε α} (ends : last.pool.clients[i]? = some (.ofExcept result)) :
    program.Path (exchanges exec trace i) result := by
  obtain ⟨now, here, reaches⟩ := run_path run begins
  obtain rfl := Option.some.inj (here.symm.trans ends)
  simpa using reaches [] result (Program.path_ofExcept result)

/-- An exchange of the client took place in the pool, or with the copy. -/
theorem mem_exchanges {client : Nat} {exchange : Exchange S ε}
    (member : exchange ∈ exchanges exec trace client) :
    ∃ move ∈ trace, (∃ fault, move.event = .serve ⟨client, exchange.cmd, fault⟩ ∧
        exchange.reply = (fault.apply exec exchange.cmd move.before.pool.state).1) ∨
      move.event = .copy client exchange := by
  obtain ⟨move, listed, same⟩ := List.mem_filterMap.mp member
  refine ⟨move, listed, ?_⟩
  unfold exchange? at same
  split at same
  · next event served =>
    obtain ⟨other, cmd, fault⟩ := event
    split at same
    · next mine =>
      cases mine
      cases same
      exact Or.inl ⟨fault, served, rfl⟩
    · cases same
  · next other copied given =>
    split at same
    · next mine =>
      cases mine
      cases same
      exact Or.inr given
    · cases same

end Copied
end Effect
