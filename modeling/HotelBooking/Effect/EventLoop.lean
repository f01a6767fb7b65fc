import HotelBooking.Effect.Protocol

/-! Event loops. Some commands are synchronous: what a client does up to its next asynchronous
command is one turn of the loop that it runs on. Loops interleave at any command, but a loop ends
a turn before it begins another. -/
namespace Effect
variable {S : Signature} {ε α σ L : Type}

structure EventLoop (S : Signature) (L : Type) where
  owner : S.Cmd → Option L
  sync : S.Cmd → Bool

namespace EventLoop
variable {loops : EventLoop S L} {exec : Executor S ε σ} {policy : Policy S ε σ}

/-- The next thing that the program does belongs to a turn that has begun. -/
def MidTurn (loops : EventLoop S L) (self : L) : Program S ε α → Prop
  | .call cmd _ => loops.sync cmd = true ∧ loops.owner cmd = some self
  | _ => False

structure Step (loops : EventLoop S L) (exec : Executor S ε σ) (policy : Policy S ε σ)
    (before : Pool S ε α σ) (event : Event S ε) (after : Pool S ε α σ) : Prop where
  step : Pool.Step exec policy before event after
  turn : ∀ (self : L) (j : Nat) (program : Program S ε α), before.clients[j]? = some program →
    loops.MidTurn self program → loops.owner event.cmd = some self → j = event.client

variable {start last : Pool S ε α σ} {trace : List (Transition (Pool S ε α σ) (Event S ε))}

theorem run_pool (run : Run (loops.Step exec policy) start trace last) :
    Run (Pool.Step exec policy) start trace last := run.mono Step.step

theorem waiting {before after : Pool S ε α σ} {event : Event S ε}
    (step : Pool.Step exec policy before event after) :
    ∃ next, before.clients[event.client]? = some (.call event.cmd next) := by
  cases step with
  | serve found permitted => exact ⟨_, found⟩

/-- Another client's move leaves a program as it is. -/
theorem others_keep {before after : Pool S ε α σ} {event : Event S ε}
    (step : Pool.Step exec policy before event after) {j : Nat} (other : j ≠ event.client) :
    after.clients[j]? = before.clients[j]? := by
  cases step with
  | serve found permitted => exact List.getElem?_set_ne fun same => other same.symm

/-- A client in the middle of a turn has begun the turn itself, and since its last move nothing
has moved on its loop. -/
theorem own_turn (run : Run (loops.Step exec policy) start trace last)
    (idle : ∀ program ∈ start.clients, ∀ self, ¬ loops.MidTurn self program)
    {j : Nat} {program : Program S ε α} {self : L} (here : last.clients[j]? = some program)
    (busy : loops.MidTurn self program) :
    ∃ early move middle, trace = early ++ move :: middle ∧ move.event.client = j ∧
      ∀ other ∈ middle, other.event.client ≠ j ∧ loops.owner other.event.cmd ≠ some self := by
  induction run with
  | start => exact absurd busy (idle program (List.mem_of_getElem? here) self)
  | @next trace mid event last earlier stepped ih =>
    by_cases mine : j = event.client
    · exact ⟨trace, ⟨mid, event, last⟩, [], rfl, mine.symm,
        fun _ member => absurd member List.not_mem_nil⟩
    · rw [others_keep stepped.step mine] at here
      obtain ⟨early, move, middle, rfl, own, quiet⟩ := ih here
      refine ⟨early, move, middle ++ [⟨mid, event, last⟩], by simp, own, ?_⟩
      intro other member
      rcases List.mem_append.mp member with old | new
      · exact quiet other old
      · obtain rfl := List.mem_singleton.mp new
        exact ⟨fun same => mine same.symm,
          fun owned => mine (stepped.turn self j program here busy owned)⟩

/-- Whether the move keeps to the turns, by a look at all clients. -/
def turnKept [DecidableEq L] (loops : EventLoop S L) (before : Pool S ε α σ) (event : Event S ε) :
    Bool :=
  match loops.owner event.cmd with
  | none => true
  | some self => before.clients.zipIdx.all fun (program, j) => match program with
    | .call cmd _ =>
      !(loops.sync cmd && decide (loops.owner cmd = some self)) || decide (j = event.client)
    | _ => true

theorem run_turns [DecidableEq L] (run : Run (Pool.Step exec policy) start trace last)
    (kept : ∀ move ∈ trace, loops.turnKept move.before move.event = true) :
    Run (loops.Step exec policy) start trace last := by
  induction run with
  | start => exact .start
  | @next trace mid event last earlier stepped ih =>
    refine .next (ih fun move member => kept move (List.mem_append_left _ member)) ⟨stepped, ?_⟩
    intro self j program here busy owned
    have here := List.all_eq_true.mp (by
      have checked := kept _ (List.mem_append_right _ List.mem_cons_self)
      rw [turnKept, owned] at checked
      exact checked) (program, j) (List.mem_zipIdx_iff_getElem?.mpr here)
    cases program with
    | ret value => exact busy.elim
    | raise error => exact busy.elim
    | call cmd next =>
      have synced : (loops.sync cmd && decide (loops.owner cmd = some self)) = true := by
        rw [busy.1, decide_eq_true busy.2, Bool.and_self]
      simpa [synced] using here

/-- The phase in which a client goes on with a turn is the one its last move has led to. -/
theorem phase_own {protocol : Protocol S ε} {begins : Nat → protocol.Phase} {j : Nat}
    {early middle : List (Transition (Pool S ε α σ) (Event S ε))}
    {move : Transition (Pool S ε α σ) (Event S ε)} (own : move.event.client = j)
    (quiet : ∀ other ∈ middle, other.event.client ≠ j) :
    Pool.phases protocol exec begins (early ++ move :: middle) j =
      protocol.next (Pool.phases protocol exec begins early j) move.event.cmd
        (Pool.reply exec move) := by
  subst own
  rw [List.append_cons, Pool.phases_append, Pool.phases_concat]
  refine Pool.phases_rule protocol (fun phase => phase = _) ?_ middle ?_
  · rw [Pool.advance, Function.update_self]
  · exact fun other member mine => absurd mine (quiet other member)

end EventLoop
end Effect
