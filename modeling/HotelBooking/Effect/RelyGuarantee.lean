import HotelBooking.Effect.Protocol

/-! Rely and guarantee. A client relies on its replies and guarantees which commands it
issues. Where the guarantees of all clients keep an invariant of the state, and the invariant
makes the replies what the clients rely on, both hold throughout every interleaving. -/
namespace Effect
variable {S : Signature} {ε α β σ : Type}

abbrev Rely (S : Signature) (ε : Type) : Type := (cmd : S.Cmd) → Except ε (S.Answer cmd) → Prop

namespace Program
variable {rely : Rely S ε} {guarantee : S.Cmd → Prop}

/-- While the replies are as relied on, the commands are guaranteed, and so is a returned value. -/
def Honours (rely : Rely S ε) (guarantee : S.Cmd → Prop) (post : α → Prop) : Program S ε α → Prop
  | .ret value => post value
  | .raise _ => True
  | .call cmd next =>
    guarantee cmd ∧ ∀ reply, rely cmd reply → (next reply).Honours rely guarantee post

theorem honours_bind {middle : α → Prop} {post : β → Prop} {program : Program S ε α}
    {next : α → Program S ε β} (head : program.Honours rely guarantee middle)
    (tail : ∀ value, middle value → (next value).Honours rely guarantee post) :
    (program.bind next).Honours rely guarantee post := by
  induction program with
  | ret value => exact tail value head
  | raise error => trivial
  | call cmd rest ih => exact ⟨head.1, fun reply relied => ih reply (head.2 reply relied)⟩

theorem honours_recover {post : α → Prop} {program : Program S ε α} {handler : ε → Program S ε α}
    (head : program.Honours rely guarantee post)
    (rescue : ∀ error, (handler error).Honours rely guarantee post) :
    (program.recover handler).Honours rely guarantee post := by
  induction program with
  | ret value => exact head
  | raise error => exact rescue error
  | call cmd rest ih => exact ⟨head.1, fun reply relied => ih reply (head.2 reply relied)⟩

theorem honours_perform {cmd : S.Cmd} (guaranteed : guarantee cmd) :
    (perform cmd : Program S ε (S.Answer cmd)).Honours rely guarantee
      fun answer => rely cmd (.ok answer) := by
  refine ⟨guaranteed, fun reply relied => ?_⟩
  cases reply with
  | ok answer => exact relied
  | error error => trivial

theorem Honours.mono {narrow post : α → Prop} {program : Program S ε α}
    (honours : program.Honours rely guarantee narrow)
    (implies : ∀ value, narrow value → post value) : program.Honours rely guarantee post := by
  induction program with
  | ret value => exact implies value honours
  | raise error => trivial
  | call cmd rest ih => exact ⟨honours.1, fun reply relied => ih reply (honours.2 reply relied)⟩

theorem Honours.weaken {narrow : S.Cmd → Prop} {post : α → Prop} {program : Program S ε α}
    (honours : program.Honours rely narrow post) (implies : ∀ cmd, narrow cmd → guarantee cmd) :
    program.Honours rely guarantee post := by
  induction program with
  | ret value => exact honours
  | raise error => trivial
  | call cmd rest ih =>
    exact ⟨implies cmd honours.1, fun reply relied => ih reply (honours.2 reply relied)⟩

theorem Honours.and_uses {allowed : S.Cmd → Prop} {post : α → Prop} {program : Program S ε α}
    (honours : program.Honours rely guarantee post) (uses : program.Uses allowed) :
    program.Honours rely (fun cmd => guarantee cmd ∧ allowed cmd) post := by
  induction program with
  | ret value => exact honours
  | raise error => trivial
  | call cmd rest ih =>
    exact ⟨⟨honours.1, uses.1⟩, fun reply relied => ih reply (honours.2 reply relied) (uses.2 reply)⟩

/-- Commands that are guaranteed whatever the replies are. -/
theorem Uses.honours {allowed : S.Cmd → Prop} {program : Program S ε α}
    (uses : program.Uses allowed) (guarantees : ∀ cmd, allowed cmd → guarantee cmd) :
    program.Honours rely guarantee fun _ => True := by
  induction program with
  | ret value => trivial
  | raise error => trivial
  | call cmd rest ih =>
    exact ⟨guarantees cmd uses.1, fun reply _ => ih reply (uses.2 reply)⟩

end Program

/-- The invariant makes the replies reliable, and guaranteed commands keep it. -/
structure Sustains (exec : Executor S ε σ) (rely : Rely S ε) (guarantee : S.Cmd → Prop)
    (holds : σ → Prop) : Prop where
  answers : ∀ state cmd, holds state → guarantee cmd → rely cmd (exec cmd state).1
  errors : ∀ cmd error, rely cmd (.error error)
  keeps : ∀ state cmd, holds state → guarantee cmd → holds (exec cmd state).2

namespace Pool
variable {exec : Executor S ε σ} {policy : Policy S ε σ} {rely : Rely S ε}
  {guarantee : Nat → S.Cmd → Prop} {holds : σ → Prop}

/-- Each client has a guarantee of its own. -/
structure Honours (rely : Rely S ε) (guarantee : Nat → S.Cmd → Prop) (holds : σ → Prop)
    (pool : Pool S ε α σ) : Prop where
  state : holds pool.state
  clients : ∀ (i : Nat) (program : Program S ε α), pool.clients[i]? = some program →
    program.Honours rely (guarantee i) fun _ => True

theorem Honours.step {before after : Pool S ε α σ} {event : Event S ε}
    (sustains : Sustains exec rely (fun cmd => ∃ i, guarantee i cmd) holds)
    (honours : before.Honours rely guarantee holds) (step : Step exec policy before event after) :
    guarantee event.client event.cmd ∧ after.Honours rely guarantee holds := by
  cases step with
  | @serve state waiting i cmd next fault found permitted =>
    obtain ⟨guaranteed, rest⟩ := honours.clients i _ found
    have relied : rely cmd (fault.apply exec cmd state).1 := by
      cases fault with
      | none => exact sustains.answers state cmd honours.state ⟨i, guaranteed⟩
      | refused error => exact sustains.errors cmd error
      | lost error => exact sustains.errors cmd error
    have kept : holds (fault.apply exec cmd state).2 := by
      rcases fault.apply_state exec cmd state with executed | unchanged
      · rw [executed]
        exact sustains.keeps state cmd honours.state ⟨i, guaranteed⟩
      · rw [unchanged]
        exact honours.state
    refine ⟨guaranteed, kept, ?_⟩
    intro j program here
    by_cases same : j = i
    · subst same
      have bound : j < waiting.length := (List.getElem?_eq_some_iff.mp found).1
      obtain rfl : next (fault.apply exec cmd state).1 = program := by
        simpa [List.getElem?_set, bound] using here
      exact rest _ relied
    · rw [List.getElem?_set_ne fun other => same other.symm] at here
      exact honours.clients j program here

theorem Honours.run {start last : Pool S ε α σ}
    {trace : List (Transition (Pool S ε α σ) (Event S ε))}
    (sustains : Sustains exec rely (fun cmd => ∃ i, guarantee i cmd) holds)
    (honours : start.Honours rely guarantee holds)
    (run : Run (Step exec policy) start trace last) :
    (∀ move ∈ trace, move.before.Honours rely guarantee holds ∧
      guarantee move.event.client move.event.cmd) ∧
      last.Honours rely guarantee holds := by
  have before : ∀ move ∈ trace, move.before.Honours rely guarantee holds :=
    run.invariant_before (fun held stepped => (Honours.step sustains held stepped).2) honours
  have final : last.Honours rely guarantee holds :=
    run.invariant (fun held stepped => (Honours.step sustains held stepped).2) honours
  refine ⟨fun move member => ⟨before move member, ?_⟩, final⟩
  exact ((before move member).step sustains (run.steps move member)).1

section Told
variable {allowed : S.Cmd → Prop} {post : α → Prop} {start last : Pool S ε α σ}
  {trace : List (Transition (Pool S ε α σ) (Event S ε))} {i : Nat} {program : Program S ε α}

/-- A client goes on with its guarantee if the replies that it got are as it relies on; what the
others are told does not matter. -/
theorem honours_told (run : Run (Step exec policy) start trace last)
    (begins : start.clients[i]? = some program) (honours : program.Honours rely allowed post)
    (told : ∀ move ∈ trace, move.event.client = i → rely move.event.cmd (reply exec move)) :
    ∀ waiting, last.clients[i]? = some waiting → waiting.Honours rely allowed post := by
  induction run with
  | start =>
    intro waiting here
    obtain rfl := Option.some.inj (begins.symm.trans here)
    exact honours
  | @next trace mid event last earlier stepped ih =>
    have before := ih fun move member => told move (List.mem_append_left _ member)
    have now := told ⟨mid, event, last⟩ (List.mem_append_right _ List.mem_cons_self)
    intro waiting here
    cases stepped with
    | @serve state programs j cmd next fault found permitted =>
      by_cases same : i = j
      · subst same
        have bound : i < programs.length := (List.getElem?_eq_some_iff.mp found).1
        obtain rfl : next (fault.apply exec cmd state).1 = waiting := by
          simpa [List.getElem?_set, bound] using here
        exact (before _ found).2 _ (now rfl)
      · rw [List.getElem?_set_ne fun other => same other.symm] at here
        exact before waiting here

/-- What a client was told before a command is enough for the command to be guaranteed. -/
theorem guaranteed_told (run : Run (Step exec policy) start trace last)
    {early late : List (Transition (Pool S ε α σ) (Event S ε))}
    {move : Transition (Pool S ε α σ) (Event S ε)} (split : trace = early ++ move :: late)
    (begins : start.clients[move.event.client]? = some program)
    (honours : program.Honours rely allowed post)
    (told : ∀ earlier ∈ early, earlier.event.client = move.event.client →
      rely earlier.event.cmd (reply exec earlier)) : allowed move.event.cmd := by
  have before := honours_told (run.cut split) begins honours told
  have member : move ∈ trace := split ▸ List.mem_append_right _ List.mem_cons_self
  have stepped := run.steps move member
  obtain ⟨pool, event, after⟩ := move
  cases stepped with
  | serve found permitted => exact (before _ found).1

end Told
end Pool
end Effect
