import HotelBooking.Effect.Execution
import Mathlib.Logic.Function.Basic
import Mathlib.Data.List.Induction

/-! Protocols of a client. A phase is what the client has learned from the replies so far;
the phase says which command may come next, and the reply leads to the next phase. A client
of a pool is in the phase that the trace of the pool has brought it to. -/
namespace Effect
variable {S : Signature} {ε α β σ : Type}

structure Protocol (S : Signature) (ε : Type) where
  Phase : Type
  allows : Phase → S.Cmd → Prop
  next : Phase → (cmd : S.Cmd) → Except ε (S.Answer cmd) → Phase

namespace Program
variable {protocol : Protocol S ε}

/-- From this phase the program issues allowed commands only, whatever the replies, and ends
in a phase and with a result that `ends` admits. -/
def Obeys (protocol : Protocol S ε) (ends : protocol.Phase → Except ε α → Prop) :
    protocol.Phase → Program S ε α → Prop
  | phase, .ret value => ends phase (.ok value)
  | phase, .raise error => ends phase (.error error)
  | phase, .call cmd next => protocol.allows phase cmd ∧
      ∀ reply, Obeys protocol ends (protocol.next phase cmd reply) (next reply)

theorem obeys_bind {middle : protocol.Phase → Except ε α → Prop}
    {ends : protocol.Phase → Except ε β → Prop} {program : Program S ε α}
    {next : α → Program S ε β} {phase : protocol.Phase}
    (head : program.Obeys protocol middle phase)
    (tail : ∀ phase value, middle phase (.ok value) → (next value).Obeys protocol ends phase)
    (fails : ∀ phase error, middle phase (.error error) → ends phase (.error error)) :
    (program.bind next).Obeys protocol ends phase := by
  induction program generalizing phase with
  | ret value => exact tail phase value head
  | raise error => exact fails phase error head
  | call cmd rest ih => exact ⟨head.1, fun reply => ih reply (head.2 reply)⟩

theorem obeys_recover {middle ends : protocol.Phase → Except ε α → Prop} {program : Program S ε α}
    {handler : ε → Program S ε α} {phase : protocol.Phase}
    (head : program.Obeys protocol middle phase)
    (rescue : ∀ phase error, middle phase (.error error) →
      (handler error).Obeys protocol ends phase)
    (returns : ∀ phase value, middle phase (.ok value) → ends phase (.ok value)) :
    (program.recover handler).Obeys protocol ends phase := by
  induction program generalizing phase with
  | ret value => exact returns phase value head
  | raise error => exact rescue phase error head
  | call cmd rest ih => exact ⟨head.1, fun reply => ih reply (head.2 reply)⟩

theorem obeys_ofExcept {ends : protocol.Phase → Except ε α → Prop} {reply : Except ε α}
    {phase : protocol.Phase} (final : ends phase reply) :
    (ofExcept reply).Obeys protocol ends phase := by
  cases reply <;> exact final

theorem obeys_perform {cmd : S.Cmd} {ends : protocol.Phase → Except ε (S.Answer cmd) → Prop}
    {phase : protocol.Phase} (allowed : protocol.allows phase cmd)
    (final : ∀ reply, ends (protocol.next phase cmd reply) reply) :
    (perform cmd).Obeys protocol ends phase :=
  ⟨allowed, fun reply => obeys_ofExcept (final reply)⟩

theorem Obeys.mono {narrow ends : protocol.Phase → Except ε α → Prop} {program : Program S ε α}
    {phase : protocol.Phase} (obeys : program.Obeys protocol narrow phase)
    (implies : ∀ phase result, narrow phase result → ends phase result) :
    program.Obeys protocol ends phase := by
  induction program generalizing phase with
  | ret value => exact implies _ _ obeys
  | raise error => exact implies _ _ obeys
  | call cmd rest ih => exact ⟨obeys.1, fun reply => ih reply (obeys.2 reply)⟩

theorem obeys_and {first second : protocol.Phase → Except ε α → Prop} {program : Program S ε α}
    {phase : protocol.Phase} (left : program.Obeys protocol first phase)
    (right : program.Obeys protocol second phase) :
    program.Obeys protocol (fun after result => first after result ∧ second after result) phase := by
  induction program generalizing phase with
  | ret value => exact ⟨left, right⟩
  | raise error => exact ⟨left, right⟩
  | call cmd rest ih => exact ⟨left.1, fun reply => ih reply (left.2 reply) (right.2 reply)⟩

/-- What no reply changes is at the end as it was. -/
theorem Obeys.keeping {ends : protocol.Phase → Except ε α → Prop} {program : Program S ε α}
    {phase : protocol.Phase} (obeys : program.Obeys protocol ends phase)
    (observe : protocol.Phase → β)
    (fixed : ∀ phase cmd reply, observe (protocol.next phase cmd reply) = observe phase) :
    program.Obeys protocol (fun after result => ends after result ∧ observe after = observe phase)
      phase := by
  induction program generalizing phase with
  | ret value => exact ⟨obeys, rfl⟩
  | raise error => exact ⟨obeys, rfl⟩
  | call cmd rest ih =>
    refine ⟨obeys.1, fun reply => (ih reply (obeys.2 reply)).mono fun after result => ?_⟩
    rintro ⟨reached, same⟩
    exact ⟨reached, same.trans (fixed phase cmd reply)⟩

/-- A program whose commands are allowed in phases that they do not leave. -/
theorem Uses.obeys {allowed : S.Cmd → Prop} {ends : protocol.Phase → Except ε α → Prop}
    {program : Program S ε α} (uses : program.Uses allowed) (within : protocol.Phase → Prop)
    (allows : ∀ phase cmd, within phase → allowed cmd → protocol.allows phase cmd)
    (keeps : ∀ phase cmd reply, within phase → allowed cmd → within (protocol.next phase cmd reply))
    (final : ∀ phase result, within phase → ends phase result) {phase : protocol.Phase}
    (here : within phase) : program.Obeys protocol ends phase := by
  induction program generalizing phase with
  | ret value => exact final _ _ here
  | raise error => exact final _ _ here
  | call cmd next ih =>
    refine ⟨allows phase cmd here uses.1, fun reply => ?_⟩
    exact ih reply (uses.2 reply) (keeps phase cmd reply here uses.1)

end Program

namespace Pool
variable {exec : Executor S ε σ} {policy : Policy S ε σ} {protocol : Protocol S ε}

/-- The reply that the served client got. -/
def reply (exec : Executor S ε σ) (move : Transition (Pool S ε α σ) (Event S ε)) :
    Except ε (S.Answer move.event.cmd) :=
  (move.event.fault.apply exec move.event.cmd move.before.state).1

/-- The served client goes to its next phase, the others stay. -/
def advance (protocol : Protocol S ε) (exec : Executor S ε σ) (phases : Nat → protocol.Phase)
    (move : Transition (Pool S ε α σ) (Event S ε)) : Nat → protocol.Phase :=
  Function.update phases move.event.client
    (protocol.next (phases move.event.client) move.event.cmd (reply exec move))

def phases (protocol : Protocol S ε) (exec : Executor S ε σ) (begins : Nat → protocol.Phase)
    (trace : List (Transition (Pool S ε α σ) (Event S ε))) : Nat → protocol.Phase :=
  trace.foldl (advance protocol exec) begins

@[simp] theorem phases_nil (begins : Nat → protocol.Phase) :
    phases protocol exec begins ([] : List (Transition (Pool S ε α σ) (Event S ε))) = begins := rfl

@[simp] theorem phases_concat (begins : Nat → protocol.Phase)
    (trace : List (Transition (Pool S ε α σ) (Event S ε)))
    (move : Transition (Pool S ε α σ) (Event S ε)) :
    phases protocol exec begins (trace ++ [move]) =
      advance protocol exec (phases protocol exec begins trace) move := by
  simp only [phases, List.foldl_append, List.foldl_cons, List.foldl_nil]

theorem phases_append (begins : Nat → protocol.Phase)
    (early late : List (Transition (Pool S ε α σ) (Event S ε))) :
    phases protocol exec begins (early ++ late) =
      phases protocol exec (phases protocol exec begins early) late :=
  List.foldl_append

/-- What a client's own moves keep, the whole trace keeps. -/
theorem phases_rule (protocol : Protocol S ε) {begins : Nat → protocol.Phase} {i : Nat} (holds : protocol.Phase → Prop)
    (initial : holds (begins i)) (trace : List (Transition (Pool S ε α σ) (Event S ε)))
    (keeps : ∀ move ∈ trace, move.event.client = i → ∀ phase, holds phase →
      holds (protocol.next phase move.event.cmd (reply exec move))) :
    holds (phases protocol exec begins trace i) := by
  induction trace using List.reverseRecOn with
  | nil => exact initial
  | append_singleton trace move ih =>
    have before := ih fun other member => keeps other (List.mem_append_left _ member)
    rw [phases_concat]
    by_cases served : move.event.client = i
    · subst served
      rw [advance, Function.update_self]
      exact keeps move (List.mem_append_right _ List.mem_cons_self) rfl _ before
    · rw [advance, Function.update_of_ne fun other => served other.symm]
      exact before

/-- What a client has learned, one of its own moves has shown it. -/
theorem learned (protocol : Protocol S ε) {begins : Nat → protocol.Phase} {i : Nat} {x : β}
    {trace : List (Transition (Pool S ε α σ) (Event S ε))} (field : protocol.Phase → List β)
    (shows : (cmd : S.Cmd) → Except ε (S.Answer cmd) → Option β)
    (grows : ∀ phase cmd reply, field (protocol.next phase cmd reply) =
      field phase ++ (shows cmd reply).toList)
    (blank : field (begins i) = [])
    (member : x ∈ field (phases protocol exec begins trace i)) :
    ∃ move ∈ trace, move.event.client = i ∧ shows move.event.cmd (reply exec move) = some x := by
  let shown (phase : protocol.Phase) : Prop := ∀ y ∈ field phase, ∃ move ∈ trace,
    move.event.client = i ∧ shows move.event.cmd (reply exec move) = some y
  have initial : shown (begins i) := by
    intro y listed
    rw [blank] at listed
    cases listed
  refine phases_rule protocol shown initial trace ?_ x member
  intro move here served phase before y listed
  rw [grows] at listed
  rcases List.mem_append.mp listed with old | new
  · exact before y old
  · exact ⟨move, here, served, Option.mem_toList.mp new⟩

/-- Every client obeys the protocol from the phase it is in. -/
def Obeys (protocol : Protocol S ε) (ends : Nat → protocol.Phase → Except ε α → Prop)
    (phases : Nat → protocol.Phase) (pool : Pool S ε α σ) : Prop :=
  ∀ (i : Nat) (program : Program S ε α), pool.clients[i]? = some program →
    program.Obeys protocol (ends i) (phases i)

theorem Obeys.step {ends : Nat → protocol.Phase → Except ε α → Prop}
    {phases : Nat → protocol.Phase} {before after : Pool S ε α σ} {event : Event S ε}
    (obeys : before.Obeys protocol ends phases) (step : Step exec policy before event after) :
    protocol.allows (phases event.client) event.cmd ∧
      after.Obeys protocol ends (advance protocol exec phases ⟨before, event, after⟩) := by
  cases step with
  | @serve state waiting i cmd next fault found permitted =>
    have waits := obeys i _ found
    refine ⟨waits.1, ?_⟩
    intro j program here
    by_cases same : j = i
    · subst same
      have bound : j < waiting.length := (List.getElem?_eq_some_iff.mp found).1
      obtain rfl : next (fault.apply exec cmd state).1 = program := by
        simpa [List.getElem?_set, bound] using here
      simpa only [advance, reply, Function.update_self] using
        waits.2 (fault.apply exec cmd state).1
    · have before : waiting[j]? = some program := by
        simpa only [List.getElem?_set_ne fun other => same other.symm] using here
      simpa only [advance, Function.update_of_ne same] using obeys j program before

section Run
variable {ends : Nat → protocol.Phase → Except ε α → Prop} {begins : Nat → protocol.Phase}
  {start last : Pool S ε α σ} {trace : List (Transition (Pool S ε α σ) (Event S ε))}

theorem run_obeys (obeys : start.Obeys protocol ends begins)
    (run : Run (Step exec policy) start trace last) :
    last.Obeys protocol ends (phases protocol exec begins trace) := by
  induction run with
  | start => exact obeys
  | next earlier stepped ih =>
    rw [phases_concat]
    exact (ih.step stepped).2

/-- Each command of a run was allowed in the phase in which its client issued it. -/
theorem run_allows (obeys : start.Obeys protocol ends begins)
    (run : Run (Step exec policy) start trace last)
    {early late : List (Transition (Pool S ε α σ) (Event S ε))}
    {move : Transition (Pool S ε α σ) (Event S ε)} (split : trace = early ++ move :: late) :
    protocol.allows (phases protocol exec begins early move.event.client) move.event.cmd := by
  have here := run_obeys obeys (run.cut split)
  have member : move ∈ trace := split ▸ List.mem_append_right _ List.mem_cons_self
  exact (here.step (run.steps move member)).1

/-- A client that has nothing left to do ended as the protocol says. -/
theorem run_ends (obeys : start.Obeys protocol ends begins)
    (run : Run (Step exec policy) start trace last) {i : Nat} {result : Except ε α}
    (finished : last.clients[i]? = some (.ofExcept result)) :
    ends i (phases protocol exec begins trace i) result := by
  have final := run_obeys obeys run i _ finished
  cases result <;> exact final

end Run
end Pool
end Effect
