import HotelBooking.Effect.Protocol
import Mathlib.Data.List.Nodup

/-! Linearizability. Some clients of a pool are operations on an object. Each takes effect at one
of its moves, its point; in the order of their points the operations are a sequential run of the
object that answers what they returned, and an operation that was over before another began comes
before it. -/
namespace Effect
variable {S : Signature} {ε α σ O A R : Type}

/-- What an operation answers and what it leaves, when nothing else runs. -/
abbrev SeqObject (O A R : Type) : Type := O → A → R × A

/-- The state after the operations of these clients, one after another. -/
def SeqObject.after (object : SeqObject O A R) (ops : Nat → Option O) (order : List Nat)
    (initial : A) : A :=
  order.foldl (fun state i => (ops i).elim state fun op => (object op state).2) initial

theorem SeqObject.after_append (object : SeqObject O A R) (ops : Nat → Option O)
    (early late : List Nat) (initial : A) :
    object.after ops (early ++ late) initial = object.after ops late (object.after ops early initial) :=
  List.foldl_append

namespace Pool

/-- The first client made all its moves before the second made any. -/
def Precedes (trace : List (Transition (Pool S ε α σ) (Event S ε))) (i j : Nat) : Prop :=
  ∃ early late, trace = early ++ late ∧ (∀ move ∈ late, move.event.client ≠ i) ∧
    ∀ move ∈ early, move.event.client ≠ j

/-- A sequential order of the operations that explains the whole trace. -/
structure Linearizes (object : SeqObject O A R) (ops : Nat → Option O) (answered : Nat → Option R)
    (trace : List (Transition (Pool S ε α σ) (Event S ε))) (initial final : A)
    (order : List Nat) : Prop where
  nodup : order.Nodup
  operations : ∀ i ∈ order, (ops i).isSome
  complete : ∀ i r, answered i = some r → i ∈ order
  answers : ∀ early i late, order = early ++ i :: late → ∀ op, ops i = some op →
    ∀ r, answered i = some r → r = (object op (object.after ops early initial)).1
  final : final = object.after ops order initial
  realTime : ∀ i ∈ order, ∀ j ∈ order, Precedes trace i j → [i, j].Sublist order

/-- The moves at which the operations take effect on the object that `view` shows. -/
structure Points (object : SeqObject O A R) (ops : Nat → Option O) (answered : Nat → Option R)
    (view : σ → A) (point : Transition (Pool S ε α σ) (Event S ε) → Bool)
    (trace : List (Transition (Pool S ε α σ) (Event S ε))) : Prop where
  acts : ∀ move ∈ trace, point move = true → ∃ op, ops move.event.client = some op ∧
    view move.after.state = (object op (view move.before.state)).2
  rests : ∀ move ∈ trace, point move = false → view move.after.state = view move.before.state
  once : trace.Pairwise fun move again => point move = true → point again = true →
    move.event.client ≠ again.event.client
  answers : ∀ i r, answered i = some r → ∃ move ∈ trace, point move = true ∧
    move.event.client = i ∧ ∀ op, ops i = some op → r = (object op (view move.before.state)).1

/-- The clients in the order of their points. -/
def pointOrder (point : Transition (Pool S ε α σ) (Event S ε) → Bool)
    (trace : List (Transition (Pool S ε α σ) (Event S ε))) : List Nat :=
  (trace.filter point).map fun move => move.event.client

section Order
variable {object : SeqObject O A R} {ops : Nat → Option O} {answered : Nat → Option R}
  {view : σ → A} {point : Transition (Pool S ε α σ) (Event S ε) → Bool}
  {trace : List (Transition (Pool S ε α σ) (Event S ε))}

@[simp] theorem pointOrder_append
    (early late : List (Transition (Pool S ε α σ) (Event S ε))) :
    pointOrder point (early ++ late) = pointOrder point early ++ pointOrder point late := by
  simp only [pointOrder, List.filter_append, List.map_append]

theorem mem_pointOrder {i : Nat} : i ∈ pointOrder point trace ↔
    ∃ move ∈ trace, point move = true ∧ move.event.client = i := by
  simp only [pointOrder, List.mem_map, List.mem_filter, and_assoc]

theorem Points.nodup (points : Points object ops answered view point trace) :
    (pointOrder point trace).Nodup := by
  unfold pointOrder
  rw [List.Nodup, List.pairwise_map, List.pairwise_filter]
  exact points.once

/-- The points alone lead to the state that the whole run leads to. -/
theorem after_points {exec : Executor S ε σ} {policy : Policy S ε σ} {start last : Pool S ε α σ}
    (run : Run (Step exec policy) start trace last)
    (acts : ∀ move ∈ trace, point move = true → ∃ op, ops move.event.client = some op ∧
      view move.after.state = (object op (view move.before.state)).2)
    (rests : ∀ move ∈ trace, point move = false →
      view move.after.state = view move.before.state) :
    view last.state = object.after ops (pointOrder point trace) (view start.state) := by
  induction run with
  | start => rfl
  | @next trace mid event last earlier stepped ih =>
    have before := ih (fun move member => acts move (List.mem_append_left _ member))
      fun move member => rests move (List.mem_append_left _ member)
    have here : (⟨mid, event, last⟩ : Transition (Pool S ε α σ) (Event S ε)) ∈
        trace ++ [⟨mid, event, last⟩] := List.mem_append_right _ List.mem_cons_self
    rw [pointOrder_append, SeqObject.after_append, ← before]
    cases pointed : point ⟨mid, event, last⟩ with
    | false =>
      rw [pointOrder, List.filter_singleton, pointed]
      exact rests _ here pointed
    | true =>
      obtain ⟨op, called, left⟩ := acts _ here pointed
      rw [pointOrder, List.filter_singleton, pointed]
      simpa [SeqObject.after, called] using left

/-- In a list without repetitions an element has one place. -/
theorem prefix_unique {i : Nat} {first second early late : List Nat}
    (same : first ++ i :: second = early ++ i :: late) (nodup : (first ++ i :: second).Nodup) :
    first = early := by
  have left : i ∉ first := fun member =>
    (List.nodup_append.mp nodup).2.2 i member i List.mem_cons_self rfl
  have right : i ∉ early := fun member =>
    (List.nodup_append.mp (same ▸ nodup)).2.2 i member i List.mem_cons_self rfl
  have places := congrArg (List.idxOf i) same
  rw [List.idxOf_append_of_notMem left, List.idxOf_append_of_notMem right, List.idxOf_cons_self,
    List.idxOf_cons_self] at places
  exact List.append_inj_left same (by simpa using places)

/-- A pool whose operations have points is linearizable. -/
theorem linearizes {exec : Executor S ε σ} {policy : Policy S ε σ} {start last : Pool S ε α σ}
    (run : Run (Step exec policy) start trace last)
    (points : Points object ops answered view point trace) :
    Linearizes object ops answered trace (view start.state) (view last.state)
      (pointOrder point trace) where
  nodup := points.nodup
  operations i member := by
    obtain ⟨move, listed, pointed, rfl⟩ := mem_pointOrder.mp member
    obtain ⟨op, called, _⟩ := points.acts move listed pointed
    rw [called]
    rfl
  complete i r told := by
    obtain ⟨move, listed, pointed, own, _⟩ := points.answers i r told
    exact mem_pointOrder.mpr ⟨move, listed, pointed, own⟩
  answers early i late split op called r told := by
    obtain ⟨move, listed, pointed, own, answer⟩ := points.answers i r told
    obtain ⟨prior, rest, rfl⟩ := List.append_of_mem listed
    have places : pointOrder point (prior ++ move :: rest) =
        pointOrder point prior ++ i :: pointOrder point rest := by
      rw [pointOrder_append]
      congr 1
      simp only [pointOrder, List.filter_cons, pointed, if_true, List.map_cons, own]
    rw [split] at places
    have nodup := points.nodup
    rw [split] at nodup
    obtain rfl := prefix_unique places nodup
    rw [answer op called, after_points (run.cut rfl)
      (fun other member => points.acts other (List.mem_append_left _ member))
      fun other member => points.rests other (List.mem_append_left _ member)]
  final := after_points run points.acts points.rests
  realTime i first j second := by
    rintro ⟨early, late, rfl, ended, unbegun⟩
    obtain ⟨move, listed, pointed, rfl⟩ := mem_pointOrder.mp first
    obtain ⟨other, stored, chosen, rfl⟩ := mem_pointOrder.mp second
    have earlier : move.event.client ∈ pointOrder point early := by
      rcases List.mem_append.mp listed with here | there
      · exact mem_pointOrder.mpr ⟨move, here, pointed, rfl⟩
      · exact absurd rfl (ended move there)
    have later : other.event.client ∈ pointOrder point late := by
      rcases List.mem_append.mp stored with here | there
      · exact absurd rfl (unbegun other here)
      · exact mem_pointOrder.mpr ⟨other, there, chosen, rfl⟩
    rw [pointOrder_append]
    exact (List.singleton_sublist.mpr earlier).append (List.singleton_sublist.mpr later)

end Order

/-- A command that spends something that the protocol then refuses to spend again: each client
issues such a command at most once. -/
theorem spent_once {protocol : Protocol S ε} {exec : Executor S ε σ} {policy : Policy S ε σ}
    {ends : Nat → protocol.Phase → Except ε α → Prop} {begins : Nat → protocol.Phase}
    {start last : Pool S ε α σ} {trace : List (Transition (Pool S ε α σ) (Event S ε))}
    (obeys : start.Obeys protocol ends begins) (run : Run (Step exec policy) start trace last)
    (within : Nat → protocol.Phase → Prop) (spent : protocol.Phase → Prop)
    (spends : Nat → S.Cmd → Prop) (initial : ∀ i, within i (begins i))
    (keeps : ∀ i phase cmd reply, within i phase → within i (protocol.next phase cmd reply))
    (stays : ∀ phase cmd reply, spent phase → spent (protocol.next phase cmd reply))
    (marks : ∀ i phase cmd reply, within i phase → spends i cmd →
      spent (protocol.next phase cmd reply))
    (refuses : ∀ i phase cmd, within i phase → spends i cmd → protocol.allows phase cmd →
      ¬ spent phase) :
    trace.Pairwise fun move again => spends move.event.client move.event.cmd →
      spends again.event.client again.event.cmd → move.event.client ≠ again.event.client := by
  induction run with
  | start => exact List.Pairwise.nil
  | @next trace mid event last earlier stepped ih =>
    refine List.pairwise_append.mpr ⟨ih, List.pairwise_singleton _ _, ?_⟩
    rintro move listed again member first second same
    obtain rfl := List.mem_singleton.mp member
    dsimp only at second same
    have reached (prior : List (Transition (Pool S ε α σ) (Event S ε))) (i : Nat) :
        within i (phases protocol exec begins prior i) :=
      phases_rule protocol (within i) (initial i) prior fun _ _ _ phase here => keeps i phase _ _ here
    obtain ⟨early, late, rfl⟩ := List.append_of_mem listed
    have marked : spent (phases protocol exec begins (early ++ move :: late) move.event.client) := by
      rw [List.append_cons, phases_append]
      refine phases_rule protocol spent ?_ late fun _ _ _ phase here => stays phase _ _ here
      rw [phases_concat, advance, Function.update_self]
      exact marks _ _ _ _ (reached early _) first
    have allowed := ((run_obeys obeys earlier).step stepped).1
    rw [← same] at allowed second
    exact refuses _ _ _ (reached _ _) second allowed marked

end Pool
end Effect
