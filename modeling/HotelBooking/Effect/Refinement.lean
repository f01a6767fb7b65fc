import HotelBooking.Effect.Execution
import Mathlib.Data.List.Forall2

/-! Refinement along a function on states. Each concrete step shows as one abstract event,
and a whole run shows as the run of these events. -/
namespace Effect
variable {s e s' e' : Type} {step : s → e → s → Prop} {step' : s' → e' → s' → Prop}

/-- A move as it is seen through a function on states and a naming of its event. -/
def Transition.shown (view : s → s') (label : Transition s e → e') (move : Transition s e) :
    Transition s' e' :=
  ⟨view move.before, label move, view move.after⟩

theorem Run.shown {start last : s} {trace : List (Transition s e)} {view : s → s'}
    {label : Transition s e → e'} (run : Run step start trace last)
    (steps : ∀ move ∈ trace, step' (view move.before) (label move) (view move.after)) :
    Run step' (view start) (trace.map (Transition.shown view label)) (view last) := by
  induction run with
  | start => exact .start
  | next earlier stepped ih =>
    rw [List.map_append, List.map_singleton]
    refine .next (ih fun move member => steps move (List.mem_append_left _ member)) ?_
    exact steps _ (List.mem_append_right _ List.mem_cons_self)

/-- Where every step has an abstract event that accounts for it, so has the run, move by move. -/
theorem Run.refines [Inhabited e'] {start last : s} {trace : List (Transition s e)}
    (run : Run step start trace last) (view : s → s') (accounts : Transition s e → e' → Prop)
    (explained : ∀ move ∈ trace, ∃ event, accounts move event ∧
      step' (view move.before) event (view move.after)) :
    ∃ label : Transition s e → e', (∀ move ∈ trace, accounts move (label move)) ∧
      Run step' (view start) (trace.map (Transition.shown view label)) (view last) := by
  classical
  choose! label accounted stepped using explained
  exact ⟨label, accounted, run.shown stepped⟩

/-- Where every step has a matching one from each related state, the run has a matching run,
move beside move. -/
theorem Run.simulates {start last : s} {start' : s'} {trace : List (Transition s e)}
    (run : Run step start trace last) (related : s → s' → Prop)
    (matched : Transition s e → Transition s' e' → Prop) (initial : related start start')
    (follow : ∀ move ∈ trace, ∀ image, related move.before image → ∃ event after,
      step' image event after ∧ related move.after after ∧ matched move ⟨image, event, after⟩) :
    ∃ images last', Run step' start' images last' ∧ related last last' ∧
      List.Forall₂ matched trace images := by
  induction run with
  | start => exact ⟨[], start', .start, initial, .nil⟩
  | next earlier stepped ih =>
    obtain ⟨images, mid', before, here, pairs⟩ := ih fun move member =>
      follow move (List.mem_append_left _ member)
    obtain ⟨event, after, next, there, pair⟩ :=
      follow _ (List.mem_append_right _ List.mem_cons_self) mid' here
    exact ⟨_, after, .next before next, there, List.rel_append pairs (.cons pair .nil)⟩

end Effect
