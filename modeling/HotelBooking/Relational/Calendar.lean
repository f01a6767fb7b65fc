import Mathlib.Order.CompletePartialOrder
import Mathlib.Order.Interval.Set.Disjoint
import HotelBooking.Effect.Refinement

/-! A calendar: resources held for half-open spans. Some changes look whether the span is
free, others overwrite a hold without a look. Two holds that meet go back to one of these. -/
namespace Relational
open Effect

structure Hold (ρ τ : Type) where
  resource : ρ
  start : τ
  stop : τ

abbrev Calendar (κ ρ τ : Type) : Type := κ → Option (Hold ρ τ)

variable {κ ρ τ : Type} [LinearOrder τ]

/-- Both hold one resource at one time. -/
def Hold.Meets (first second : Hold ρ τ) : Prop :=
  first.resource = second.resource ∧
    ¬ Disjoint (Set.Ico first.start first.stop) (Set.Ico second.start second.stop)

theorem Hold.Meets.symm {first second : Hold ρ τ} (meets : first.Meets second) :
    second.Meets first :=
  ⟨meets.1.symm, fun disjoint => meets.2 disjoint.symm⟩

namespace Calendar

def ConflictFree (calendar : Calendar κ ρ τ) : Prop :=
  ∀ left right first second, left ≠ right → calendar left = some first →
    calendar right = some second → ¬ first.Meets second

/-- Nothing in the calendar meets the hold. -/
def Free (calendar : Calendar κ ρ τ) (hold : Hold ρ τ) : Prop :=
  ∀ key held, calendar key = some held → ¬ held.Meets hold

inductive Change (κ ρ τ : Type) where
  | idle
  | reserve (key : κ) (hold : Hold ρ τ)
  | release (key : κ)
  | exchange (old new : κ) (hold : Hold ρ τ)
  | amend (key : κ) (hold : Hold ρ τ)
  | revive (key : κ) (hold : Hold ρ τ)

instance : Inhabited (Change κ ρ τ) := ⟨.idle⟩

variable [DecidableEq κ]

def Change.apply : Change κ ρ τ → Calendar κ ρ τ → Calendar κ ρ τ
  | .idle, calendar => calendar
  | .reserve key hold, calendar => Function.update calendar key (some hold)
  | .release key, calendar => Function.update calendar key none
  | .exchange old new hold, calendar =>
    Function.update (Function.update calendar old none) new (some hold)
  | .amend key hold, calendar => Function.update calendar key (some hold)
  | .revive key hold, calendar => Function.update calendar key (some hold)

/-- What is looked at before a change. An exchange does not look at the hold it gives up. -/
def Change.Permitted (calendar : Calendar κ ρ τ) : Change κ ρ τ → Prop
  | .idle | .release _ => True
  | .reserve key hold => calendar key = none ∧ calendar.Free hold
  | .exchange old new hold =>
    calendar new = none ∧ Free (Function.update calendar old none) hold
  | .amend key _ => (calendar key).isSome
  | .revive key _ => calendar key = none

structure Step (calendar : Calendar κ ρ τ) (change : Change κ ρ τ) (next : Calendar κ ρ τ) :
    Prop where
  permitted : change.Permitted calendar
  applied : next = change.apply calendar

/-- The change puts a hold under the key and does not look for others. -/
def Change.Overwrites (change : Change κ ρ τ) (key : κ) (hold : Hold ρ τ) : Prop :=
  change = .amend key hold ∨ change = .revive key hold

variable {calendar next : Calendar κ ρ τ} {left right key : κ} {first second hold : Hold ρ τ}

omit [LinearOrder τ] in
/-- Two holds that meet after a write were there before it, or one of them was written. -/
theorem meets_update (different : left ≠ right)
    (here : Function.update calendar key (some hold) left = some first)
    (there : Function.update calendar key (some hold) right = some second) :
    (calendar left = some first ∧ calendar right = some second) ∨
      (key = left ∧ hold = first ∧ calendar right = some second) ∨
      (key = right ∧ hold = second ∧ calendar left = some first) := by
  by_cases isLeft : left = key
  · subst isLeft
    rw [Function.update_self] at here
    rw [Function.update_of_ne different.symm] at there
    exact Or.inr (Or.inl ⟨rfl, Option.some.inj here, there⟩)
  · rw [Function.update_of_ne isLeft] at here
    by_cases isRight : right = key
    · subst isRight
      rw [Function.update_self] at there
      exact Or.inr (Or.inr ⟨rfl, Option.some.inj there, here⟩)
    · rw [Function.update_of_ne isRight] at there
      exact Or.inl ⟨here, there⟩

/-- A hold that meets nothing adds no meeting. -/
theorem Free.meets_update (free : calendar.Free hold) (different : left ≠ right)
    (here : Function.update calendar key (some hold) left = some first)
    (there : Function.update calendar key (some hold) right = some second)
    (meets : first.Meets second) : calendar left = some first ∧ calendar right = some second := by
  rcases Calendar.meets_update different here there with kept | ⟨_, rfl, held⟩ | ⟨_, rfl, held⟩
  · exact kept
  · exact absurd meets.symm (free right second held)
  · exact absurd meets (free left first held)

omit [LinearOrder τ] in
theorem held_of_released (held : Function.update calendar key none left = some first) :
    calendar left = some first := by
  by_cases same : left = key
  · subst same
    rw [Function.update_self] at held
    cases held
  · rwa [Function.update_of_ne same] at held

/-- Two holds that meet after a change met before it, or the change overwrote one of them. -/
theorem Step.meets {change : Change κ ρ τ} (step : Step calendar change next)
    (different : left ≠ right) (here : next left = some first) (there : next right = some second)
    (meets : first.Meets second) : (calendar left = some first ∧ calendar right = some second) ∨
      change.Overwrites left first ∨ change.Overwrites right second := by
  obtain ⟨permitted, rfl⟩ := step
  cases change with
  | idle => exact Or.inl ⟨here, there⟩
  | release key => exact Or.inl ⟨held_of_released here, held_of_released there⟩
  | reserve key hold => exact Or.inl (permitted.2.meets_update different here there meets)
  | exchange old new hold =>
    obtain ⟨heldLeft, heldRight⟩ := permitted.2.meets_update different here there meets
    exact Or.inl ⟨held_of_released heldLeft, held_of_released heldRight⟩
  | amend key hold =>
    rcases meets_update different here there with kept | ⟨rfl, rfl, _⟩ | ⟨rfl, rfl, _⟩
    · exact Or.inl kept
    · exact Or.inr (Or.inl (Or.inl rfl))
    · exact Or.inr (Or.inr (Or.inl rfl))
  | revive key hold =>
    rcases meets_update different here there with kept | ⟨rfl, rfl, _⟩ | ⟨rfl, rfl, _⟩
    · exact Or.inl kept
    · exact Or.inr (Or.inl (Or.inr rfl))
    · exact Or.inr (Or.inr (Or.inr rfl))

/-- Of two holds that meet at the end of a run, the last one written was overwritten. -/
theorem meets_traced {last : Calendar κ ρ τ}
    {trace : List (Transition (Calendar κ ρ τ) (Change κ ρ τ))} (free : calendar.ConflictFree)
    (run : Run Step calendar trace last) (different : left ≠ right)
    (here : last left = some first) (there : last right = some second)
    (meets : first.Meets second) :
    ∃ early move late, trace = early ++ move :: late ∧
      (move.event.Overwrites left first ∨ move.event.Overwrites right second) ∧
      ∀ later ∈ move :: late, later.after left = some first ∧ later.after right = some second := by
  induction run with
  | start => exact absurd meets (free left right first second different here there)
  | @next trace mid change last earlier stepped ih =>
    rcases stepped.meets different here there meets with ⟨before, before'⟩ | overwrites
    · obtain ⟨early, move, late, rfl, overwrites, kept⟩ := ih before before'
      refine ⟨early, move, late ++ [⟨mid, change, last⟩], by simp, overwrites, ?_⟩
      rw [← List.cons_append]
      intro later member
      rcases List.mem_append.mp member with old | new
      · exact kept later old
      · obtain rfl := List.mem_singleton.mp new
        exact ⟨here, there⟩
    · refine ⟨trace, ⟨mid, change, last⟩, [], rfl, overwrites, ?_⟩
      intro later member
      obtain rfl := List.mem_singleton.mp member
      exact ⟨here, there⟩

end Calendar
end Relational
