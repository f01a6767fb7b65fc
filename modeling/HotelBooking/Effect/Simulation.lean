import HotelBooking.Effect.Program

/-! Two programs over two systems. They are run on related states, and both succeed with
related values or both fail; the states stay related either way. -/
namespace Effect
variable {S T : Signature} {ε δ α β γ ω σ τ : Type}

/-- Both succeed, with related values, or both fail, with related errors. -/
def Related (errors : ε → δ → Prop) (values : α → β → Prop) : Except ε α → Except δ β → Prop
  | .ok left, .ok right => values left right
  | .error error, .error other => errors error other
  | _, _ => False

/-- Both succeed, with related values, or both fail. -/
abbrev Agree (values : α → β → Prop) : Except ε α → Except δ β → Prop :=
  Related (fun _ _ => True) values

/-- Both succeed, with related values, or both fail with one error. -/
abbrev Matches (values : α → β → Prop) : Except ε α → Except ε β → Prop := Related Eq values

/-- The two ways to be related. -/
theorem Related.cases {errors : ε → δ → Prop} {values : α → β → Prop} {left : Except ε α}
    {right : Except δ β} (related : Related errors values left right) :
    (∃ a b, left = .ok a ∧ right = .ok b ∧ values a b) ∨
      ∃ error other, left = .error error ∧ right = .error other ∧ errors error other := by
  cases left with
  | error error =>
    cases right with
    | error other => exact Or.inr ⟨error, other, rfl, rfl, related⟩
    | ok value => cases related
  | ok value =>
    cases right with
    | error other => cases related
    | ok image => exact Or.inl ⟨value, image, rfl, rfl, related⟩

theorem Agree.cases {values : α → β → Prop} {left : Except ε α} {right : Except δ β}
    (agree : Agree values left right) :
    (∃ a b, left = .ok a ∧ right = .ok b ∧ values a b) ∨
      ∃ error other, left = .error error ∧ right = .error other := by
  obtain values | ⟨error, other, left, right, _⟩ := Related.cases agree
  · exact Or.inl values
  · exact Or.inr ⟨error, other, left, right⟩

theorem Related.mono {errors others : ε → δ → Prop} {values results : α → β → Prop}
    {left : Except ε α} {right : Except δ β} (related : Related errors values left right)
    (failing : ∀ error other, errors error other → others error other)
    (succeeding : ∀ a b, values a b → results a b) : Related others results left right := by
  obtain ⟨a, b, rfl, rfl, same⟩ | ⟨error, other, rfl, rfl, same⟩ := related.cases
  · exact succeeding a b same
  · exact failing error other same

theorem Matches.agree {values : α → β → Prop} {left : Except ε α} {right : Except ε β}
    (same : Matches values left right) : Agree values left right :=
  Related.mono same (fun _ _ _ => trivial) fun _ _ related => related

theorem Agree.trans {first : α → β → Prop} {second : β → γ → Prop} {values : α → γ → Prop}
    {left : Except ε α} {middle : Except ε β} {right : Except δ γ} (one : Agree first left middle)
    (two : Agree second middle right)
    (composed : ∀ a b c, first a b → second b c → values a c) : Agree values left right := by
  obtain ⟨a, b, rfl, rfl, related⟩ | ⟨error, other, rfl, rfl⟩ := one.cases
  · obtain ⟨_, c, same, rfl, further⟩ | ⟨_, _, same, _⟩ := two.cases
    · cases same
      exact composed a b c related further
    · cases same
  · obtain ⟨_, _, same, _⟩ | ⟨_, last, _, rfl⟩ := two.cases
    · cases same
    · trivial

theorem related_bind {errors : ε → δ → Prop} {values : α → β → Prop} {results : γ → ω → Prop}
    {left : Except ε α} {right : Except δ β} {next : α → Except ε γ} {follow : β → Except δ ω}
    (first : Related errors values left right)
    (rest : ∀ a b, left = .ok a → right = .ok b → values a b →
      Related errors results (next a) (follow b)) :
    Related errors results (left >>= next) (right >>= follow) := by
  obtain ⟨value, image, rfl, rfl, related⟩ | ⟨error, other, rfl, rfl, related⟩ := first.cases
  · exact rest value image rfl rfl related
  · exact related

/-- One computation on both sides, with its result to go on with. -/
theorem related_bind_same {errors : ε → ε → Prop} {results : β → γ → Prop} {value : Except ε α}
    {next : α → Except ε β} {follow : α → Except ε γ} (reflexive : ∀ error, errors error error)
    (rest : ∀ given, value = .ok given → Related errors results (next given) (follow given)) :
    Related errors results (value >>= next) (value >>= follow) := by
  cases value with
  | error error => exact reflexive error
  | ok given => exact rest given rfl

theorem agree_bind_same {results : β → γ → Prop} {value : Except ε α} {next : α → Except ε β}
    {follow : α → Except ε γ}
    (rest : ∀ given, value = .ok given → Agree results (next given) (follow given)) :
    Agree results (value >>= next) (value >>= follow) :=
  related_bind_same (fun _ => trivial) rest

theorem matches_bind_same {results : β → γ → Prop} {value : Except ε α} {next : α → Except ε β}
    {follow : α → Except ε γ}
    (rest : ∀ given, value = .ok given → Matches results (next given) (follow given)) :
    Matches results (value >>= next) (value >>= follow) :=
  related_bind_same (fun _ => rfl) rest

theorem related_dite {p q : Prop} [Decidable p] [Decidable q] {errors : ε → δ → Prop}
    {values : α → β → Prop} {yes : p → Except ε α} {no : ¬ p → Except ε α} {yes' : q → Except δ β}
    {no' : ¬ q → Except δ β} (same : p ↔ q) (left : ∀ h h', Related errors values (yes h) (yes' h'))
    (right : ∀ h h', Related errors values (no h) (no' h')) :
    Related errors values (if h : p then yes h else no h) (if h : q then yes' h else no' h) := by
  by_cases h : p
  · rw [dif_pos h, dif_pos (same.mp h)]
    exact left _ _
  · rw [dif_neg h, dif_neg (mt same.mpr h)]
    exact right _ _

namespace Program
variable {exec : Executor S ε σ} {other : Executor T δ τ} {states : σ → τ → Prop}
  {values : α → β → Prop}

def Simulates (exec : Executor S ε σ) (other : Executor T δ τ) (states : σ → τ → Prop)
    (values : α → β → Prop) (program : Program S ε α) (image : Program T δ β) : Prop :=
  ∀ s t, states s t → Agree values (program.run exec s).1 (image.run other t).1 ∧
    states (program.run exec s).2 (image.run other t).2

theorem simulates_ret {left : α} {right : β} (related : values left right) :
    Simulates exec other states values (.ret left) (.ret right) :=
  fun _ _ same => ⟨related, same⟩

theorem simulates_raise (error : ε) (other_error : δ) :
    Simulates exec other states values (.raise error) (.raise other_error) :=
  fun _ _ same => ⟨trivial, same⟩

theorem simulates_bind {results : γ → ω → Prop} {program : Program S ε α} {image : Program T δ β}
    {next : α → Program S ε γ} {follow : β → Program T δ ω}
    (first : Simulates exec other states values program image)
    (rest : ∀ left right, values left right →
      Simulates exec other states results (next left) (follow right)) :
    Simulates exec other states results (program.bind next) (image.bind follow) := by
  intro s t related
  have both := first s t related
  rw [run_bind, run_bind]
  generalize program.run exec s = ran at both ⊢
  generalize image.run other t = mirrored at both ⊢
  obtain ⟨left, s'⟩ := ran
  obtain ⟨right, t'⟩ := mirrored
  obtain ⟨agree, after⟩ := both
  obtain ⟨value, image_value, rfl, rfl, same⟩ | ⟨error, other_error, rfl, rfl⟩ := agree.cases
  · exact rest value image_value same s' t' after
  · exact ⟨trivial, after⟩

/-- Handlers see an error on both sides, and nothing relates the two. -/
theorem simulates_recover {program : Program S ε α} {image : Program T δ β}
    {handler : ε → Program S ε α} {rescue : δ → Program T δ β}
    (body : Simulates exec other states values program image)
    (rescued : ∀ error other_error,
      Simulates exec other states values (handler error) (rescue other_error)) :
    Simulates exec other states values (program.recover handler) (image.recover rescue) := by
  intro s t related
  have both := body s t related
  rw [run_recover, run_recover]
  generalize program.run exec s = ran at both ⊢
  generalize image.run other t = mirrored at both ⊢
  obtain ⟨left, s'⟩ := ran
  obtain ⟨right, t'⟩ := mirrored
  obtain ⟨agree, after⟩ := both
  obtain ⟨value, image_value, rfl, rfl, same⟩ | ⟨error, other_error, rfl, rfl⟩ := agree.cases
  · exact ⟨same, after⟩
  · exact rescued error other_error s' t' after

/-- A fact about what one of the programs returns goes with the relation. -/
theorem Simulates.returning {program : Program S ε α} {image : Program T δ β} {holds : α → Prop}
    (simulates : Simulates exec other states values program image)
    (returns : ∀ s value, (program.run exec s).1 = .ok value → holds value) :
    Simulates exec other states (fun left right => values left right ∧ holds left) program image := by
  intro s t related
  have both := simulates s t related
  refine ⟨?_, both.2⟩
  obtain ⟨value, image_value, left, right, same⟩ | ⟨error, other_error, left, right⟩ := both.1.cases
  · rw [left, right]
    exact ⟨same, returns s value left⟩
  · rw [left, right]
    trivial

end Program
end Effect
