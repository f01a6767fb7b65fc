import HotelBooking.Effect.Execution

/-! Noninterference. Some clients of a pool are members of a group, and the others cannot be noticed
by them: what the others issue changes nothing that a member's command reads. The members then
run as if the others had never begun. -/
namespace Effect
variable {S : Signature} {ε α σ : Type}

/-- States that agree give the members' commands the same replies, and the commands of the others
leave a state in agreement. -/
structure Isolates (exec : Executor S ε σ) (agree : σ → σ → Prop) (inside outside : S.Cmd → Prop) :
    Prop where
  inside {cmd : S.Cmd} {state alone : σ} : inside cmd → agree state alone →
    (exec cmd state).1 = (exec cmd alone).1 ∧ agree (exec cmd state).2 (exec cmd alone).2
  outside {cmd : S.Cmd} {state alone : σ} : outside cmd → agree state alone →
    agree (exec cmd state).2 alone

section Faults
variable {exec : Executor S ε σ} {agree : σ → σ → Prop} {inside outside : S.Cmd → Prop}

theorem Isolates.fault_inside (isolates : Isolates exec agree inside outside) (fault : Fault ε)
    {cmd : S.Cmd} {state alone : σ} (confined : inside cmd) (here : agree state alone) :
    (fault.apply exec cmd state).1 = (fault.apply exec cmd alone).1 ∧
      agree (fault.apply exec cmd state).2 (fault.apply exec cmd alone).2 := by
  obtain ⟨replied, after⟩ := isolates.inside confined here
  cases fault with
  | none => exact ⟨replied, after⟩
  | refused error => exact ⟨rfl, here⟩
  | lost error => exact ⟨rfl, after⟩

theorem Isolates.fault_outside (isolates : Isolates exec agree inside outside) (fault : Fault ε)
    {cmd : S.Cmd} {state alone : σ} (apart : outside cmd) (here : agree state alone) :
    agree (fault.apply exec cmd state).2 alone := by
  rcases fault.apply_state exec cmd state with executed | unchanged
  · rw [executed]
    exact isolates.outside apart here
  · rw [unchanged]
    exact here

end Faults

namespace Pool
variable {exec : Executor S ε σ} {policy : Policy S ε σ} {agree : σ → σ → Prop}
  {inside outside : S.Cmd → Prop} {member : Nat → Bool}

/-- A pool beside one in which the members have come as far, and the others stand where they
started. -/
structure Apart (agree : σ → σ → Prop) (member : Nat → Bool) (start pool alone : Pool S ε α σ) :
    Prop where
  state : agree pool.state alone.state
  members : ∀ i, member i = true → alone.clients[i]? = pool.clients[i]?
  others : ∀ i, member i = false → alone.clients[i]? = start.clients[i]?

/-- A step of a member is the same step beside it, a step of another client is none. -/
theorem Apart.step (isolates : Isolates exec agree inside outside)
    {start before alone after : Pool S ε α σ} {event : Event S ε}
    (apart : Apart agree member start before alone) (step : Step exec policy before event after)
    (issues : (member event.client = true → inside event.cmd) ∧
      (member event.client = false → outside event.cmd)) :
    (member event.client = true ∧ ∃ mid, Step exec AnyFault alone event mid ∧
      Apart agree member start after mid) ∨
    (member event.client = false ∧ Apart agree member start after alone) := by
  cases step with
  | @serve state waiting i cmd next fault found permitted =>
    cases joined : member i with
    | false =>
      refine Or.inr ⟨rfl, isolates.fault_outside fault (issues.2 joined) apart.state, ?_, apart.others⟩
      intro j mine
      have other : i ≠ j := by
        rintro rfl
        cases joined.symm.trans mine
      rw [apart.members j mine, List.getElem?_set_ne other]
    | true =>
      obtain ⟨replied, kept⟩ := isolates.fault_inside fault (issues.1 joined) apart.state
      have there := (apart.members i joined).trans found
      obtain ⟨database, companions⟩ := alone
      have bound : i < waiting.length := (List.getElem?_eq_some_iff.mp found).1
      have within : i < companions.length := (List.getElem?_eq_some_iff.mp there).1
      refine Or.inl ⟨rfl, _, .serve there trivial, kept, ?_, ?_⟩
      · intro j mine
        by_cases same : i = j
        · subst same
          simp [bound, within, replied]
        · rw [List.getElem?_set_ne same, List.getElem?_set_ne same]
          exact apart.members j mine
      · intro j foreign
        have other : i ≠ j := by
          rintro rfl
          cases joined.symm.trans foreign
        rw [List.getElem?_set_ne other]
        exact apart.others j foreign

/-- A run, without the steps of the others, is a run of the members alone: the same commands of the
same clients meet the same faults. -/
theorem Apart.run (isolates : Isolates exec agree inside outside) {start last : Pool S ε α σ}
    {trace : List (Transition (Pool S ε α σ) (Event S ε))} (initial : agree start.state start.state)
    (uses : start.UsesEach fun i cmd =>
      (member i = true → inside cmd) ∧ (member i = false → outside cmd))
    (run : Run (Step exec policy) start trace last) :
    ∃ alone final, Run (Step exec AnyFault) start alone final ∧
      alone.map Transition.event =
        (trace.map Transition.event).filter (fun event => member event.client) ∧
      Apart agree member start last final := by
  induction run with
  | start => exact ⟨[], start, .start, rfl, initial, fun _ _ => rfl, fun _ _ => rfl⟩
  | @next trace mid event last earlier stepped ih =>
    obtain ⟨alone, final, runs, events, apart⟩ := ih
    have issues := run_issues uses (.next earlier stepped) _
      (List.mem_append_right trace List.mem_cons_self)
    rcases apart.step isolates stepped issues with ⟨joined, next, moves, after⟩ | ⟨foreign, after⟩
    · exact ⟨_, next, .next runs moves, by simp [events, joined], after⟩
    · exact ⟨alone, final, runs, by simp [events, foreign], after⟩

end Pool
end Effect
