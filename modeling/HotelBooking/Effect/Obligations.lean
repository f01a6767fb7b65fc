import HotelBooking.Effect.Protocol

/-! What a lone client owes: some of its commands raise an obligation, others discharge it, and the
phase of a protocol keeps account of it. -/
namespace Effect
variable {S : Signature} {ε α σ : Type} {exec : Executor S ε σ} {policy : Policy S ε σ}
  {protocol : Protocol S ε} {state last : σ} {attempts : List (Attempt S ε σ)}

/-- After the last attempt that is a cause comes one that is a mark. -/
def MarkedAfter (attempts : List (Attempt S ε σ)) (cause mark : Attempt S ε σ → Prop) : Prop :=
  ∃ early marker late, attempts = early ++ marker :: late ∧ mark marker ∧ ∀ later ∈ late, ¬ cause later

/-- The phase to which the replies have led. -/
def phaseAfter (protocol : Protocol S ε) (exec : Executor S ε σ) (begins : protocol.Phase)
    (attempts : List (Attempt S ε σ)) : protocol.Phase :=
  attempts.foldl (fun phase attempt => protocol.next phase attempt.cmd (attempt.reply exec)) begins

theorem phaseAfter_concat (begins : protocol.Phase) (attempts : List (Attempt S ε σ))
    (attempt : Attempt S ε σ) : phaseAfter protocol exec begins (attempts ++ [attempt]) =
      protocol.next (phaseAfter protocol exec begins attempts) attempt.cmd (attempt.reply exec) := by
  simp only [phaseAfter, List.foldl_append, List.foldl_cons, List.foldl_nil]

theorem Program.Obeys.ended {ends : protocol.Phase → Except ε α → Prop} {program : Program S ε α}
    {result : Except ε α} {begins : protocol.Phase} (obeys : program.Obeys protocol ends begins)
    (runs : program.Runs exec policy state attempts result last) :
    ends (phaseAfter protocol exec begins attempts) result := by
  induction runs generalizing begins with
  | ret | raise => exact obeys
  | call permitted rest ih => exact ih (obeys.2 _)

/-- What only a mark discharges, and is not owed in the end, was discharged after its last cause. -/
theorem markedAfter_of_settled (begins : protocol.Phase) (owed : protocol.Phase → Prop)
    {cause mark : Attempt S ε σ → Prop}
    (raises : ∀ early attempt late, attempts = early ++ attempt :: late → cause attempt →
      ¬ mark attempt → owed (protocol.next (phaseAfter protocol exec begins early) attempt.cmd
        (attempt.reply exec)))
    (keeps : ∀ phase, ∀ attempt ∈ attempts, ¬ mark attempt → owed phase →
      owed (protocol.next phase attempt.cmd (attempt.reply exec)))
    (caused : ∃ attempt ∈ attempts, cause attempt)
    (settled : ¬ owed (phaseAfter protocol exec begins attempts)) :
    MarkedAfter attempts cause mark := by
  induction attempts using List.reverseRecOn with
  | nil =>
    obtain ⟨attempt, member, _⟩ := caused
    cases member
  | append_singleton attempts final ih =>
    by_cases marks : mark final
    · exact ⟨attempts, final, [], rfl, marks, fun later member => absurd member List.not_mem_nil⟩
    · rw [phaseAfter_concat] at settled
      have harmless : ¬ cause final := fun causes => settled (raises attempts final [] rfl causes marks)
      have before : ∃ attempt ∈ attempts, cause attempt := by
        obtain ⟨attempt, member, causes⟩ := caused
        rcases List.mem_append.mp member with old | new
        · exact ⟨attempt, old, causes⟩
        · exact absurd (List.mem_singleton.mp new ▸ causes) harmless
      obtain ⟨early, marker, late, rfl, marked, rest⟩ := ih
        (fun early attempt late split => raises early attempt (late ++ [final]) (by simp [split]))
        (fun phase attempt member => keeps phase attempt (List.mem_append_left _ member)) before
        fun owes => settled (keeps _ final (List.mem_append_right _ List.mem_cons_self) marks owes)
      refine ⟨early, marker, late ++ [final], by simp, marked, fun later member => ?_⟩
      rcases List.mem_append.mp member with old | new
      · exact rest later old
      · exact List.mem_singleton.mp new ▸ harmless

end Effect
