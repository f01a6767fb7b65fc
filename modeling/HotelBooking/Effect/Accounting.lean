import HotelBooking.Effect.Erasure

/-! Programs called to account. The log of the replies says what a program did; an error that
it raises was excused by a reply that it got, or it is a verdict of its own. -/
namespace Effect
variable {S : Signature} {ε α β σ : Type}

/-- The phase is the log of what the replies stand for. -/
abbrev Protocol.logging (noted? : (cmd : S.Cmd) → Except ε (S.Answer cmd) → Option β) :
    Protocol S ε where
  Phase := List β
  allows _ _ := True
  next log cmd reply := log ++ (noted? cmd reply).toList

/-- The phase is what may be raised: all that the replies so far excuse. -/
abbrev Protocol.excusing (excuses : (cmd : S.Cmd) → Except ε (S.Answer cmd) → ε → Prop) :
    Protocol S ε where
  Phase := ε → Prop
  allows _ _ := True
  next excused cmd reply error := excused error ∨ excuses cmd reply error

/-- Two protocols side by side. -/
abbrev Protocol.both (left right : Protocol S ε) : Protocol S ε where
  Phase := left.Phase × right.Phase
  allows phase cmd := left.allows phase.1 cmd ∧ right.allows phase.2 cmd
  next phase cmd reply := (left.next phase.1 cmd reply, right.next phase.2 cmd reply)

/-- The phase to which a list of exchanges leads. -/
def Protocol.after (protocol : Protocol S ε) (phase : protocol.Phase) (steps : List (Exchange S ε)) :
    protocol.Phase :=
  steps.foldl (fun before step => protocol.next before step.cmd step.reply) phase

/-- A way through a program ends as its protocol says. -/
theorem Program.Path.ends {protocol : Protocol S ε} {ends : protocol.Phase → Except ε α → Prop}
    {program : Program S ε α} {steps : List (Exchange S ε)} {result : Except ε α}
    {phase : protocol.Phase} (path : program.Path steps result)
    (obeys : program.Obeys protocol ends phase) : ends (protocol.after phase steps) result :=
  path.obeys obeys

namespace Program

/-- A way through two programs goes through the first, and through the second unless the first
fails. -/
theorem Path.bind_cases {program : Program S ε α} {next : α → Program S ε β}
    {steps : List (Exchange S ε)} {result : Except ε β}
    (path : (program.bind next).Path steps result) :
    (∃ first value rest, program.Path first (.ok value) ∧ (next value).Path rest result ∧
      steps = first ++ rest) ∨
    ∃ error, program.Path steps (.error error) ∧ result = .error error := by
  induction program generalizing steps with
  | ret value => exact Or.inl ⟨[], value, steps, .ret, path, rfl⟩
  | raise error =>
    cases path
    exact Or.inr ⟨error, .raise, rfl⟩
  | call cmd follow ih =>
    cases path with
    | call inner =>
      rcases ih _ inner with ⟨first, value, rest, head, tail, rfl⟩ | ⟨error, head, rfl⟩
      · exact Or.inl ⟨_ :: first, value, rest, .call head, tail, rfl⟩
      · exact Or.inr ⟨error, .call head, rfl⟩

theorem Path.bind_ok {program : Program S ε α} {next : α → Program S ε β}
    {steps : List (Exchange S ε)} {value : β} (path : (program.bind next).Path steps (.ok value)) :
    ∃ first mid rest, program.Path first (.ok mid) ∧ (next mid).Path rest (.ok value) ∧
      steps = first ++ rest := by
  rcases path.bind_cases with passed | ⟨error, _, same⟩
  · exact passed
  · cases same

theorem Path.recover_cases {program : Program S ε α} {handler : ε → Program S ε α}
    {steps : List (Exchange S ε)} {result : Except ε α}
    (path : (program.recover handler).Path steps result) :
    (∃ first error rest, program.Path first (.error error) ∧ (handler error).Path rest result ∧
      steps = first ++ rest) ∨
    ∃ value, program.Path steps (.ok value) ∧ result = .ok value := by
  induction program generalizing steps with
  | ret value =>
    cases path
    exact Or.inr ⟨value, .ret, rfl⟩
  | raise error => exact Or.inl ⟨[], error, steps, .raise, path, rfl⟩
  | call cmd follow ih =>
    cases path with
    | call inner =>
      rcases ih _ inner with ⟨first, error, rest, head, tail, rfl⟩ | ⟨value, head, rfl⟩
      · exact Or.inl ⟨_ :: first, error, rest, .call head, tail, rfl⟩
      · exact Or.inr ⟨value, .call head, rfl⟩

theorem Path.ofExcept_cases {reply result : Except ε α} {steps : List (Exchange S ε)}
    (path : (ofExcept reply).Path steps result) : steps = [] ∧ result = reply := by
  cases reply <;> cases path <;> exact ⟨rfl, rfl⟩

theorem Path.perform_cases {cmd : S.Cmd} {steps : List (Exchange S ε)}
    {result : Except ε (S.Answer cmd)}
    (path : (perform cmd : Program S ε (S.Answer cmd)).Path steps result) :
    steps = [⟨cmd, result⟩] := by
  cases path with
  | call inner =>
    obtain ⟨rfl, rfl⟩ := inner.ofExcept_cases
    rfl

end Program

section After
variable {steps : List (Exchange S ε)}

theorem after_both {left right : Protocol S ε} {first : left.Phase} {second : right.Phase} :
    (left.both right).after (first, second) steps = (left.after first steps, right.after second steps) := by
  unfold Protocol.after
  induction steps generalizing first second with
  | nil => rfl
  | cons step rest ih => exact ih

theorem after_logging {noted? : (cmd : S.Cmd) → Except ε (S.Answer cmd) → Option β} {log : List β} :
    (Protocol.logging noted?).after log steps =
      log ++ steps.filterMap fun step => noted? step.cmd step.reply := by
  unfold Protocol.after
  induction steps generalizing log with
  | nil => exact (List.append_nil log).symm
  | cons step rest ih =>
    rw [List.foldl_cons, ih, List.append_assoc, List.filterMap_cons]
    cases noted? step.cmd step.reply <;> rfl

/-- What may be raised in the end was a verdict, or one of the replies excuses it. -/
theorem after_excusing {excuses : (cmd : S.Cmd) → Except ε (S.Answer cmd) → ε → Prop}
    {verdict : ε → Prop} {error : ε}
    (excused : (Protocol.excusing excuses).after verdict steps error) :
    verdict error ∨ ∃ step ∈ steps, excuses step.cmd step.reply error := by
  unfold Protocol.after at excused
  induction steps generalizing verdict with
  | nil => exact Or.inl excused
  | cons step rest ih =>
    rcases ih excused with (before | now) | ⟨later, member, excuse⟩
    · exact Or.inl before
    · exact Or.inr ⟨step, List.mem_cons_self, now⟩
    · exact Or.inr ⟨later, List.mem_cons_of_mem _ member, excuse⟩

end After

/-- Each exchange of a client is one of its moves. -/
theorem Pool.mem_exchanges {exec : Executor S ε σ} {i : Nat} {step : Exchange S ε}
    {trace : List (Transition (Pool S ε α σ) (Event S ε))} (member : step ∈ exchanges exec trace i) :
    ∃ move ∈ trace, move.event.client = i ∧ step = ⟨move.event.cmd, reply exec move⟩ := by
  obtain ⟨move, listed, rfl⟩ := List.mem_map.mp member
  obtain ⟨here, mine⟩ := List.mem_filter.mp listed
  exact ⟨move, here, of_decide_eq_true mine, rfl⟩

namespace Program
variable {excuses : (cmd : S.Cmd) → Except ε (S.Answer cmd) → ε → Prop}
  {verdict wider : ε → Prop} {carried : α → ε → Prop} {brought : β → ε → Prop}

/-- What is excused at the end: all that was, and the errors that come out. -/
def Settles (carried : α → ε → Prop) (before after : ε → Prop) (result : Except ε α) : Prop :=
  (∀ error, before error → after error) ∧
    match result with
    | .ok value => ∀ error, carried value error → after error
    | .error error => after error

/-- Each error that the program raises, or carries in the value it returns, is a verdict or
excused by a reply. -/
def Excused (excuses : (cmd : S.Cmd) → Except ε (S.Answer cmd) → ε → Prop) (verdict : ε → Prop)
    (carried : α → ε → Prop) (program : Program S ε α) : Prop :=
  ∀ before : ε → Prop, (∀ error, verdict error → before error) →
    program.Obeys (.excusing excuses) (Settles carried before) before

theorem excused_ret {value : α} (due : ∀ error, carried value error → verdict error) :
    (ret value : Program S ε α).Excused excuses verdict carried :=
  fun _ within => ⟨fun _ here => here, fun error carries => within error (due error carries)⟩

theorem excused_raise {error : ε} (due : verdict error) :
    (raise error : Program S ε α).Excused excuses verdict carried :=
  fun _ within => ⟨fun _ here => here, within error due⟩

theorem excused_bind {program : Program S ε α} {next : α → Program S ε β}
    (head : program.Excused excuses verdict carried)
    (tail : ∀ value, (next value).Excused excuses
      (fun error => verdict error ∨ carried value error) brought) :
    (program.bind next).Excused excuses verdict brought := by
  intro before within
  refine obeys_bind (head before within) ?_ fun _ _ settled => settled
  intro after value settled
  have more : ∀ error, verdict error ∨ carried value error → after error := by
    rintro error (due | carries)
    · exact settled.1 error (within error due)
    · exact settled.2 error carries
  exact (tail value after more).mono fun _ _ final =>
    ⟨fun error here => final.1 error (settled.1 error here), final.2⟩

theorem excused_recover {program : Program S ε α} {handler : ε → Program S ε α}
    (head : program.Excused excuses verdict carried)
    (rescue : ∀ error, (handler error).Excused excuses
      (fun other => verdict other ∨ other = error) carried) :
    (program.recover handler).Excused excuses verdict carried := by
  intro before within
  refine obeys_recover (head before within) ?_ fun _ _ settled => settled
  intro after error settled
  have more : ∀ other, verdict other ∨ other = error → after other := by
    rintro other (due | rfl)
    · exact settled.1 other (within other due)
    · exact settled.2
  exact (rescue error after more).mono fun _ _ final =>
    ⟨fun other here => final.1 other (settled.1 other here), final.2⟩

/-- An error on its way to what it is turned into: the replies excuse that too. -/
theorem Excused.converted {raw : (cmd : S.Cmd) → Except ε (S.Answer cmd) → ε → Prop}
    {inner : ε → Prop} {program : Program S ε α} (converts : ε → ε → Prop)
    (head : program.Excused raw inner fun _ _ => False)
    (translates : ∀ cmd reply error other, raw cmd reply error → converts error other →
      excuses cmd reply other)
    (verdicts : ∀ error other, inner error → converts error other → verdict other)
    (before : ε → Prop) (within : ∀ error, verdict error → before error) :
    program.Obeys (.excusing excuses) (fun after result => (∀ error, before error → after error) ∧
      ∀ error other, result = .error error → converts error other → after other) before := by
  have along : ∀ (program : Program S ε α) (start raised after : ε → Prop),
      program.Obeys (.excusing raw) (Settles (fun _ _ => False) start) raised →
      (∀ error other, raised error → converts error other → after other) →
      (∀ error, before error → after error) →
      program.Obeys (.excusing excuses) (fun after result =>
        (∀ error, before error → after error) ∧
        ∀ error other, result = .error error → converts error other → after other) after := by
    intro program start
    induction program with
    | ret value => exact fun _ after _ _ kept => ⟨kept, nofun⟩
    | raise error =>
      refine fun raised after due related kept => ⟨kept, ?_⟩
      rintro _ other ⟨⟩ turned
      exact related _ other due.2 turned
    | call cmd next ih =>
      refine fun raised after obeys related kept => ⟨trivial, fun reply => ?_⟩
      refine ih reply _ _ (obeys.2 reply) ?_ fun error here => Or.inl (kept error here)
      rintro error other (here | now) turned
      · exact Or.inl (related error other here turned)
      · exact Or.inr (translates cmd reply error other now turned)
  exact along program _ _ _ (head inner fun _ due => due)
    (fun error other due turned => within _ (verdicts error other due turned)) fun _ here => here

/-- Errors that a boundary converts. -/
theorem excused_convert {raw : (cmd : S.Cmd) → Except ε (S.Answer cmd) → ε → Prop}
    {inner : ε → Prop} {program : Program S ε α} (convert : ε → ε)
    (head : program.Excused raw inner fun _ _ => False)
    (translates : ∀ cmd reply error, raw cmd reply error → excuses cmd reply (convert error))
    (verdicts : ∀ error, inner error → verdict (convert error)) :
    (program.recover fun error => raise (convert error)).Excused excuses verdict
      fun _ _ => False := by
  intro before within
  refine obeys_recover (head.converted (fun error other => other = convert error) ?_ ?_ before
    within) (fun after error kept => ⟨kept.1, kept.2 error _ rfl rfl⟩)
    fun after value kept => ⟨kept.1, fun _ => False.elim⟩
  · rintro cmd reply error _ excuse rfl
    exact translates cmd reply error excuse
  · rintro error _ due rfl
    exact verdicts error due

theorem Excused.mono {narrow : (cmd : S.Cmd) → Except ε (S.Answer cmd) → ε → Prop}
    {program : Program S ε α} (excused : program.Excused narrow verdict fun _ _ => False)
    (implies : ∀ cmd reply error, narrow cmd reply error → excuses cmd reply error) :
    program.Excused excuses verdict fun _ _ => False := by
  intro before within
  refine (excused.converted (fun error other => other = error) ?_ ?_ before within).mono ?_
  · rintro cmd reply error _ excuse rfl
    exact implies cmd reply _ excuse
  · rintro error _ due rfl
    exact due
  · rintro after result ⟨kept, raised⟩
    cases result with
    | ok value => exact ⟨kept, fun _ => False.elim⟩
    | error error => exact ⟨kept, raised error error rfl rfl⟩

theorem excused_perform {cmd : S.Cmd} (raises : ∀ error, excuses cmd (.error error) error) :
    (perform cmd : Program S ε (S.Answer cmd)).Excused excuses verdict fun _ _ => False := by
  refine fun before _ => obeys_perform trivial fun reply => ⟨fun _ here => Or.inl here, ?_⟩
  cases reply with
  | ok answer => exact fun _ => False.elim
  | error error => exact Or.inr (raises error)

theorem obeys_both {left right : Protocol S ε} {first : left.Phase → Except ε α → Prop}
    {second : right.Phase → Except ε α → Prop} {program : Program S ε α} {phase : left.Phase}
    {other : right.Phase} (obeys : program.Obeys left first phase)
    (obeys' : program.Obeys right second other) :
    program.Obeys (left.both right) (fun phases result => first phases.1 result ∧
      second phases.2 result) (phase, other) := by
  induction program generalizing phase other with
  | ret value => exact ⟨obeys, obeys'⟩
  | raise error => exact ⟨obeys, obeys'⟩
  | call cmd next ih =>
    exact ⟨⟨obeys.1, obeys'.1⟩, fun reply => ih reply (obeys.2 reply) (obeys'.2 reply)⟩

theorem Excused.widen {program : Program S ε α} (excused : program.Excused excuses verdict carried)
    (implies : ∀ error, verdict error → wider error) :
    program.Excused excuses wider carried :=
  fun before within => excused before fun error due => within error (implies error due)

/-- What follows a program whose values carry no errors. -/
theorem excused_then {program : Program S ε α} {next : α → Program S ε β}
    (head : program.Excused excuses verdict fun _ _ => False)
    (tail : ∀ value, (next value).Excused excuses verdict brought) :
    (program.bind next).Excused excuses verdict brought :=
  excused_bind head fun value => (tail value).widen fun _ => Or.inl

end Program
end Effect
