import HotelBooking.Services.Clients

/-! The protocol rules of the building blocks that the services are made of. -/
namespace HotelBooking
open Effect
variable {n : Nat} {protocol : Protocol (signature n) Err} {phase : protocol.Phase}

theorem obeys_issue {cmd : Cmd n} {ends : protocol.Phase → Except Err cmd.Answer → Prop}
    (allowed : protocol.allows phase cmd)
    (final : ∀ reply, ends (protocol.next phase cmd reply) reply) :
    (issue cmd).Obeys protocol ends phase :=
  Program.obeys_perform (S := signature n) allowed final

theorem obeys_attempt {program : Async n α} {middle : protocol.Phase → Except Err α → Prop}
    {ends : protocol.Phase → Except Err (Except Err α) → Prop}
    (head : program.Obeys protocol middle phase)
    (final : ∀ phase result, middle phase result → ends phase (.ok result)) :
    (attempt program).Obeys protocol ends phase := by
  let inner : protocol.Phase → Except Err (Except Err α) → Prop := fun phase outcome =>
    match outcome with
    | .ok result => middle phase result
    | .error error => middle phase (.error error)
  have body : (program.bind fun value => .ret (.ok value)).Obeys protocol inner phase :=
    Program.obeys_bind head (fun _ _ reached => reached) (fun _ _ reached => reached)
  exact Program.obeys_recover body (fun phase error reached => final phase _ reached)
    (fun phase result reached => final phase result reached)

/-- The shard wrapper changes the error of the body at most. -/
theorem obeys_run {router : ShardRouter n} {i : Fin n} {body : Async n α}
    {middle ends : protocol.Phase → Except Err α → Prop}
    (head : body.Obeys protocol middle phase)
    (returns : ∀ phase value, middle phase (.ok value) → ends phase (.ok value))
    (fails : ∀ phase error other, middle phase (.error error) → ends phase (.error other)) :
    (router.run i body).Obeys protocol ends phase := by
  refine Program.obeys_recover head (fun phase error reached => ?_) returns
  split
  · exact fails phase error _ reached
  · exact fails phase error _ reached

theorem obeys_read {router : ShardRouter n} {i : Fin n} {stmt : Stmt}
    {ends : protocol.Phase → Except Err stmt.Answer → Prop}
    (allowed : protocol.allows phase (.shard i stmt))
    (returns : ∀ answer, ends (protocol.next phase (.shard i stmt) (.ok answer)) (.ok answer))
    (fails : ∀ error other,
      ends (protocol.next phase (.shard i stmt) (.error error)) (.error other)) :
    (router.read i stmt).Obeys protocol ends phase := by
  let middle : protocol.Phase → Except Err stmt.Answer → Prop :=
    fun after reply => after = protocol.next phase (.shard i stmt) reply
  have head : (issue (.shard i stmt)).Obeys protocol middle phase :=
    obeys_issue allowed fun reply => rfl
  refine obeys_run head ?_ ?_
  · rintro _ answer rfl
    exact returns answer
  · rintro _ error other rfl
    exact fails error other

theorem obeys_write {router : ShardRouter n} {i : Fin n} {stmt : Stmt}
    {ends : protocol.Phase → Except Err stmt.Answer → Prop}
    (allowed : protocol.allows phase (.shard i stmt))
    (returns : ∀ answer, ends (protocol.next phase (.shard i stmt) (.ok answer)) (.ok answer))
    (fails : ∀ error other,
      ends (protocol.next phase (.shard i stmt) (.error error)) (.error other)) :
    (router.write i stmt).Obeys protocol ends phase :=
  obeys_read allowed returns fails

theorem obeys_globalRead {stmt : GuestStmt} {consistency : Consistency}
    {ends : protocol.Phase → Except Err stmt.Answer → Prop}
    (allowed : protocol.allows phase (.guests stmt))
    (returns : ∀ answer, ends (protocol.next phase (.guests stmt) (.ok answer)) (.ok answer))
    (fails : ∀ error other,
      ends (protocol.next phase (.guests stmt) (.error error)) (.error other)) :
    (globalRead stmt consistency : Async n stmt.Answer).Obeys protocol ends phase := by
  let middle : protocol.Phase → Except Err stmt.Answer → Prop :=
    fun after reply => after = protocol.next phase (.guests stmt) reply
  have head : (issue (.guests stmt)).Obeys protocol middle phase :=
    obeys_issue allowed fun reply => rfl
  refine Program.obeys_recover head ?_ ?_
  · rintro _ error rfl
    split
    · exact fails error _
    · exact fails error _
  · rintro _ answer rfl
    exact returns answer

/-- A transaction that leaves the phase as it was whenever it fails may be tried again. -/
theorem obeys_serializable {transaction : Nat → Async n α}
    {ends : protocol.Phase → Except Err α → Prop}
    (once : ∀ k, (transaction k).Obeys protocol (fun after result =>
      match result with
      | .ok value => ends after (.ok value)
      | .error _ => after = phase) phase)
    (fails : ∀ error, ends phase (.error error)) :
    (BookingsService.serializable transaction).Obeys protocol ends phase := by
  have loop : ∀ remaining attempt,
      (BookingsService.serializableFrom transaction attempt remaining).Obeys protocol ends phase := by
    intro remaining
    induction remaining with
    | zero =>
      intro attempt
      refine Program.obeys_recover (once attempt) ?_ fun _ _ reached => reached
      rintro after error rfl
      split
      · exact fails _
      · exact fails _
    | succ remaining ih =>
      intro attempt
      refine Program.obeys_recover (once attempt) ?_ fun _ _ reached => reached
      rintro after error rfl
      split
      · exact fails _
      · exact ih (attempt + 1)
  exact loop _ _

/-- A condition on the phase and the value that a program returns; none on its errors. -/
abbrev Returns {φ : Type} (holds : φ → α → Prop) : φ → Except Err α → Prop :=
  fun after result => ∀ value, result = .ok value → holds after value

theorem obeys_then {program : Async n α} {next : α → Async n β}
    {middle : protocol.Phase → α → Prop} {final : protocol.Phase → β → Prop}
    (head : program.Obeys protocol (Returns middle) phase)
    (tail : ∀ after value, middle after value →
      (next value).Obeys protocol (Returns final) after) :
    (program.bind next).Obeys protocol (Returns final) phase := by
  refine Program.obeys_bind head (fun after value reached => ?_) ?_
  · exact tail after value (reached value rfl)
  · rintro after error _ value ⟨⟩

theorem obeys_ret {holds : protocol.Phase → α → Prop} {value : α} (reached : holds phase value) :
    (Program.ret value : Async n α).Obeys protocol (Returns holds) phase := by
  rintro other ⟨⟩
  exact reached

theorem obeys_raise {holds : protocol.Phase → α → Prop} (error : Err) :
    (Program.raise error : Async n α).Obeys protocol (Returns holds) phase := nofun

end HotelBooking
