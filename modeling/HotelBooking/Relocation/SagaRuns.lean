import HotelBooking.Relocation.Saga
import HotelBooking.Services.Runs

/-! Every execution of a cross-shard relocation ends where the table of outcomes says. -/
namespace HotelBooking
open Relational Effect
variable {n : Nat} {env : Env n} {entropy : Entropy} {world last : World n}
  {attempts : Attempts n}

@[simp] theorem lostEarly_singleton {attempt : Attempt (signature n) Err (World n)} :
    LostEarly [attempt] ↔ (attempt.cmd.isReserve || attempt.cmd.isCancel) = true ∧
      attempt.fault.isLost = true := by
  simp only [LostEarly, List.mem_singleton, exists_eq_left]

@[simp] theorem confirmFailed_singleton {attempt : Attempt (signature n) Err (World n)} :
    ConfirmFailed [attempt] ↔ attempt.cmd.isConfirm = true ∧ attempt.fault ≠ .none := by
  simp only [ConfirmFailed, List.mem_singleton, exists_eq_left]

/-- A retried transaction had no effect: the database aborted it. -/
theorem LostReplies.aborted {cmd : Cmd n} {fault : Fault Err} {error : Err}
    (permitted : LostReplies world cmd fault) (serialization : error.isSerialization = true)
    (applied : (Except.error error, last) = fault.apply World.exec cmd world) :
    last = world ∧ fault.isLost = false := by
  cases permitted with
  | answered =>
    have calm := World.calm_exec cmd world error (congrArg Prod.fst applied).symm
    rw [calm.2] at serialization
    cases serialization
  | refused step =>
    cases applied
    exact ⟨rfl, rfl⟩
  | lost step effective =>
    cases applied
    cases serialization

/-- The last attempt of a retried reservation decides: those before it had no effect. -/
theorem runs_reserves {target : Fin n} {data : Nat → Reservation} {k remaining : Nat}
    {result : Except Err Booking}
    (runs : (BookingsService.serializableFrom (fun attempt =>
      issue (.shard target (.reserve (data attempt)))) k remaining).Runs World.exec LostReplies
      world attempts result last) :
    ∃ earlier k fault, LostReplies world (.shard target (.reserve (data k))) fault ∧
      attempts = earlier ++ [⟨world, .shard target (.reserve (data k)), fault⟩] ∧
      (∀ other ∈ earlier, other.cmd.isReserve = true ∧ other.fault.isLost = false) ∧
      last = (fault.apply World.exec (.shard target (.reserve (data k))) world).2 ∧
      result.toOption =
        (fault.apply World.exec (.shard target (.reserve (data k))) world).1.toOption := by
  have final {inner : Except Err Booking} {mid : World n} {before : Attempts n} {k : Nat}
      (head : (issue (.shard target (.reserve (data k)))).Runs World.exec LostReplies world before
        inner mid) (same : result.toOption = inner.toOption) (here : last = mid) :
      ∃ earlier k fault, LostReplies world (.shard target (.reserve (data k))) fault ∧
        before = earlier ++ [⟨world, .shard target (.reserve (data k)), fault⟩] ∧
        (∀ other ∈ earlier, other.cmd.isReserve = true ∧ other.fault.isLost = false) ∧
        last = (fault.apply World.exec (.shard target (.reserve (data k))) world).2 ∧
        result.toOption =
          (fault.apply World.exec (.shard target (.reserve (data k))) world).1.toOption := by
    obtain ⟨fault, permitted, rfl, applied⟩ := runs_issue head
    refine ⟨[], k, fault, permitted, rfl, fun other member => absurd member List.not_mem_nil, ?_, ?_⟩
    · rw [here, ← applied]
    · rw [same, ← applied]
  induction remaining generalizing k attempts with
  | zero =>
    rcases Program.runs_recover runs with
      ⟨error, mid, first, rest, rfl, head, tail⟩ | ⟨created, rfl, head⟩
    · split at tail
      · obtain ⟨rfl, rfl, rfl⟩ := runs_raise tail
        rw [List.append_nil]
        exact final head rfl rfl
      · obtain ⟨rfl, rfl, rfl⟩ := runs_raise tail
        rw [List.append_nil]
        exact final head rfl rfl
    · exact final head rfl rfl
  | succ remaining ih =>
    rcases Program.runs_recover runs with
      ⟨error, mid, first, rest, rfl, head, tail⟩ | ⟨created, rfl, head⟩
    · split at tail
      · obtain ⟨rfl, rfl, rfl⟩ := runs_raise tail
        rw [List.append_nil]
        exact final head rfl rfl
      · next retried =>
        obtain ⟨fault, permitted, rfl, applied⟩ := runs_issue head
        obtain ⟨rfl, received⟩ := permitted.aborted (by simpa using retried) applied
        obtain ⟨earlier, k, fault, permitted, rfl, quiet, rest⟩ := ih tail
        refine ⟨_ :: earlier, k, fault, permitted, rfl, ?_, rest⟩
        intro other member
        rcases List.mem_cons.mp member with rfl | later
        · exact ⟨rfl, received⟩
        · exact quiet other later
    · exact final head rfl rfl

/-- T1: it had no effect, or it made the reservation and reported it or not. -/
theorem runs_sagaReserve {roomId : Text} {original : Booking} {result : Except Err Booking}
    (runs : (BookingsService.sagaReserve env entropy roomId original).Runs World.exec LostReplies
      world attempts result last) :
    ¬ ConfirmFailed attempts ∧
      ((result.toOption = none ∧ last = world ∧ ¬ LostEarly attempts) ∨
        ∃ k created, ∃ made : Reserves (world.shards (env.router.forKey roomId))
            (BookingsService.relocation entropy roomId original .pending k) none created,
          last = world.setShard (env.router.forKey roomId)
            ((world.shards (env.router.forKey roomId)).insertBooking created made.fresh made.room) ∧
          ((result.toOption = some created ∧ ¬ LostEarly attempts) ∨
            (result.toOption = none ∧ LostEarly attempts))) := by
  obtain ⟨inner, body, same⟩ := runs_router runs
  obtain ⟨earlier, k, fault, permitted, rfl, quiet, here, reply⟩ := runs_reserves body
  have unheard : ¬ LostEarly earlier := by
    rintro ⟨other, member, _, lost⟩
    rw [(quiet other member).2] at lost
    cases lost
  have unconfirmed : ¬ ConfirmFailed earlier := by
    rintro ⟨other, member, confirm, _⟩
    have reserve := (quiet other member).1
    obtain ⟨before, cmd, fault⟩ := other
    cases cmd with
    | shard i stmt => cases stmt <;> simp_all [Cmd.isReserve, Cmd.isConfirm]
    | guests stmt => cases reserve
    | cache cmd => cases reserve
  rw [confirmFailed_append, lostEarly_append, confirmFailed_singleton, lostEarly_singleton]
  refine ⟨?_, ?_⟩
  · rintro (failed | ⟨confirm, _⟩)
    · exact unconfirmed failed
    · cases confirm
  · rw [same, reply, here]
    cases permitted with
    | answered =>
      simp only [Fault.apply, exec_reserve]
      cases done : (world.shards (env.router.forKey roomId)).reserve
          (BookingsService.relocation entropy roomId original .pending k) none with
      | error error => exact Or.inl ⟨rfl, rfl, by simp [unheard, Fault.isLost]⟩
      | ok answer =>
        obtain ⟨created, reserved⟩ := answer
        obtain ⟨made, rfl⟩ := Tables.reserve_ok done
        exact Or.inr ⟨k, created, made, rfl, Or.inl ⟨rfl, by simp [unheard, Fault.isLost]⟩⟩
    | refused step => exact Or.inl ⟨rfl, rfl, by simp [unheard, Fault.isLost]⟩
    | lost step effective =>
      simp only [Fault.apply, exec_reserve] at effective ⊢
      cases done : (world.shards (env.router.forKey roomId)).reserve
          (BookingsService.relocation entropy roomId original .pending k) none with
      | error error => simp [done] at effective
      | ok answer =>
        obtain ⟨created, reserved⟩ := answer
        obtain ⟨made, rfl⟩ := Tables.reserve_ok done
        exact Or.inr ⟨k, created, made, rfl, Or.inr ⟨rfl, Or.inr ⟨rfl, rfl⟩⟩⟩

/-- A statement that succeeds on this world is one step with one outcome. -/
theorem runs_step {i : Fin n} {stmt : Stmt} {answer : stmt.Answer} {after : World n}
    {result : Except Err stmt.Answer}
    (done : World.exec (.shard i stmt) world = (.ok answer, after))
    (runs : (env.router.write i stmt).Runs World.exec LostReplies world attempts result last) :
    ∃ (outcome : Outcome) (fault : Fault Err), attempts = [⟨world, .shard i stmt, fault⟩] ∧
      LostReplies world (.shard i stmt) fault ∧
      (fault.isLost = true ↔ outcome = .lost) ∧ (fault = .none ↔ outcome = .done) ∧
      last = outcome.after world after ∧
      result.toOption = if outcome = .done then some answer else none := by
  obtain ⟨fault, permitted, rfl, here, reply⟩ := runs_write runs
  rw [here, reply]
  cases permitted with
  | answered =>
    refine ⟨.done, .none, rfl, .answered, by simp [Fault.isLost], by simp, ?_, ?_⟩
    · exact congrArg Prod.snd done
    · simp only [Fault.apply, done, if_true, Except.toOption]
  | refused step => exact ⟨.failed, _, rfl, .refused step, by simp [Fault.isLost], by simp, rfl, rfl⟩
  | lost step effective =>
    exact ⟨.lost, _, rfl, .lost step effective, by simp [Fault.isLost], by simp,
      congrArg Prod.snd done, rfl⟩

/-- Only T1, T2 and T3 fail. -/
theorem runs_unfailing {i : Fin n} {stmt : Stmt} {result : Except Err stmt.Answer}
    (safe : (Cmd.shard i stmt : Cmd n).isSagaStep = false)
    (runs : (env.router.write i stmt).Runs World.exec LostReplies world attempts result last) :
    attempts = [⟨world, .shard i stmt, .none⟩] ∧
      last = (World.exec (.shard i stmt) world).2 ∧
      result.toOption = (World.exec (.shard i stmt) world).1.toOption := by
  obtain ⟨fault, permitted, rfl, here, reply⟩ := runs_write runs
  cases permitted with
  | answered => exact ⟨rfl, here, reply⟩
  | refused step =>
    rw [safe] at step
    cases step
  | lost step effective =>
    rw [safe] at step
    cases step

theorem toOption_eq_none {result : Except ε α} (same : result.toOption = none) :
    ∃ error, result = .error error := by
  cases result with
  | error error => exact ⟨error, rfl⟩
  | ok given => cases same

section Steps
variable {source target : Fin n} {roomId : Text} {original created : Booking} {current : World n}
  {status : BookingStatus}

/-- T2 on an original that is still active. -/
theorem runs_sagaCancel {simulateFailure : Bool} {result : Except Err Unit}
    (distinct : env.router.forKey original.id ≠ target) (active : original.Active)
    (state : SagaState world (env.router.forKey original.id) target roomId original (some created)
      original.status current)
    (runs : (BookingsService.sagaCancel env original.id simulateFailure).Runs World.exec LostReplies
      current attempts result last) :
    ∃ outcome : Outcome, result.toOption = (if outcome = .done then some () else none) ∧
      (LostEarly attempts ↔ outcome = .lost) ∧ ¬ ConfirmFailed attempts ∧
      SagaState world (env.router.forKey original.id) target roomId original (some created)
        (outcome.after original.status .cancelled) last := by
  unfold BookingsService.sagaCancel at runs
  split at runs
  · obtain ⟨rfl, rfl, rfl⟩ := runs_raise runs
    exact ⟨.failed, rfl, by simp [LostEarly], by simp [ConfirmFailed], state⟩
  · obtain ⟨after, done, cancelled⟩ := state.exec_cancel distinct active
    rcases Program.runs_bind runs with ⟨count, mid, first, rest, rfl, head, tail⟩ | ⟨error, rfl, head⟩
    · obtain ⟨outcome, fault, rfl, permitted, lost, none, rfl, reply⟩ := runs_step done head
      have finished : outcome = .done := by
        by_contra other
        simp [other, Except.toOption] at reply
      subst finished
      obtain rfl : count = 1 := by simpa [Except.toOption] using reply
      rw [if_neg Nat.one_ne_zero] at tail
      obtain ⟨rfl, rfl, rfl⟩ := runs_ret tail
      refine ⟨.done, rfl, ?_, ?_, cancelled⟩
      · rw [List.append_nil, lostEarly_singleton]
        exact ⟨fun both => lost.mp both.2, fun other => by cases other⟩
      · rw [List.append_nil, confirmFailed_singleton]
        exact fun both => Bool.false_ne_true both.1
    · obtain ⟨outcome, fault, rfl, permitted, lost, none, rfl, reply⟩ := runs_step done head
      have unfinished : outcome ≠ .done := by
        intro same
        simp [same, Except.toOption] at reply
      refine ⟨outcome, by simp [unfinished, Except.toOption], ?_, ?_, ?_⟩
      · rw [lostEarly_singleton]
        exact ⟨fun both => lost.mp both.2, fun same => ⟨rfl, lost.mpr same⟩⟩
      · rw [confirmFailed_singleton]
        exact fun both => Bool.false_ne_true both.1
      · cases outcome with
        | done => exact absurd rfl unfinished
        | failed => exact state
        | lost => exact cancelled

/-- C1 on a reservation that is still PENDING. -/
theorem runs_compensate {result : Except Err SagaStep} (distinct : source ≠ target)
    (pending : created.status = .pending)
    (state : SagaState world source target roomId original (some created) status current)
    (runs : (BookingsService.compensate env target created.id).Runs World.exec LostReplies
      current attempts result last) :
    (∃ step, result = .ok step) ∧ NoSagaStep attempts ∧
      SagaState world source target roomId original
        (some { created with status := .cancelled }) status last := by
  obtain ⟨after, done, cancelled⟩ := state.exec_compensate distinct pending
  rcases Program.runs_bind runs with ⟨reply, mid, first, rest, rfl, head, tail⟩ | ⟨error, rfl, head⟩
  · obtain ⟨inner, body, same⟩ := runs_attempt head
    obtain ⟨rfl, here, _⟩ := runs_unfailing rfl body
    rw [done] at here
    subst here
    have only : NoSagaStep [(⟨current, .shard target (.bookingUpdateMany created.id [.pending]
        .cancelled), .none⟩ : Attempt (signature n) Err (World n))] := by
      intro attempt member
      obtain rfl := List.mem_singleton.mp member
      rfl
    cases reply with
    | ok count =>
      obtain ⟨rfl, rfl, rfl⟩ := runs_ret tail
      rw [List.append_nil]
      exact ⟨⟨_, rfl⟩, only, cancelled⟩
    | error error =>
      obtain ⟨rfl, rfl, rfl⟩ := runs_ret tail
      rw [List.append_nil]
      exact ⟨⟨_, rfl⟩, only, cancelled⟩
  · obtain ⟨inner, body, same⟩ := runs_attempt head
    cases same

/-- T3 on the reservation. -/
theorem runs_sagaConfirm {result : Except Err Booking} (distinct : source ≠ target)
    (state : SagaState world source target roomId original (some created) status current)
    (given : BookingStatus)
    (runs : (BookingsService.sagaConfirm env target created.id given).Runs World.exec LostReplies
      current attempts result last) :
    ∃ outcome : Outcome,
      result.toOption = (if outcome = .done then some { created with status := given } else none) ∧
      ¬ LostEarly attempts ∧ (ConfirmFailed attempts ↔ outcome ≠ .done) ∧
      SagaState world source target roomId original
        (some { created with status := outcome.after created.status given }) status last := by
  obtain ⟨after, done, confirmed⟩ := state.exec_confirm distinct given
  obtain ⟨outcome, fault, rfl, permitted, lost, none, rfl, reply⟩ := runs_step done runs
  refine ⟨outcome, reply, ?_, ?_, ?_⟩
  · rw [lostEarly_singleton]
    exact fun both => Bool.false_ne_true both.1
  · rw [confirmFailed_singleton]
    exact (and_iff_right rfl).trans (not_congr none)
  · cases outcome with
    | done => exact confirmed
    | failed => exact state
    | lost => exact confirmed

end Steps

/-- An execution ended where the table puts the outcomes of its steps. -/
structure EndsAs (t1 t2 t3 : Outcome) (world : World n) (source target : Fin n) (roomId : Text)
    (original : Booking) (attempts : Attempts n) (resolved : Bool) (reservation : Option Booking)
    (last : World n) : Prop where
  result : resolved = (sagaEnd original.status t1 t2 t3).resolved
  status : reservation.map Booking.status = (sagaEnd original.status t1 t2 t3).reservation
  state : SagaState world source target roomId original reservation
    (sagaEnd original.status t1 t2 t3).original last
  lostEarly : LostEarly attempts ↔ t1 = .lost ∨ t1 = .done ∧ t2 = .lost
  confirmFailed : ConfirmFailed attempts ↔ t1 = .done ∧ t2 = .done ∧ t3 ≠ .done

section Saga
variable {source target : Fin n} {roomId : Text} {original created : Booking}
  {status : BookingStatus} {simulateFailure : Bool} {current : World n}
  {result : Except Err Relocation}

theorem runs_findLocal {result : Except Err Booking}
    (found : (world.shards (env.router.forKey original.id)).bookings.find? original.id =
      some original)
    (runs : (BookingsService.findLocal env original.id).Runs World.exec LostReplies world attempts
      result last) : result = .ok original ∧ last = world ∧ NoSagaStep attempts := by
  have only : NoSagaStep [(⟨world, .shard (env.router.forKey original.id)
      (.bookingFindUnique original.id), .none⟩ : Attempt (signature n) Err (World n))] := by
    intro attempt member
    obtain rfl := List.mem_singleton.mp member
    rfl
  rcases Program.runs_bind runs with ⟨row, mid, first, rest, rfl, head, tail⟩ | ⟨error, rfl, head⟩
  · obtain ⟨rfl, rfl, reply⟩ := runs_unfailing rfl head
    rw [exec_read_ok rfl] at tail reply
    obtain rfl := Option.some.inj reply
    rw [found] at tail
    obtain ⟨rfl, rfl, rfl⟩ := runs_ret tail
    exact ⟨rfl, rfl, by rwa [List.append_nil]⟩
  · obtain ⟨rfl, rfl, reply⟩ := runs_unfailing rfl head
    rw [exec_read_ok rfl] at reply
    cases reply

/-- After a T2 that reported an error. -/
theorem runs_abort {abort : SagaStep → Err} (distinct : source ≠ target)
    (pending : created.status = .pending)
    (state : SagaState world source target roomId original (some created) status current)
    (runs : ((BookingsService.compensate env target created.id).bind fun compensation =>
      (BookingsService.invalidateSearch env).bind fun _ =>
        (.raise (abort compensation) : Async n Relocation)).Runs World.exec LostReplies
      current attempts result last) :
    result.toOption = none ∧ NoSagaStep attempts ∧
      SagaState world source target roomId original (some { created with status := .cancelled })
        status last := by
  rcases Program.runs_bind runs with
    ⟨step, mid, first, rest, rfl, compensating, tail⟩ | ⟨error, rfl, compensating⟩
  · obtain ⟨_, safe, compensated⟩ := runs_compensate distinct pending state compensating
    rcases Program.runs_bind tail with
      ⟨_, late, second, others, rfl, invalidating, raising⟩ | ⟨error, rfl, invalidating⟩
    · obtain ⟨_, sameShards, cached⟩ := runs_invalidateSearch invalidating
      obtain ⟨rfl, rfl, rfl⟩ := runs_raise raising
      refine ⟨rfl, ?_, compensated.congr sameShards⟩
      intro attempt member
      rcases List.mem_append.mp member with early | later
      · exact safe attempt early
      · exact cached.noSagaStep attempt (by simpa using later)
    · obtain ⟨same, _⟩ := runs_invalidateSearch invalidating
      cases same
  · obtain ⟨⟨_, same⟩, _⟩ := runs_compensate distinct pending state compensating
    cases same

/-- After a T2 that reported success. -/
theorem runs_finish {report : Booking → Relocation} (distinct : source ≠ target)
    (given : BookingStatus)
    (state : SagaState world source target roomId original (some created) status current)
    (runs : ((BookingsService.sagaConfirm env target created.id given).bind fun confirmed =>
      (BookingsService.invalidateSearch env).bind fun _ =>
        (.ret (report confirmed) : Async n Relocation)).Runs World.exec LostReplies
      current attempts result last) :
    ∃ outcome : Outcome, result.toOption.isSome = decide (outcome = .done) ∧
      ¬ LostEarly attempts ∧ (ConfirmFailed attempts ↔ outcome ≠ .done) ∧
      SagaState world source target roomId original
        (some { created with status := outcome.after created.status given }) status last := by
  rcases Program.runs_bind runs with
    ⟨confirmed, mid, first, rest, rfl, confirming, tail⟩ | ⟨error, rfl, confirming⟩
  · obtain ⟨outcome, reported, heard, failed, ended⟩ := runs_sagaConfirm distinct state given confirming
    have done : outcome = .done := by
      by_contra other
      simp [other, Except.toOption] at reported
    rcases Program.runs_bind tail with
      ⟨_, late, second, others, rfl, invalidating, returning⟩ | ⟨error, rfl, invalidating⟩
    · obtain ⟨_, sameShards, cached⟩ := runs_invalidateSearch invalidating
      obtain ⟨rfl, rfl, rfl⟩ := runs_ret returning
      have quiet := cached.noSagaStep.quiet
      refine ⟨outcome, by simp [done, Except.toOption], ?_, ?_, ended.congr sameShards⟩
      · simp [lostEarly_append, heard, quiet.1]
      · simp [confirmFailed_append, failed, quiet.2]
    · obtain ⟨same, _⟩ := runs_invalidateSearch invalidating
      cases same
  · obtain ⟨outcome, reported, heard, failed, ended⟩ := runs_sagaConfirm distinct state given confirming
    have unfinished : outcome ≠ .done := by
      intro finished
      simp [finished, Except.toOption] at reported
    exact ⟨outcome, by simp [unfinished, Except.toOption], heard, failed, ended⟩

/-- After a T1 that reported success. -/
theorem runs_relocateReserved
    (distinct : env.router.forKey original.id ≠ env.router.forKey roomId)
    (active : original.Active) (pending : created.status = .pending)
    (state : SagaState world (env.router.forKey original.id) (env.router.forKey roomId) roomId
      original (some created) original.status current)
    (runs : (BookingsService.relocateReserved env original.id original simulateFailure
      (env.router.forKey original.id) (env.router.forKey roomId) created).Runs World.exec LostReplies
      current attempts result last) :
    ∃ t2 t3 reservation, EndsAs .done t2 t3 world (env.router.forKey original.id)
      (env.router.forKey roomId) roomId original attempts result.toOption.isSome reservation last := by
  rcases Program.runs_bind runs with ⟨reply, mid, first, rest, rfl, head, tail⟩ | ⟨error, rfl, head⟩
  · obtain ⟨inner, body, same⟩ := runs_attempt head
    obtain rfl := Except.ok.inj same
    obtain ⟨t2, reported, lost, unconfirmed, between⟩ := runs_sagaCancel distinct active state body
    cases reply with
    | error error =>
      have unfinished : t2 ≠ .done := by
        intro finished
        simp [finished, Except.toOption] at reported
      obtain ⟨rejected, safe, ended⟩ := runs_abort distinct pending between tail
      refine ⟨t2, .done, some { created with status := .cancelled }, ?_, ?_, ?_, ?_, ?_⟩
      · rw [rejected]
        cases t2 <;> first | rfl | exact absurd rfl unfinished
      · cases t2 <;> first | rfl | exact absurd rfl unfinished
      · cases t2 <;> exact ended
      · simp [lostEarly_append, safe.quiet.1, lost]
      · simp [confirmFailed_append, safe.quiet.2, unconfirmed]
    | ok value =>
      have finished : t2 = .done := by
        by_contra other
        simp [other, Except.toOption] at reported
      subst finished
      obtain ⟨t3, reported, heard, failed, ended⟩ := runs_finish distinct original.status between tail
      refine ⟨.done, t3, some { created with status := t3.after created.status original.status },
        ?_, ?_, ?_, ?_, ?_⟩
      · rw [reported]
        cases t3 <;> rfl
      · rw [pending]
        cases t3 <;> rfl
      · cases t3 <;> exact ended
      · simp [lostEarly_append, heard, lost]
      · simp [confirmFailed_append, failed, unconfirmed]
  · obtain ⟨inner, body, same⟩ := runs_attempt head
    cases same

theorem EndsAs.refused (unheard : ¬ LostEarly attempts) (unconfirmed : ¬ ConfirmFailed attempts)
    (rejected : result.toOption = none)
    (found : (world.shards source).bookings.find? original.id = some original) :
    EndsAs .failed .failed .failed world source target roomId original attempts
      result.toOption.isSome none world where
  result := by rw [rejected]; rfl
  status := rfl
  state := .start found
  lostEarly := by simp [unheard]
  confirmFailed := by simp [unconfirmed]

theorem runs_relocateSaga
    (distinct : env.router.forKey original.id ≠ env.router.forKey roomId)
    (found : (world.shards (env.router.forKey original.id)).bookings.find? original.id =
      some original) (active : original.Active)
    (runs : (BookingsService.relocateSaga env entropy roomId original.id original
      simulateFailure).Runs World.exec LostReplies world attempts result last) :
    ∃ t1 t2 t3 reservation, EndsAs t1 t2 t3 world (env.router.forKey original.id)
      (env.router.forKey roomId) roomId original attempts result.toOption.isSome reservation last := by
  rcases Program.runs_bind runs with ⟨created, mid, first, rest, rfl, head, tail⟩ | ⟨error, rfl, head⟩
  · obtain ⟨inner, reserving, same⟩ := runs_rethrow (fun error => ⟨_, rfl⟩) head
    obtain ⟨unconfirmed, ⟨none, _⟩ | ⟨k, _, made, rfl, ⟨reported, heard⟩ | ⟨none, _⟩⟩⟩ :=
      runs_sagaReserve reserving
    · rw [none] at same
      cases same
    · rw [reported] at same
      obtain rfl := Option.some.inj same
      have state := SagaState.reserve distinct found made
      obtain ⟨t2, t3, reservation, ended⟩ :=
        runs_relocateReserved distinct active made.status state tail
      refine ⟨.done, t2, t3, reservation, ended.result, ended.status, ended.state, ?_, ?_⟩
      · rw [lostEarly_append, ended.lostEarly]
        exact or_iff_right heard
      · rw [confirmFailed_append, ended.confirmFailed]
        exact or_iff_right unconfirmed
    · rw [none] at same
      cases same
  · obtain ⟨inner, reserving, same⟩ := runs_rethrow (fun error => ⟨_, rfl⟩) head
    obtain ⟨unconfirmed, ⟨_, rfl, heard⟩ | ⟨k, created, made, rfl, ⟨reported, heard⟩ | ⟨_, lost⟩⟩⟩ :=
      runs_sagaReserve reserving
    · exact ⟨.failed, .failed, .failed, none, .refused heard unconfirmed rfl found⟩
    · rw [reported] at same
      cases same
    · refine ⟨.lost, .failed, .failed, some created, rfl, ?_, ?_, ?_, ?_⟩
      · exact congrArg some made.status
      · exact SagaState.reserve distinct found made
      · simp [lost]
      · simp [unconfirmed]

/-- The refinement: whatever fails, a relocation to another shard ends as its steps' outcomes
determine. -/
theorem runs_relocate {dto : RelocateBookingDto}
    (distinct : env.router.forKey original.id ≠ env.router.forKey dto.roomId)
    (found : (world.shards (env.router.forKey original.id)).bookings.find? original.id =
      some original) (active : original.Active)
    (runs : (BookingsService.relocate env entropy original.id dto).Runs World.exec LostReplies
      world attempts result last) :
    ∃ t1 t2 t3 reservation, EndsAs t1 t2 t3 world (env.router.forKey original.id)
      (env.router.forKey dto.roomId) dto.roomId original attempts result.toOption.isSome
      reservation last := by
  have refused {attempts : Attempts n} {result : Except Err Relocation}
      (safe : NoSagaStep attempts) (rejected : result.toOption = none) :
      ∃ t1 t2 t3 reservation, EndsAs t1 t2 t3 world (env.router.forKey original.id)
        (env.router.forKey dto.roomId) dto.roomId original attempts result.toOption.isSome
        reservation world :=
    ⟨.failed, .failed, .failed, none, .refused safe.quiet.1 safe.quiet.2 rejected found⟩
  unfold BookingsService.relocate at runs
  split at runs
  · obtain ⟨rfl, rfl, rfl⟩ := runs_raise runs
    exact refused (fun attempt member => absurd member List.not_mem_nil) rfl
  · rcases Program.runs_bind runs with ⟨row, mid, first, rest, rfl, head, tail⟩ | ⟨error, rfl, head⟩
    · obtain ⟨same, rfl, safe⟩ := runs_findLocal found head
      obtain rfl := Except.ok.inj same
      rw [if_neg (not_not.mpr active)] at tail
      split at tail
      · obtain ⟨rfl, rfl, rfl⟩ := runs_raise tail
        exact refused (by rwa [List.append_nil]) rfl
      · obtain ⟨t1, t2, t3, reservation, ended⟩ := runs_relocateSaga distinct found active tail
        refine ⟨t1, t2, t3, reservation, ended.result, ended.status, ended.state, ?_, ?_⟩
        · rw [lostEarly_append, ended.lostEarly]
          exact or_iff_right safe.quiet.1
        · rw [confirmFailed_append, ended.confirmFailed]
          exact or_iff_right safe.quiet.2
    · obtain ⟨same, _⟩ := runs_findLocal found head
      cases same

end Saga
end HotelBooking
