import HotelBooking.Services.ErrorProvenance
import HotelBooking.Invariants.BookingCalendar
import HotelBooking.Relocation.Atomicity

/-! The log of a relocation. Without the failed steps it is what the replies to the commands of
the relocation stand for, in their order, and each entry says what its command did. -/
namespace HotelBooking
open Relational Effect
variable {n : Nat} {env : Env n} {router : ShardRouter n} {world : World n}

/-- The step of the log that a reply to a command of a relocation stands for. -/
def sagaStep? (router : ShardRouter n) : (cmd : Cmd n) → Except Err cmd.Answer → Option SagaStep
  | .shard i (.reserveAndCancel _ _), .ok _ =>
    some ⟨text "reserve + cancel (one ACID transaction)", router.name i, .done, none⟩
  | .shard i (.reserve _), .ok created =>
    some ⟨text "T1 reserve new room (PENDING)", router.name i, .done, some created.id⟩
  | .shard i (.bookingUpdateMany key statuses _), .ok count =>
    if statuses = [.pending] then
      some ⟨text "C1 cancel reservation (compensation)", router.name i, .compensated, some key⟩
    else if count = 0 then none
    else some ⟨text "T2 cancel original booking", router.name i, .done, some key⟩
  | .shard i (.bookingUpdate key { status := .value status, .. }), .ok _ =>
    some ⟨text "T3 set status " ++ status.text, router.name i, .done, some key⟩
  | _, _ => none

/-- The steps that the answer of a relocation lists, if it lists any. -/
def reportedSteps? : Except Err Response → Option (List SagaStep)
  | .ok (.relocation relocation) => some relocation.steps
  | .error (.saga _ _ _ _ steps) => some steps
  | _ => none

/-- The error that `sagaAborted` builds. -/
def Err.Aborts : Err → Prop
  | .saga .. => True
  | _ => False

def SagaStep.acknowledged (step : SagaStep) : Bool :=
  step.status = .done || step.status = .compensated

namespace SagaLog

abbrev protocol (router : ShardRouter n) : Protocol (signature n) Err := .logging (sagaStep? router)

/-- The log when a part of the relocation has returned, or has failed. -/
abbrev Ends (returned : α → List SagaStep) (failed : List SagaStep) :
    List SagaStep → Except Err α → Prop :=
  fun log result =>
    match result with
    | .ok value => log = returned value
    | .error _ => log = failed

section Parts
variable {log : List SagaStep} {id : Text}

theorem reading {stmt : Stmt} {i : Fin n} (quiet : ∀ reply, sagaStep? router (.shard i stmt) reply = none) :
    (router.read i stmt).Obeys (protocol router) (Ends (fun _ => log) log) log := by
  refine obeys_read trivial (fun answer => ?_) fun error _ => ?_
  · simp only [quiet, Option.toList_none, List.append_nil]
  · simp only [quiet, Option.toList_none, List.append_nil]

theorem findLocal : (BookingsService.findLocal env id).Obeys (protocol env.router)
    (Ends (fun _ => log) log) log := by
  refine Program.obeys_bind (reading fun _ => rfl) (fun phase found kept => ?_) fun _ _ kept => kept
  cases found <;> exact kept

/-- The bump of the search version never fails, and no entry is written for it. -/
theorem invalidateSearch : (BookingsService.invalidateSearch env).Obeys (protocol env.router)
    (fun phase result => phase = log ∧ ∃ value, result = .ok value) log := by
  unfold BookingsService.invalidateSearch CacheService.bumpVersion
  split
  · exact ⟨rfl, _, rfl⟩
  · have bump : (attempt (issue (.cache .incr) : Async n Nat)).Obeys (protocol env.router)
        (fun phase result => phase = log ∧ ∃ value, result = .ok value) log := by
      have silent : (issue (.cache .incr) : Async n Nat).Obeys (protocol env.router)
          (fun phase _ => phase = log) log :=
        obeys_issue trivial fun _ => List.append_nil log
      exact obeys_attempt silent fun phase result same => ⟨same, _, rfl⟩
    refine Program.obeys_bind bump (fun phase value kept => ⟨kept.1, _, rfl⟩) ?_
    rintro _ _ ⟨_, _, ⟨⟩⟩

section Steps
variable {entropy : Entropy} {roomId : Text} {original : Booking}

/-- T1 with its retries: only the attempt that is answered makes an entry. -/
theorem sagaReserve : (BookingsService.sagaReserve env entropy roomId original).Obeys
    (protocol env.router) (Ends (fun created => log ++
      [⟨text "T1 reserve new room (PENDING)", env.router.name (env.router.forKey roomId), .done,
        some created.id⟩]) log) log := by
  refine obeys_run (obeys_serializable (fun k => obeys_issue trivial fun reply => ?_) fun _ => rfl)
    (fun _ _ kept => kept) fun _ _ _ kept => kept
  cases reply with
  | ok created => rfl
  | error error => exact List.append_nil log

theorem sagaCancel (simulateFailure : Bool) :
    (BookingsService.sagaCancel env id simulateFailure).Obeys (protocol env.router)
      (Ends (fun _ => log ++ [⟨text "T2 cancel original booking",
        env.router.name (env.router.forKey id), .done, some id⟩]) log) log := by
  unfold BookingsService.sagaCancel
  split
  · exact rfl
  · have write : (env.router.write (env.router.forKey id)
        (.bookingUpdateMany id activeStatuses .cancelled)).Obeys (protocol env.router)
        (Ends (fun count : Nat => if count = 0 then log else log ++
          [⟨text "T2 cancel original booking", env.router.name (env.router.forKey id), .done,
            some id⟩]) log) log := by
      refine obeys_write trivial (fun count => ?_) fun error _ => List.append_nil log
      by_cases none : (count : Nat) = 0 <;> simp [sagaStep?, none, activeStatuses]
    refine Program.obeys_bind write (fun phase count kept => ?_) fun _ _ kept => kept
    by_cases none : (count : Nat) = 0
    · rw [if_pos none]
      exact kept.trans (if_pos none)
    · rw [if_neg none]
      exact kept.trans (if_neg none)

/-- The log after an `attempt`, by its outcome. -/
theorem attempted {program : Async n α} {returned : α → List SagaStep} {failed : List SagaStep}
    (logs : program.Obeys (protocol router) (Ends returned failed) log) :
    (attempt program).Obeys (protocol router) (fun phase result =>
      ∃ outcome, result = .ok outcome ∧ Ends returned failed phase outcome) log :=
  obeys_attempt logs fun _ outcome kept => ⟨outcome, rfl, kept⟩

/-- The compensation writes its own entry, of a failure too. -/
theorem compensate {target : Fin n} {createdId : Text} :
    (BookingsService.compensate env target createdId).Obeys (protocol env.router)
      (fun phase result => ∃ step, result = .ok step ∧
        phase = log ++ [step].filter SagaStep.acknowledged) log := by
  have undo : (env.router.write target
      (.bookingUpdateMany createdId [.pending] .cancelled)).Obeys (protocol env.router)
      (Ends (fun _ => log ++ [⟨text "C1 cancel reservation (compensation)",
        env.router.name target, .compensated, some createdId⟩]) log) log :=
    obeys_write trivial (fun count => rfl) fun error _ => List.append_nil log
  refine Program.obeys_bind (attempted undo) ?_ ?_
  · rintro phase outcome ⟨_, ⟨⟩, kept⟩
    cases outcome with
    | ok count => exact ⟨_, rfl, kept⟩
    | error error => exact ⟨_, rfl, kept.trans (List.append_nil log).symm⟩
  · rintro phase error ⟨_, ⟨⟩, _⟩

theorem sagaConfirm {target : Fin n} {createdId : Text} {status : BookingStatus} :
    (BookingsService.sagaConfirm env target createdId status).Obeys (protocol env.router)
      (Ends (fun _ => log ++ [⟨text "T3 set status " ++ status.text, env.router.name target, .done,
        some createdId⟩]) log) log := by
  refine obeys_write trivial (fun answer => rfl) fun error _ => ?_
  exact List.append_nil log

end Steps
end Parts

section Whole
variable {entropy : Entropy} {id roomId : Text} {original : Booking}

/-- The reply was this abortion, if the error is one at all. -/
def Echoed (cmd : Cmd n) (reply : Except Err cmd.Answer) (error : Err) : Prop :=
  error.Aborts → reply = .error error

/-- The log beside the errors that the replies have brought. -/
abbrev witnessed (router : ShardRouter n) : Protocol (signature n) Err :=
  (protocol router).both (.excusing Echoed)

/-- The steps that the answer reports are the log, unless the answer is an error that came as a
reply. -/
def Tells (phase : List SagaStep × (Err → Prop)) (result : Except Err Relocation) : Prop :=
  ∀ steps, reportedSteps? (result.map .relocation) = some steps →
    steps.filter SagaStep.acknowledged = phase.1 ∨ ∃ error, result = .error error ∧ phase.2 error

theorem echoes {program : Async n α} (conveys : Conveys router Err.Verdict program) :
    program.Excused Echoed (fun error => ¬ error.Aborts) fun _ _ => False := by
  refine (Program.Excused.mono conveys ?_).widen ?_
  · intro cmd reply error conveyed aborts
    cases reply with
    | ok answer => cases cmd <;> exact conveyed.elim
    | error inner =>
      cases cmd with
      | shard i stmt =>
        have same : error = router.convert i inner := conveyed
        unfold ShardRouter.convert at same
        split at same
        · subst same
          exact aborts.elim
        · rw [same]
      | guests stmt =>
        rw [conveyed_guests] at conveyed
        split at conveyed
        · obtain ⟨message, _, rfl⟩ := conveyed
          exact aborts.elim
        · rw [conveyed]
      | cache cmd => exact conveyed.elim
  · rintro error due aborts
    cases error with
    | saga => exact due
    | db | redis | plain | http => exact aborts

theorem tells_bind {program : Async n α} {next : α → Async n Relocation} {log : List SagaStep}
    {middle : List SagaStep → Except Err α → Prop} {excused : Err → Prop}
    (logs : program.Obeys (protocol router) middle log)
    (echoes : program.Excused Echoed (fun error => ¬ error.Aborts) fun _ _ => False)
    (within : ∀ error : Err, ¬ error.Aborts → excused error)
    (tail : ∀ value later (others : Err → Prop), middle later (.ok value) →
      (∀ error : Err, ¬ error.Aborts → others error) →
      (next value).Obeys (witnessed router) Tells (later, others)) :
    (program.bind next).Obeys (witnessed router) Tells (log, excused) := by
  refine Program.obeys_bind (Program.obeys_both logs (echoes excused within)) ?_ ?_
  · rintro ⟨later, others⟩ value ⟨logged, kept, _⟩
    exact tail value later others logged fun error plain => kept error (within error plain)
  · rintro ⟨later, others⟩ error ⟨_, _, raised⟩ steps _
    exact Or.inr ⟨error, rfl, raised⟩

theorem tells_raise {error : Err} {log : List SagaStep} {excused : Err → Prop}
    (within : ∀ error : Err, ¬ error.Aborts → excused error) (plain : ¬ error.Aborts) :
    (Program.raise error : Async n Relocation).Obeys (witnessed router) Tells (log, excused) :=
  fun _ _ => Or.inr ⟨error, rfl, within error plain⟩

variable {excused : Err → Prop} (within : ∀ error : Err, ¬ error.Aborts → excused error)
include within

theorem tells_relocateLocally : (BookingsService.relocateLocally env entropy roomId id
    original).Obeys (witnessed env.router) Tells ([], excused) := by
  have transaction : (env.router.run (env.router.forKey id)
      (BookingsService.serializable fun attempt => issue (.shard (env.router.forKey id)
        (.reserveAndCancel (BookingsService.relocation entropy roomId original original.status
          attempt) id)))).Obeys (protocol env.router) (Ends (fun _ => [⟨text
            "reserve + cancel (one ACID transaction)", env.router.name (env.router.forKey id),
            .done, none⟩]) []) [] := by
    refine obeys_run (obeys_serializable (fun k => obeys_issue trivial fun reply => ?_)
      fun _ => rfl) (fun _ _ kept => kept) fun _ _ _ kept => kept
    cases reply <;> rfl
  refine tells_bind transaction (echoes (conveys_run (raised_serializable fun _ => raised_issue)
    fun _ due => due.calm)) within ?_
  rintro ⟨created, previous⟩ log others rfl within
  refine tells_bind invalidateSearch excused_bumpVersion within ?_
  rintro _ log others ⟨rfl, _⟩ _ steps told
  obtain rfl := Option.some.inj told
  exact Or.inl rfl

theorem tells_relocateReserved (simulateFailure : Bool) {source target : Fin n}
    {created : Booking} (here : env.router.forKey id = source) :
    (BookingsService.relocateReserved env id original simulateFailure source target created).Obeys
      (witnessed env.router) Tells ([⟨text "T1 reserve new room (PENDING)", env.router.name target,
        .done, some created.id⟩], excused) := by
  subst here
  refine tells_bind (attempted (sagaCancel simulateFailure)) excused_attempt within ?_
  rintro outcome log others ⟨_, ⟨⟩, cancelled⟩ within
  cases outcome with
  | error error =>
    obtain rfl := cancelled
    refine tells_bind compensate excused_compensate within ?_
    rintro step log others ⟨_, ⟨⟩, rfl⟩ within
    refine tells_bind invalidateSearch excused_bumpVersion within ?_
    rintro _ log others ⟨rfl, _⟩ _ steps told
    obtain rfl := Option.some.inj told
    exact Or.inl rfl
  | ok _ =>
    obtain rfl := cancelled
    refine tells_bind sagaConfirm (echoes conveys_write) within ?_
    rintro confirmed log others rfl within
    refine tells_bind invalidateSearch excused_bumpVersion within ?_
    rintro _ log others ⟨rfl, _⟩ _ steps told
    obtain rfl := Option.some.inj told
    exact Or.inl rfl

theorem tells_relocateSaga (simulateFailure : Bool) : (BookingsService.relocateSaga env entropy
    roomId id original simulateFailure).Obeys (witnessed env.router) Tells ([], excused) := by
  let reserved (created : Booking) : List SagaStep :=
    [⟨text "T1 reserve new room (PENDING)", env.router.name (env.router.forKey roomId), .done,
      some created.id⟩]
  let ends (phase : List SagaStep × (Err → Prop)) (result : Except Err Booking) : Prop :=
    (∀ created, result = .ok created →
      phase.1 = reserved created ∧ ∀ error : Err, ¬ error.Aborts → phase.2 error) ∧
    ∀ error, result = .error error → ∃ steps status message source target,
      error = .saga status message source target steps ∧
        steps.filter SagaStep.acknowledged = phase.1
  have first : Program.Obeys (witnessed env.router) ends ([], excused)
      ((BookingsService.sagaReserve env entropy roomId original).recover fun error =>
        .raise (BookingsService.sagaAborted [⟨text "T1 reserve new room (PENDING)",
          env.router.name (env.router.forKey roomId), .failed, some error.message⟩] error
          (env.router.name (env.router.forKey id)) (env.router.name (env.router.forKey roomId)))) := by
    refine Program.obeys_recover
      (Program.obeys_both sagaReserve (echoes conveys_sagaReserve excused within)) ?_ ?_
    · rintro ⟨log, others⟩ error ⟨logged, _⟩
      obtain rfl := logged
      refine ⟨by rintro _ ⟨⟩, ?_⟩
      rintro aborted ⟨⟩
      exact ⟨_, _, _, _, _, rfl, rfl⟩
    · rintro ⟨log, others⟩ created ⟨logged, kept, _⟩
      refine ⟨?_, by rintro _ ⟨⟩⟩
      rintro reservation ⟨⟩
      exact ⟨logged, fun error plain => kept error (within error plain)⟩
  refine Program.obeys_bind first ?_ ?_
  · rintro ⟨log, others⟩ created ⟨told, _⟩
    obtain ⟨logged, within⟩ := told created rfl
    obtain rfl := logged
    exact tells_relocateReserved within simulateFailure rfl
  · rintro ⟨log, others⟩ error ⟨_, aborts⟩ other told
    obtain ⟨steps, _, _, _, _, rfl, same⟩ := aborts error rfl
    obtain rfl := Option.some.inj told
    exact Or.inl same

theorem tells_relocate (dto : RelocateBookingDto) : (BookingsService.relocate env entropy id
    dto).Obeys (witnessed env.router) Tells ([], excused) := by
  unfold BookingsService.relocate
  split
  · exact tells_raise within not_false
  · refine tells_bind findLocal (echoes conveys_findLocal) within ?_
    rintro original log others rfl within
    split
    · exact tells_raise within not_false
    · split
      · exact tells_raise within not_false
      · split
        · exact tells_relocateLocally within
        · exact tells_relocateSaga within dto.simulateFailure

end Whole

end SagaLog

/-- The original booking of a relocation, and the new one. -/
def oldSlot (env : Env n) (id : Text) : Slot n := ⟨env.router.forKey id, id⟩

def newSlot (env : Env n) (entropy : Entropy) (dto : RelocateBookingDto) : Slot n :=
  ⟨env.router.forKey dto.roomId, dto.newId entropy⟩

/-- The new booking of a relocation: its identifier, in the room that was asked for. -/
structure AskedFor (entropy : Entropy) (dto : RelocateBookingDto) (data : Reservation) : Prop where
  id : data.id = dto.newId entropy
  roomId : data.roomId = dto.roomId.text

/-- What a step in the log of a relocation says of the bookings before and after it. -/
inductive Did (env : Env n) (entropy : Entropy) (id : Text) (dto : RelocateBookingDto) :
    SagaStep → World n → World n → Prop where
  | exchanged {data : Reservation} {created old : Booking} {before after : World n}
      {reserved : Slot n → Option Booking} : AskedFor entropy dto data →
      Reserves (before.shards (env.router.forKey id)) data (some id) created → created.Active →
      reserved = Function.update before.booking? ⟨env.router.forKey id, created.id⟩ (some created) →
      reserved (oldSlot env id) = some old →
      after.booking? =
        Function.update reserved (oldSlot env id) (some { old with status := .cancelled }) →
      Did env entropy id dto ⟨text "reserve + cancel (one ACID transaction)",
        env.router.name (env.router.forKey id), .done, none⟩ before after
  | reserved {data : Reservation} {created : Booking} {before after : World n} :
      AskedFor entropy dto data →
      Reserves (before.shards (env.router.forKey dto.roomId)) data none created →
      created.status = .pending →
      after.booking? = Function.update before.booking? (newSlot env entropy dto) (some created) →
      Did env entropy id dto ⟨text "T1 reserve new room (PENDING)",
        env.router.name (env.router.forKey dto.roomId), .done, some created.id⟩ before after
  | cancelled {old : Booking} {before after : World n} :
      before.booking? (oldSlot env id) = some old → old.Active →
      after.booking? =
        Function.update before.booking? (oldSlot env id) (some { old with status := .cancelled }) →
      Did env entropy id dto ⟨text "T2 cancel original booking",
        env.router.name (env.router.forKey id), .done, some id⟩ before after
  | compensated {old : Booking} {before after : World n} :
      before.booking? (newSlot env entropy dto) = some old → old.status = .pending →
      after.booking? = Function.update before.booking? (newSlot env entropy dto)
        (some { old with status := .cancelled }) →
      Did env entropy id dto ⟨text "C1 cancel reservation (compensation)",
        env.router.name (env.router.forKey dto.roomId), .compensated, some (dto.newId entropy)⟩
        before after
  | spared {before after : World n} :
      (∀ old, before.booking? (newSlot env entropy dto) = some old → old.status ≠ .pending) →
      after.booking? = before.booking? →
      Did env entropy id dto ⟨text "C1 cancel reservation (compensation)",
        env.router.name (env.router.forKey dto.roomId), .compensated, some (dto.newId entropy)⟩
        before after
  | confirmed {old : Booking} {status : BookingStatus} {before after : World n} :
      status ∈ activeStatuses → before.booking? (newSlot env entropy dto) = some old →
      after.booking? =
        Function.update before.booking? (newSlot env entropy dto) (some { old with status }) →
      Did env entropy id dto ⟨text "T3 set status " ++ status.text,
        env.router.name (env.router.forKey dto.roomId), .done, some (dto.newId entropy)⟩ before after

theorem exec_shard_eq_ok {i : Fin n} {stmt : Stmt} {answer : stmt.Answer} {after : World n}
    (done : World.exec (.shard i stmt) world = (.ok answer, after)) :
    ∃ tables, stmt.exec (world.shards i) = .ok (answer, tables) ∧ after = world.setShard i tables := by
  cases executed : stmt.exec (world.shards i) with
  | error error =>
    rw [World.exec_shard_error executed] at done
    cases done
  | ok result =>
    obtain ⟨_, tables⟩ := result
    rw [World.exec_shard_ok executed] at done
    cases done
    exact ⟨tables, rfl, rfl⟩

section Commands
variable {after : World n} {i : Fin n} {entropy : Entropy} {id : Text} {dto : RelocateBookingDto}

theorem did_reserve {data : Reservation} {created : Booking} (asked : AskedFor entropy dto data)
    (pending : data.status = .pending)
    (done : World.exec (.shard (env.router.forKey dto.roomId) (.reserve data)) world =
      (.ok created, after)) :
    Did env entropy id dto ⟨text "T1 reserve new room (PENDING)",
      env.router.name (env.router.forKey dto.roomId), .done, some created.id⟩ world after := by
  obtain ⟨tables, reserving, rfl⟩ := exec_shard_eq_ok done
  obtain ⟨made, rfl⟩ := Tables.reserve_ok reserving
  have written := World.booking?_insert created made.fresh made.room
  have key := made.id.trans asked.id
  rw [key] at written
  exact .reserved asked made (made.status.trans pending) written

theorem did_exchange {data : Reservation} {answer : Booking × Booking}
    (asked : AskedFor entropy dto data) (active : data.status ∈ activeStatuses)
    (done : World.exec (.shard (env.router.forKey id) (.reserveAndCancel data id)) world =
      (.ok answer, after)) :
    Did env entropy id dto ⟨text "reserve + cancel (one ACID transaction)",
      env.router.name (env.router.forKey id), .done, none⟩ world after := by
  obtain ⟨tables, exchanging, rfl⟩ := exec_shard_eq_ok done
  obtain ⟨created, previous⟩ := answer
  obtain ⟨reserved, reserving, cancelling⟩ := Tables.reserveAndCancel_ok exchanging
  obtain ⟨made, rfl⟩ := Tables.reserve_ok reserving
  obtain ⟨old, room, found, merged, rfl⟩ := Tables.bookingUpdate_ok cancelling
  rw [BookingData.over_status] at merged
  obtain rfl := Except.ok.inj merged
  have stored : (((world.shards (env.router.forKey id)).insertBooking created made.fresh
      made.room).rooms.find? old.roomId).isSome := room
  have here : (world.setShard (env.router.forKey id) ((world.shards (env.router.forKey
      id)).insertBooking created made.fresh made.room)).booking? (oldSlot env id) = some old := by
    rw [World.booking?, oldSlot, World.setShard_self]
    exact found
  refine .exchanged asked made ?_ (World.booking?_insert created made.fresh made.room) here ?_
  · rwa [Booking.Active, made.status]
  · rw [World.booking?_insert]
    exact World.booking?_exchange made stored found

theorem did_confirm {status : BookingStatus} {answer : Booking} (active : status ∈ activeStatuses)
    (done : World.exec (.shard (env.router.forKey dto.roomId)
      (.bookingUpdate (dto.newId entropy) { status := .value status })) world = (.ok answer, after)) :
    Did env entropy id dto ⟨text "T3 set status " ++ status.text,
      env.router.name (env.router.forKey dto.roomId), .done, some (dto.newId entropy)⟩ world after := by
  obtain ⟨tables, updating, rfl⟩ := exec_shard_eq_ok done
  obtain ⟨old, room, found, merged, rfl⟩ := Tables.bookingUpdate_ok updating
  rw [BookingData.over_status] at merged
  obtain rfl := Except.ok.inj merged
  have same : ({ old with status } : Booking).id = dto.newId entropy :=
    (Table.find?_eq_some.mp found).2
  exact .confirmed active found (World.booking?_put { old with status } room rfl found same)

/-- A conditional cancellation changed the one row, or it found none to change. -/
theorem updateMany_cases {key : Text} {statuses : List BookingStatus} {status : BookingStatus}
    {count : Nat} (done : World.exec (.shard i (.bookingUpdateMany key statuses status)) world =
      (.ok count, after)) :
    (count = 1 ∧ ∃ old, world.booking? ⟨i, key⟩ = some old ∧ old.status ∈ statuses ∧
      after.booking? = Function.update world.booking? ⟨i, key⟩ (some { old with status })) ∨
    (count = 0 ∧ after = world ∧
      ∀ old, world.booking? ⟨i, key⟩ = some old → old.status ∉ statuses) := by
  by_cases listed : ∃ old, world.booking? ⟨i, key⟩ = some old ∧ old.status ∈ statuses
  · obtain ⟨old, found, listed⟩ := listed
    obtain ⟨changed, executed, written⟩ := World.exec_updateMany found listed status
    rw [executed] at done
    cases done
    exact Or.inl ⟨rfl, old, found, listed, written⟩
  · have unlisted : ∀ old, world.booking? ⟨i, key⟩ = some old → old.status ∉ statuses :=
      fun old found member => listed ⟨old, found, member⟩
    rw [World.exec_updateMany_none unlisted status] at done
    cases done
    exact Or.inr ⟨rfl, rfl, unlisted⟩

theorem did_cancel {count : Nat}
    (done : World.exec (.shard (env.router.forKey id)
      (.bookingUpdateMany id activeStatuses .cancelled)) world = (.ok count, after)) :
    (count = 1 ∧ Did env entropy id dto ⟨text "T2 cancel original booking",
      env.router.name (env.router.forKey id), .done, some id⟩ world after) ∨
      (count = 0 ∧ after = world) := by
  rcases updateMany_cases done with ⟨one, old, found, active, written⟩ | ⟨none, same, _⟩
  · exact Or.inl ⟨one, .cancelled found active written⟩
  · exact Or.inr ⟨none, same⟩

theorem did_compensate {count : Nat}
    (done : World.exec (.shard (env.router.forKey dto.roomId)
      (.bookingUpdateMany (dto.newId entropy) [.pending] .cancelled)) world = (.ok count, after)) :
    Did env entropy id dto ⟨text "C1 cancel reservation (compensation)",
      env.router.name (env.router.forKey dto.roomId), .compensated, some (dto.newId entropy)⟩
      world after := by
  rcases updateMany_cases done with ⟨_, old, found, listed, written⟩ | ⟨_, rfl, unlisted⟩
  · exact .compensated found (List.mem_singleton.mp listed) written
  · exact .spared (fun old found pending => unlisted old found (List.mem_singleton.mpr pending)) rfl

end Commands

theorem sagaStep?_read {stmt : Stmt} (read : stmt.isRead = true) {i : Fin n}
    (reply : Except Err stmt.Answer) : sagaStep? router (.shard i stmt) reply = none := by
  cases stmt with
  | hotelFindMany | hotelFindUnique | hotelFindCard | roomFindMany | roomFindUnique
  | roomFindByNumber | roomSearch | bookingFindMany | bookingFindByGuest | bookingCount
  | bookingFindUnique | bookingFindView => rfl
  | _ => cases read

theorem sagaStep?_error {cmd : Cmd n} (error : Err) :
    sagaStep? router cmd (.error error) = none := by
  cases cmd with
  | shard i stmt =>
    cases stmt with
    | bookingUpdate key data =>
      obtain ⟨_, _, _, _, status⟩ := data
      cases status <;> rfl
    | _ => rfl
  | guests | cache => rfl

/-- A command of a relocation that is answered did what its entry says, or no booking changed. -/
theorem Grounded.did {good : BookingStatus → Prop} {entropy : Entropy} {id : Text}
    {dto : RelocateBookingDto} {cmd : Cmd n} {answer : cmd.Answer} {after : World n}
    (grounded : Grounded good env entropy (.relocateBooking id dto) cmd)
    (done : World.exec cmd world = (.ok answer, after)) :
    (∃ step, sagaStep? env.router cmd (.ok answer) = some step ∧
        Did env entropy id dto step world after) ∨
      (sagaStep? env.router cmd (.ok answer) = none ∧ after.booking? = world.booking?) := by
  have keys := grounded.keys id dto rfl
  cases grounded.issued with
  | cacheVersion | cacheDel | cacheIncr =>
    cases done
    exact Or.inr ⟨rfl, rfl⟩
  | shardRead read =>
    have same : world = after := by
      rw [exec_isRead read] at done
      exact congrArg Prod.snd done
    subst same
    exact Or.inr ⟨sagaStep?_read read _, rfl⟩
  | guestRead read =>
    rename_i stmt
    cases executed : stmt.exec world.guests with
    | error error => simp [World.exec, executed] at done
    | ok result =>
      simp only [World.exec, executed, Prod.mk.injEq] at done
      obtain ⟨_, rfl⟩ := done
      exact Or.inr ⟨rfl, rfl⟩
  | relocateLocally active here =>
    exact Or.inl ⟨_, rfl, did_exchange ⟨rfl, rfl⟩ (grounded.issued.reserveAndCancel_active).1 done⟩
  | sagaReserve active => exact Or.inl ⟨_, rfl, did_reserve ⟨rfl, rfl⟩ rfl done⟩
  | sagaConfirm active elsewhere =>
    obtain rfl := keys
    exact Or.inl ⟨_, rfl, did_confirm active done⟩
  | sagaCancel =>
    rcases did_cancel done with ⟨rfl, did⟩ | ⟨rfl, rfl⟩
    · exact Or.inl ⟨_, rfl, did⟩
    · exact Or.inr ⟨rfl, rfl⟩
  | compensate =>
    obtain rfl := keys
    exact Or.inl ⟨_, rfl, did_compensate done⟩

theorem exec_error_booking? {cmd : Cmd n} {error : Err} {after : World n}
    (done : World.exec cmd world = (.error error, after)) : after.booking? = world.booking? := by
  cases cmd with
  | shard i stmt =>
    cases executed : stmt.exec (world.shards i) with
    | error other =>
      rw [World.exec_shard_error executed] at done
      cases done
      rfl
    | ok result =>
      rw [World.exec_shard_ok executed] at done
      cases done
  | guests stmt =>
    cases executed : stmt.exec world.guests with
    | error other =>
      simp only [World.exec, executed, Prod.mk.injEq] at done
      rw [done.2]
    | ok result => simp [World.exec, executed] at done
  | cache cmd => cases done

/-- Nothing replies with the abortion of a saga. -/
theorem reply_sober {move : Move n} {error : Err}
    (step : Pool.Step World.exec DriverFaults move.before move.event move.after)
    (replied : Pool.reply World.exec move = .error error) : ¬ error.Aborts := by
  intro aborts
  by_cases database : ∀ cmd, move.event.cmd ≠ .cache cmd
  · rcases reply_error step database replied with own | ⟨kind, rfl, _⟩
    · cases error with
      | saga => exact own
      | db | redis | plain | http => exact aborts
    · exact aborts
  · have permitted := step.state_eq.1
    obtain ⟨before, ⟨i, cmd, fault⟩, after⟩ := move
    simp only [not_forall, not_not] at database
    obtain ⟨other, rfl⟩ := database
    have driven : (Cmd.cache other : Cmd n).drives error = true := by
      cases fault with
      | none => cases replied
      | refused struck | lost struck =>
        obtain rfl := Except.error.inj replied
        exact permitted
    cases error with
    | saga => cases driven
    | db | redis | plain | http => exact aborts

theorem forall₂_filterMap {noted? : α → Option β} {related : β → α → Prop} (rows : List α)
    (holds : ∀ row ∈ rows, ∀ entry, noted? row = some entry → related entry row) :
    List.Forall₂ related (rows.filterMap noted?) (rows.filter fun row => (noted? row).isSome) := by
  induction rows with
  | nil => exact .nil
  | cons row rest ih =>
    have later := ih fun other member => holds other (List.mem_cons_of_mem _ member)
    cases found : noted? row with
    | none => simpa [found] using later
    | some entry => simpa [found] using ⟨holds row List.mem_cons_self entry found, later⟩

/-- The steps that a request reports are those of its log. -/
theorem SagaLog.tells_request (call : Call n) {id : Text} {dto : RelocateBookingDto}
    (relocates : call.request = .relocateBooking id dto) :
    (call.program env).Obeys (SagaLog.witnessed env.router) (fun phase result =>
      ∀ steps, reportedSteps? result = some steps →
        steps.filter SagaStep.acknowledged = phase.1 ∨
          ∃ error, result = .error error ∧ phase.2 error) ([], fun error => ¬ error.Aborts) := by
  obtain ⟨request, entropy, schedule⟩ := call
  subst relocates
  refine Program.obeys_bind (SagaLog.tells_relocate (fun _ plain => plain) dto) ?_ ?_
  · rintro phase relocation tells steps reported
    rcases tells steps reported with same | ⟨_, ⟨⟩, _⟩
    exact Or.inl same
  · rintro phase error tells steps reported
    rcases tells steps reported with same | ⟨_, ⟨⟩, excused⟩
    · exact Or.inl same
    · exact Or.inr ⟨error, rfl, excused⟩

theorem reportedSteps?_aborts {error : Err} {steps : List SagaStep}
    (reported : reportedSteps? (.error error) = some steps) : error.Aborts := by
  cases error with
  | saga => trivial
  | db | redis | plain | http => cases reported

/-- A move of a relocation makes its entry, or changes no booking, or its reply is lost. -/
theorem moved {good : BookingStatus → Prop} {entropy : Entropy} {id : Text}
    {dto : RelocateBookingDto} {move : Move n}
    (step : Pool.Step World.exec DriverFaults move.before move.event move.after)
    (grounded : Grounded good env entropy (.relocateBooking id dto) move.event.cmd) :
    (∃ entry, sagaStep? env.router move.event.cmd (Pool.reply World.exec move) = some entry ∧
      Did env entropy id dto entry move.before.state move.after.state) ∨
    (sagaStep? env.router move.event.cmd (Pool.reply World.exec move) = none ∧
      (move.after.state.booking? = move.before.state.booking? ∨
        ∃ error, move.event.fault = .lost error)) := by
  have applied := step.state_eq.2
  obtain ⟨before, ⟨i, cmd, fault⟩, after⟩ := move
  cases fault with
  | none =>
    have reply : Pool.reply World.exec ⟨before, ⟨i, cmd, .none⟩, after⟩ =
        (World.exec cmd before.state).1 := rfl
    have result : after.state = (World.exec cmd before.state).2 := applied
    rw [reply, result]
    cases done : World.exec cmd before.state with
    | mk outcome changed =>
      cases outcome with
      | ok answer =>
        rcases grounded.did done with did | ⟨none, kept⟩
        · exact Or.inl did
        · exact Or.inr ⟨none, Or.inl kept⟩
      | error error => exact Or.inr ⟨sagaStep?_error error, Or.inl (exec_error_booking? done)⟩
  | refused error =>
    have kept : after.state = before.state := applied
    exact Or.inr ⟨sagaStep?_error error, Or.inl (congrArg World.booking? kept)⟩
  | lost error => exact Or.inr ⟨sagaStep?_error error, Or.inr ⟨error, rfl⟩⟩

/-- The steps that a relocation reports as done are the ones that its commands have noted. -/
theorem reported_noted {calls : List (Call n)} {trace : List (Move n)} {last : Clients n}
    (run : Run (Pool.Step World.exec DriverFaults) (clients env world calls) trace last)
    {i : Nat} {call : Call n} {id : Text} {dto : RelocateBookingDto} (here : calls[i]? = some call)
    (relocates : call.request = .relocateBooking id dto) {result : Except Err Response}
    (ended : last.clients[i]? = some (.ofExcept result)) {steps : List SagaStep}
    (reported : reportedSteps? result = some steps) :
    steps.filter SagaStep.acknowledged = (trace.filter fun move => move.event.client = i).filterMap
      fun move => sagaStep? env.router move.event.cmd (Pool.reply World.exec move) := by
  have begins : (clients env world calls).clients[i]? = some (call.program env) := by
    simp [clients, here]
  have path := (Pool.run_exchanges run begins ended).ends (SagaLog.tells_request call relocates)
  rcases path steps reported with same | ⟨error, rfl, excused⟩
  · rw [same, after_both, after_logging, List.nil_append, Pool.exchanges, List.filterMap_map]
    rfl
  · rw [after_both] at excused
    rcases after_excusing excused with plain | ⟨step, member, echoed⟩
    · exact absurd (reportedSteps?_aborts reported) plain
    · obtain ⟨move, listed, _, rfl⟩ := Pool.mem_exchanges member
      have aborts := reportedSteps?_aborts reported
      exact absurd aborts (reply_sober (run.steps move listed) (echoed aborts))

/-- The log that a relocation answers is the truth. Whatever else runs and whatever fails: its
steps that are not marked as failed are, in their order, commands of this very request, each of
which did what the step says to the two bookings of the request, on the state it found; and no
other command of the request has changed a booking, but for those whose reply was lost. -/
theorem saga_log_exact (env : Env n) (calls : List (Call n)) (world : World n)
    {trace : List (Move n)} {last : Clients n}
    (run : Run (Pool.Step World.exec DriverFaults) (clients env world calls) trace last)
    {i : Nat} {call : Call n} {id : Text} {dto : RelocateBookingDto} (here : calls[i]? = some call)
    (relocates : call.request = .relocateBooking id dto) {result : Except Err Response}
    (ended : last.clients[i]? = some (.ofExcept result)) {steps : List SagaStep}
    (reported : reportedSteps? result = some steps) :
    ∃ moves : List (Move n), moves.Sublist trace ∧
      List.Forall₂ (fun step move => move.event.client = i ∧
          Did env call.entropy id dto step move.before.state move.after.state)
        (steps.filter SagaStep.acknowledged) moves ∧
      ∀ move ∈ trace, move.event.client = i → move ∈ moves ∨
        move.after.state.booking? = move.before.state.booking? ∨
        ∃ error, move.event.fault = .lost error := by
  let noted? (move : Move n) : Option SagaStep :=
    sagaStep? env.router move.event.cmd (Pool.reply World.exec move)
  have logged := reported_noted run here relocates ended reported
  have grounds : ∀ move ∈ trace, move.event.client = i →
      Grounded (fun _ => True) env call.entropy (.relocateBooking id dto) move.event.cmd := by
    intro move member mine
    obtain ⟨other, found, grounded⟩ := clients_own run move member
    rw [mine, here] at found
    obtain rfl := Option.some.inj found
    rwa [relocates] at grounded
  refine ⟨(trace.filter fun move => move.event.client = i).filter fun move => (noted? move).isSome,
    List.filter_sublist.trans List.filter_sublist, ?_, ?_⟩
  · rw [logged]
    refine forall₂_filterMap _ fun move member step entered => ?_
    obtain ⟨listed, mine⟩ := List.mem_filter.mp member
    have mine := of_decide_eq_true mine
    refine ⟨mine, ?_⟩
    rcases moved (run.steps move listed) (grounds move listed mine) with
      ⟨other, entered', did⟩ | ⟨none, _⟩
    · obtain rfl := Option.some.inj (entered'.symm.trans entered)
      exact did
    · cases none.symm.trans entered
  · intro move member mine
    rcases moved (run.steps move member) (grounds move member mine) with
      ⟨step, entered, did⟩ | ⟨_, kept⟩
    · refine Or.inl (List.mem_filter.mpr ⟨List.mem_filter.mpr ⟨member, by simpa using mine⟩, ?_⟩)
      exact Option.isSome_iff_exists.mpr ⟨step, entered⟩
    · exact Or.inr kept

/-- T2 loses its connection, and the compensation is done. -/
def undone : List (Move 2) × Clients 2 :=
  (clients twoShards booked [.sample (.relocateBooking bookedRow.id ⟨room201, false⟩) 7]).record
    World.exec [(0, .none), (0, .none), (0, .refused (.db .connection)), (0, .none)]

theorem saga_log_exact_undone : ∃ (steps : List SagaStep) (moves : List (Move 2)),
    steps.map SagaStep.status = [.done, .failed, .compensated] ∧
    List.Forall₂ (fun step move => move.event.client = 0 ∧
      Did twoShards (.sample 7) bookedRow.id ⟨room201, false⟩ step move.before.state
        move.after.state)
      (steps.filter SagaStep.acknowledged) moves ∧ moves.Sublist undone.1 := by
  have run : Run (Pool.Step World.exec DriverFaults) (clients twoShards booked
      [.sample (.relocateBooking bookedRow.id ⟨room201, false⟩) 7]) undone.1 undone.2 :=
    run_driven (by decide +kernel)
  have statuses : ((undone.2.clients[0]?.bind Program.result?).bind reportedSteps?).map
      (fun steps => steps.map SagaStep.status) = some [.done, .failed, .compensated] := by
    decide +kernel
  obtain ⟨steps, found, same⟩ := Option.map_eq_some_iff.mp statuses
  obtain ⟨result, ended, reported⟩ := Option.bind_eq_some_iff.mp found
  obtain ⟨program, waits, stops⟩ := Option.bind_eq_some_iff.mp ended
  rw [Program.eq_ofExcept stops] at waits
  obtain ⟨moves, inside, truth, _⟩ :=
    saga_log_exact twoShards _ booked run rfl rfl waits reported
  exact ⟨steps, moves, same, truth, inside⟩

end HotelBooking
