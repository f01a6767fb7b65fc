import HotelBooking.Services.Protocols

/-! The protocol of the requests that use one booking up: `cancel`, the local transaction of
`relocate` and its saga. The stage of a client says what it has done to the booking so far and
where its own reservation is. -/
namespace HotelBooking
open Effect
variable {n : Nat} {env : Env n} {source : Fin n} {id : Text}

/-- The place of a booking: its shard and its key. -/
structure Slot (n : Nat) where
  shard : Fin n
  key : Text
  deriving DecidableEq

inductive Stage (n : Nat) where
  | idle
  /-- The booking was cancelled by `cancel`. -/
  | withdrew
  /-- T1 is done. -/
  | reserved (slot : Slot n)
  /-- T2 cancelled the booking. -/
  | took (slot : Slot n)
  /-- T2 found the booking no longer active. -/
  | missed (slot : Slot n)
  /-- The new booking replaces the old one. -/
  | moved (slot : Slot n)
  /-- C1 cancelled the reservation. -/
  | undone
  deriving DecidableEq

namespace Stage

/-- The reservation of a client that is not known to be cancelled. -/
def slot? : Stage n → Option (Slot n)
  | reserved slot | took slot | missed slot | moved slot => some slot
  | idle | withdrew | undone => none

/-- The statuses that this reservation may have. -/
def Admits (status : BookingStatus) : Stage n → Prop
  | reserved _ | took _ | missed _ => status = .pending
  | moved _ => status ∈ activeStatuses
  | idle | withdrew | undone => False

/-- The relocation has used the booking up. -/
@[simp] def Claimed : Stage n → Prop
  | took _ | moved _ => True
  | idle | withdrew | reserved _ | missed _ | undone => False

instance : (stage : Stage n) → Decidable stage.Claimed
  | took _ | moved _ => .isTrue trivial
  | idle | withdrew | reserved _ | missed _ | undone => .isFalse not_false

/-- The client has used the booking up. -/
@[simp] def Consumed : Stage n → Prop
  | withdrew | took _ | moved _ => True
  | idle | reserved _ | missed _ | undone => False

theorem Claimed.consumed {stage : Stage n} (claimed : stage.Claimed) : stage.Consumed := by
  cases stage <;> trivial

/-- The stages in which a request ends. -/
def Settled : Stage n → Prop
  | idle | withdrew | moved _ | undone => True
  | reserved _ | took _ | missed _ => False

end Stage

/-- The commands of the requests on the booking `id` of the shard `source`. -/
inductive Consumes (source : Fin n) (id : Text) : Stage n → Cmd n → Prop where
  | cache : Consumes source id stage (.cache cmd)
  | read : stmt.isRead = true → Consumes source id stage (.shard i stmt)
  | cancel : Consumes source id .idle (.shard source (.bookingUpdate id { status := .value .cancelled }))
  | local : data.status ∈ activeStatuses →
      Consumes source id .idle (.shard source (.reserveAndCancel data id))
  | reserve : i ≠ source → data.status = .pending →
      Consumes source id .idle (.shard i (.reserve data))
  | take : Consumes source id (.reserved slot)
      (.shard source (.bookingUpdateMany id activeStatuses .cancelled))
  | undo : slot.shard ≠ source → stage = .reserved slot ∨ stage = .missed slot →
      Consumes source id stage (.shard slot.shard (.bookingUpdateMany slot.key [.pending] .cancelled))
  | confirm : slot.shard ≠ source → status ∈ activeStatuses →
      Consumes source id (.took slot)
        (.shard slot.shard (.bookingUpdate slot.key { status := .value status }))

/-- C1 and T2 are the same statement on different shards. -/
def Stage.next (source : Fin n) : Stage n → (cmd : Cmd n) → Except Err cmd.Answer → Stage n
  | .idle, .shard _ (.bookingUpdate ..), .ok _ => .withdrew
  | .idle, .shard i (.reserveAndCancel ..), .ok (created, _) => .moved ⟨i, created.id⟩
  | .idle, .shard i (.reserve _), .ok created => .reserved ⟨i, created.id⟩
  | .reserved slot, .shard i (.bookingUpdateMany ..), reply =>
    if i = source then
      match reply with
      | .ok (_ + 1) => .took slot
      | _ => .missed slot
    else .undone
  | .missed _, .shard _ (.bookingUpdateMany ..), _ => .undone
  | .took slot, .shard _ (.bookingUpdate ..), _ => .moved slot
  | stage, _, _ => stage

abbrev consumeProtocol (source : Fin n) (id : Text) : Protocol (signature n) Err where
  Phase := Stage n
  allows := Consumes source id
  next := Stage.next source

theorem Stage.next_read {stage : Stage n} {i : Fin n} {stmt : Stmt} (isRead : stmt.isRead = true)
    (reply : Except Err stmt.Answer) : stage.next source (.shard i stmt) reply = stage := by
  cases stmt with
  | hotelCreate | hotelUpdate | hotelDelete | roomCreate | roomUpdate | roomDelete | bookingUpdate
  | bookingUpdateMany | bookingDelete | reserve | reserveAndCancel => cases isRead
  | _ => cases stage <;> rfl

theorem Stage.next_cache (stage : Stage n) (cmd : CacheCmd) (reply : Except Err cmd.Answer) :
    stage.next source (.cache cmd) reply = stage := by
  cases stage <;> rfl

/-- An aborted transaction leaves the stage. -/
theorem Stage.next_aborted {stage : Stage n} {cmd : Cmd n} (transaction : cmd.isTransaction = true)
    (error : Err) : stage.next source cmd (.error error) = stage := by
  unfold Cmd.isTransaction at transaction
  split at transaction
  · cases stage <;> rfl
  · cases stage <;> rfl
  · cases transaction

section Obeys
variable {stage : Stage n} {entropy : Entropy}

/-- The invalidation of the search results never fails. -/
theorem invalidateSearch_obeys (stage : Stage n) :
    (BookingsService.invalidateSearch env).Obeys (consumeProtocol source id)
      (fun after result => after = stage ∧ result = .ok ()) stage := by
  unfold BookingsService.invalidateSearch CacheService.bumpVersion
  split
  · exact ⟨rfl, rfl⟩
  · have issued : (issue (.cache .incr) : Async n Nat).Obeys (consumeProtocol source id)
        (fun after _ => after = stage) stage :=
      obeys_issue .cache fun reply => Stage.next_cache stage .incr reply
    have tried : (attempt (issue (.cache .incr)) : Async n (Except Err Nat)).Obeys
        (consumeProtocol source id) (fun after result => after = stage ∧ ∃ reply, result = .ok reply)
        stage := obeys_attempt issued fun _ result same => ⟨same, result, rfl⟩
    refine Program.obeys_bind tried ?_ ?_
    · rintro _ _ ⟨rfl, _⟩
      exact ⟨rfl, rfl⟩
    · rintro _ _ ⟨_, _, same⟩
      cases same

theorem findLocal_obeys (stage : Stage n) :
    (BookingsService.findLocal env id).Obeys (consumeProtocol source id)
      (fun after _ => after = stage) stage := by
  have reading : (env.router.read (env.router.forKey id) (.bookingFindUnique id)).Obeys
      (consumeProtocol source id) (fun after _ => after = stage) stage :=
    obeys_read (.read rfl) (fun answer => Stage.next_read rfl _) fun error _ => Stage.next_read rfl _
  refine Program.obeys_bind reading ?_ fun _ _ same => same
  rintro _ found rfl
  cases found <;> rfl

/-- `cancel` succeeds exactly when its write does. -/
theorem cancel_obeys (home : env.router.forKey id = source) :
    (BookingsService.cancel env id).Obeys (consumeProtocol source id)
      (fun after result => after = .withdrew ∧ (∃ booking, result = .ok booking) ∨
        after = .idle ∧ ∃ error, result = .error error) .idle := by
  refine Program.obeys_bind (findLocal_obeys .idle) ?_ ?_
  · rintro _ booking rfl
    have cancelling : (do
        let cancelled ← env.router.write (env.router.forKey id)
          (.bookingUpdate id { status := .value .cancelled })
        BookingsService.invalidateSearch env
        return cancelled : Async n Booking).Obeys (consumeProtocol source id)
        (fun after result => after = .withdrew ∧ (∃ booking, result = .ok booking) ∨
          after = .idle ∧ ∃ error, result = .error error) .idle := by
      have writing : (env.router.write (env.router.forKey id)
          (.bookingUpdate id { status := .value .cancelled })).Obeys (consumeProtocol source id)
          (fun after result => after = .withdrew ∧ (∃ booking, result = .ok booking) ∨
            after = .idle ∧ ∃ error, result = .error error) .idle := by
        rw [home]
        exact obeys_write .cancel (fun answer => Or.inl ⟨rfl, answer, rfl⟩)
          fun error other => Or.inr ⟨rfl, other, rfl⟩
      refine Program.obeys_bind writing ?_ ?_
      · rintro _ cancelled (⟨rfl, _⟩ | ⟨_, _, same⟩)
        · refine Program.obeys_bind (invalidateSearch_obeys _) ?_ ?_
          · rintro _ _ ⟨rfl, _⟩
            exact Or.inl ⟨rfl, cancelled, rfl⟩
          · rintro _ _ ⟨_, same⟩
            cases same
        · cases same
      · rintro _ error (⟨_, _, same⟩ | ended)
        · cases same
        · exact Or.inr ended
    dsimp only
    split
    · exact Or.inr ⟨rfl, _, rfl⟩
    · exact Or.inr ⟨rfl, _, rfl⟩
    · exact cancelling
  · rintro _ error rfl
    exact Or.inr ⟨rfl, error, rfl⟩

/-- A relocation ends with the new booking in its room or without a reservation. -/
def RelocateEnds (after : Stage n) : Prop := after.Settled ∧ after ≠ .withdrew

theorem relocateLocally_obeys {original : Booking} (active : original.Active) (roomId : Text)
    (home : env.router.forKey id = source) :
    (BookingsService.relocateLocally env entropy roomId id original).Obeys
      (consumeProtocol source id) (fun after _ => RelocateEnds after) .idle := by
  have transaction : (env.router.run source (BookingsService.serializable fun attempt =>
      issue (.shard source (.reserveAndCancel
        (BookingsService.relocation entropy roomId original original.status attempt) id)))).Obeys
      (consumeProtocol source id) (fun after _ => RelocateEnds after) .idle := by
    have idle : RelocateEnds (.idle : Stage n) := ⟨trivial, by rintro ⟨⟩⟩
    have serialized : (BookingsService.serializable fun attempt =>
        issue (.shard source (.reserveAndCancel
          (BookingsService.relocation entropy roomId original original.status attempt) id))).Obeys
        (consumeProtocol source id) (fun after _ => RelocateEnds after) .idle := by
      refine obeys_serializable (fun k => ?_) fun _ => idle
      refine obeys_issue (.local active) fun reply => ?_
      cases reply with
      | error error => rfl
      | ok answer => exact ⟨trivial, by rintro ⟨⟩⟩
    exact obeys_run serialized (fun _ _ final => final) fun _ _ _ final => final
  unfold BookingsService.relocateLocally
  rw [home]
  refine Program.obeys_bind transaction ?_ fun _ _ final => final
  rintro after answer final
  refine Program.obeys_bind (invalidateSearch_obeys after) ?_ ?_
  · rintro _ _ ⟨rfl, _⟩
    exact final
  · rintro _ _ ⟨_, same⟩
    cases same

/-- T1 either holds its reservation or has done nothing. -/
def ReserveEnds (target : Fin n) (after : Stage n) : Except Err Booking → Prop
  | .ok created => after = .reserved ⟨target, created.id⟩
  | .error _ => after = .idle

theorem sagaReserve_obeys (roomId : Text) (original : Booking)
    (away : env.router.forKey roomId ≠ source) :
    (BookingsService.sagaReserve env entropy roomId original).Obeys (consumeProtocol source id)
      (ReserveEnds (env.router.forKey roomId)) .idle := by
  have serialized : (BookingsService.serializable fun attempt =>
      issue (.shard (env.router.forKey roomId) (.reserve
        (BookingsService.relocation entropy roomId original .pending attempt)))).Obeys
      (consumeProtocol source id) (ReserveEnds (env.router.forKey roomId)) .idle := by
    refine obeys_serializable (fun k => ?_) fun _ => rfl
    refine obeys_issue (.reserve away rfl) fun reply => ?_
    cases reply <;> rfl
  exact obeys_run serialized (fun _ _ final => final) fun _ _ _ final => final

theorem sagaCancel_obeys (slot : Slot n) (simulateFailure : Bool)
    (home : env.router.forKey id = source) :
    (BookingsService.sagaCancel env id simulateFailure).Obeys (consumeProtocol source id)
      (fun after result =>
        match result with
        | .ok _ => after = .took slot
        | .error _ => after = .reserved slot ∨ after = .missed slot) (.reserved slot) := by
  unfold BookingsService.sagaCancel
  split
  · exact Or.inl rfl
  · have taking : (env.router.write source
        (.bookingUpdateMany id activeStatuses .cancelled)).Obeys (consumeProtocol source id)
        (fun after result =>
          match result with
          | .ok 0 => after = .missed slot
          | .ok (_ + 1) => after = .took slot
          | .error _ => after = .missed slot) (.reserved slot) := by
      refine obeys_write .take (fun count => ?_) fun error other => ?_
      · cases count with
        | zero => exact if_pos rfl
        | succ count => exact if_pos rfl
      · exact if_pos rfl
    rw [home]
    refine Program.obeys_bind taking ?_ ?_
    · rintro _ count same
      cases count with
      | zero => exact Or.inr same
      | succ count => exact same
    · exact fun _ _ same => Or.inr same

theorem compensate_obeys {slot : Slot n} (away : slot.shard ≠ source)
    (held : stage = .reserved slot ∨ stage = .missed slot) :
    (BookingsService.compensate env slot.shard slot.key).Obeys (consumeProtocol source id)
      (fun after result => after = .undone ∧ ∃ step, result = .ok step) stage := by
  have after (reply : Except Err Nat) :
      stage.next source (.shard slot.shard (.bookingUpdateMany slot.key [.pending] .cancelled)) reply =
        .undone := by
    rcases held with rfl | rfl
    · exact if_neg away
    · rfl
  have undoing : (env.router.write slot.shard
      (.bookingUpdateMany slot.key [.pending] .cancelled)).Obeys (consumeProtocol source id)
      (fun after _ => after = .undone) stage :=
    obeys_write (.undo away held) (fun answer => after (.ok answer)) fun error _ => after (.error error)
  have tried : (attempt (env.router.write slot.shard
      (.bookingUpdateMany slot.key [.pending] .cancelled))).Obeys (consumeProtocol source id)
      (fun after result => after = .undone ∧ ∃ outcome, result = .ok outcome) stage :=
    obeys_attempt undoing fun _ outcome same => ⟨same, outcome, rfl⟩
  refine Program.obeys_bind tried ?_ ?_
  · rintro _ outcome ⟨rfl, _⟩
    cases outcome <;> exact ⟨rfl, _, rfl⟩
  · rintro _ _ ⟨_, _, same⟩
    cases same

theorem relocateReserved_obeys {original created : Booking} (active : original.Active)
    (simulateFailure : Bool) {target : Fin n} (away : target ≠ source)
    (home : env.router.forKey id = source) :
    (BookingsService.relocateReserved env id original simulateFailure source target created).Obeys
      (consumeProtocol source id) (fun after _ => RelocateEnds after)
      (.reserved ⟨target, created.id⟩) := by
  have trying : (attempt (BookingsService.sagaCancel env id simulateFailure)).Obeys
      (consumeProtocol source id)
      (fun after outcome => ∃ result : Except Err Unit, outcome = .ok result ∧
        match result with
        | .ok _ => after = .took ⟨target, created.id⟩
        | .error _ => after = .reserved ⟨target, created.id⟩ ∨ after = .missed ⟨target, created.id⟩)
      (.reserved ⟨target, created.id⟩) :=
    obeys_attempt (sagaCancel_obeys _ simulateFailure home) fun _ result same => ⟨result, rfl, same⟩
  refine Program.obeys_bind trying ?_ ?_
  · rintro after outcome ⟨_, same, reached⟩
    obtain rfl := Except.ok.inj same
    cases outcome with
    | error error =>
      have undoing : (BookingsService.compensate env target created.id).Obeys
          (consumeProtocol source id)
          (fun after result => after = .undone ∧ ∃ step, result = .ok step) after :=
        compensate_obeys away reached
      refine Program.obeys_bind undoing ?_ ?_
      · rintro _ step ⟨rfl, _⟩
        refine Program.obeys_bind (invalidateSearch_obeys _) ?_ ?_
        · rintro _ _ ⟨rfl, _⟩
          exact ⟨trivial, by rintro ⟨⟩⟩
        · rintro _ _ ⟨_, same⟩
          cases same
      · rintro _ _ ⟨_, _, same⟩
        cases same
    | ok _ =>
      obtain rfl := reached
      have confirming : (BookingsService.sagaConfirm env target created.id original.status).Obeys
          (consumeProtocol source id) (fun after _ => after = .moved ⟨target, created.id⟩)
          (.took ⟨target, created.id⟩) :=
        obeys_write (.confirm away active) (fun _ => rfl) fun _ _ => rfl
      have moved : RelocateEnds (.moved ⟨target, created.id⟩ : Stage n) := ⟨trivial, by rintro ⟨⟩⟩
      refine Program.obeys_bind confirming ?_ ?_
      · rintro _ confirmed rfl
        refine Program.obeys_bind (invalidateSearch_obeys _) ?_ ?_
        · rintro _ _ ⟨rfl, _⟩
          exact moved
        · rintro _ _ ⟨_, same⟩
          cases same
      · rintro _ _ rfl
        exact moved
  · rintro _ _ ⟨_, same, _⟩
    cases same

theorem relocate_obeys (dto : RelocateBookingDto) (home : env.router.forKey id = source) :
    (BookingsService.relocate env entropy id dto).Obeys (consumeProtocol source id)
      (fun after _ => RelocateEnds after) .idle := by
  have idle : RelocateEnds (.idle : Stage n) := ⟨trivial, by rintro ⟨⟩⟩
  unfold BookingsService.relocate
  split
  · exact idle
  · refine Program.obeys_bind (findLocal_obeys .idle) ?_ ?_
    · rintro _ original rfl
      split
      · exact idle
      · next active =>
        rw [not_not] at active
        split
        · exact idle
        · split
          · exact relocateLocally_obeys active dto.roomId home
          · next other =>
            have away : env.router.forKey dto.roomId ≠ source := fun same => other (home.trans same.symm)
            have reserving : (BookingsService.sagaReserve env entropy dto.roomId original).Obeys
                (consumeProtocol source id) (ReserveEnds (env.router.forKey dto.roomId)) .idle :=
              sagaReserve_obeys dto.roomId original away
            unfold BookingsService.relocateSaga
            rw [home]
            have tried : (tryCatch (BookingsService.sagaReserve env entropy dto.roomId original)
                fun error => throw (BookingsService.sagaAborted
                  [⟨text "T1 reserve new room (PENDING)", env.router.name (env.router.forKey dto.roomId),
                    .failed, some error.message⟩] error (env.router.name source)
                  (env.router.name (env.router.forKey dto.roomId)))).Obeys (consumeProtocol source id)
                (ReserveEnds (env.router.forKey dto.roomId)) .idle := by
              refine Program.obeys_recover reserving ?_ fun _ _ same => same
              rintro _ error rfl
              exact rfl
            refine Program.obeys_bind tried ?_ ?_
            · rintro _ created rfl
              exact relocateReserved_obeys active dto.simulateFailure away home
            · rintro _ error rfl
              exact idle
    · rintro _ _ rfl
      exact idle

end Obeys
end HotelBooking
