import HotelBooking.Invariants.DoubleBooking
import HotelBooking.Services.Runs

/-! Requests one after another. Every request but PATCH keeps the bookings free of clashes;
PATCH writes the given dates and room without a look at the other bookings. -/
namespace HotelBooking
open Relational Effect
variable {n : Nat} {env : Env n} {entropy : Entropy} {request : Request} {world : World n}

/-- Clash-free bookings, placed on the shards of their rooms. -/
structure CleanlyBooked (env : Env n) (world : World n) : Prop where
  placed : world.Everywhere (BookingsPlaced env.router)
  free : world.NoDoubleBooking

theorem CleanlyBooked.exec {cmd : Cmd n} (clean : CleanlyBooked env world)
    (issued : Issued env entropy request cmd) (admitted : Admitted world cmd) :
    CleanlyBooked env (World.exec cmd world).2 :=
  ⟨placed_exec issued clean.placed, (noDoubleBooking_exec issued clean.placed clean.free).mpr admitted⟩

theorem CleanlyBooked.bumped (clean : CleanlyBooked env world) :
    CleanlyBooked env (world.bumped env) := by
  constructor
  · simpa only [World.Everywhere, World.bumped_shards] using clean.placed
  · simpa only [World.NoDoubleBooking, World.bumped_shards] using clean.free

/-- A command that is no update by key is admitted. -/
theorem admitted_of_other {cmd : Cmd n}
    (other : ∀ i id data, cmd ≠ .shard i (.bookingUpdate id data)) : Admitted world cmd :=
  fun i id data same => absurd same (other i id data)

/-- The write of cancel. -/
theorem updateAdmitted_cancel (tables : Tables) (id : Text) :
    UpdateAdmitted tables id { status := .value .cancelled } := by
  rintro old new _ ⟨⟩ _ other _ _
  exact not_clash_of_inactive (by simp [Booking.Active, activeStatuses])

theorem clean_run {allowed : Cmd n → Prop} {program : Async n α} (uses : program.Uses allowed)
    (issued : ∀ cmd, allowed cmd → ∃ entropy request, Issued env entropy request cmd)
    (admitted : ∀ cmd, allowed cmd → ∀ world, Admitted world cmd)
    (clean : CleanlyBooked env world) : CleanlyBooked env (program.run World.exec world).2 := by
  refine Program.run_preserves ?_ uses clean
  intro cmd state permitted held
  obtain ⟨entropy, request, source⟩ := issued cmd permitted
  exact held.exec source (admitted cmd permitted state)

/-- Create, cancel and remove issue no update that could write an active row. -/
theorem clean_served {call : Call n}
    (admitted : ∀ cmd, Issued env call.entropy call.request cmd → ∀ world, Admitted world cmd)
    (clean : CleanlyBooked env world) : CleanlyBooked env (call.serve env world).2 :=
  clean_run (Issued.uses_program env call)
    (fun _ issued => ⟨call.entropy, call.request, issued⟩) admitted clean

theorem clean_relocateLocally {id : Text} {dto : RelocateBookingDto} {original : Booking}
    (active : original.Active) (sameShard : env.router.forKey id = env.router.forKey dto.roomId)
    (clean : CleanlyBooked env world) :
    CleanlyBooked env ((BookingsService.relocateLocally env entropy dto.roomId id original).run
      World.exec world).2 := by
  have committed : CleanlyBooked env (World.exec (.shard (env.router.forKey id) (.reserveAndCancel
      (BookingsService.relocation entropy dto.roomId original original.status 1) id)) world).2 :=
    clean.exec (.relocateLocally active sameShard) (admitted_of_other (by rintro _ _ _ ⟨⟩))
  rw [BookingsService.relocateLocally]
  dsimp only
  rw [Program.bind_eq, Program.run_bind, run_relocateTransaction]
  revert committed
  rcases World.exec (.shard (env.router.forKey id) (.reserveAndCancel
    (BookingsService.relocation entropy dto.roomId original original.status 1) id)) world
    with ⟨_ | ⟨created, previous⟩, after⟩
  · exact fun committed => committed
  · intro committed
    simpa only [Program.bind_eq, Program.run_bind, BookingsService.invalidateSearch,
      run_bumpVersion, Program.pure_eq, Program.run_ret] using committed.bumped

/-- The reservation that T3 is about to confirm: still stored and active. -/
def Pending (world : World n) (i : Fin n) (id : Text) : Prop :=
  ∃ reservation, (world.shards i).bookings.find? id = some reservation ∧ reservation.Active

theorem updateAdmitted_confirm {i : Fin n} {id : Text} {status : BookingStatus}
    (clean : CleanlyBooked env world) (pending : Pending world i id) :
    UpdateAdmitted (world.shards i) id { status := .value status } := by
  rintro old new found ⟨⟩ _
  obtain ⟨reservation, same, active⟩ := pending
  obtain rfl := Option.some.inj (found.symm.trans same)
  have free := (noDoubleBooking_iff clean.placed).mp clean.free i
  refine free.admits (Table.find?_eq_some.mp found).1 rfl fun other clash => ?_
  exact ⟨clash.room, clash.left, active, clash.shared⟩

section Saga
variable {id : Text} {dto : RelocateBookingDto} {original created : Booking}

/-- T2 works on the source shard and leaves the reservation of T1 as it is. -/
theorem clean_sagaCancel (otherShard : env.router.forKey id ≠ env.router.forKey dto.roomId)
    (clean : CleanlyBooked env world)
    (pending : Pending world (env.router.forKey dto.roomId) created.id) (simulateFailure : Bool) :
    let cancelled := ((BookingsService.sagaCancel env id simulateFailure).run World.exec world).2
    CleanlyBooked env cancelled ∧ Pending cancelled (env.router.forKey dto.roomId) created.id := by
  cases simulateFailure with
  | true => exact ⟨clean, pending⟩
  | false =>
    rw [run_sagaCancel]
    have issued : Issued env default (.relocateBooking id dto) (.shard (env.router.forKey id)
      (.bookingUpdateMany id activeStatuses .cancelled)) := .sagaCancel
    refine ⟨clean.exec issued (admitted_of_other (by rintro _ _ _ ⟨⟩)), ?_⟩
    simpa only [Pending, World.setShard_of_ne world otherShard.symm] using pending

theorem clean_compensate (clean : CleanlyBooked env world) :
    CleanlyBooked env ((BookingsService.compensate env (env.router.forKey dto.roomId)
      created.id).run World.exec world).2 := by
  rw [run_compensate]
  have issued : Issued env default (.relocateBooking [] dto) (.shard (env.router.forKey dto.roomId)
    (.bookingUpdateMany created.id [.pending] .cancelled)) := .compensate
  exact clean.exec issued (admitted_of_other (by rintro _ _ _ ⟨⟩))

theorem clean_sagaConfirm (active : original.Active)
    (otherShard : env.router.forKey id ≠ env.router.forKey dto.roomId)
    (clean : CleanlyBooked env world)
    (pending : Pending world (env.router.forKey dto.roomId) created.id) :
    CleanlyBooked env ((BookingsService.sagaConfirm env (env.router.forKey dto.roomId) created.id
      original.status).run World.exec world).2 := by
  have issued : Issued env default (.relocateBooking id dto) (.shard (env.router.forKey dto.roomId)
    (.bookingUpdate created.id { status := .value original.status })) :=
    .sagaConfirm active otherShard
  rw [BookingsService.sagaConfirm, run_write]
  refine clean.exec issued ?_
  rintro i key data ⟨⟩
  exact updateAdmitted_confirm clean pending

/-- After T1 the reservation is stored as PENDING, so that T3 finds it active. -/
theorem clean_relocateReserved (active : original.Active)
    (otherShard : env.router.forKey id ≠ env.router.forKey dto.roomId)
    (clean : CleanlyBooked env world)
    (pending : Pending world (env.router.forKey dto.roomId) created.id) :
    CleanlyBooked env ((BookingsService.relocateReserved env id original dto.simulateFailure
      (env.router.forKey id) (env.router.forKey dto.roomId) created).run World.exec world).2 := by
  obtain ⟨cancelled, still⟩ := clean_sagaCancel otherShard clean pending dto.simulateFailure
  have finish : ∀ {after : World n} {last : Unit → Async n Relocation}, CleanlyBooked env after →
      (∀ state, ((last ()).run World.exec state).2 = state) →
      CleanlyBooked env (((BookingsService.invalidateSearch env).bind last).run World.exec after).2 := by
    intro after last held ends
    rw [BookingsService.invalidateSearch, Program.run_bind, run_bumpVersion]
    dsimp only
    rw [ends]
    exact held.bumped
  refine Program.run_bind_rule (by rwa [run_attempt]) ?_
  intro outcome replied
  rw [run_attempt] at replied ⊢
  cases outcome with
  | error error =>
    refine Program.run_bind_rule (clean_compensate cancelled) fun compensation _ => ?_
    exact finish (clean_compensate cancelled) fun _ => rfl
  | ok _ =>
    have confirmed := clean_sagaConfirm active otherShard cancelled still
    exact Program.run_bind_rule confirmed fun _ _ => finish confirmed fun _ => rfl

theorem clean_relocateSaga (active : original.Active)
    (otherShard : env.router.forKey id ≠ env.router.forKey dto.roomId)
    (clean : CleanlyBooked env world) :
    CleanlyBooked env ((BookingsService.relocateSaga env entropy dto.roomId id original
      dto.simulateFailure).run World.exec world).2 := by
  have issued : Issued env entropy (.relocateBooking id dto) (.shard (env.router.forKey dto.roomId)
    (.reserve (BookingsService.relocation entropy dto.roomId original .pending 1))) :=
    .sagaReserve active
  have reserved := clean.exec issued (admitted_of_other (by rintro _ _ _ ⟨⟩))
  rw [run_relocateSaga]
  cases done : (world.shards (env.router.forKey dto.roomId)).reserve
    (BookingsService.relocation entropy dto.roomId original .pending 1) none with
  | error error => exact clean
  | ok result =>
    obtain ⟨created, tables⟩ := result
    rw [exec_reserve, done] at reserved
    refine clean_relocateReserved active otherShard reserved ?_
    obtain ⟨made, rfl⟩ := Tables.reserve_ok done
    refine ⟨created, ?_, ?_⟩
    · rw [World.setShard_self, Tables.insertBooking, Table.find?_insert, if_pos rfl]
    · rw [Booking.Active, made.status]
      exact List.mem_cons_self

theorem clean_relocate (clean : CleanlyBooked env world) :
    CleanlyBooked env ((BookingsService.relocate env entropy id dto).run World.exec world).2 := by
  unfold BookingsService.relocate
  split
  · exact clean
  · refine Program.run_bind_rule ?_ fun original _ => ?_
    · rw [run_findLocal]
      exact clean
    · rw [run_findLocal]
      split
      · exact clean
      · next active =>
        split
        · exact clean
        · split
          · next sameShard => exact clean_relocateLocally (not_not.mp active) sameShard clean
          · next otherShard => exact clean_relocateSaga (not_not.mp active) otherShard clean

end Saga

/-- PATCH is refused, or the row it writes, when it is active, clashes with no other booking. -/
def PatchAdmitted (env : Env n) (world : World n) (call : Call n) : Prop :=
  ∀ id dto, call.request = .updateBooking id dto →
    BookingsService.foreignBucket dto.roomId id = false →
    (∀ guestId, dto.guestId = .value guestId → (world.guests.guests.find? guestId).isSome) →
    UpdateAdmitted (world.shards (env.router.forKey id)) id
      (BookingsService.patchData env.platform dto)

/-- Requests that change bookings. -/
inductive Request.Books : Request → Prop where
  | create {dto : CreateBookingDto} : Books (.createBooking dto)
  | update {id : Text} {dto : UpdateBookingDto} : Books (.updateBooking id dto)
  | cancel {id : Text} : Books (.cancelBooking id)
  | remove {id : Text} : Books (.removeBooking id)
  | relocate {id : Text} {dto : RelocateBookingDto} : Books (.relocateBooking id dto)

section Patch
variable {id : Text} {dto : UpdateBookingDto}

/-- The last part of `update`: a booking that is not there is not written either. -/
theorem run_patch (world : World n) :
    let patched := (do
      let _ ← BookingsService.findLocal env id
      let booking ← env.router.write (env.router.forKey id)
        (.bookingUpdate id (BookingsService.patchData env.platform dto))
      BookingsService.invalidateSearch env
      return booking : Async n Booking).run World.exec world
    let written := World.exec (.shard (env.router.forKey id)
      (.bookingUpdate id (BookingsService.patchData env.platform dto))) world
    patched.1.toOption = written.1.toOption ∧ patched.2.shards = written.2.shards := by
  dsimp only
  rw [Program.bind_eq, Program.run_bind, run_findLocal]
  cases found : (world.shards (env.router.forKey id)).bookings.find? id with
  | none =>
    have missing : (world.shards (env.router.forKey id)).bookingUpdate id
        (BookingsService.patchData env.platform dto) = .error (.db .recordNotFound) := by
      simp only [Tables.bookingUpdate, found, except_throw]
    have unchanged : World.exec (.shard (env.router.forKey id) (.bookingUpdate id
        (BookingsService.patchData env.platform dto))) world = (.error (.db .recordNotFound), world) :=
      World.exec_shard_error missing
    rw [unchanged]
    exact ⟨rfl, rfl⟩
  | some booking =>
    obtain ⟨reply, shards⟩ := @run_thenInvalidate_outcome n world env _
      (env.router.write (env.router.forKey id)
        (.bookingUpdate id (BookingsService.patchData env.platform dto)))
    rw [run_write] at reply shards
    exact ⟨congrArg Except.toOption reply, shards⟩

theorem run_update_accepted (sameBucket : BookingsService.foreignBucket dto.roomId id = false)
    (guest : ∀ guestId, dto.guestId = .value guestId →
      (world.guests.guests.find? guestId).isSome) :
    let updated := (BookingsService.update env id dto).run World.exec world
    let written := World.exec (.shard (env.router.forKey id)
      (.bookingUpdate id (BookingsService.patchData env.platform dto))) world
    updated.1.toOption = written.1.toOption ∧ updated.2.shards = written.2.shards := by
  rw [BookingsService.update, if_neg (by simp [sameBucket])]
  dsimp only
  cases given : dto.guestId with
  | absent => exact run_patch world
  | null => exact run_patch world
  | value guestId =>
    obtain ⟨stored, found⟩ := Option.isSome_iff_exists.mp (guest guestId given)
    dsimp only
    rw [Program.bind_eq, Program.run_bind, run_assertGuestExists, found]
    exact run_patch world

theorem run_update_refused
    (refused : ¬ (BookingsService.foreignBucket dto.roomId id = false ∧
      ∀ guestId, dto.guestId = .value guestId → (world.guests.guests.find? guestId).isSome)) :
    let updated := (BookingsService.update env id dto).run World.exec world
    updated.1.toOption = none ∧ updated.2.shards = world.shards := by
  rw [BookingsService.update]
  cases guard : BookingsService.foreignBucket dto.roomId id with
  | true => exact ⟨rfl, rfl⟩
  | false =>
    simp only [guard, true_and, not_forall] at refused
    obtain ⟨guestId, given, missing⟩ := refused
    rw [Option.not_isSome_iff_eq_none] at missing
    rw [if_neg Bool.false_ne_true, given]
    dsimp only
    rw [Program.bind_eq, Program.run_bind, run_assertGuestExists, missing]
    exact ⟨rfl, rfl⟩

end Patch

theorem noDoubleBooking_congr {first second : World n} (same : first.shards = second.shards) :
    first.NoDoubleBooking ↔ second.NoDoubleBooking := by
  rw [World.NoDoubleBooking, World.NoDoubleBooking, same]

theorem noDoubleBooking_patched {id : Text} {dto : UpdateBookingDto} {entropy : Entropy}
    {schedule : Schedule n} (clean : CleanlyBooked env world) :
    ((BookingsService.update env id dto).run World.exec world).2.NoDoubleBooking ↔
      PatchAdmitted env world ⟨.updateBooking id dto, entropy, schedule⟩ := by
  by_cases accepted : BookingsService.foreignBucket dto.roomId id = false ∧
      ∀ guestId, dto.guestId = .value guestId → (world.guests.guests.find? guestId).isSome
  · obtain ⟨sameBucket, guest⟩ := accepted
    have issued : Issued env entropy (.updateBooking id dto) (.shard (env.router.forKey id)
      (.bookingUpdate id (BookingsService.patchData env.platform dto))) := .updateBooking sameBucket
    rw [noDoubleBooking_congr (run_update_accepted sameBucket guest).2,
      noDoubleBooking_exec issued clean.placed clean.free]
    constructor
    · rintro admitted _ _ ⟨⟩ _ _
      exact admitted _ id _ rfl
    · rintro admitted i key data ⟨⟩
      exact admitted id dto rfl sameBucket guest
  · rw [noDoubleBooking_congr (run_update_refused accepted).2]
    refine iff_of_true clean.free ?_
    rintro _ _ ⟨⟩ sameBucket guest
    exact absurd ⟨sameBucket, guest⟩ accepted

/-- One booking request served on its own makes no double booking, except an
unadmitted PATCH. -/
theorem noDoubleBooking_served {call : Call n} {after : World n} (books : call.request.Books)
    (clean : CleanlyBooked env world) (served : call.Served env world after) :
    after.NoDoubleBooking ↔ PatchAdmitted env world call := by
  rw [served]
  obtain ⟨request, entropy, schedule⟩ := call
  cases books with
  | create =>
    refine iff_of_true (clean_served ?_ clean).free (by rintro _ _ ⟨⟩)
    rintro cmd issued state i id data rfl
    cases issued with
    | shardRead read => cases read
  | @update id dto =>
    rw [← noDoubleBooking_patched clean]
    apply noDoubleBooking_congr
    simp only [Call.serve, Call.program, Program.bind_eq, Program.run_bind]
    rcases (BookingsService.update env id dto).run World.exec world with ⟨_ | booking, after⟩ <;> rfl
  | cancel =>
    refine iff_of_true (clean_served ?_ clean).free (by rintro _ _ ⟨⟩)
    rintro cmd issued state i id data rfl
    cases issued with
    | shardRead read => cases read
    | cancelBooking => exact updateAdmitted_cancel _ _
  | remove =>
    refine iff_of_true (clean_served ?_ clean).free (by rintro _ _ ⟨⟩)
    rintro cmd issued state i id data rfl
    cases issued with
    | shardRead read => cases read
  | @relocate id dto =>
    have relocated : CleanlyBooked env
        ((BookingsService.relocate env entropy id dto).run World.exec world).2 := clean_relocate clean
    refine iff_of_true ?_ (by rintro _ _ ⟨⟩)
    exact (Program.run_bind_rule relocated fun _ _ => relocated : CleanlyBooked env _).free

def Served.Booking (env : Env n) (before : World n) (call : Call n) (after : World n) : Prop :=
  call.request.Books ∧ call.Served env before after

theorem placed_served {before after : World n} {call : Call n}
    (placed : before.Everywhere (BookingsPlaced env.router)) (served : call.Served env before after) :
    after.Everywhere (BookingsPlaced env.router) := by
  rw [served]
  exact Program.run_preserves (fun _ _ issued held => placed_exec issued held)
    (Issued.uses_program env call) placed

/-- In sequential runs of booking requests, no double booking is visited exactly when every PATCH
is admitted: the other four requests never make one. -/
theorem sequential_noDoubleBooking (env : Env n) (world : World n)
    (unbooked : ∀ i, (world.shards i).bookings = .empty)
    {trace : List (Transition (World n) (Call n))} {last : World n}
    (run : Run (Served.Booking env) world trace last) :
    (∀ move ∈ trace, move.after.NoDoubleBooking) ↔
      ∀ move ∈ trace, PatchAdmitted env move.before move.event := by
  have keeps : ∀ {before event after}, World.Everywhere (BookingsPlaced env.router) before →
      Served.Booking env before event after → World.Everywhere (BookingsPlaced env.router) after :=
    fun placed served => placed_served placed served.2
  have exact_step : ∀ {before event after}, World.Everywhere (BookingsPlaced env.router) before →
      before.NoDoubleBooking → Served.Booking env before event after →
      (after.NoDoubleBooking ↔ PatchAdmitted env before event) :=
    fun placed free served => noDoubleBooking_served served.1 ⟨placed, free⟩ served.2
  refine run.visits_iff keeps exact_step ?_ ?_
  · intro i booking member
    rw [unbooked i] at member
    exact absurd member (Table.not_mem_empty booking)
  · intro i first member
    rw [unbooked i] at member
    exact absurd member (Table.not_mem_empty first)

/-- Two bookings of one room, one after the other, and a PATCH that moves the arrival of the
second into the first. -/
def patching : List (Call 1) :=
  [.sample (sampleBooking room101 1 5) 6, .sample (sampleBooking room101 5 8) 7,
    .sample (.updateBooking (sampleKey 34 7) { checkInDate := .value (january 3) }) 8]

def patched : World 1 := serveAll (.sample 1 .hash) patching (furnished 1)

theorem run_patched : ∃ trace, Run (Served.Booking (.sample 1 .hash)) (furnished 1) trace patched := by
  have permits : ∀ call ∈ patching, ∀ state : World 1,
      Served.Booking (.sample 1 .hash) state call (call.serve (.sample 1 .hash) state).2 := by
    simp only [patching, List.forall_mem_cons, List.not_mem_nil, false_implies, implies_true, and_true]
    exact ⟨fun _ => ⟨.create, rfl⟩, fun _ => ⟨.create, rfl⟩, fun _ => ⟨.update, rfl⟩⟩
  obtain ⟨trace, run, _⟩ := Run.foldl permits (furnished 1)
  exact ⟨trace, run⟩

theorem furnished_unbooked (i : Fin 1) : ((furnished 1).shards i).bookings = .empty := by
  apply Table.ext
  revert i
  decide +kernel

theorem sequential_doubleBooking : (∀ i, ((furnished 1).shards i).bookings = .empty) ∧
    ∃ trace last, Run (Served.Booking (.sample 1 .hash)) (furnished 1) trace last ∧
      ¬ last.NoDoubleBooking := by
  obtain ⟨trace, run⟩ := run_patched
  exact ⟨furnished_unbooked, trace, patched, run, by decide +kernel⟩

theorem sequential_noDoubleBooking_patched : ∃ trace,
    Run (Served.Booking (.sample 1 .hash)) (furnished 1) trace patched ∧
      ∃ move ∈ trace, ¬ PatchAdmitted (.sample 1 .hash) move.before move.event := by
  obtain ⟨trace, run⟩ := run_patched
  refine ⟨trace, run, ?_⟩
  have initial : (furnished 1).NoDoubleBooking := by decide +kernel
  have clash : ¬ patched.NoDoubleBooking := by decide +kernel
  by_contra admitted
  simp only [not_exists, not_and, not_not] at admitted
  have visited := (sequential_noDoubleBooking (.sample 1 .hash) (furnished 1) furnished_unbooked
    run).mpr admitted
  exact clash (run.visits_last World.NoDoubleBooking initial visited)

end HotelBooking
