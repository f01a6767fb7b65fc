import HotelBooking.Effect.RelyGuarantee
import HotelBooking.Services.Clients
import HotelBooking.Services.Ownership

/-! What a relocation writes comes from what it has read: it cancels or confirms its own
reservation, on the shard of the room, and gives it a status that a booking had before. -/
namespace HotelBooking
open Relational Effect
variable {n : Nat} {env : Env n} {entropy : Entropy} {request : Request}
  {good : BookingStatus → Prop}

/-- The replies that a relocation relies on. -/
def Told (good : BookingStatus → Prop) : Rely (signature n) Err
  | .shard _ (.bookingFindUnique _), .ok (some row) => good row.status
  | .shard _ (.reserve data), .ok created => created.id = data.id
  | _, _ => True

/-- The identifier that a relocation makes up for the new booking. -/
def RelocateBookingDto.newId (dto : RelocateBookingDto) (entropy : Entropy) : Text :=
  ShardRouter.childId dto.roomId (entropy.uuid 0)

/-- The booking that a relocation reads and cancels is the original, the one that it confirms, or
withdraws while it is PENDING, is the new one. -/
def Cmd.SagaKeys (id new : Text) : Cmd n → Prop
  | .shard _ (.bookingFindUnique key) => key = id
  | .shard _ (.bookingUpdate key _) => key = new
  | .shard _ (.bookingUpdateMany key statuses _) => key = if statuses = [.pending] then new else id
  | _ => True

/-- A command of the request that writes its own rows, known keys and known statuses only. -/
structure Grounded (good : BookingStatus → Prop) (env : Env n) (entropy : Entropy)
    (request : Request) (cmd : Cmd n) : Prop where
  issued : Issued env entropy request cmd
  own : ∀ cell ∈ cmd.targets, request.names env entropy cell
  update : ∀ i key status, cmd = .shard i (.bookingUpdate key { status := .value status }) →
    env.router.forKey key = i ∧ (status = .cancelled ∨ good status)
  updateMany : ∀ i key statuses status, cmd = .shard i (.bookingUpdateMany key statuses status) →
    env.router.forKey key = i
  exchange : ∀ i data id, cmd = .shard i (.reserveAndCancel data id) → good data.status
  keys : ∀ id dto, request = .relocateBooking id dto → cmd.SagaKeys id (dto.newId entropy)

theorem told_error (good : BookingStatus → Prop) (cmd : Cmd n) (error : Err) :
    Told good cmd (.error error) := by
  cases cmd with
  | shard i stmt => cases stmt <;> trivial
  | guests stmt => trivial
  | cache cmd => trivial

/-- The databases tell the relocations the truth. -/
theorem told_exec {world : World n}
    (held : ∀ i, ∀ booking ∈ (world.shards i).bookings, good booking.status) (cmd : Cmd n) :
    Told good cmd (World.exec cmd world).1 := by
  cases cmd with
  | shard i stmt =>
    cases done : stmt.exec (world.shards i) with
    | error error =>
      rw [World.exec_shard_error done]
      exact told_error good _ error
    | ok result =>
      obtain ⟨answer, tables⟩ := result
      rw [World.exec_shard_ok done]
      cases stmt with
      | bookingFindUnique id =>
        obtain ⟨rfl, -⟩ := Prod.mk.inj (Except.ok.inj done)
        cases found : (world.shards i).bookings.find? id with
        | none => trivial
        | some row => exact held i row (Table.find?_eq_some.mp found).1
      | reserve data =>
        obtain ⟨made, _⟩ := Tables.reserve_ok done
        exact made.id
      | _ => trivial
  | guests stmt => trivial
  | cache cmd => trivial

/-- Only relocations write a status that is not their own. -/
theorem Issued.grounded {cmd : Cmd n} (issued : Issued env entropy request cmd)
    (other : ∀ id dto, request ≠ .relocateBooking id dto) : Grounded good env entropy request cmd := by
  refine ⟨issued, issued.names other, ?_, ?_, ?_,
    fun id dto relocates => absurd relocates (other id dto)⟩
  · intro i key status same
    generalize written : ({ status := .value status } : BookingData) = data at same
    subst same
    cases issued with
    | shardRead read => cases read
    | updateBooking => cases congrArg BookingData.status written
    | cancelBooking =>
      cases written
      exact ⟨rfl, Or.inl rfl⟩
    | sagaConfirm => exact absurd rfl (other _ _)
  · rintro i key statuses status rfl
    cases issued with
    | shardRead read => cases read
    | sagaCancel => exact absurd rfl (other _ _)
    | compensate => exact absurd rfl (other _ _)
  · rintro i data id rfl
    cases issued with
    | shardRead read => cases read
    | relocateLocally => exact absurd rfl (other _ _)

section Combinators
variable {guarantee : Cmd n → Prop}

/-- The guarantee of the relocations, in the names of their own programs. -/
abbrev Warrants (good : BookingStatus → Prop) (guarantee : Cmd n → Prop) (post : α → Prop)
    (program : Async n α) : Prop :=
  program.Honours (Told good) guarantee post

theorem warrants_issue {cmd : Cmd n} (guaranteed : guarantee cmd) :
    Warrants good guarantee (fun answer => Told good cmd (.ok answer)) (issue cmd) :=
  Program.honours_perform guaranteed

/-- A command whose answer does not matter. -/
theorem warrants_done {cmd : Cmd n} (guaranteed : guarantee cmd) :
    Warrants good guarantee (fun _ => True) (issue cmd) :=
  (warrants_issue guaranteed).mono fun _ _ => trivial

theorem warrants_attempt {post : α → Prop} {program : Async n α}
    (body : Warrants good guarantee post program) :
    Warrants good guarantee (fun result => ∀ value, result = .ok value → post value)
      (attempt program) := by
  refine Program.honours_recover (Program.honours_bind body fun value held => ?_) fun error => ?_
  · rintro _ ⟨⟩
    exact held
  · rintro _ ⟨⟩

theorem warrants_run {router : ShardRouter n} {i : Fin n} {post : α → Prop} {body : Async n α}
    (honours : Warrants good guarantee post body) :
    Warrants good guarantee post (router.run i body) := by
  refine Program.honours_recover honours fun error => ?_
  split <;> trivial

theorem warrants_serializable {post : α → Prop} {transaction : Nat → Async n α}
    (honours : ∀ attempt, Warrants good guarantee post (transaction attempt)) :
    Warrants good guarantee post (BookingsService.serializable transaction) := by
  have loop : ∀ remaining attempt, Warrants good guarantee post
      (BookingsService.serializableFrom transaction attempt remaining) := by
    intro remaining
    induction remaining with
    | zero =>
      intro attempt
      refine Program.honours_recover (honours attempt) fun error => ?_
      split <;> trivial
    | succ remaining ih =>
      intro attempt
      refine Program.honours_recover (honours attempt) fun error => ?_
      split
      · trivial
      · exact ih (attempt + 1)
  exact loop _ _

end Combinators

section Relocation
variable {id : Text} {dto : RelocateBookingDto}

/-- A command of a relocation that is no write of a status it was told. -/
theorem Issued.relocates {cmd : Cmd n} (issued : Issued env entropy (.relocateBooking id dto) cmd)
    (plain : ∀ i key data, cmd ≠ .shard i (.bookingUpdate key data))
    (single : ∀ i key statuses status, cmd ≠ .shard i (.bookingUpdateMany key statuses status))
    (simple : ∀ i data key, cmd ≠ .shard i (.reserveAndCancel data key))
    (looks : ∀ i key, cmd = .shard i (.bookingFindUnique key) → key = id) :
    Grounded good env entropy (.relocateBooking id dto) cmd := by
  refine ⟨issued, ?_, fun _ _ _ same => absurd same (plain _ _ _), fun _ _ _ _ same => absurd same (single _ _ _ _),
    fun _ _ _ same => absurd same (simple _ _ _), ?_⟩
  swap
  · rintro _ _ ⟨⟩
    unfold Cmd.SagaKeys
    split
    · exact looks _ _ rfl
    · exact absurd rfl (plain _ _ _)
    · exact absurd rfl (single _ _ _ _)
    · trivial
  intro cell member
  cases issued with
  | shardRead read => simp [Cmd.targets, Stmt.targets_read read] at member
  | guestRead read => simp [Cmd.targets, GuestStmt.targets_read read] at member
  | sagaReserve =>
    obtain rfl := List.mem_singleton.mp member
    exact Or.inr (by rw [BookingsService.relocation, ShardRouter.home, ShardRouter.forKey_childId])
  | relocateLocally => exact absurd rfl (simple _ _ _)
  | sagaCancel | compensate => exact absurd rfl (single _ _ _ _)
  | sagaConfirm => exact absurd rfl (plain _ _ _)
  | _ => cases member

theorem warrants_findLocal : Warrants good (Grounded good env entropy (.relocateBooking id dto))
    (fun booking => good booking.status) (BookingsService.findLocal env id) := by
  refine Program.honours_bind (warrants_run (warrants_issue ?_)) fun found told => ?_
  · refine Issued.relocates (.shardRead rfl) (by rintro _ _ _ ⟨⟩) (by rintro _ _ _ _ ⟨⟩)
      (by rintro _ _ _ ⟨⟩) ?_
    rintro _ _ ⟨⟩
    rfl
  · cases found with
    | none => trivial
    | some booking => exact told

theorem warrants_invalidateSearch : Warrants good (Grounded good env entropy (.relocateBooking id dto))
    (fun _ => True) (BookingsService.invalidateSearch env) := by
  have uses : (CacheService.bumpVersion env).Uses fun cmd : Cmd n => cmd = .cache .incr :=
    uses_bumpVersion env rfl
  refine uses.honours ?_
  rintro _ rfl
  exact Issued.relocates .cacheIncr (by rintro _ _ _ ⟨⟩) (by rintro _ _ _ _ ⟨⟩)
    (by rintro _ _ _ ⟨⟩) (by rintro _ _ ⟨⟩)

theorem warrants_relocateLocally {original : Booking} (active : original.Active)
    (told : good original.status) (sameShard : env.router.forKey id = env.router.forKey dto.roomId) :
    Warrants good (Grounded good env entropy (.relocateBooking id dto)) (fun _ => True)
      (BookingsService.relocateLocally env entropy dto.roomId id original) := by
  have transaction : ∀ attempt, Warrants good (Grounded good env entropy (.relocateBooking id dto))
      (fun _ : Booking × Booking => True) (issue (.shard (env.router.forKey id) (.reserveAndCancel
        (BookingsService.relocation entropy dto.roomId original original.status attempt) id))) := by
    refine fun attempt => warrants_done ⟨.relocateLocally active sameShard, ?_, ?_, ?_, ?_, ?_⟩
    · intro cell member
      rcases List.mem_cons.mp member with rfl | last
      · refine Or.inr ?_
        rw [BookingsService.relocation, ShardRouter.home, ShardRouter.forKey_childId, sameShard]
      · exact Or.inl (List.mem_singleton.mp last)
    · rintro _ _ _ ⟨⟩
    · rintro _ _ _ _ ⟨⟩
    · rintro _ _ _ ⟨⟩
      exact told
    · exact fun _ _ _ => trivial
  refine Program.honours_bind (warrants_run (warrants_serializable transaction)) fun _ _ => ?_
  exact Program.honours_bind warrants_invalidateSearch fun _ _ => trivial

theorem warrants_sagaReserve {original : Booking} (active : original.Active) :
    Warrants good (Grounded good env entropy (.relocateBooking id dto))
      (fun created => created.id = dto.newId entropy)
      (BookingsService.sagaReserve env entropy dto.roomId original) := by
  refine warrants_run (warrants_serializable fun attempt => (warrants_issue ?_).mono fun _ told => told)
  exact Issued.relocates (.sagaReserve active) (by rintro _ _ _ ⟨⟩) (by rintro _ _ _ _ ⟨⟩)
    (by rintro _ _ _ ⟨⟩) (by rintro _ _ ⟨⟩)

/-- The two bookings of a relocation. -/
theorem names_of_bookings {key : Text} (listed : key = id ∨ key = dto.newId entropy) :
    (Request.relocateBooking id dto).names env entropy (env.router.home .booking key) := by
  rcases listed with rfl | rfl
  · exact Or.inl rfl
  · exact Or.inr rfl

/-- A write that `updateMany` makes to one of the two bookings. -/
theorem Issued.withdraws {key : Text} {i : Fin n} {statuses : List BookingStatus}
    (issued : Issued env entropy (.relocateBooking id dto)
      (.shard i (.bookingUpdateMany key statuses .cancelled)))
    (here : env.router.forKey key = i)
    (named : key = if statuses = [.pending] then dto.newId entropy else id) :
    Grounded good env entropy (.relocateBooking id dto)
      (.shard i (.bookingUpdateMany key statuses .cancelled)) := by
  refine ⟨issued, ?_, ?_, ?_, ?_, ?_⟩
  · intro cell member
    obtain rfl := List.mem_singleton.mp member
    subst here
    refine names_of_bookings ?_
    split at named
    · exact Or.inr named
    · exact Or.inl named
  · rintro _ _ _ ⟨⟩
  · rintro _ _ _ _ ⟨⟩
    exact here
  · rintro _ _ _ ⟨⟩
  · rintro _ _ ⟨⟩
    exact named

theorem warrants_sagaCancel (simulateFailure : Bool) :
    Warrants good (Grounded good env entropy (.relocateBooking id dto)) (fun _ => True)
      (BookingsService.sagaCancel env id simulateFailure) := by
  unfold BookingsService.sagaCancel
  split
  · trivial
  · refine Program.honours_bind (warrants_run (warrants_done (Issued.sagaCancel.withdraws rfl (if_neg (by decide)).symm)))
      fun count _ => ?_
    split <;> trivial

theorem warrants_compensate {createdId : Text}
    (made : createdId = dto.newId entropy) :
    Warrants good (Grounded good env entropy (.relocateBooking id dto)) (fun _ => True)
      (BookingsService.compensate env (env.router.forKey dto.roomId) createdId) := by
  refine Program.honours_bind
    (warrants_attempt (warrants_run (warrants_done (Issued.compensate.withdraws ?_ ?_)))) fun reply _ => ?_
  · rw [made, RelocateBookingDto.newId, ShardRouter.forKey_childId]
  · exact made
  · cases reply <;> trivial

theorem warrants_sagaConfirm {createdId : Text} {status : BookingStatus} (told : good status)
    (active : status ∈ activeStatuses) (otherShard : env.router.forKey id ≠ env.router.forKey dto.roomId)
    (made : createdId = dto.newId entropy) :
    Warrants good (Grounded good env entropy (.relocateBooking id dto)) (fun _ => True)
      (BookingsService.sagaConfirm env (env.router.forKey dto.roomId) createdId status) := by
  have here : env.router.forKey createdId = env.router.forKey dto.roomId := by
    rw [made, RelocateBookingDto.newId, ShardRouter.forKey_childId]
  refine warrants_run (warrants_done ⟨.sagaConfirm active otherShard, ?_, ?_, ?_, ?_, ?_⟩)
  · intro cell member
    obtain rfl := List.mem_singleton.mp member
    rw [← here]
    exact names_of_bookings (Or.inr made)
  · rintro _ _ _ ⟨⟩
    exact ⟨here, Or.inr told⟩
  · rintro _ _ _ _ ⟨⟩
  · rintro _ _ _ ⟨⟩
  · rintro _ _ ⟨⟩
    exact made

theorem warrants_relocateSaga {original : Booking} (active : original.Active)
    (told : good original.status) (otherShard : env.router.forKey id ≠ env.router.forKey dto.roomId)
    (simulateFailure : Bool) :
    Warrants good (Grounded good env entropy (.relocateBooking id dto)) (fun _ => True)
      (BookingsService.relocateSaga env entropy dto.roomId id original simulateFailure) := by
  refine Program.honours_bind
    (Program.honours_recover (warrants_sagaReserve active) fun _ => trivial) fun created made => ?_
  refine Program.honours_bind (warrants_attempt (warrants_sagaCancel simulateFailure)) fun outcome _ => ?_
  cases outcome with
  | error error =>
    refine Program.honours_bind (warrants_compensate made) fun _ _ => ?_
    exact Program.honours_bind warrants_invalidateSearch fun _ _ => trivial
  | ok _ =>
    refine Program.honours_bind (warrants_sagaConfirm told active otherShard made) fun _ _ => ?_
    exact Program.honours_bind warrants_invalidateSearch fun _ _ => trivial

theorem warrants_relocate : Warrants good (Grounded good env entropy (.relocateBooking id dto))
    (fun _ => True) (BookingsService.relocate env entropy id dto) := by
  unfold BookingsService.relocate
  split
  · trivial
  · refine Program.honours_bind warrants_findLocal fun original told => ?_
    split
    · trivial
    · next active =>
      split
      · trivial
      · split
        · next sameShard => exact warrants_relocateLocally (not_not.mp active) told sameShard
        · next otherShard => exact warrants_relocateSaga (not_not.mp active) told otherShard _

end Relocation

/-- Every call issues grounded commands as long as the databases tell it rows that are. -/
theorem warrants_program (good : BookingStatus → Prop) (env : Env n) (call : Call n) :
    Warrants good (Grounded good env call.entropy call.request) (fun _ => True) (call.program env) := by
  by_cases relocates : ∃ id dto, call.request = .relocateBooking id dto
  · obtain ⟨request, entropy, schedule⟩ := call
    obtain ⟨id, dto, rfl⟩ := relocates
    exact Program.honours_bind warrants_relocate fun _ _ => trivial
  · refine (Issued.uses_program env call).honours fun cmd issued => issued.grounded ?_
    intro id dto same
    exact relocates ⟨id, dto, same⟩

/-- The call of the client grounds the command. -/
def GroundedBy (good : BookingStatus → Prop) (env : Env n) (calls : List (Call n)) (client : Nat)
    (cmd : Cmd n) : Prop :=
  ∃ call, calls[client]? = some call ∧ Grounded good env call.entropy call.request cmd

theorem clients_honours {calls : List (Call n)} {world : World n} {holds : World n → Prop}
    (initial : holds world) :
    (clients env world calls).Honours (Told good) (GroundedBy good env calls) holds := by
  refine ⟨initial, ?_⟩
  intro i program found
  rw [clients, List.getElem?_map] at found
  obtain ⟨call, listed, rfl⟩ := Option.map_eq_some_iff.mp found
  exact (warrants_program good env call).weaken fun cmd grounded => ⟨call, listed, grounded⟩

end HotelBooking
