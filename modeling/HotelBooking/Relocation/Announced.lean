import HotelBooking.Invariants.CachedSearch
import HotelBooking.Invariants.SearchKeys
import HotelBooking.Relocation.Atomicity

/-! Which commits of a relocation are followed by an increment of the search version, whichever of
its steps fail. -/
namespace HotelBooking
open Relational Effect
variable {n : Nat} {env : Env n} {world last : World n} {attempts first rest : Attempts n}

/-- Some search finds other rooms. -/
def AltersSearch (env : Env n) (before after : World n) : Prop :=
  ∃ (dto : SearchRoomDto) (checkIn checkOut : Instant),
    env.platform.newDate dto.checkIn = some checkIn ∧
    env.platform.newDate dto.checkOut = some checkOut ∧
    before.found env (RoomsService.searchFilter env.platform dto) checkIn checkOut ≠
      after.found env (RoomsService.searchFilter env.platform dto) checkIn checkOut

abbrev Attempted (n : Nat) : Type := Attempt (signature n) Err (World n)

/-- What the command committed shows in some search. -/
def Alters (env : Env n) (attempt : Attempted n) : Prop :=
  AltersSearch env attempt.before (attempt.after World.exec)

/-- Statements fail with or without their effect; an aborted transaction (P2034) has had none. Redis
answers. -/
def CommitFaults : Policy (signature n) Err (World n) := fun _ cmd fault =>
  match cmd with
  | .cache _ => fault = .none
  | _ => ∀ error, fault = .lost error → error.isSerialization = false

def Cmd.isIncr : Cmd n → Bool
  | .cache .incr => true
  | _ => false

/-- Every commit that shows in some search is followed by an increment of the version. -/
def Announced (env : Env n) (attempts : Attempts n) : Prop :=
  ∀ early attempt late, attempts = early ++ attempt :: late → Alters env attempt →
    ∃ bump ∈ late, bump.cmd = .cache .incr

/-- T1 or the local transaction took effect, and its reply was lost. -/
def LostCommit (attempt : Attempted n) : Prop :=
  attempt.cmd.isTransaction = true ∧ attempt.fault.isLost = true

/-- T3 reported an error. -/
def Unconfirmed (attempts : Attempts n) : Prop :=
  ∃ attempt ∈ attempts, attempt.cmd.isConfirm = true ∧ ∃ error, attempt.reply World.exec = .error error

/-- What keeps a commit from being announced: no Redis, a T1 or local transaction whose reply is lost,
or a T3 that fails. -/
def Unsignalled (env : Env n) (attempts : Attempts n) (attempt : Attempted n) : Prop :=
  env.redisConfigured = false ∨ LostCommit attempt ∨ Unconfirmed attempts

/-- Some commit shows in a search and is kept from being announced. -/
def Unannounced (env : Env n) (attempts : Attempts n) : Prop :=
  ∃ attempt ∈ attempts, Alters env attempt ∧ Unsignalled env attempts attempt

theorem not_alters {attempt : Attempted n} (same : attempt.after World.exec = attempt.before) :
    ¬ Alters env attempt := by
  rintro ⟨dto, checkIn, checkOut, _, _, differs⟩
  rw [same] at differs
  exact differs rfl

/-- A command to Redis changes no rows. -/
theorem not_alters_cache {attempt : Attempted n} {cmd : CacheCmd} (cached : attempt.cmd = .cache cmd) :
    ¬ Alters env attempt := by
  obtain ⟨before, command, fault⟩ := attempt
  subst cached
  have shards : (fault.apply World.exec (.cache cmd) before).2.shards = before.shards := by
    cases fault <;> rfl
  rintro ⟨dto, checkIn, checkOut, _, _, differs⟩
  apply differs
  unfold World.found Attempt.after
  rw [shards]

/-- The courses that a relocation takes: it ends with an increment and has lost no commit, or it
makes none. -/
inductive Course (env : Env n) : Attempts n → Prop where
  | bumped {body : Attempts n} {bump : Attempted n} : env.redisConfigured = true →
      bump.cmd = .cache .incr → (∀ attempt ∈ body, ¬ LostCommit attempt) → ¬ Unconfirmed body → Course env (body ++ [bump])
  | silent {attempts : Attempts n} : (∀ attempt ∈ attempts, attempt.cmd.isIncr = false) →
      (∀ attempt ∈ attempts, Alters env attempt → Unsignalled env attempts attempt) →
      Course env attempts

theorem unconfirmed_append :
    Unconfirmed (first ++ rest) ↔ Unconfirmed first ∨ Unconfirmed rest := by
  simp only [Unconfirmed, List.mem_append, or_and_right, exists_or]

theorem Course.announced_iff (course : Course env attempts) :
    Announced env attempts ↔ ¬ Unannounced env attempts := by
  cases course with
  | @bumped body bump configured incr sound confirmed =>
    have quiet : ¬ Alters env bump := not_alters_cache incr
    apply iff_of_true
    · intro early attempt late split alters
      rcases List.eq_nil_or_concat late with rfl | ⟨late, final, rfl⟩
      · obtain ⟨_, same⟩ := List.append_inj' split rfl
        obtain rfl := List.singleton_inj.mp same
        exact absurd alters quiet
      · have longer : body ++ [bump] = (early ++ attempt :: late) ++ [final] := by simpa using split
        obtain rfl := List.singleton_inj.mp (List.append_inj' longer rfl).2
        exact ⟨bump, by simp, incr⟩
    · rintro ⟨attempt, member, alters, cause⟩
      rcases List.mem_append.mp member with inside | final
      · rcases cause with none | lost | unconfirmed
        · rw [configured] at none
          cases none
        · exact sound attempt inside lost
        · rcases unconfirmed_append.mp unconfirmed with before | ⟨other, final, confirm, _⟩
          · exact confirmed before
          · obtain rfl := List.mem_singleton.mp final
            rw [incr] at confirm
            cases confirm
      · obtain rfl := List.mem_singleton.mp final
        exact quiet alters
  | silent none causes =>
    constructor
    · rintro announced ⟨attempt, member, alters, _⟩
      obtain ⟨early, late, split⟩ := List.append_of_mem member
      obtain ⟨bump, later, incr⟩ := announced early attempt late split alters
      have unbumped := none bump (split ▸ List.mem_append_right _ (List.mem_cons_of_mem _ later))
      rw [incr] at unbumped
      cases unbumped
    · intro sound early attempt late split alters
      have member : attempt ∈ attempts := split ▸ List.mem_append_right _ List.mem_cons_self
      exact absurd ⟨attempt, member, alters, causes attempt member alters⟩ sound

/-- What the attempts of a program are after a value, and after an error. -/
def Ends (ok : α → Attempts n → Prop) (fails : Attempts n → Prop) :
    Attempts n → Except Err α → World n → Prop := fun attempts result _ =>
  match result with
  | .ok value => ok value attempts
  | .error _ => fails attempts

section Ends
variable {ok : α → Attempts n → Prop} {fails : Attempts n → Prop}

theorem ends_value {value : α} (here : ok value []) :
    (Program.ret value : Async n α).Ensures World.exec CommitFaults (Ends ok fails) world :=
  Program.ensures_ret here

theorem ends_error {error : Err} (here : fails []) :
    (Program.raise error : Async n α).Ensures World.exec CommitFaults (Ends ok fails) world :=
  Program.ensures_raise here

theorem ends_run {router : ShardRouter n} {i : Fin n} {body : Async n α}
    (inner : body.Ensures World.exec CommitFaults (Ends ok fails) world) :
    (router.run i body).Ensures World.exec CommitFaults (Ends ok fails) world := by
  refine Program.ensures_recover inner ?_ ?_
  · intro attempts error mid failed
    split
    · apply Program.ensures_raise
      rw [List.append_nil]
      exact failed
    · apply Program.ensures_raise
      rw [List.append_nil]
      exact failed
  · exact fun attempts value last done => done

theorem ends_bind {program : Async n β} {next : β → Async n α} {done : β → Attempts n → Prop}
    {failed : Attempts n → Prop}
    (head : program.Ensures World.exec CommitFaults (Ends done failed) world)
    (tail : ∀ value first mid, done value first → (next value).Ensures World.exec CommitFaults
      (Ends (fun other rest => ok other (first ++ rest)) (fun rest => fails (first ++ rest))) mid)
    (implies : ∀ attempts, failed attempts → fails attempts) :
    (program.bind next).Ensures World.exec CommitFaults (Ends ok fails) world := by
  refine Program.ensures_bind head ?_ fun attempts error last => implies attempts
  intro first value mid here
  refine (tail value first mid here).mono fun rest result last ended => ?_
  cases result with
  | ok value => exact ended
  | error error => exact ended

theorem ends_attempt {program : Async n α} (inner : program.Ensures World.exec CommitFaults
      (Ends ok fails) world) :
    (attempt program).Ensures World.exec CommitFaults (Ends (fun reply attempts =>
      match reply with
      | .ok value => ok value attempts
      | .error _ => fails attempts) fun _ => False) world := by
  intro attempts result last runs
  obtain ⟨reply, body, rfl⟩ := runs_attempt runs
  exact inner _ _ _ body

end Ends

/-- The transactions before a value: no reply is lost. -/
def Committed (attempts : Attempts n) : Prop :=
  ∀ made ∈ attempts, made.cmd.isTransaction = true ∧ made.fault.isLost = false

/-- The transactions before an error: what shows in a search was committed by a lost one. -/
def Rejected (env : Env n) (attempts : Attempts n) : Prop :=
  ∀ made ∈ attempts, made.cmd.isTransaction = true ∧ (Alters env made → made.fault.isLost = true)

/-- One transaction under any fault. -/
def Single (env : Env n) (attempts : Attempts n) (result : Except Err α) (_last : World n) : Prop :=
  ∃ made : Attempted n, attempts = [made] ∧ made.cmd.isTransaction = true ∧
    match result with
    | .ok _ => made.fault.isLost = false
    | .error error => (Alters env made → made.fault.isLost = true) ∧
      (error.isSerialization = true → made.fault.isLost = false)

theorem transaction_single (env : Env n) {shard : Fin n} {stmt : Stmt}
    (transaction : (Cmd.shard shard stmt).isTransaction = true) :
    (issue (.shard shard stmt)).Ensures World.exec CommitFaults (Single env) world := by
  refine ensures_issue (.shard shard stmt) _ fun fault permitted => ⟨_, rfl, transaction, ?_⟩
  cases fault with
  | none =>
    unfold Fault.apply
    dsimp only
    cases done : stmt.exec (world.shards shard) with
    | ok made =>
      obtain ⟨answer, tables⟩ := made
      rw [World.exec_shard_ok done]
      rfl
    | error error =>
      have unchanged := World.exec_shard_error done
      rw [unchanged]
      exact ⟨fun alters => absurd alters (not_alters (congrArg Prod.snd unchanged)), fun _ => rfl⟩
  | refused error => exact ⟨fun alters => absurd alters (not_alters rfl), fun _ => rfl⟩
  | lost error =>
    refine ⟨fun _ => rfl, fun serialization => ?_⟩
    rw [permitted error rfl] at serialization
    cases serialization

/-- A transaction that is tried again. -/
theorem serializable_ends {Answer : Type} {issued : Nat → Async n Answer} (env : Env n)
    (single : ∀ k (world : World n), (issued k).Ensures World.exec CommitFaults (Single env) world)
    (attempt left : Nat) :
    (BookingsService.serializableFrom issued attempt left).Ensures World.exec CommitFaults
      (Ends (fun _ => Committed) (Rejected env)) world := by
  have thrown {made : Attempted n} {other : Err} {mid : World n}
      (transaction : made.cmd.isTransaction = true)
      (alters : Alters env made → made.fault.isLost = true) :
      (Program.raise other : Async n Answer).Ensures World.exec CommitFaults
        (fun rest => Ends (fun _ => Committed) (Rejected env) ([made] ++ rest)) mid := by
    refine Program.ensures_raise fun given member => ?_
    obtain rfl := List.mem_singleton.mp member
    exact ⟨transaction, alters⟩
  have returned : ∀ (attempts : Attempts n) (value : Answer) (last : World n),
      Single env attempts (.ok value) last → Ends (fun _ => Committed) (Rejected env) attempts
        (.ok value) last := by
    rintro _ value last ⟨made, rfl, transaction, kept⟩ given member
    obtain rfl := List.mem_singleton.mp member
    exact ⟨transaction, kept⟩
  induction left generalizing attempt world with
  | zero =>
    refine Program.ensures_recover (single attempt world) ?_ returned
    rintro _ error mid ⟨made, rfl, transaction, alters, aborted⟩
    split
    · exact thrown transaction alters
    · exact thrown transaction alters
  | succ left ih =>
    refine Program.ensures_recover (single attempt world) ?_ returned
    rintro _ error mid ⟨made, rfl, transaction, alters, aborted⟩
    split
    · exact thrown transaction alters
    · next serialization =>
      have kept := aborted (by simpa using serialization)
      refine (ih (attempt + 1)).mono fun rest result last ended => ?_
      cases result with
      | ok value =>
        intro given member
        rcases List.mem_cons.mp member with rfl | later
        · exact ⟨transaction, kept⟩
        · exact ended given later
      | error other =>
        intro given member
        rcases List.mem_cons.mp member with rfl | later
        · exact ⟨transaction, alters⟩
        · exact ended given later

/-- A step that is neither a transaction, nor T3, nor an increment. -/
def Attempted.Plain (attempt : Attempted n) : Prop :=
  attempt.cmd.isTransaction = false ∧ attempt.cmd.isConfirm = false ∧ attempt.cmd.isIncr = false

/-- The attempts of reads. -/
def Reading (env : Env n) (attempts : Attempts n) : Prop :=
  ∀ attempt ∈ attempts, Attempted.Plain attempt ∧ ¬ Alters env attempt

theorem read_ends (env : Env n) {router : ShardRouter n} {shard : Fin n} {stmt : Stmt}
    (read : stmt.isRead = true) (plain : (Cmd.shard shard stmt).isTransaction = false ∧
      (Cmd.shard shard stmt).isConfirm = false) :
    (router.read shard stmt).Ensures World.exec CommitFaults
      (Ends (fun _ => Reading env) (Reading env)) world := by
  refine ends_run (ensures_issue (.shard shard stmt) _ fun fault _ => ?_)
  have unchanged : (fault.apply World.exec (.shard shard stmt) world).2 = world := by
    rcases fault.apply_state World.exec (.shard shard stmt) world with executed | kept
    · rw [executed, exec_isRead read]
    · exact kept
  have reading : Reading env [⟨world, .shard shard stmt, fault⟩] := by
    intro attempt member
    obtain rfl := List.mem_singleton.mp member
    exact ⟨⟨plain.1, plain.2, rfl⟩, not_alters unchanged⟩
  cases (fault.apply World.exec (.shard shard stmt) world).1 with
  | ok value => exact reading
  | error error => exact reading

theorem findLocal_ends (env : Env n) (id : Text) :
    (BookingsService.findLocal env id).Ensures World.exec CommitFaults
      (Ends (fun _ => Reading env) (Reading env)) world := by
  refine ends_bind (read_ends env rfl ⟨rfl, rfl⟩) ?_ fun attempts reading => reading
  intro found first mid reading
  split
  · apply ends_value
    rwa [List.append_nil]
  · apply ends_error
    rwa [List.append_nil]

/-- Attempts among which no commit is lost, and no increment. -/
def Silent (attempts : Attempts n) : Prop :=
  ∀ attempt ∈ attempts, ¬ LostCommit attempt ∧ attempt.cmd.isIncr = false

/-- Besides, no T3 among them failed. -/
def Heard (attempts : Attempts n) : Prop := Silent attempts ∧ ¬ Unconfirmed attempts

/-- Attempts among which no commit is lost, no T3 and no increment. -/
def Sound (attempts : Attempts n) : Prop :=
  ∀ attempt ∈ attempts, ¬ LostCommit attempt ∧ attempt.cmd.isConfirm = false ∧
    attempt.cmd.isIncr = false

theorem Sound.append (early : Sound first) (late : Sound rest) : Sound (first ++ rest) :=
  fun attempt member => (List.mem_append.mp member).elim (early attempt) (late attempt)

theorem Silent.append (early : Silent first) (late : Silent rest) : Silent (first ++ rest) :=
  fun attempt member => (List.mem_append.mp member).elim (early attempt) (late attempt)

theorem Sound.silent (sound : Sound attempts) : Silent attempts :=
  fun attempt member => ⟨(sound attempt member).1, (sound attempt member).2.2⟩

theorem Sound.confirmed (sound : Sound attempts) : Heard attempts := by
  refine ⟨sound.silent, ?_⟩
  rintro ⟨attempt, member, confirm, _⟩
  rw [(sound attempt member).2.1] at confirm
  cases confirm

theorem Heard.append (early : Heard first) (late : Heard rest) :
    Heard (first ++ rest) :=
  ⟨early.1.append late.1, fun failed => (unconfirmed_append.mp failed).elim early.2 late.2⟩

theorem Attempted.Plain.sound {attempt : Attempted n} (plain : Attempted.Plain attempt) :
    ¬ LostCommit attempt ∧ attempt.cmd.isConfirm = false ∧ attempt.cmd.isIncr = false := by
  refine ⟨?_, plain.2⟩
  rintro ⟨transaction, _⟩
  rw [plain.1] at transaction
  cases transaction

theorem Reading.sound (reading : Reading env attempts) : Sound attempts :=
  fun attempt member => Attempted.Plain.sound (reading attempt member).1

theorem transaction_plain {cmd : Cmd n} (transaction : cmd.isTransaction = true) :
    cmd.isConfirm = false ∧ cmd.isIncr = false := by
  cases cmd with
  | shard i stmt => cases stmt <;> first | exact ⟨rfl, rfl⟩ | cases transaction
  | guests | cache => cases transaction

theorem Committed.sound (committed : Committed attempts) : Sound attempts := by
  intro attempt member
  obtain ⟨transaction, kept⟩ := committed attempt member
  refine ⟨?_, transaction_plain transaction⟩
  rintro ⟨_, lost⟩
  rw [kept] at lost
  cases lost

/-- A read ends the request without a commit. -/
theorem Reading.course (reading : Reading env attempts) : Course env attempts :=
  .silent (fun attempt member => (reading attempt member).1.2.2)
    fun attempt member alters => absurd alters (reading attempt member).2

/-- A transaction that is not known to have committed ends the request. -/
theorem Rejected.course (reading : Reading env first) (rejected : Rejected env rest) :
    Course env (first ++ rest) := by
  refine .silent (fun attempt member => ?_) fun attempt member alters => ?_
  · rcases List.mem_append.mp member with before | after
    · exact (reading attempt before).1.2.2
    · exact (transaction_plain (rejected attempt after).1).2
  · rcases List.mem_append.mp member with before | after
    · exact absurd alters (reading attempt before).2
    · exact .inr (.inl ⟨(rejected attempt after).1, (rejected attempt after).2 alters⟩)

/-- A part of a request after the attempts that came before it. -/
theorem then_course {program : Async n β} {next : β → Async n α} {done : β → Attempts n → Prop}
    {failed : Attempts n → Prop} (head : program.Ensures World.exec CommitFaults (Ends done failed) world)
    (tail : ∀ value part mid, done value part → (next value).Ensures World.exec CommitFaults
      (fun rest _ _ => Course env (first ++ part ++ rest)) mid)
    (fails : ∀ part, failed part → Course env (first ++ part)) :
    (program.bind next).Ensures World.exec CommitFaults
      (fun rest _ _ => Course env (first ++ rest)) world := by
  refine Program.ensures_bind head ?_ fun attempts error last here => fails attempts here
  intro value part mid here
  refine (tail part value mid here).mono fun rest result last course => ?_
  rwa [← List.append_assoc]

section Steps
variable {shard : Fin n} {stmt : Stmt} {id : Text}

theorem step_ends {router : ShardRouter n} (plain : (Cmd.shard shard stmt).isTransaction = false ∧
      (Cmd.shard shard stmt).isConfirm = false) :
    (router.write shard stmt).Ensures World.exec CommitFaults
      (Ends (fun _ => Sound) Sound) world := by
  refine ends_run (ensures_issue (.shard shard stmt) _ fun fault _ => ?_)
  have sound : Sound [⟨world, .shard shard stmt, fault⟩] := by
    intro attempt member
    obtain rfl := List.mem_singleton.mp member
    exact Attempted.Plain.sound ⟨plain.1, plain.2, rfl⟩
  cases (fault.apply World.exec (.shard shard stmt) world).1 with
  | ok value => exact sound
  | error error => exact sound

theorem sagaCancel_ends (simulateFailure : Bool) :
    (BookingsService.sagaCancel env id simulateFailure).Ensures World.exec CommitFaults
      (Ends (fun _ => Sound) Sound) world := by
  have none : Sound ([] : Attempts n) := fun attempt member => absurd member List.not_mem_nil
  unfold BookingsService.sagaCancel
  split
  · exact ends_error none
  · refine ends_bind (step_ends ⟨rfl, rfl⟩) ?_ fun attempts sound => sound
    intro count part mid sound
    split
    · apply ends_error
      rwa [List.append_nil]
    · apply ends_value
      rwa [List.append_nil]

theorem compensate_ends (target : Fin n) (createdId : Text) :
    (BookingsService.compensate env target createdId).Ensures World.exec CommitFaults
      (Ends (fun _ => Sound) fun _ => False) world := by
  refine ends_bind (ends_attempt (step_ends ⟨rfl, rfl⟩)) ?_ fun _ never => never.elim
  intro reply part mid sound
  cases reply with
  | ok count =>
    apply ends_value
    rwa [List.append_nil]
  | error error =>
    apply ends_value
    rwa [List.append_nil]

/-- T3 after the attempts before it: the error it reports is the end of the request. -/
theorem sagaConfirm_ends (target : Fin n) (createdId : Text) (status : BookingStatus) :
    (BookingsService.sagaConfirm env target createdId status).Ensures World.exec CommitFaults
      (Ends (fun _ => Heard) fun attempts => Silent attempts ∧ Unconfirmed attempts) world := by
  refine ends_run (ensures_issue (.shard target
    (.bookingUpdate createdId { status := .value status })) _ fun fault _ => ?_)
  have silent : Silent [⟨world, .shard target (.bookingUpdate createdId { status := .value status }),
      fault⟩] := by
    intro attempt member
    obtain rfl := List.mem_singleton.mp member
    refine ⟨?_, rfl⟩
    rintro ⟨transaction, _⟩
    cases transaction
  cases replied : (fault.apply World.exec
      (.shard target (.bookingUpdate createdId { status := .value status })) world).1 with
  | ok value =>
    refine ⟨silent, ?_⟩
    rintro ⟨attempt, member, _, error, failed⟩
    obtain rfl := List.mem_singleton.mp member
    cases replied.symm.trans failed
  | error error => exact ⟨silent, _, List.mem_cons_self, rfl, error, replied⟩

theorem invalidateSearch_ends :
    (BookingsService.invalidateSearch env).Ensures World.exec CommitFaults
      (Ends (fun _ bumps => bumps.map Attempt.cmd = if env.redisConfigured then [.cache .incr] else [])
        fun _ => False) world := by
  refine bumpVersion_ensures.mono fun attempts result last bumped => ?_
  obtain ⟨rfl, _, _, commands⟩ := bumped
  exact commands

/-- The end of a request whose commits are all known: the version is incremented. -/
theorem Heard.course {bumps : Attempts n} (confirmed : Heard first)
    (commands : bumps.map Attempt.cmd = if env.redisConfigured then [.cache .incr] else []) :
    Course env (first ++ bumps) := by
  cases configured : env.redisConfigured with
  | true =>
    rw [if_pos configured] at commands
    obtain ⟨bump, rfl, incr⟩ := List.map_eq_singleton_iff.mp commands
    exact .bumped configured incr (fun attempt member => (confirmed.1 attempt member).1) confirmed.2
  | false =>
    rw [configured, if_neg Bool.false_ne_true] at commands
    obtain rfl := List.map_eq_nil_iff.mp commands
    rw [List.append_nil]
    exact .silent (fun attempt member => (confirmed.1 attempt member).2)
      fun _ _ _ => .inl configured

/-- T3 fails: no increment follows. -/
theorem Unconfirmed.course (silent : Silent attempts) (failed : Unconfirmed attempts) :
    Course env attempts :=
  .silent (fun attempt member => (silent attempt member).2) fun _ _ _ =>
    .inr (.inr failed)

end Steps

/-- After the original is cancelled or kept: T3 or the compensation, and the increment. -/
theorem relocateReserved_course (confirmed : Heard first) (id : Text) (original : Booking)
    (simulateFailure : Bool) (source target : Fin n) (created : Booking) :
    (BookingsService.relocateReserved env id original simulateFailure source target
      created).Ensures World.exec CommitFaults
      (fun rest _ _ => Course env (first ++ rest)) world := by
  refine then_course (ends_attempt (sagaCancel_ends simulateFailure)) ?_ fun _ never => never.elim
  intro reply part mid sound
  cases reply with
  | error error =>
    refine then_course (compensate_ends target created.id) ?_ fun _ never => never.elim
    intro compensation compensated next kept
    refine then_course invalidateSearch_ends ?_ fun _ never => never.elim
    intro _ bumps last commands
    apply Program.ensures_raise
    rw [List.append_nil]
    exact Heard.course ((confirmed.append (Sound.confirmed sound)).append kept.confirmed) commands
  | ok _ =>
    have cancelled := confirmed.append (Sound.confirmed sound)
    refine then_course (sagaConfirm_ends target created.id original.status) ?_ ?_
    · intro booking written next done
      refine then_course invalidateSearch_ends ?_ fun _ never => never.elim
      intro _ bumps last commands
      apply Program.ensures_ret
      rw [List.append_nil]
      exact Heard.course (cancelled.append done) commands
    · rintro written ⟨silent, failed⟩
      exact Unconfirmed.course (cancelled.1.append silent) (unconfirmed_append.mpr (.inr failed))

theorem relocateLocally_course (reading : Reading env first) (entropy : Entropy) (roomId id : Text)
    (original : Booking) :
    (BookingsService.relocateLocally env entropy roomId id original).Ensures World.exec CommitFaults
      (fun rest _ _ => Course env (first ++ rest)) world := by
  have single : ∀ k (mid : World n), (issue (.shard (env.router.forKey id) (.reserveAndCancel
      (BookingsService.relocation entropy roomId original original.status k) id))).Ensures World.exec
      CommitFaults (Single env) mid := fun _ _ => transaction_single env rfl
  refine then_course (ends_run (serializable_ends env single 1 _)) ?_
    fun _ rejected => Rejected.course reading rejected
  intro written part mid committed
  refine then_course invalidateSearch_ends ?_ fun _ never => never.elim
  intro _ bumps last commands
  apply Program.ensures_ret
  rw [List.append_nil]
  exact Heard.course (reading.sound.confirmed.append (Committed.sound committed).confirmed) commands

theorem relocateSaga_course (reading : Reading env first) (entropy : Entropy) (roomId id : Text)
    (original : Booking) (simulateFailure : Bool) :
    (BookingsService.relocateSaga env entropy roomId id original simulateFailure).Ensures World.exec
      CommitFaults (fun rest _ _ => Course env (first ++ rest)) world := by
  have single : ∀ k (mid : World n), (issue (.shard (env.router.forKey roomId) (.reserve
      (BookingsService.relocation entropy roomId original .pending k)))).Ensures World.exec
      CommitFaults (Single env) mid := fun _ _ => transaction_single env rfl
  have reserved : (BookingsService.sagaReserve env entropy roomId original).Ensures World.exec
      CommitFaults (Ends (fun _ => Committed) (Rejected env)) world :=
    ends_run (serializable_ends env single 1 _)
  refine then_course (Program.ensures_recover reserved (fun attempts error mid rejected => ?_)
    fun _ _ _ committed => committed) ?_ fun _ rejected => Rejected.course reading rejected
  · apply Program.ensures_raise
    rw [List.append_nil]
    exact rejected
  · intro created part mid committed
    exact relocateReserved_course
      (reading.sound.confirmed.append (Committed.sound committed).confirmed) id original
      simulateFailure _ _ created

theorem relocate_course (entropy : Entropy) (id : Text) (dto : RelocateBookingDto) :
    (BookingsService.relocate env entropy id dto).Ensures World.exec CommitFaults
      (fun attempts _ _ => Course env attempts) world := by
  have none : Reading env [] := fun attempt member => absurd member List.not_mem_nil
  unfold BookingsService.relocate
  split
  · exact Program.ensures_raise none.course
  · change Program.Ensures World.exec CommitFaults (fun rest _ _ => Course env ([] ++ rest)) _ world
    refine then_course (findLocal_ends env id) ?_ fun part reading => Reading.course reading
    intro original part mid reading
    have refused {error : Err} : (Program.raise error : Async n Relocation).Ensures World.exec
        CommitFaults (fun rest _ _ => Course env (part ++ rest)) mid := by
      apply Program.ensures_raise
      rw [List.append_nil]
      exact reading.course
    rw [List.nil_append]
    split
    · exact refused
    · split
      · exact refused
      · split
        · exact relocateLocally_course reading entropy dto.roomId id original
        · exact relocateSaga_course reading entropy dto.roomId id original dto.simulateFailure

/-- Whatever fails, every commit that shows in a search is announced exactly when none is kept from
it. -/
theorem relocate_announced_iff (env : Env n) (entropy : Entropy) (id : Text)
    (dto : RelocateBookingDto) (world last : World n) (attempts : Attempts n)
    (result : Except Err Relocation)
    (runs : (BookingsService.relocate env entropy id dto).Runs World.exec CommitFaults world attempts
      result last) :
    Announced env attempts ↔ ¬ Unannounced env attempts :=
  Course.announced_iff (relocate_course entropy id dto attempts result last runs)

/-- The sample booking moves to the other shard. -/
def moving : Async 2 Relocation :=
  BookingsService.relocate withRedis (.sample 7) bookedRow.id ⟨room201, false⟩

/-- The search for any room finds other rooms after the command. -/
def shows (attempt : Attempted 2) : Bool :=
  let filter := RoomsService.searchFilter withRedis.platform ⟨none, january 1, january 5, none⟩
  (attempt.before.found withRedis filter 1767225600000 1767571200000).map (fun view => view.room.id) !=
    ((attempt.after World.exec).found withRedis filter 1767225600000 1767571200000).map
      fun view => view.room.id

theorem alters_of_shows {attempt : Attempted 2} (shown : shows attempt = true) :
    Alters withRedis attempt := by
  refine ⟨⟨none, january 1, january 5, none⟩, 1767225600000, 1767571200000, rfl, rfl, fun same => ?_⟩
  unfold shows at shown
  dsimp only at shown
  rw [same, bne_self_eq_false] at shown
  cases shown

theorem CleanFailures.commitFaults {cmd : Cmd n} {fault : Fault Err}
    (permitted : CleanFailures world cmd fault) : CommitFaults world cmd fault := by
  cases permitted with
  | answered =>
    cases cmd with
    | shard | guests => exact fun error lost => by cases lost
    | cache => rfl
  | refused step =>
    cases cmd with
    | shard => exact fun error lost => by cases lost
    | guests | cache => cases step

/-- T3 is refused: the reservation of T1 shows in a search, and no increment follows it. -/
theorem relocate_unannounced : ∃ attempts result last,
    moving.Runs World.exec CommitFaults booked attempts result last ∧
    ¬ Announced withRedis attempts := by
  have refused : ∀ attempt ∈ (moving.replay World.exec
      [.none, .none, .none, .refused (.db .connection)] booked).1,
      CleanFailures attempt.before attempt.cmd attempt.fault ∧ attempt.cmd.isIncr = false := by
    decide +kernel
  have shown : ∃ attempt ∈ (moving.replay World.exec
      [.none, .none, .none, .refused (.db .connection)] booked).1, shows attempt = true := by
    decide +kernel
  obtain ⟨attempt, member, alters⟩ := shown
  obtain ⟨early, late, split⟩ := List.append_of_mem member
  refine ⟨_, _, _, Program.runs_replay fun made given => (refused made given).1.commitFaults,
    fun announced => ?_⟩
  obtain ⟨bump, later, incr⟩ := announced early attempt late split (alters_of_shows alters)
  have unbumped := (refused bump (split ▸ List.mem_append_right _
    (List.mem_cons_of_mem _ later))).2
  rw [incr] at unbumped
  cases unbumped

/-- Nothing fails. -/
theorem relocate_announced : ∃ attempts result last,
    moving.Runs World.exec CommitFaults booked attempts result last ∧
    (∃ attempt ∈ attempts, Alters withRedis attempt) ∧ Announced withRedis attempts := by
  have clear := Program.replay_faultless World.exec moving booked
  have shown : ∃ attempt ∈ (moving.replay World.exec [] booked).1, shows attempt = true := by
    decide +kernel
  have confirmed : ∀ attempt ∈ (moving.replay World.exec [] booked).1,
      attempt.cmd.isConfirm = true → (attempt.reply World.exec).toOption.isSome = true := by
    decide +kernel
  have runs : moving.Runs World.exec CommitFaults booked _ _ _ :=
    Program.runs_replay fun made given => by
      rw [clear made given]
      exact CleanFailures.answered.commitFaults
  obtain ⟨attempt, member, alters⟩ := shown
  refine ⟨_, _, _, runs, ⟨attempt, member, alters_of_shows alters⟩,
    (relocate_announced_iff _ _ _ _ _ _ _ _ runs).mpr ?_⟩
  rintro ⟨made, given, _, none | ⟨_, lost⟩ | ⟨other, among, confirm, error, failed⟩⟩
  · cases none
  · rw [clear made given] at lost
    cases lost
  · have reported := confirmed other among confirm
    rw [failed] at reported
    cases reported

end HotelBooking
