import HotelBooking.Effect.Accounting
import HotelBooking.Services.RoutedReads
import HotelBooking.Services.Protocols
import HotelBooking.Database.StatementErrors

/-! Where the errors of a request come from. An error is a verdict of the service, or an error
that one of its own commands met: a lost connection as the 503 that names the shard, anything
else as it is, and inside a saga with the steps of the saga. Redis is never a reason. -/
namespace HotelBooking
open Effect
variable {n : Nat}

/-- What the services decide by themselves. -/
def Err.Verdict : Err → Prop
  | .http status _ => status ∈ [400, 404, 409]
  | .plain _ => True
  | .saga .. | .db _ | .redis _ => False

/-- What `run` makes of an error of its shard. -/
def ShardRouter.convert (router : ShardRouter n) (i : Fin n) (error : Err) : Err :=
  if error.isConnection then .serviceUnavailable (text "Шард " ++ router.name i ++
    text " недоступний: дані інших шардів продовжують обслуговуватися")
  else error

/-- What `DbRouter.read` and `DbRouter.write` say when no node answers. -/
def nodeMessages : List Text :=
  [text "Primary Node недоступний: строго узгоджене читання неможливе",
    text "Жоден вузол БД недоступний",
    text "Primary Node недоступний: операції запису тимчасово заблоковані, читання каталогу доступне"]

/-- The error is what the routers make of this reply. -/
def Conveyed (router : ShardRouter n) : (cmd : Cmd n) → Except Err cmd.Answer → Err → Prop
  | .shard i _, .error error, conveyed => conveyed = router.convert i error
  | .guests _, .error error, conveyed => if error.isConnection then
      ∃ message ∈ nodeMessages, conveyed = .serviceUnavailable message
    else conveyed = error
  | _, _, _ => False

@[simp] theorem conveyed_guests {router : ShardRouter n} {stmt : GuestStmt} {error conveyed : Err} :
    Conveyed router (.guests stmt) (.error error) conveyed ↔ if error.isConnection then
      ∃ message ∈ nodeMessages, conveyed = .serviceUnavailable message else conveyed = error :=
  Iff.rfl

/-- The error as it is, or the abortion of a saga that met it. -/
def Err.Wraps (outer inner : Err) : Prop :=
  outer = inner ∨ ∃ steps source target, outer = BookingsService.sagaAborted steps inner source target

/-- The error that a request answers is due to this reply to one of its commands. -/
def Due (router : ShardRouter n) (cmd : Cmd n) (reply : Except Err cmd.Answer) (error : Err) : Prop :=
  ∃ conveyed, Conveyed router cmd reply conveyed ∧ error.Wraps conveyed

/-- The decision of a service, also as the reason of an aborted saga. -/
def Err.Decided (error : Err) : Prop := ∃ verdict : Err, verdict.Verdict ∧ error.Wraps verdict

section Combinators
variable {router : ShardRouter n} {i : Fin n} {verdict : Err → Prop} {carried : α → Err → Prop}
  {excuses : (cmd : Cmd n) → Except Err cmd.Answer → Err → Prop}

/-- The errors of the program are verdicts or conveyed from its own commands. -/
abbrev Conveys (router : ShardRouter n) (verdict : Err → Prop) (program : Async n α) : Prop :=
  program.Excused (Conveyed router) verdict fun _ _ => False

/-- The error that the shard replied, before `run` has seen it. -/
def Raised (i : Fin n) (cmd : Cmd n) (reply : Except Err cmd.Answer) (error : Err) : Prop :=
  (∃ stmt, cmd = .shard i stmt) ∧ reply = .error error

theorem run_eq (body : Async n α) :
    router.run i body = body.recover fun error => .raise (router.convert i error) := by
  unfold ShardRouter.run
  rw [Program.tryCatch_eq]
  congr 1
  funext error
  unfold ShardRouter.convert
  split <;> rfl

/-- The errors on one shard, as `run` lets them out. -/
theorem conveys_run {body : Async n α}
    (raised : body.Excused (Raised i) verdict fun _ _ => False)
    (calm : ∀ error, verdict error → error.isConnection = false) :
    Conveys router verdict (router.run i body) := by
  rw [run_eq]
  refine Program.excused_convert (router.convert i) raised ?_ ?_
  · rintro _ _ error ⟨⟨stmt, rfl⟩, rfl⟩
    exact rfl
  · intro error due
    rw [ShardRouter.convert, if_neg (by simp [calm error due])]
    exact due

theorem raised_issue {stmt : Stmt} :
    (issue (.shard i stmt)).Excused (Raised i) verdict fun _ _ => False :=
  Program.excused_perform fun _ => ⟨⟨stmt, rfl⟩, rfl⟩

theorem Err.Verdict.calm {error : Err} (due : error.Verdict) : error.isConnection = false := by
  cases error with
  | db error => exact due.elim
  | saga status message source target steps => exact due.elim
  | http | plain | redis => rfl

theorem conveys_read {stmt : Stmt} : Conveys router Err.Verdict (router.read i stmt) :=
  conveys_run raised_issue fun _ due => due.calm

theorem conveys_write {stmt : Stmt} : Conveys router Err.Verdict (router.write i stmt) :=
  conveys_read

theorem raised_serializable {transaction : Nat → Async n α}
    (raised : ∀ k, (transaction k).Excused excuses Err.Verdict fun _ _ => False) :
    (BookingsService.serializable transaction).Excused excuses Err.Verdict fun _ _ => False := by
  have loop : ∀ remaining attempt, (BookingsService.serializableFrom transaction attempt
      remaining).Excused excuses Err.Verdict fun _ _ => False := by
    intro remaining
    induction remaining with
    | zero =>
      refine fun attempt => Program.excused_recover (raised attempt) fun error => ?_
      split
      · exact Program.excused_raise (Or.inr rfl)
      · exact Program.excused_raise (Or.inl (by decide : 409 ∈ [400, 404, 409]))
    | succ remaining ih =>
      refine fun attempt => Program.excused_recover (raised attempt) fun error => ?_
      split
      · exact Program.excused_raise (Or.inr rfl)
      · exact (ih (attempt + 1)).widen fun _ => Or.inl
  exact loop _ _

/-- What fails under `attempt` is a value; nothing is raised. -/
theorem excused_attempt {program : Async n α} : (attempt program).Excused excuses verdict
    fun _ _ => False := by
  have along : ∀ (program : Async n α) (before after : Err → Prop),
      (∀ error, before error → after error) → (attempt program).Obeys (.excusing excuses)
        (Program.Settles (fun _ _ => False) before) after := by
    intro program before
    induction program with
    | ret value => exact fun after kept => ⟨kept, fun _ => False.elim⟩
    | raise error => exact fun after kept => ⟨kept, fun _ => False.elim⟩
    | call cmd next ih =>
      exact fun after kept => ⟨trivial, fun reply => ih reply _ fun error here => Or.inl (kept error here)⟩
  exact fun before _ => along program before before fun _ here => here

/-- The error under `attempt`, for who raises it again. -/
theorem carried_attempt {program : Async n α} (raised : program.Excused excuses verdict fun _ _ => False) :
    (attempt program).Excused excuses verdict fun outcome error => outcome = .error error := by
  have body : (program.bind fun value => .ret (.ok value) : Async n (Except Err α)).Excused excuses
      verdict fun outcome error => outcome = .error error :=
    Program.excused_then raised fun value => Program.excused_ret nofun
  refine Program.excused_recover body fun error => Program.excused_ret ?_
  rintro other ⟨⟩
  exact Or.inr rfl

theorem conveys_node {stmt : GuestStmt} {message : Text} (listed : message ∈ nodeMessages) :
    Conveys router Err.Verdict ((issue (.guests stmt) : Async n stmt.Answer).recover fun error =>
      if error.isConnection then .raise (.serviceUnavailable message) else .raise error) := by
  let convert (error : Err) : Err :=
    if error.isConnection then .serviceUnavailable message else error
  have same : (fun error : Err => if error.isConnection then
      (.raise (.serviceUnavailable message) : Async n stmt.Answer) else .raise error) =
      fun error => .raise (convert error) := by
    funext error
    simp only [convert]
    split <;> rfl
  have raised : (issue (.guests stmt) : Async n stmt.Answer).Excused (fun cmd reply error =>
      cmd = (Cmd.guests stmt : Cmd n) ∧ reply = .error error) Err.Verdict fun _ _ => False :=
    Program.excused_perform fun _ => ⟨rfl, rfl⟩
  rw [same]
  refine Program.excused_convert convert raised ?_ ?_
  · rintro _ _ error ⟨rfl, rfl⟩
    rw [conveyed_guests]
    simp only [convert]
    split
    · exact ⟨message, listed, rfl⟩
    · rfl
  · intro error due
    simp only [convert, due.calm, Bool.false_eq_true, if_false]
    exact due

theorem conveys_globalRead {stmt : GuestStmt} {consistency : Consistency} :
    Conveys router Err.Verdict (globalRead stmt consistency : Async n stmt.Answer) := by
  unfold globalRead
  split
  · exact conveys_node (by simp [nodeMessages])
  · exact conveys_node (by simp [nodeMessages])

theorem conveys_globalWrite {stmt : GuestStmt} :
    Conveys router Err.Verdict (globalWrite stmt : Async n stmt.Answer) :=
  conveys_node (by simp [nodeMessages])

/-- The settled reads carry their errors along. -/
theorem carried_settle {stmt : Stmt} (order : List (Fin n)) :
    (router.settle stmt order).Excused (Conveyed router) Err.Verdict
      fun settled error => ∃ i, (i, .error error) ∈ settled := by
  induction order with
  | nil => exact Program.excused_ret fun error ⟨i, member⟩ => absurd member List.not_mem_nil
  | cons i rest ih =>
    refine Program.excused_bind (carried_attempt conveys_read) fun outcome => ?_
    refine Program.excused_bind (ih.widen fun _ => Or.inl) fun others => Program.excused_ret ?_
    rintro error ⟨j, member⟩
    rcases List.mem_cons.mp member with same | later
    · exact Or.inl (Or.inr (congrArg Prod.snd same).symm)
    · exact Or.inr ⟨j, later⟩

theorem gather_error {settled : List (Fin n × Except Err α)} {allowPartial : Bool} {error : Err} :
    ∀ shards : List (Fin n), ShardRouter.gather allowPartial settled shards = .error error →
      allowPartial = false ∧ ∃ i, (i, .error error) ∈ settled := by
  intro shards
  induction shards with
  | nil => nofun
  | cons i rest ih =>
    intro failed
    unfold ShardRouter.gather at failed
    split at failed
    · cases others : ShardRouter.gather allowPartial settled rest with
      | error other =>
        rw [others] at failed
        cases failed
        exact ih others
      | ok result =>
        rw [others] at failed
        cases failed
    · next raised found =>
      cases allowPartial with
      | false =>
        cases failed
        exact ⟨rfl, _, List.mem_of_find?_eq_some found⟩
      | true =>
        cases others : ShardRouter.gather true settled rest with
        | error other =>
          rw [others] at failed
          cases failed
          exact ih others
        | ok result =>
          rw [others] at failed
          cases failed
    · exact ih failed

theorem conveys_fanOut {schedule : Schedule n} {stmt : Stmt} {allowPartial : Bool} :
    Conveys router Err.Verdict (router.fanOut schedule stmt allowPartial) := by
  refine Program.excused_bind (carried_settle schedule.order) fun settled => ?_
  cases gathered : ShardRouter.gather allowPartial settled (List.finRange n) with
  | ok result => exact Program.excused_ret fun _ => False.elim
  | error error => exact Program.excused_raise (Or.inr (gather_error _ gathered).2)

theorem conveys_fanOutList {schedule : Schedule n} {stmt : Stmt} {rows : stmt.Answer → List α}
    {allowPartial : Bool} :
    Conveys router Err.Verdict (router.fanOutList schedule stmt rows allowPartial) :=
  Program.excused_then conveys_fanOut fun _ => Program.excused_ret fun _ => False.elim

theorem conveys_ret {value : α} : Conveys router verdict (.ret value) :=
  Program.excused_ret fun _ => False.elim

theorem conveys_http {status : Nat} {message : Text} (decided : status ∈ [400, 404, 409]) :
    Conveys router Err.Verdict (.raise (.http status message) : Async n α) :=
  Program.excused_raise decided

end Combinators

section Cache
variable {env : Env n} {verdict : Err → Prop}

theorem excused_bumpVersion {excuses : (cmd : Cmd n) → Except Err cmd.Answer → Err → Prop} :
    (CacheService.bumpVersion env).Excused excuses verdict fun _ _ => False := by
  unfold CacheService.bumpVersion
  split
  · exact Program.excused_ret fun _ => False.elim
  · exact Program.excused_then excused_attempt fun _ => Program.excused_ret fun _ => False.elim

theorem conveys_invalidate (keys : List CacheKey) :
    Conveys env.router verdict (CacheService.invalidate env keys) := by
  unfold CacheService.invalidate
  split
  · exact conveys_ret
  · exact Program.excused_then excused_attempt fun _ => conveys_ret

theorem conveys_getVersion : Conveys env.router verdict (CacheService.getVersion env) := by
  unfold CacheService.getVersion
  split
  · exact conveys_ret
  · refine Program.excused_then excused_attempt fun reply => ?_
    split <;> exact conveys_ret

/-- A read through the cache fails like its loader only. -/
theorem conveys_getOrSet {key : CacheKey} {ttl : CacheTtl} {jitter : Nat}
    {loader bypassLoader : Async n key.Value} (load : Conveys env.router verdict loader)
    (bypass : Conveys env.router verdict bypassLoader) :
    Conveys env.router verdict (CacheService.getOrSet env key ttl jitter loader bypassLoader) := by
  unfold CacheService.getOrSet
  have bypassing : Conveys env.router verdict (CacheService.bypass key bypassLoader) :=
    Program.excused_then bypass fun _ => conveys_ret
  split
  · exact bypassing
  · refine Program.excused_then excused_attempt fun reply => ?_
    split
    · exact bypassing
    · exact conveys_ret
    · exact Program.excused_then load fun _ =>
        Program.excused_then excused_attempt fun _ => conveys_ret

end Cache

section Services
variable {env : Env n} {entropy : Entropy} {id : Text}

theorem conveys_assertGuestExists {guestId : Text} :
    Conveys env.router Err.Verdict (BookingsService.assertGuestExists guestId : Async n Unit) := by
  refine Program.excused_then conveys_globalRead fun found => ?_
  cases found with
  | some guest => exact conveys_ret
  | none => exact conveys_http (by decide)

theorem conveys_attachGuests {views : List BookingView} {consistency : Consistency} :
    Conveys env.router Err.Verdict
      (BookingsService.attachGuests views consistency : Async n (List BookingWithGuest)) := by
  unfold BookingsService.attachGuests
  dsimp only
  split
  · exact conveys_ret
  · exact Program.excused_then conveys_globalRead fun _ => conveys_ret

theorem conveys_findLocal : Conveys env.router Err.Verdict (BookingsService.findLocal env id) := by
  refine Program.excused_then conveys_read fun found => ?_
  cases found with
  | some booking => exact conveys_ret
  | none => exact conveys_http (by decide)

theorem conveys_findHotel : Conveys env.router Err.Verdict (HotelsService.findOne env id) := by
  refine Program.excused_then conveys_read fun found => ?_
  cases found with
  | some card => exact conveys_ret
  | none => exact conveys_http (by decide)

theorem conveys_findRoom : Conveys env.router Err.Verdict (RoomsService.findOne env id) := by
  refine Program.excused_then conveys_read fun found => ?_
  cases found with
  | some view => exact conveys_ret
  | none => exact conveys_http (by decide)

theorem conveys_findGuest {consistency : Consistency} :
    Conveys env.router Err.Verdict (GuestsService.findOne id consistency : Async n Guest) := by
  refine Program.excused_then conveys_globalRead fun found => ?_
  cases found with
  | some guest => exact conveys_ret
  | none => exact conveys_http (by decide)

theorem conveys_thenInvalidate {program : Async n α}
    (conveys : Conveys env.router Err.Verdict program) :
    Conveys env.router Err.Verdict (do
      let result ← program
      BookingsService.invalidateSearch env
      return result : Async n α) :=
  Program.excused_then conveys fun _ =>
    Program.excused_then excused_bumpVersion fun _ => conveys_ret

theorem conveys_invalidateForRooms (hotelIds : List Text) :
    Conveys env.router Err.Verdict (RoomsService.invalidateForRooms env hotelIds) :=
  Program.excused_then (conveys_invalidate _) fun _ => excused_bumpVersion

theorem conveys_invalidateForHotel {keys : List CacheKey} {value : α} :
    Conveys env.router Err.Verdict (do
      CacheService.invalidate env keys
      CacheService.bumpVersion env
      return value : Async n α) :=
  Program.excused_then (conveys_invalidate _) fun _ =>
    Program.excused_then excused_bumpVersion fun _ => conveys_ret

theorem conveys_createRoom (dto : CreateRoomDto) :
    Conveys env.router Err.Verdict (RoomsService.create env entropy dto) := by
  refine Program.excused_then conveys_read fun hotel => ?_
  cases hotel with
  | none => exact conveys_http (by decide)
  | some hotel =>
    refine Program.excused_then conveys_read fun existing => ?_
    cases existing with
    | some room => exact conveys_http (by decide)
    | none =>
      exact Program.excused_then conveys_write fun _ =>
        Program.excused_then (conveys_invalidateForRooms _) fun _ => conveys_ret

theorem conveys_search (schedule : Schedule n) (dto : SearchRoomDto) :
    Conveys env.router Err.Verdict (RoomsService.search env schedule dto) := by
  unfold RoomsService.search
  split
  · exact conveys_read
  · exact conveys_fanOutList

theorem conveys_searchCached (schedule : Schedule n) (dto : SearchRoomDto) :
    Conveys env.router Err.Verdict (RoomsService.searchCached env entropy schedule dto) := by
  refine Program.excused_then conveys_getVersion fun version => ?_
  refine Program.excused_then ?_ fun params => Program.excused_then
    (conveys_getOrSet (conveys_search schedule dto) (conveys_search schedule dto))
    fun _ => conveys_ret
  -- The only error without a command is the RangeError of an unreadable date.
  unfold normalizeSearchParams isoDate
  cases env.platform.newDate dto.checkIn with
  | none => exact Program.excused_raise trivial
  | some checkIn =>
    cases env.platform.newDate dto.checkOut with
    | none => exact Program.excused_raise trivial
    | some checkOut => exact conveys_ret

theorem conveys_createBooking (dto : CreateBookingDto) :
    Conveys env.router Err.Verdict (BookingsService.create env entropy dto) := by
  unfold BookingsService.create
  dsimp only
  split
  · exact conveys_http (by decide)
  · refine Program.excused_then conveys_assertGuestExists fun _ => conveys_thenInvalidate ?_
    exact conveys_run (raised_serializable fun _ => raised_issue) fun _ due => due.calm

theorem conveys_updateBooking (dto : UpdateBookingDto) :
    Conveys env.router Err.Verdict (BookingsService.update env id dto) := by
  have rest : Conveys env.router Err.Verdict (do
      let _ ← BookingsService.findLocal env id
      let booking ← env.router.write (env.router.forKey id)
        (.bookingUpdate id (BookingsService.patchData env.platform dto))
      BookingsService.invalidateSearch env
      return booking : Async n Booking) :=
    Program.excused_then conveys_findLocal fun _ => conveys_thenInvalidate conveys_write
  unfold BookingsService.update
  split
  · exact conveys_http (by decide)
  · dsimp only
    split
    · exact Program.excused_then conveys_assertGuestExists fun _ => rest
    · exact rest

theorem conveys_cancelBooking :
    Conveys env.router Err.Verdict (BookingsService.cancel env id) := by
  refine Program.excused_then conveys_findLocal fun booking => ?_
  split
  · exact conveys_http (by decide)
  · exact conveys_http (by decide)
  · exact conveys_thenInvalidate conveys_write

end Services

section Relocation
variable {env : Env n} {entropy : Entropy} {id roomId : Text} {original : Booking}

/-- The errors of the program are decided or due to its own commands, inside a saga or not. -/
abbrev Answers (router : ShardRouter n) (program : Async n α) : Prop :=
  program.Excused (Due router) Err.Decided fun _ _ => False

theorem Conveys.answers {router : ShardRouter n} {program : Async n α}
    (conveys : Conveys router Err.Verdict program) : Answers router program :=
  (Program.Excused.mono conveys fun _ _ error conveyed => ⟨error, conveyed, Or.inl rfl⟩).widen
    fun error due => ⟨error, due, Or.inl rfl⟩

/-- The abortions that an error under `attempt` may become. -/
theorem carried_aborted {program : Async n α} (conveys : Conveys env.router Err.Verdict program) :
    (attempt program).Excused (Due env.router) Err.Decided fun outcome error =>
      ∃ inner steps source target, outcome = .error inner ∧
        error = BookingsService.sagaAborted steps inner source target := by
  intro before within
  refine obeys_attempt (conveys.converted (fun inner error => ∃ steps source target,
    error = BookingsService.sagaAborted steps inner source target) ?_ ?_ before within) ?_
  · rintro cmd reply inner _ conveyed ⟨steps, source, target, rfl⟩
    exact ⟨inner, conveyed, Or.inr ⟨steps, source, target, rfl⟩⟩
  · rintro inner _ due ⟨steps, source, target, rfl⟩
    exact ⟨inner, due, Or.inr ⟨steps, source, target, rfl⟩⟩
  · rintro after result ⟨kept, raised⟩
    refine ⟨kept, ?_⟩
    rintro error ⟨inner, steps, source, target, rfl, rfl⟩
    exact raised inner _ rfl ⟨steps, source, target, rfl⟩

theorem conveys_sagaReserve : Conveys env.router Err.Verdict
    (BookingsService.sagaReserve env entropy roomId original) :=
  conveys_run (raised_serializable fun _ => raised_issue) fun _ due => due.calm

theorem answers_sagaReserve {steps : Err → List SagaStep} {source target : Text} :
    Answers env.router ((BookingsService.sagaReserve env entropy roomId original).recover
      fun error => .raise (BookingsService.sagaAborted (steps error) error source target)) :=
  Program.excused_convert
    (fun error => BookingsService.sagaAborted (steps error) error source target) conveys_sagaReserve
    (fun _ _ error conveyed => ⟨error, conveyed, Or.inr ⟨_, _, _, rfl⟩⟩)
    fun error due => ⟨error, due, Or.inr ⟨_, _, _, rfl⟩⟩

theorem conveys_sagaCancel (simulateFailure : Bool) :
    Conveys env.router Err.Verdict (BookingsService.sagaCancel env id simulateFailure) := by
  unfold BookingsService.sagaCancel
  split
  · exact Program.excused_raise trivial
  · refine Program.excused_then conveys_write fun count => ?_
    split
    · exact conveys_http (by decide)
    · exact conveys_ret

theorem excused_compensate {excuses : (cmd : Cmd n) → Except Err cmd.Answer → Err → Prop}
    {verdict : Err → Prop} {target : Fin n} {createdId : Text} :
    (BookingsService.compensate env target createdId).Excused excuses verdict fun _ _ => False := by
  refine Program.excused_then excused_attempt fun outcome => ?_
  cases outcome <;> exact Program.excused_ret fun _ => False.elim

theorem answers_relocateReserved (simulateFailure : Bool) {source target : Fin n} {created : Booking} :
    Answers env.router (BookingsService.relocateReserved env id original simulateFailure source
      target created) := by
  refine Program.excused_bind (carried_aborted (conveys_sagaCancel simulateFailure)) fun outcome => ?_
  cases outcome with
  | error error =>
    refine Program.excused_then excused_compensate fun step => ?_
    exact Program.excused_then excused_bumpVersion fun _ =>
      Program.excused_raise (Or.inr ⟨error, _, _, _, rfl, rfl⟩)
  | ok _ =>
    refine Program.excused_then ((Conveys.answers conveys_write).widen fun _ => Or.inl)
      fun confirmed => ?_
    exact Program.excused_then excused_bumpVersion fun _ =>
      Program.excused_ret fun _ => False.elim

theorem answers_relocate (dto : RelocateBookingDto) :
    Answers env.router (BookingsService.relocate env entropy id dto) := by
  unfold BookingsService.relocate
  split
  · exact (conveys_http (by decide)).answers
  · refine Program.excused_then conveys_findLocal.answers fun original => ?_
    split
    · exact (conveys_http (by decide)).answers
    · split
      · exact (conveys_http (by decide)).answers
      · split
        · refine Program.excused_then (Conveys.answers (conveys_run
            (raised_serializable fun _ => raised_issue) fun _ due => due.calm)) fun _ => ?_
          exact Program.excused_then excused_bumpVersion fun _ =>
            Program.excused_ret fun _ => False.elim
        · exact Program.excused_then answers_sagaReserve fun _ => answers_relocateReserved _

end Relocation

/-- Every error of every request is decided by its service, or due to one of its own commands. -/
theorem answers_program (env : Env n) (call : Call n) : Answers env.router (call.program env) := by
  have wrap {α : Type} {program : Async n α} {respond : α → Response}
      (answers : Answers env.router program) :
      Answers env.router (program.bind fun value => .ret (respond value)) :=
    Program.excused_then answers fun _ => Program.excused_ret fun _ => False.elim
  obtain ⟨request, entropy, schedule⟩ := call
  cases request with
  | createHotel dto => exact wrap conveys_write.answers
  | findHotels => exact wrap conveys_fanOutList.answers
  | findHotel id => exact wrap (conveys_getOrSet conveys_findHotel conveys_findHotel).answers
  | updateHotel id dto =>
    exact wrap (Conveys.answers (Program.excused_then conveys_findHotel fun _ =>
      Program.excused_then conveys_write fun _ => conveys_invalidateForHotel))
  | removeHotel id =>
    exact wrap (Conveys.answers (Program.excused_then conveys_findHotel fun _ =>
      Program.excused_then conveys_write fun _ => conveys_invalidateForHotel))
  | createRoom dto => exact wrap (conveys_createRoom dto).answers
  | findRooms => exact wrap conveys_fanOutList.answers
  | findRoom id => exact wrap conveys_findRoom.answers
  | searchRooms dto => exact wrap (conveys_searchCached schedule dto).answers
  | updateRoom id dto =>
    refine wrap (Conveys.answers ?_)
    unfold RoomsService.update
    split
    · exact conveys_http (by decide)
    · refine Program.excused_then conveys_findRoom fun _ => ?_
      exact Program.excused_then conveys_write fun _ =>
        Program.excused_then (conveys_invalidateForRooms _) fun _ => conveys_ret
  | removeRoom id =>
    refine wrap (Conveys.answers (Program.excused_then conveys_findRoom fun _ => ?_))
    exact Program.excused_then conveys_write fun _ =>
      Program.excused_then (conveys_invalidateForRooms _) fun _ => conveys_ret
  | createGuest dto =>
    refine wrap (Conveys.answers (Program.excused_then conveys_globalRead fun found => ?_))
    cases found with
    | some guest => exact conveys_http (by decide)
    | none => exact conveys_globalWrite
  | findGuests => exact wrap (Conveys.answers conveys_globalRead)
  | findGuest id => exact wrap conveys_findGuest.answers
  | findGuestBookings id =>
    refine wrap (Conveys.answers (Program.excused_then conveys_findGuest fun _ => ?_))
    exact Program.excused_then conveys_fanOutList fun _ => conveys_ret
  | updateGuest id dto =>
    exact wrap (Conveys.answers (Program.excused_then conveys_findGuest fun _ => conveys_globalWrite))
  | removeGuest id =>
    refine wrap (Conveys.answers (Program.excused_then conveys_findGuest fun _ => ?_))
    refine Program.excused_then conveys_fanOut fun result => ?_
    dsimp only
    split
    · exact conveys_http (by decide)
    · exact conveys_globalWrite
  | createBooking dto => exact wrap (conveys_createBooking dto).answers
  | findBookings =>
    exact wrap (Conveys.answers (Program.excused_then conveys_fanOutList fun _ =>
      conveys_attachGuests))
  | findBooking id =>
    refine wrap (Conveys.answers (Program.excused_then conveys_read fun found => ?_))
    cases found with
    | none => exact conveys_http (by decide)
    | some view => exact Program.excused_then conveys_attachGuests fun _ => conveys_ret
  | updateBooking id dto => exact wrap (conveys_updateBooking dto).answers
  | cancelBooking id => exact wrap conveys_cancelBooking.answers
  | removeBooking id =>
    exact wrap (Conveys.answers (Program.excused_then conveys_findLocal fun _ =>
      conveys_thenInvalidate conveys_write))
  | relocateBooking id dto => exact wrap (answers_relocate dto)

/-- The errors of the driver that carries the command. -/
def Cmd.drives : Cmd n → Err → Bool
  | .shard .., .db _ | .guests _, .db _ | .cache _, .redis _ => true
  | _, _ => false

/-- Any command may fail at any time, with an error of its driver. -/
def DriverFaults : Policy (signature n) Err (World n) := fun _ cmd fault =>
  match fault with
  | .none => True
  | .refused error | .lost error => cmd.drives error = true

theorem drives_db {cmd : Cmd n} {error : Err} (drives : cmd.drives error = true)
    (database : ∀ other, cmd ≠ .cache other) : ∃ kind, error = .db kind := by
  cases cmd with
  | shard | guests =>
    cases error with
    | db kind => exact ⟨kind, rfl⟩
    | redis | plain | http | saga => cases drives
  | cache other => exact absurd rfl (database other)

/-- An error that a database replied: one of its own, or what struck the command. -/
theorem reply_error {move : Move n} {error : Err}
    (step : Pool.Step World.exec DriverFaults move.before move.event move.after)
    (database : ∀ cmd, move.event.cmd ≠ .cache cmd)
    (replied : Pool.reply World.exec move = .error error) :
    error.Own ∨ ∃ kind, error = .db kind ∧
      (move.event.fault = .refused error ∨ move.event.fault = .lost error) := by
  have permitted := step.state_eq.1
  obtain ⟨before, ⟨i, cmd, fault⟩, after⟩ := move
  cases fault with
  | none => exact Or.inl (World.owns_exec cmd before.state error replied)
  | refused other =>
    obtain rfl := Except.error.inj replied
    obtain ⟨kind, same⟩ := drives_db permitted database
    exact Or.inr ⟨kind, same, Or.inl rfl⟩
  | lost other =>
    obtain rfl := Except.error.inj replied
    obtain ⟨kind, same⟩ := drives_db permitted database
    exact Or.inr ⟨kind, same, Or.inr rfl⟩

/-- A recorded run in which the drivers alone fail. -/
theorem run_driven {calls : Clients n} {turns : List (Nat × Fault Err)}
    (driven : ∀ move ∈ (calls.record World.exec turns).1, (match move.event.fault with
      | .none => true
      | .refused error | .lost error => move.event.cmd.drives error) = true) :
    Run (Pool.Step World.exec DriverFaults) calls (calls.record World.exec turns).1
      (calls.record World.exec turns).2 := by
  refine Pool.run_record fun move member => ?_
  have drives := driven move member
  unfold DriverFaults
  split
  · trivial
  · next struck => simpa [struck] using drives
  · next struck => simpa [struck] using drives

end HotelBooking
