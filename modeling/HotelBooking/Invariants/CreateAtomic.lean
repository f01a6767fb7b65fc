import HotelBooking.Relocation.FaultyRuns
import HotelBooking.Invariants.SearchAndBooking

/-! `create` under any outcomes of its transactions: the attempts of the retry loop, what the
request reports for each of their ends, and what it leaves behind. -/
namespace HotelBooking
open Relational Effect
variable {n : Nat} {world last : World n} {shard : Fin n} {data : Nat → Reservation}
  {attempts : Attempts n}

/-- How a transaction of the database ends: it commits, is aborted with P2034, or fails with
another error; only a commit has an effect. -/
inductive TransactionOutcome where
  | commit
  | aborted
  | failed (error : Err) (other : error.isSerialization = false)

def TransactionOutcome.fault : TransactionOutcome → Fault Err
  | .commit => .none
  | .aborted => .refused (.db .serialization)
  | .failed error _ => .refused error

/-- Transactions end in one of these ways, the global node answers, Redis does as it likes. -/
def TransactionFaults : Policy (signature n) Err (World n) := fun _ cmd fault =>
  match cmd with
  | .shard .. => ∃ outcome : TransactionOutcome, fault = outcome.fault
  | .guests _ => fault = .none
  | .cache _ => True

/-- The attempts of `serializable` from one on, with the attempts that are left after it. -/
inductive Tried (world : World n) (shard : Fin n) (data : Nat → Reservation) :
    Nat → Nat → Attempts n → Except Err Booking → World n → Prop where
  | committed {attempt left : Nat} {created : Booking} {after : Tables} :
      (world.shards shard).reserve (data attempt) none = .ok (created, after) →
      Tried world shard data attempt left [⟨world, .shard shard (.reserve (data attempt)), .none⟩]
        (.ok created) (world.setShard shard after)
  | rejected {attempt left : Nat} {error : Err} :
      (world.shards shard).reserve (data attempt) none = .error error →
      Tried world shard data attempt left [⟨world, .shard shard (.reserve (data attempt)), .none⟩]
        (.error error) world
  | failed {attempt left : Nat} {error : Err} : error.isSerialization = false →
      Tried world shard data attempt left
        [⟨world, .shard shard (.reserve (data attempt)), .refused error⟩] (.error error) world
  | exhausted {attempt : Nat} :
      Tried world shard data attempt 0
        [⟨world, .shard shard (.reserve (data attempt)), .refused (.db .serialization)⟩]
        (.error (.conflict (text "Concurrent booking conflict, please retry"))) world
  | again {attempt left : Nat} {rest : Attempts n} {result : Except Err Booking} {last : World n} :
      Tried world shard data (attempt + 1) left rest result last →
      Tried world shard data attempt (left + 1)
        (⟨world, .shard shard (.reserve (data attempt)), .refused (.db .serialization)⟩ :: rest)
        result last

/-- A reservation is never answered with P2034 of itself. -/
theorem reserve_calm {tables : Tables} {reservation : Reservation} {error : Err}
    (failed : tables.reserve reservation none = .error error) : error.isSerialization = false :=
  (tables.calm_reserve reservation none error failed).2

/-- One transaction: its command, met by an outcome. -/
theorem transaction_ensures (attempt : Nat) :
    (issue (.shard shard (.reserve (data attempt)))).Ensures World.exec TransactionFaults
      (fun attempts result last =>
        (result = .error (.db .serialization) ∧ last = world ∧ attempts =
          [⟨world, .shard shard (.reserve (data attempt)), .refused (.db .serialization)⟩]) ∨
        (∀ error, result = .error error → error.isSerialization = false) ∧
          ∀ left, Tried world shard data attempt left attempts result last) world := by
  refine ensures_issue (.shard shard (.reserve (data attempt))) _ fun fault permitted => ?_
  obtain ⟨outcome, rfl⟩ := permitted
  cases outcome with
  | aborted => exact Or.inl ⟨rfl, rfl, rfl⟩
  | failed error other =>
    refine Or.inr ⟨fun reported same => ?_, fun left => .failed other⟩
    obtain rfl := Except.error.inj same
    exact other
  | commit =>
    apply Or.inr
    have executed : World.exec (.shard shard (.reserve (data attempt))) world = _ := rfl
    cases done : (world.shards shard).reserve (data attempt) none with
    | error error =>
      have failed : (Stmt.reserve (data attempt)).exec (world.shards shard) = .error error := done
      unfold TransactionOutcome.fault Fault.apply
      dsimp only
      rw [World.exec_shard_error failed]
      refine ⟨fun reported same => ?_, fun left => .rejected done⟩
      obtain rfl := Except.error.inj same
      exact reserve_calm done
    | ok made =>
      obtain ⟨created, after⟩ := made
      have succeeded : (Stmt.reserve (data attempt)).exec (world.shards shard) = .ok (created, after) := done
      unfold TransactionOutcome.fault Fault.apply
      dsimp only
      rw [World.exec_shard_ok succeeded]
      exact ⟨nofun, fun left => .committed done⟩

theorem serializableFrom_ensures (attempt left : Nat) :
    (BookingsService.serializableFrom (fun attempt => issue (.shard shard (.reserve (data attempt))))
      attempt left).Ensures World.exec TransactionFaults
        (Tried world shard data attempt left) world := by
  induction left generalizing attempt with
  | zero =>
    refine Program.ensures_recover (transaction_ensures attempt) ?_ ?_
    · rintro first error mid (⟨same, rfl, rfl⟩ | ⟨other, tried⟩)
      · obtain rfl := Except.error.inj same
        exact Program.ensures_raise .exhausted
      · rw [if_pos (by simp [other error rfl])]
        apply Program.ensures_raise
        rw [List.append_nil]
        exact tried 0
    · rintro attempts value last (⟨same, _⟩ | ⟨_, tried⟩)
      · cases same
      · exact tried 0
  | succ left ih =>
    refine Program.ensures_recover (transaction_ensures attempt) ?_ ?_
    · rintro first error mid (⟨same, rfl, rfl⟩ | ⟨other, tried⟩)
      · obtain rfl := Except.error.inj same
        exact (ih (attempt + 1)).mono fun rest result last tried => .again tried
      · rw [if_pos (by simp [other error rfl])]
        apply Program.ensures_raise
        rw [List.append_nil]
        exact tried (left + 1)
    · rintro attempts value last (⟨same, _⟩ | ⟨_, tried⟩)
      · cases same
      · exact tried (left + 1)

theorem TransactionOutcome.fault_injective {first second : TransactionOutcome}
    (same : first.fault = second.fault) : first = second := by
  cases first with
  | commit =>
    cases second with
    | commit => rfl
    | aborted | failed => cases same
  | aborted =>
    cases second with
    | aborted => rfl
    | commit => cases same
    | failed error other =>
      obtain rfl := Fault.refused.inj same
      cases other
  | failed error other =>
    cases second with
    | commit => cases same
    | aborted =>
      obtain rfl := Fault.refused.inj same
      cases other
    | failed given otherwise =>
      obtain rfl := Fault.refused.inj same
      rfl

/-- The transactions end as the sequence says. -/
def Meets (outcomes : Nat → TransactionOutcome) (attempts : Attempts n) : Prop :=
  ∀ k attempt, attempts[k]? = some attempt → attempt.fault = (outcomes k).fault

theorem meets_cons {outcomes : Nat → TransactionOutcome} {first : Attempt (signature n) Err (World n)}
    {rest : Attempts n} : Meets outcomes (first :: rest) ↔
      first.fault = (outcomes 0).fault ∧ Meets (fun k => outcomes (k + 1)) rest := by
  constructor
  · exact fun meets => ⟨meets 0 first rfl, fun k attempt found => meets (k + 1) attempt found⟩
  · rintro ⟨here, later⟩ k attempt found
    cases k with
    | zero =>
      obtain rfl := Option.some.inj found
      exact here
    | succ k => exact later k attempt found

theorem Meets.head {outcomes : Nat → TransactionOutcome} {first : Attempt (signature n) Err (World n)}
    {rest : Attempts n} (meets : Meets outcomes (first :: rest)) (outcome : TransactionOutcome)
    (here : first.fault = outcome.fault) : outcomes 0 = outcome :=
  TransactionOutcome.fault_injective ((meets_cons.mp meets).1.symm.trans here)

/-- One of the attempts from this one on, reached through P2034 only, commits its reservation. -/
def Commits (world : World n) (shard : Fin n) (data : Nat → Reservation)
    (outcomes : Nat → TransactionOutcome) (attempt left : Nat) : Prop :=
  ∃ k ≤ left, (∀ j < k, outcomes j = .aborted) ∧ outcomes k = .commit ∧
    ∃ made, (world.shards shard).reserve (data (attempt + k)) none = .ok made

namespace Tried
variable {attempt left : Nat} {result : Except Err Booking} {outcomes : Nat → TransactionOutcome}

theorem length_le (tried : Tried world shard data attempt left attempts result last) :
    attempts.length ≤ left + 1 := by
  induction tried with
  | committed | rejected | failed | exhausted => simp
  | again _ ih => exact Nat.succ_le_succ ih

theorem commands (tried : Tried world shard data attempt left attempts result last) :
    ∀ made ∈ attempts, ∃ k, made.cmd = .shard shard (.reserve (data k)) := by
  induction tried with
  | committed | rejected | failed | exhausted =>
    intro made member
    obtain rfl := List.mem_singleton.mp member
    exact ⟨_, rfl⟩
  | again _ ih =>
    intro made member
    rcases List.mem_cons.mp member with rfl | later
    · exact ⟨_, rfl⟩
    · exact ih made later

/-- Without a result nothing has changed. -/
theorem unchanged {error : Err} (tried : Tried world shard data attempt left attempts (.error error) last) :
    last = world := by
  generalize reply : (Except.error error : Except Err Booking) = result at tried
  induction tried with
  | committed => cases reply
  | rejected | failed | exhausted => rfl
  | again _ ih => exact ih reply

/-- A result is that of the last transaction, which committed. -/
theorem made {created : Booking}
    (tried : Tried world shard data attempt left attempts (.ok created) last) :
    ∃ k after aborted, (world.shards shard).reserve (data k) none = .ok (created, after) ∧
      last = world.setShard shard after ∧
      attempts = aborted ++ [⟨world, .shard shard (.reserve (data k)), .none⟩] := by
  generalize reply : (Except.ok created : Except Err Booking) = result at tried
  induction tried with
  | committed done =>
    obtain rfl := Except.ok.inj reply
    exact ⟨_, _, [], done, rfl, rfl⟩
  | rejected | failed | exhausted => cases reply
  | again _ ih =>
    obtain ⟨k, after, aborted, done, moved, split⟩ := ih reply
    exact ⟨k, after, _ :: aborted, done, moved, by rw [split, List.cons_append]⟩

theorem commits_again (start : outcomes 0 = .aborted) :
    Commits world shard data outcomes attempt (left + 1) ↔
      Commits world shard data (fun k => outcomes (k + 1)) (attempt + 1) left := by
  constructor
  · rintro ⟨k, bound, aborted, commit, done⟩
    cases k with
    | zero =>
      rw [start] at commit
      cases commit
    | succ k =>
      refine ⟨k, Nat.le_of_succ_le_succ bound, fun j less => aborted (j + 1) (Nat.succ_lt_succ less),
        commit, ?_⟩
      rwa [show attempt + 1 + k = attempt + (k + 1) by omega]
  · rintro ⟨k, bound, aborted, commit, done⟩
    refine ⟨k + 1, Nat.succ_le_succ bound, fun j less => ?_, commit, ?_⟩
    · cases j with
      | zero => exact start
      | succ j => exact aborted j (Nat.lt_of_succ_lt_succ less)
    · rwa [show attempt + (k + 1) = attempt + 1 + k by omega]

theorem commits_now (other : outcomes 0 ≠ .aborted)
    (commits : Commits world shard data outcomes attempt left) :
    outcomes 0 = .commit ∧ ∃ made, (world.shards shard).reserve (data attempt) none = .ok made := by
  obtain ⟨k, _, aborted, commit, done⟩ := commits
  cases k with
  | zero => exact ⟨commit, done⟩
  | succ k => exact absurd (aborted 0 (Nat.succ_pos k)) other

theorem ok_iff (tried : Tried world shard data attempt left attempts result last)
    (meets : Meets outcomes attempts) :
    (∃ created, result = .ok created) ↔ Commits world shard data outcomes attempt left := by
  induction tried generalizing outcomes with
  | committed done =>
    have commit := meets.head .commit rfl
    exact iff_of_true ⟨_, rfl⟩
      ⟨0, Nat.zero_le _, fun j less => absurd less (Nat.not_lt_zero j), commit, _, done⟩
  | rejected failed =>
    have commit := meets.head .commit rfl
    refine iff_of_false nofun fun commits => ?_
    obtain ⟨_, made, done⟩ := commits_now (by rw [commit]; exact nofun) commits
    rw [failed] at done
    cases done
  | failed other =>
    have ended := meets.head (.failed _ other) rfl
    refine iff_of_false nofun fun commits => ?_
    obtain ⟨commit, _⟩ := commits_now (by rw [ended]; exact nofun) commits
    rw [ended] at commit
    cases commit
  | exhausted =>
    have aborted := meets.head .aborted rfl
    refine iff_of_false nofun ?_
    rintro ⟨k, bound, _, commit, _⟩
    obtain rfl := Nat.le_zero.mp bound
    rw [aborted] at commit
    cases commit
  | again _ ih =>
    rw [commits_again (meets.head .aborted rfl)]
    exact ih (meets_cons.mp meets).2

/-- Aborted to the end, `serializable` reports a conflict. -/
theorem persistent (tried : Tried world shard data attempt left attempts result last)
    (meets : Meets outcomes attempts) (aborted : ∀ k ≤ left, outcomes k = .aborted) :
    result = .error (.conflict (text "Concurrent booking conflict, please retry")) := by
  induction tried generalizing outcomes with
  | committed | rejected =>
    have commit := meets.head .commit rfl
    rw [aborted 0 (Nat.zero_le _)] at commit
    cases commit
  | failed other =>
    have ended := meets.head (.failed _ other) rfl
    rw [aborted 0 (Nat.zero_le _)] at ended
    cases ended
  | exhausted => rfl
  | again _ ih => exact ih (meets_cons.mp meets).2 fun k bound => aborted (k + 1) (Nat.succ_le_succ bound)

end Tried

/-- The reservation of an attempt of `create`. -/
def CreateBookingDto.reservation (dto : CreateBookingDto) (platform : Platform) (entropy : Entropy)
    (attempt : Nat) : Reservation where
  id := ShardRouter.childId dto.roomId (entropy.uuid attempt)
  roomId := dto.roomId
  guestId := dto.guestId
  checkIn := platform.newDate dto.checkInDate
  checkOut := platform.newDate dto.checkOutDate
  status := .pending
  createdAt := entropy.now attempt

/-- The ends of `create`: for the dates, for the guest, in a transaction, or with a booking. -/
inductive Creating (env : Env n) (entropy : Entropy) (dto : CreateBookingDto) (world : World n) :
    Attempts n → Except Err Booking → World n → Prop where
  | disordered {error : Err} :
      notAfter (env.platform.newDate dto.checkOutDate) (env.platform.newDate dto.checkInDate) = true →
      Creating env entropy dto world [] (.error error) world
  | guestless {attempts : Attempts n} {error : Err} :
      world.guests.guests.find? dto.guestId = none →
      (∀ attempt ∈ attempts, ∃ stmt, attempt.cmd = .guests stmt) →
      Creating env entropy dto world attempts (.error error) world
  | tried {read transactions late : Attempts n} {reply result : Except Err Booking} {mid last : World n} :
      notAfter (env.platform.newDate dto.checkOutDate) (env.platform.newDate dto.checkInDate) = false →
      (world.guests.guests.find? dto.guestId).isSome →
      (∀ attempt ∈ read, ∃ stmt, attempt.cmd = .guests stmt) →
      Tried world (env.router.forKey dto.roomId) (dto.reservation env.platform entropy) 1 4
        transactions reply mid →
      (∀ created, reply = .ok created → result = .ok created ∧ last.shards = mid.shards ∧
        last.guests = mid.guests ∧ late.map (fun attempt => attempt.cmd) =
          if env.redisConfigured then [.cache .incr] else []) →
      (∀ error, reply = .error error → last = mid ∧ late = [] ∧ ∃ reported, result = .error reported ∧
        (error.isConnection = false → reported = error)) →
      Creating env entropy dto world (read ++ (transactions ++ late)) result last

/-- The check of the guest, on a global node that answers. -/
theorem assertGuestExists_ensures (guestId : Text) :
    (BookingsService.assertGuestExists guestId : Async n Unit).Ensures World.exec TransactionFaults
      (fun attempts result last => last = world ∧
        (∀ attempt ∈ attempts, ∃ stmt, attempt.cmd = .guests stmt) ∧
        ((result = .ok () ∧ (world.guests.guests.find? guestId).isSome) ∨
          (∃ error, result = .error error) ∧ world.guests.guests.find? guestId = none)) world := by
  have read : (globalRead (.findUnique guestId) .strong : Async n (Option Guest)).Ensures World.exec
      TransactionFaults (fun attempts result last => last = world ∧
        (∀ attempt ∈ attempts, ∃ stmt, attempt.cmd = .guests stmt) ∧
        result = .ok (world.guests.guests.find? guestId)) world := by
    refine Program.ensures_recover (ensures_issue (.guests (.findUnique guestId)) (fun attempts result last =>
      last = world ∧ (∀ attempt ∈ attempts, ∃ stmt, attempt.cmd = .guests stmt) ∧
        result = .ok (world.guests.guests.find? guestId)) fun fault permitted => ?_) ?_ ?_
    · obtain rfl : fault = .none := permitted
      refine ⟨rfl, fun attempt member => ?_, rfl⟩
      obtain rfl := List.mem_singleton.mp member
      exact ⟨_, rfl⟩
    · rintro _ _ _ ⟨_, _, failed⟩
      cases failed
    · exact fun attempts value last done => done
  refine Program.ensures_bind read ?_ ?_
  · rintro first guest mid ⟨rfl, asked, same⟩
    obtain rfl := Except.ok.inj same
    split
    · next guest found =>
      refine Program.ensures_ret ⟨rfl, ?_, Or.inl ⟨rfl, Option.isSome_of_eq_some found⟩⟩
      rwa [List.append_nil]
    · next missing =>
      refine Program.ensures_raise ⟨rfl, ?_, Or.inr ⟨⟨_, rfl⟩, missing⟩⟩
      rwa [List.append_nil]
  · rintro _ _ _ ⟨_, _, failed⟩
    cases failed

/-- `shard.write` around the transaction: a connection error becomes a 503. -/
theorem tried_ensures (router : ShardRouter n) (shard : Fin n) (data : Nat → Reservation) :
    (router.run shard (BookingsService.serializable fun attempt =>
      issue (.shard shard (.reserve (data attempt))))).Ensures World.exec TransactionFaults
      (fun attempts result last => ∃ reply, Tried world shard data 1 4 attempts reply last ∧
        (∀ created, reply = .ok created → result = .ok created) ∧
        ∀ error, reply = .error error → ∃ reported, result = .error reported ∧
          (error.isConnection = false → reported = error)) world := by
  refine Program.ensures_recover (serializableFrom_ensures 1 4) ?_ ?_
  · intro first error mid tried
    split
    · next connection =>
      refine Program.ensures_raise ⟨.error error, ?_, nofun, fun other same => ⟨_, rfl, ?_⟩⟩
      · rwa [List.append_nil]
      · obtain rfl := Except.error.inj same
        exact fun calm => absurd connection (by simp [calm])
    · refine Program.ensures_raise ⟨.error error, ?_, nofun, fun other same => ⟨_, rfl, ?_⟩⟩
      · rwa [List.append_nil]
      · exact fun _ => Except.error.inj same
  · exact fun attempts value last tried => ⟨.ok value, tried, fun _ same => same, nofun⟩

theorem create_ensures (env : Env n) (entropy : Entropy) (dto : CreateBookingDto) :
    (BookingsService.create env entropy dto).Ensures World.exec TransactionFaults
      (Creating env entropy dto world) world := by
  unfold BookingsService.create
  dsimp only
  split
  · next disordered => exact Program.ensures_raise (.disordered disordered)
  · next ordered =>
    refine Program.ensures_bind (assertGuestExists_ensures dto.guestId) ?_ ?_
    · rintro read _ _ ⟨rfl, asked, ⟨_, guest⟩ | ⟨⟨_, failed⟩, _⟩⟩
      · refine Program.ensures_bind (tried_ensures env.router (env.router.forKey dto.roomId)
          (dto.reservation env.platform entropy)) ?_ ?_
        · rintro transactions booking mid ⟨reply, tried, returns, fails⟩
          have done : reply = .ok booking := by
            cases reply with
            | ok created => rw [Except.ok.inj (returns created rfl)]
            | error error =>
              obtain ⟨_, same, _⟩ := fails error rfl
              cases same
          refine Program.ensures_bind bumpVersion_ensures ?_ ?_
          · rintro late _ last ⟨_, shards, guests, commands⟩
            apply Program.ensures_ret
            rw [List.append_nil]
            refine .tried (Bool.eq_false_of_not_eq_true ordered) guest asked tried ?_ ?_
            · intro created same
              obtain rfl := Except.ok.inj (done.symm.trans same)
              exact ⟨rfl, shards, guests, commands⟩
            · intro error same
              cases done.symm.trans same
          · rintro _ _ _ ⟨failed, _⟩
            cases failed
        · rintro transactions error last ⟨reply, tried, returns, fails⟩
          rw [← List.append_nil transactions]
          refine .tried (Bool.eq_false_of_not_eq_true ordered) guest asked tried ?_ ?_
          · intro created same
            cases returns created same
          · intro other same
            obtain ⟨reported, told, plain⟩ := fails other same
            exact ⟨rfl, rfl, reported, told, plain⟩
      · cases failed
    · rintro attempts error last ⟨rfl, asked, ⟨failed, _⟩ | ⟨_, missing⟩⟩
      · cases failed
      · exact .guestless missing asked

/-- A transaction that commits a reservation: the room exists, no active booking overlaps, the
price fits its column and the identifier is new. -/
structure Reservable (tables : Tables) (data : Reservation) (checkIn checkOut : Instant) : Prop where
  room : ∃ room, tables.rooms.find? data.roomId = some room ∧
    (Decimal.ofCents? (room.pricePerNight.cents * Tables.nights checkIn checkOut)).isSome
  free : tables.Free data.roomId checkIn checkOut
  fresh : tables.bookings.find? data.id = none

theorem bookingCreate_done {tables : Tables} {id roomId guestId : Text} {checkIn checkOut : Instant}
    {cents : Int} {status : BookingStatus} {createdAt : Instant} {total : Decimal}
    (priced : Decimal.ofCents? cents = some total) (fresh : tables.bookings.find? id = none)
    (room : (tables.rooms.find? roomId).isSome) :
    tables.bookingCreate id roomId guestId checkIn checkOut cents status createdAt =
      .ok (⟨id, roomId, guestId, checkIn, checkOut, status, total, createdAt⟩,
        tables.insertBooking ⟨id, roomId, guestId, checkIn, checkOut, status, total, createdAt⟩ fresh room) := by
  unfold Tables.bookingCreate
  simp only [priced]
  rw [dif_pos fresh, dif_pos room]
  rfl

theorem reserve_ok_iff {tables : Tables} {reservation : Reservation} {checkIn checkOut : Instant}
    (readIn : reservation.checkIn = some checkIn) (readOut : reservation.checkOut = some checkOut) :
    (∃ made, tables.reserve reservation none = .ok made) ↔
      Reservable tables reservation checkIn checkOut := by
  have decides : (tables.bookings.rows.find?
      (Tables.overlaps reservation.roomId checkIn checkOut none)).isSome = true ↔
        ¬ tables.Free reservation.roomId checkIn checkOut := not_free_iff.symm
  cases stored : tables.rooms.find? reservation.roomId with
  | none =>
    apply iff_of_false
    · rintro ⟨made, done⟩
      simp [Tables.reserve, stored] at done
    · rintro ⟨⟨room, found, _⟩, _, _⟩
      rw [stored] at found
      cases found
  | some room =>
    have run : tables.reserve reservation none =
        if (tables.bookings.rows.find?
          (Tables.overlaps reservation.roomId checkIn checkOut none)).isSome = true then
          .error (.conflict (text "Room is already booked for the selected dates"))
        else tables.bookingCreate reservation.id reservation.roomId reservation.guestId checkIn checkOut
          (room.pricePerNight.cents * Tables.nights checkIn checkOut) reservation.status
          reservation.createdAt := by
      unfold Tables.reserve
      simp only [stored, readIn, readOut, date, except_ok_bind]
      split <;> rfl
    rw [run]
    constructor
    · rintro ⟨made, done⟩
      split at done
      · cases done
      · next clear =>
        have free := not_not.mp (mt decides.mpr clear)
        unfold Tables.bookingCreate at done
        cases price : Decimal.ofCents? (room.pricePerNight.cents * Tables.nights checkIn checkOut) with
        | none => simp [price] at done
        | some total =>
          simp only [price] at done
          split at done
          · next fresh => exact ⟨⟨room, stored, Option.isSome_of_eq_some price⟩, free, fresh⟩
          · cases done
    · rintro ⟨⟨other, found, price⟩, free, fresh⟩
      obtain rfl := Option.some.inj (stored.symm.trans found)
      obtain ⟨total, priced⟩ := Option.isSome_iff_exists.mp price
      rw [if_neg (mt decides.mp (not_not.mpr free))]
      exact ⟨_, bookingCreate_done priced fresh (Option.isSome_of_eq_some stored)⟩

def Cmd.isShard : Cmd n → Bool
  | .shard .. => true
  | _ => false

theorem guests_filter {attempts : Attempts n}
    (asked : ∀ attempt ∈ attempts, ∃ stmt, attempt.cmd = .guests stmt) :
    attempts.filter (fun attempt => attempt.cmd.isShard) = [] := by
  rw [List.filter_eq_nil_iff]
  intro attempt member
  obtain ⟨stmt, issued⟩ := asked attempt member
  rw [issued]
  exact Bool.false_ne_true

theorem guests_ne_cache {attempts : Attempts n} (asked : ∀ attempt ∈ attempts, ∃ stmt, attempt.cmd = .guests stmt) :
    ∀ attempt ∈ attempts, ∀ cmd, attempt.cmd ≠ .cache cmd := by
  intro attempt member cmd issued
  obtain ⟨stmt, same⟩ := asked attempt member
  rw [issued] at same
  cases same

theorem OnlyCache.filter {attempts : Attempts n} (cached : OnlyCache attempts) :
    attempts.filter (fun attempt => attempt.cmd.isShard) = [] := by
  rw [List.filter_eq_nil_iff]
  intro attempt member
  obtain ⟨cmd, issued⟩ := cached attempt member
  rw [issued]
  exact Bool.false_ne_true

theorem Tried.isShard {attempt left : Nat} {result : Except Err Booking}
    (tried : Tried world shard data attempt left attempts result last) :
    ∀ made ∈ attempts, made.cmd.isShard = true := by
  intro made member
  obtain ⟨k, issued⟩ := tried.commands made member
  rw [issued]
  rfl

theorem Tried.ne_cache {attempt left : Nat} {result : Except Err Booking}
    (tried : Tried world shard data attempt left attempts result last) :
    ∀ made ∈ attempts, ∀ cmd, made.cmd ≠ .cache cmd := by
  intro made member cmd issued
  obtain ⟨k, other⟩ := tried.commands made member
  rw [issued] at other
  cases other

/-- A booking of `create` and the state it leaves: one more row, PENDING and in the bucket of its
room, and one INCR after the commit. -/
structure Booked (env : Env n) (dto : CreateBookingDto) (world : World n) (attempts : Attempts n)
    (booking : Booking) (last : World n) : Prop where
  pending : booking.status = .pending
  bucket : bucketOf booking.id = bucketOf booking.roomId
  room : booking.roomId = dto.roomId
  inserted : ∃ fresh stored, last.shards = (world.setShard (env.router.forKey dto.roomId)
    ((world.shards (env.router.forKey dto.roomId)).insertBooking booking fresh stored)).shards
  guests : last.guests = world.guests
  bumped : ∃ early commit late, attempts = early ++ commit :: late ∧ commit.cmd.isShard = true ∧
    commit.fault = .none ∧ (∀ attempt ∈ early, ∀ cmd, attempt.cmd ≠ .cache cmd) ∧
    late.map (fun attempt => attempt.cmd) = if env.redisConfigured then [.cache .incr] else []

/-- What the attempts of a booking that was made leave behind. -/
theorem Tried.booked {env : Env n} {entropy : Entropy} {dto : CreateBookingDto}
    {read transactions late : Attempts n} {booking : Booking} {mid last : World n}
    (asked : ∀ attempt ∈ read, ∃ stmt, attempt.cmd = .guests stmt)
    (tried : Tried world (env.router.forKey dto.roomId) (dto.reservation env.platform entropy) 1 4
      transactions (.ok booking) mid)
    (shards : last.shards = mid.shards) (guests : last.guests = mid.guests)
    (commands : late.map (fun attempt => attempt.cmd) =
      if env.redisConfigured then [.cache .incr] else []) :
    Booked env dto world (read ++ (transactions ++ late)) booking last := by
  obtain ⟨k, after, aborted, done, rfl, rfl⟩ := tried.made
  obtain ⟨made, rfl⟩ := Tables.reserve_ok done
  refine ⟨made.status, ?_, made.roomId, ⟨made.fresh, made.room, shards⟩, guests,
    read ++ aborted, ⟨world, .shard (env.router.forKey dto.roomId)
      (.reserve (dto.reservation env.platform entropy k)), .none⟩, late, ?_, rfl, rfl, ?_, commands⟩
  · rw [made.id, made.roomId]
    exact ShardRouter.bucketOf_childId _ _
  · simp only [List.append_assoc, List.singleton_append]
  · intro attempt member
    rcases List.mem_append.mp member with before | earlier
    · exact guests_ne_cache asked attempt before
    · exact tried.ne_cache attempt (List.mem_append_left _ earlier)

/-- `create` makes at most five attempts, reports a booking exactly when one of them commits it, and
otherwise leaves no trace. -/
theorem create_exact (env : Env n) (entropy : Entropy) (dto : CreateBookingDto)
    (outcomes : Nat → TransactionOutcome) {checkIn checkOut : Instant} {result : Except Err Booking}
    (readIn : env.platform.newDate dto.checkInDate = some checkIn)
    (readOut : env.platform.newDate dto.checkOutDate = some checkOut)
    (runs : (BookingsService.create env entropy dto).Runs World.exec TransactionFaults world attempts
      result last)
    (meets : Meets outcomes (attempts.filter fun attempt => attempt.cmd.isShard)) :
    (attempts.filter fun attempt => attempt.cmd.isShard).length ≤ 5 ∧
    ((∃ booking, result = .ok booking) ↔ checkIn < checkOut ∧
      (world.guests.guests.find? dto.guestId).isSome ∧ ∃ k < 5, (∀ j < k, outcomes j = .aborted) ∧
        outcomes k = .commit ∧ Reservable (world.shards (env.router.forKey dto.roomId))
          (dto.reservation env.platform entropy (k + 1)) checkIn checkOut) ∧
    (∀ booking, result = .ok booking → Booked env dto world attempts booking last) ∧
    (∀ error, result = .error error → last = world ∧
      ∀ attempt ∈ attempts, ∀ cmd, attempt.cmd ≠ .cache cmd) ∧
    (checkIn < checkOut → (world.guests.guests.find? dto.guestId).isSome →
      (∀ k < 5, outcomes k = .aborted) → ∃ message, result = .error (.conflict message)) := by
  have ordered_iff : notAfter (env.platform.newDate dto.checkOutDate)
      (env.platform.newDate dto.checkInDate) = false ↔ checkIn < checkOut := by
    rw [readIn, readOut, notAfter, decide_eq_false_iff_not, not_le]
  have unbooked {error : Err} : ¬ ∃ booking, (.error error : Except Err Booking) = .ok booking := by
    rintro ⟨booking, same⟩
    cases same
  cases create_ensures env entropy dto _ _ _ runs with
  | disordered disordered =>
    have late : ¬ checkIn < checkOut := by
      rw [← ordered_iff, disordered]
      exact Bool.false_ne_true.symm
    refine ⟨Nat.zero_le _, iff_of_false unbooked fun ok => late ok.1, ?_, ?_, fun ordered => absurd ordered late⟩
    · exact fun booking same => absurd ⟨booking, same⟩ unbooked
    · exact fun error _ => ⟨rfl, fun attempt member => absurd member List.not_mem_nil⟩
  | guestless missing asked =>
    have absent : ¬ (world.guests.guests.find? dto.guestId).isSome = true := by
      rw [missing]
      exact Bool.false_ne_true
    refine ⟨?_, iff_of_false unbooked fun ok => absent ok.2.1, ?_, ?_, fun _ guest => absurd guest absent⟩
    · rw [guests_filter asked]
      exact Nat.zero_le _
    · exact fun booking same => absurd ⟨booking, same⟩ unbooked
    · exact fun error _ => ⟨rfl, fun attempt member => guests_ne_cache asked attempt member⟩
  | @tried read transactions late reply result mid last ordered guest asked tried returns fails =>
    have bumps : OnlyCache late := by
      cases reply with
      | ok created => exact bump_onlyCache (returns created rfl).2.2.2
      | error error =>
        rw [(fails error rfl).2.1]
        exact fun attempt member => absurd member List.not_mem_nil
    have shown : (read ++ (transactions ++ late)).filter (fun attempt => attempt.cmd.isShard) =
        transactions := by
      rw [List.filter_append, List.filter_append, guests_filter asked, List.nil_append,
        List.filter_eq_self.mpr tried.isShard, bumps.filter, List.append_nil]
    rw [shown] at meets ⊢
    have reported : (∃ booking, result = .ok booking) ↔ ∃ created, reply = .ok created := by
      cases reply with
      | ok created => exact iff_of_true ⟨created, (returns created rfl).1⟩ ⟨created, rfl⟩
      | error error =>
        obtain ⟨_, _, told, same, _⟩ := fails error rfl
        rw [same]
        exact iff_of_false unbooked unbooked
    refine ⟨tried.length_le, ?_, ?_, ?_, ?_⟩
    · rw [reported, tried.ok_iff meets, and_iff_right (ordered_iff.mp ordered), and_iff_right guest]
      unfold Commits
      simp only [Nat.lt_succ_iff, Nat.add_comm 1]
      refine exists_congr fun k => and_congr_right fun _ => and_congr_right fun _ => and_congr_right fun _ => ?_
      exact reserve_ok_iff readIn readOut
    · intro booking same
      obtain ⟨created, rfl⟩ := reported.mp ⟨booking, same⟩
      obtain ⟨told, shards, guests, commands⟩ := returns created rfl
      obtain rfl := Except.ok.inj (told.symm.trans same)
      exact tried.booked asked shards guests commands
    · intro error same
      cases reply with
      | ok created => exact absurd (reported.mpr ⟨created, rfl⟩) (same ▸ unbooked)
      | error other =>
        obtain ⟨rfl, rfl, _⟩ := fails other rfl
        refine ⟨tried.unchanged, fun attempt member => ?_⟩
        rw [List.append_nil] at member
        rcases List.mem_append.mp member with before | earlier
        · exact guests_ne_cache asked attempt before
        · exact tried.ne_cache attempt earlier
    · intro _ _ aborted
      obtain rfl := tried.persistent meets fun k bound => aborted k (Nat.lt_succ_of_le bound)
      obtain ⟨_, _, told, same, plain⟩ := fails _ rfl
      exact ⟨_, same.trans (congrArg _ (plain rfl))⟩

/-- A booking of the second sample room, when nothing fails. -/
def bookingOut : Async 2 Booking :=
  BookingsService.create twoShards (.sample 7) ⟨room201, olena, january 1, january 5⟩

theorem create_exact_booked : ∃ attempts booking last,
    bookingOut.Runs World.exec TransactionFaults booked attempts (.ok booking) last ∧
    (attempts.filter fun attempt => attempt.cmd.isShard).length ≤ 5 ∧
    Booked twoShards ⟨room201, olena, january 1, january 5⟩ booked attempts booking last := by
  have clear := Program.replay_faultless World.exec bookingOut booked
  have permits : ∀ attempt ∈ (bookingOut.replay World.exec [] booked).1,
      TransactionFaults attempt.before attempt.cmd attempt.fault := by
    intro attempt member
    rw [clear attempt member]
    cases attempt.cmd with
    | shard i stmt => exact ⟨.commit, rfl⟩
    | guests stmt => exact rfl
    | cache cmd => trivial
  have runs := Program.runs_replay permits
  obtain ⟨booking, found⟩ := Option.isSome_iff_exists.mp
    (by decide +kernel : (bookingOut.replay World.exec [] booked).2.1.toOption.isSome = true)
  have succeeded : (bookingOut.replay World.exec [] booked).2.1 = .ok booking := by
    generalize (bookingOut.replay World.exec [] booked).2.1 = result at found
    cases result with
    | ok other =>
      obtain rfl := Option.some.inj found
      rfl
    | error error => cases found
  rw [succeeded] at runs
  have meets : Meets (fun _ => .commit)
      ((bookingOut.replay World.exec [] booked).1.filter fun attempt => attempt.cmd.isShard) :=
    fun k attempt found => clear attempt (List.mem_filter.mp (List.mem_of_getElem? found)).1
  obtain ⟨few, _, made, _⟩ := create_exact twoShards (.sample 7) ⟨room201, olena, january 1, january 5⟩
    (fun _ => .commit) rfl rfl runs meets
  exact ⟨_, _, _, runs, few, made booking rfl⟩

end HotelBooking
