import HotelBooking.Relocation.Accounts
import HotelBooking.Relocation.Atomicity
import Mathlib.Data.List.Induction

/-! Any number of `cancel` and `relocate` requests on one booking. Two clients conflict when both
have used the booking up and one of them has relocated it. -/
namespace HotelBooking
open Relational Effect
variable {n : Nat} {env : Env n} {source : Fin n} {id : Text}

/-- The command relocated the booking: it committed the local transaction, or T2 found it
active. -/
def Cmd.relocates (source : Fin n) (id : Text) : (cmd : Cmd n) → Except Err cmd.Answer → Bool
  | .shard i (.reserveAndCancel _ key), .ok _ => i = source && key = id
  | .shard i (.bookingUpdateMany key ..), .ok count => i = source && key = id && 0 < count
  | _, _ => false

/-- The command is a successful write of `cancel`. -/
def Cmd.withdraws (source : Fin n) (id : Text) : (cmd : Cmd n) → Except Err cmd.Answer → Bool
  | .shard i (.bookingUpdate key _), .ok _ => i = source && key = id
  | _, _ => false

theorem read_consumes_nothing {i : Fin n} {stmt : Stmt} (isRead : stmt.isRead = true)
    (reply : Except Err stmt.Answer) :
    Cmd.relocates source id (.shard i stmt) reply = false ∧
      Cmd.withdraws source id (.shard i stmt) reply = false := by
  cases stmt with
  | hotelCreate | hotelUpdate | hotelDelete | roomCreate | roomUpdate | roomDelete | bookingUpdate
  | bookingUpdateMany | bookingDelete | reserve | reserveAndCancel => cases isRead
  | _ => exact ⟨rfl, rfl⟩

/-- What a served command does to the stage of its client. -/
structure StageUse (source : Fin n) (id : Text) (stage : Stage n) (cmd : Cmd n)
    (reply : Except Err cmd.Answer) : Prop where
  claimed : (stage.next source cmd reply).Claimed ↔
    stage.Claimed ∨ cmd.relocates source id reply = true
  consumed : (stage.next source cmd reply).Consumed ↔
    stage.Consumed ∨ cmd.relocates source id reply = true ∨ cmd.withdraws source id reply = true
  first : cmd.relocates source id reply = true ∨ cmd.withdraws source id reply = true →
    ¬ stage.Consumed

theorem stageUse_take (slot : Slot n) (reply : Except Err Nat) :
    StageUse source id (.reserved slot)
      (.shard source (.bookingUpdateMany id activeStatuses .cancelled)) reply := by
  have missed (next : (Stage.reserved slot).next source
        (.shard source (.bookingUpdateMany id activeStatuses .cancelled)) reply = .missed slot)
      (relocates : Cmd.relocates source id
        (.shard source (.bookingUpdateMany id activeStatuses .cancelled)) reply = false)
      (withdraws : Cmd.withdraws source id
        (.shard source (.bookingUpdateMany id activeStatuses .cancelled)) reply = false) :
      StageUse source id (.reserved slot)
        (.shard source (.bookingUpdateMany id activeStatuses .cancelled)) reply := by
    constructor
    · rw [next, relocates]
      simp
    · rw [next, relocates, withdraws]
      simp
    · simp
  cases reply with
  | error error => exact missed (if_pos rfl) rfl rfl
  | ok count =>
    cases count with
    | zero => exact missed (if_pos rfl) (by simp [Cmd.relocates]) rfl
    | succ count =>
      have next : (Stage.reserved slot).next source
          (.shard source (.bookingUpdateMany id activeStatuses .cancelled)) (.ok (count + 1)) =
            .took slot := if_pos rfl
      have relocates : Cmd.relocates source id
          (.shard source (.bookingUpdateMany id activeStatuses .cancelled)) (.ok (count + 1)) =
            true := by simp [Cmd.relocates]
      constructor
      · rw [next, relocates]
        simp
      · rw [next, relocates]
        simp
      · simp

theorem stageUse {stage : Stage n} {cmd : Cmd n} (allowed : Consumes source id stage cmd)
    (reply : Except Err cmd.Answer) : StageUse source id stage cmd reply := by
  have quiet (same : stage.next source cmd reply = stage)
      (nothing : cmd.relocates source id reply = false ∧ cmd.withdraws source id reply = false) :
      StageUse source id stage cmd reply := by
    obtain ⟨relocates, withdraws⟩ := nothing
    constructor
    · simp only [same, relocates, Bool.false_eq_true, or_false]
    · simp only [same, relocates, withdraws, Bool.false_eq_true, or_false]
    · simp only [relocates, withdraws, Bool.false_eq_true, or_false, false_implies]
  have idle : ¬ (.idle : Stage n).Consumed := by simp [Stage.Consumed]
  cases allowed with
  | cache => exact quiet (Stage.next_cache _ _ _) ⟨rfl, rfl⟩
  | read isRead => exact quiet (Stage.next_read isRead reply) (read_consumes_nothing isRead reply)
  | cancel =>
    cases reply with
    | error error => exact quiet rfl ⟨rfl, rfl⟩
    | ok answer =>
      constructor
      · simp [Stage.next, Cmd.relocates]
      · simp [Stage.next, Cmd.withdraws]
      · exact fun _ => idle
  | «local» active =>
    cases reply with
    | error error => exact quiet rfl ⟨rfl, rfl⟩
    | ok answer =>
      constructor
      · simp [Stage.next, Cmd.relocates]
      · simp [Stage.next, Cmd.relocates]
      · exact fun _ => idle
  | reserve away pending =>
    cases reply with
    | error error => exact quiet rfl ⟨rfl, rfl⟩
    | ok answer =>
      constructor
      · simp [Stage.next, Cmd.relocates]
      · simp [Stage.next, Cmd.relocates, Cmd.withdraws]
      · exact fun _ => idle
  | @take slot => exact stageUse_take slot reply
  | @undo _ slot away held =>
    have undone : stage.next source
        (.shard slot.shard (.bookingUpdateMany slot.key [.pending] .cancelled)) reply = .undone := by
      rcases held with rfl | rfl
      · exact if_neg away
      · rfl
    have nothing : Cmd.relocates source id
        (.shard slot.shard (.bookingUpdateMany slot.key [.pending] .cancelled)) reply = false ∧
        Cmd.withdraws source id
          (.shard slot.shard (.bookingUpdateMany slot.key [.pending] .cancelled)) reply = false := by
      cases reply <;> simp [Cmd.relocates, Cmd.withdraws, away]
    have unused : (stage.Claimed ↔ False) ∧ (stage.Consumed ↔ False) := by
      rcases held with rfl | rfl <;> exact ⟨Iff.rfl, Iff.rfl⟩
    constructor
    · rw [undone, nothing.1, unused.1]
      simp
    · rw [undone, nothing.1, nothing.2, unused.2]
      simp
    · exact fun _ => unused.2.mp
  | @confirm status slot away active =>
    have nothing : Cmd.relocates source id
        (.shard slot.shard (.bookingUpdate slot.key { status := .value status })) reply = false ∧
        Cmd.withdraws source id
          (.shard slot.shard (.bookingUpdate slot.key { status := .value status })) reply = false := by
      cases reply <;> simp [Cmd.relocates, Cmd.withdraws, away]
    constructor
    · simp [Stage.next, nothing]
    · simp [Stage.next, nothing]
    · simp [nothing]

/-- A relocation has used the booking up. -/
def Relocated (source : Fin n) (id : Text) (trace : List (Move n)) : Prop :=
  ∃ move ∈ trace, move.event.cmd.relocates source id (Pool.reply World.exec move) = true

/-- A relocation commits although the booking is no longer active, or `cancel` writes although
a relocation has used the booking up. -/
def Reuses (source : Fin n) (id : Text) (early : List (Move n)) (move : Move n) : Prop :=
  (move.event.cmd.relocates source id (Pool.reply World.exec move) = true ∧
    ∀ booking, move.before.state.booking? ⟨source, id⟩ = some booking → ¬ booking.Active) ∨
  (move.event.cmd.withdraws source id (Pool.reply World.exec move) = true ∧
    Relocated source id early)

/-- Two clients have used the booking up, and one of them has relocated it. -/
def Conflict (stages : Nat → Stage n) : Prop :=
  ∃ c d, c ≠ d ∧ (stages c).Claimed ∧ (stages d).Consumed

theorem Conflict.update_iff {stages : Nat → Stage n} {c : Nat} {stage : Stage n}
    {relocates withdraws : Prop}
    (claimed : stage.Claimed ↔ (stages c).Claimed ∨ relocates)
    (consumed : stage.Consumed ↔ (stages c).Consumed ∨ relocates ∨ withdraws)
    (first : relocates ∨ withdraws → ¬ (stages c).Consumed) :
    Conflict (Function.update stages c stage) ↔
      Conflict stages ∨ (relocates ∧ ∃ d, (stages d).Consumed) ∨
        (withdraws ∧ ∃ d, (stages d).Claimed) := by
  have grows : ∀ d, ((stages d).Claimed → (Function.update stages c stage d).Claimed) ∧
      ((stages d).Consumed → (Function.update stages c stage d).Consumed) := by
    intro d
    by_cases same : d = c
    · subst same
      rw [Function.update_self]
      exact ⟨fun held => claimed.mpr (Or.inl held), fun held => consumed.mpr (Or.inl held)⟩
    · rw [Function.update_of_ne same]
      exact ⟨id, id⟩
  constructor
  · rintro ⟨d, e, different, left, right⟩
    by_cases here : d = c
    · subst here
      rw [Function.update_self] at left
      rw [Function.update_of_ne fun same => different same.symm] at right
      rcases claimed.mp left with held | relocated
      · exact Or.inl ⟨d, e, different, held, right⟩
      · exact Or.inr (Or.inl ⟨relocated, e, right⟩)
    · rw [Function.update_of_ne here] at left
      by_cases there : e = c
      · subst there
        rw [Function.update_self] at right
        rcases consumed.mp right with held | relocated | withdrawn
        · exact Or.inl ⟨d, e, different, left, held⟩
        · exact Or.inr (Or.inl ⟨relocated, d, left.consumed⟩)
        · exact Or.inr (Or.inr ⟨withdrawn, d, left⟩)
      · rw [Function.update_of_ne there] at right
        exact Or.inl ⟨d, e, different, left, right⟩
  · rintro (⟨d, e, different, left, right⟩ | ⟨relocated, d, held⟩ | ⟨withdrawn, d, held⟩)
    · exact ⟨d, e, different, (grows d).1 left, (grows e).2 right⟩
    · refine ⟨c, d, ?_, ?_, (grows d).2 held⟩
      · rintro rfl
        exact first (Or.inl relocated) held
      · rw [Function.update_self]
        exact claimed.mpr (Or.inr relocated)
    · refine ⟨d, c, ?_, (grows d).1 held, ?_⟩
      · rintro rfl
        exact first (Or.inr withdrawn) held.consumed
      · rw [Function.update_self]
        exact consumed.mpr (Or.inr (Or.inr withdrawn))

section Run
variable {original : Booking} {world : World n} {calls : List (Call n)} {trace : List (Move n)}
  {last : Clients n}

/-- Every request cancels the booking or relocates it. -/
def OnBooking (id : Text) (calls : List (Call n)) : Prop :=
  ∀ call ∈ calls, call.request = .cancelBooking id ∨ ∃ dto, call.request = .relocateBooking id dto

def ConsumeEnds (request : Option Request) (after : Stage n) (result : Except Err Response) : Prop :=
  match request with
  | some (.cancelBooking _) => after = .withdrew ∧ (∃ response, result = .ok response) ∨
      after = .idle ∧ ∃ error, result = .error error
  | _ => RelocateEnds after

theorem clients_consume (only : OnBooking id calls) (home : env.router.forKey id = source) :
    (clients env world calls).Obeys (consumeProtocol source id)
      (fun i after result => ConsumeEnds (calls[i]?.map Call.request) after result)
      (fun _ => .idle) := by
  intro i program found
  simp only [clients, List.getElem?_map] at found
  obtain ⟨call, here, rfl⟩ := Option.map_eq_some_iff.mp found
  have asked := only call (List.mem_of_getElem? here)
  obtain ⟨request, entropy, schedule⟩ := call
  simp only [here, Option.map_some]
  rcases asked with rfl | ⟨dto, rfl⟩
  · refine Program.obeys_bind (cancel_obeys home) ?_ ?_
    · rintro _ booking (⟨rfl, _⟩ | ⟨_, _, same⟩)
      · exact Or.inl ⟨rfl, _, rfl⟩
      · cases same
    · rintro _ error (⟨_, _, same⟩ | ⟨rfl, _⟩)
      · cases same
      · exact Or.inr ⟨rfl, error, rfl⟩
  · exact Program.obeys_bind (relocate_obeys dto home) (fun _ _ final => final)
      fun _ _ final => final

def stagesOf (source : Fin n) (id : Text) (trace : List (Move n)) : Nat → Stage n :=
  Pool.phases (consumeProtocol source id) World.exec (fun _ => .idle) trace

/-- The stages of the clients after one more move, and the stage that the move found. -/
theorem stagesOf_concat (trace : List (Move n)) (move : Move n) :
    stagesOf source id (trace ++ [move]) = Function.update (stagesOf source id trace)
      move.event.client ((stagesOf source id trace move.event.client).next source move.event.cmd
        (Pool.reply World.exec move)) :=
  Pool.phases_concat _ _ _

theorem accounts_run (only : OnBooking original.id calls)
    (found : (world.shards (env.router.forKey original.id)).bookings.find? original.id = some original)
    (run : Run (Pool.Step World.exec Aborts) (clients env world calls) trace last) :
    Accounts world.booking? last.state.booking? ⟨env.router.forKey original.id, original.id⟩ original
      (stagesOf (env.router.forKey original.id) original.id trace) := by
  induction run with
  | start =>
    constructor
    · exact fun _ => found
    · rintro c ⟨⟩
    · rintro c slot ⟨⟩
    · rintro c slot ⟨⟩
    · rintro c d slot ⟨⟩
    · intro slot row stored absent
      cases stored.symm.trans absent
    · exact fun _ present => present
  | @next trace mid event last earlier stepped ih =>
    have allowed := ((Pool.run_obeys (clients_consume only rfl) earlier).step stepped).1
    obtain ⟨permitted, result⟩ := stepped.state_eq
    rw [stagesOf_concat, result]
    exact ih.step found allowed permitted

theorem stageUse_run (only : OnBooking original.id calls)
    (run : Run (Pool.Step World.exec Aborts) (clients env world calls) trace last)
    {event : Event (signature n) Err} {next : Clients n}
    (stepped : Pool.Step World.exec Aborts last event next) :
    StageUse (env.router.forKey original.id) original.id
      (stagesOf (env.router.forKey original.id) original.id trace event.client) event.cmd
      (Pool.reply World.exec ⟨last, event, next⟩) := by
  have allowed := ((Pool.run_obeys (clients_consume only rfl) run).step stepped).1
  exact stageUse allowed _

/-- Some client has relocated the booking exactly when some move did. -/
theorem relocated_iff (only : OnBooking original.id calls)
    (run : Run (Pool.Step World.exec Aborts) (clients env world calls) trace last) :
    (∃ c, (stagesOf (env.router.forKey original.id) original.id trace c).Claimed) ↔
      Relocated (env.router.forKey original.id) original.id trace := by
  induction run with
  | start =>
    constructor
    · rintro ⟨c, ⟨⟩⟩
    · rintro ⟨move, member, _⟩
      exact absurd member List.not_mem_nil
  | @next trace mid event last earlier stepped ih =>
    have use := stageUse_run only earlier stepped
    have split : Relocated (env.router.forKey original.id) original.id
        (trace ++ [⟨mid, event, last⟩]) ↔
        Relocated (env.router.forKey original.id) original.id trace ∨
          event.cmd.relocates (env.router.forKey original.id) original.id
            (Pool.reply World.exec ⟨mid, event, last⟩) = true := by
      simp only [Relocated, List.mem_append, List.mem_singleton, or_and_right, exists_or,
        exists_eq_left]
    rw [stagesOf_concat, split, ← ih]
    constructor
    · rintro ⟨c, claimed⟩
      by_cases same : c = event.client
      · subst same
        rw [Function.update_self] at claimed
        exact (use.claimed.mp claimed).imp_left fun held => ⟨_, held⟩
      · rw [Function.update_of_ne same] at claimed
        exact Or.inl ⟨c, claimed⟩
    · rintro (⟨c, claimed⟩ | relocates)
      · refine ⟨c, ?_⟩
        by_cases same : c = event.client
        · subst same
          rw [Function.update_self]
          exact use.claimed.mpr (Or.inl claimed)
        · rwa [Function.update_of_ne same]
      · refine ⟨event.client, ?_⟩
        rw [Function.update_self]
        exact use.claimed.mpr (Or.inr relocates)

/-- Clients conflict exactly when some move has used the booking up again. -/
theorem conflict_iff (only : OnBooking original.id calls) (active : original.Active)
    (found : (world.shards (env.router.forKey original.id)).bookings.find? original.id = some original)
    (run : Run (Pool.Step World.exec Aborts) (clients env world calls) trace last) :
    Conflict (stagesOf (env.router.forKey original.id) original.id trace) ↔
      ∃ early move late, trace = early ++ move :: late ∧
        Reuses (env.router.forKey original.id) original.id early move := by
  induction run with
  | start =>
    constructor
    · rintro ⟨c, d, _, ⟨⟩, _⟩
    · rintro ⟨early, move, late, split, _⟩
      simp at split
  | @next trace mid event last earlier stepped ih =>
    have use := stageUse_run only earlier stepped
    have accounts := accounts_run only found earlier
    have inactive : (∃ d, (stagesOf (env.router.forKey original.id) original.id trace d).Consumed) ↔
        ∀ booking, mid.state.booking? ⟨env.router.forKey original.id, original.id⟩ = some booking →
          ¬ booking.Active := by
      constructor
      · rintro ⟨d, consumed⟩ booking stored
        rw [accounts.gone d consumed] at stored
        obtain rfl := Option.some.inj stored
        simp [Booking.Active, activeStatuses]
      · intro unused
        by_contra nobody
        exact unused original (accounts.kept fun d consumed => nobody ⟨d, consumed⟩) active
    rw [stagesOf_concat, Run.exists_split_concat, ← ih,
      Conflict.update_iff use.claimed use.consumed use.first, inactive, relocated_iff only earlier]
    exact Iff.rfl

/-- Of the original and the bookings stored since the start at most one is active, and none if
a cancellation succeeded. -/
structure ConsumedOnce (source : Fin n) (original : Booking) (world : World n)
    (calls : List (Call n)) (last : Clients n) : Prop where
  once : ∀ first second, Keeps world last.state source original first →
    Keeps world last.state source original second → first = second
  cancelled : ∀ (i : Nat) (response : Response), calls[i]?.map Call.request = some (.cancelBooking original.id) →
    last.clients[i]? = some (Program.ret response) → ∀ kept, ¬ Keeps world last.state source original kept

theorem keeps_iff_booking? {kept : Fin n × Booking} :
    Keeps world last.state source original kept ↔
      last.state.booking? ⟨kept.1, kept.2.id⟩ = some kept.2 ∧ kept.2.Active ∧
        ((⟨kept.1, kept.2.id⟩ : Slot n) = ⟨source, original.id⟩ ∨
          world.booking? ⟨kept.1, kept.2.id⟩ = none) := by
  have stored : last.state.booking? ⟨kept.1, kept.2.id⟩ = some kept.2 ↔
      kept.2 ∈ (last.state.shards kept.1).bookings := by
    simp only [World.booking?, Table.find?_eq_some, and_true]
  rw [stored, Slot.mk.injEq]
  constructor
  · rintro ⟨member, active, old | ⟨_, fresh⟩⟩
    · exact ⟨member, active, Or.inl old⟩
    · exact ⟨member, active, Or.inr fresh⟩
  · rintro ⟨member, active, old | fresh⟩
    · exact ⟨member, active, Or.inl old⟩
    · exact ⟨member, active, Or.inr ⟨member, fresh⟩⟩

theorem served_bound (run : Run (Pool.Step World.exec Aborts) (clients env world calls) trace last)
    {c : Nat} (busy : stagesOf source id trace c ≠ .idle) : c < calls.length := by
  induction run with
  | start => exact absurd rfl busy
  | @next trace mid event last earlier stepped ih =>
    rw [stagesOf_concat] at busy
    by_cases same : c = event.client
    · subst same
      have length := Pool.run_length earlier
      cases stepped with
      | serve waiting _ =>
        have bound := (List.getElem?_eq_some_iff.mp waiting).1
        rw [length] at bound
        simpa only [clients, List.length_map] using bound
    · rw [Function.update_of_ne same] at busy
      exact ih busy

/-- A client that has finished ended as the protocol says. -/
theorem finished_ends (only : OnBooking original.id calls)
    (run : Run (Pool.Step World.exec Aborts) (clients env world calls) trace last)
    (finished : last.Finished) {c : Nat} (bound : c < calls.length) :
    ∃ result, last.clients[c]? = some (Program.ofExcept result) ∧
      ConsumeEnds (calls[c]?.map Call.request)
        (stagesOf (env.router.forKey original.id) original.id trace c) result := by
  have length : c < last.clients.length := by
    rw [Pool.run_length run]
    simpa only [clients, List.length_map] using bound
  obtain ⟨result, ended⟩ := finished.result length
  exact ⟨result, ended, Pool.run_ends (clients_consume only rfl) run ended⟩

theorem finished_settled (only : OnBooking original.id calls)
    (run : Run (Pool.Step World.exec Aborts) (clients env world calls) trace last)
    (finished : last.Finished) (c : Nat) :
    (stagesOf (env.router.forKey original.id) original.id trace c).Settled := by
  by_cases busy : stagesOf (env.router.forKey original.id) original.id trace c = .idle
  · rw [busy]
    trivial
  · obtain ⟨result, _, ends⟩ := finished_ends only run finished (served_bound run busy)
    unfold ConsumeEnds at ends
    split at ends
    · rcases ends with ⟨same, _⟩ | ⟨same, _⟩ <;> rw [same] <;> trivial
    · exact ends.1

theorem withdrew_ok (only : OnBooking original.id calls)
    (run : Run (Pool.Step World.exec Aborts) (clients env world calls) trace last)
    (finished : last.Finished) {c : Nat}
    (withdrew : stagesOf (env.router.forKey original.id) original.id trace c = .withdrew) :
    ∃ response, calls[c]?.map Call.request = some (.cancelBooking original.id) ∧
      last.clients[c]? = some (Program.ret response) := by
  have bound : c < calls.length := served_bound run (by rw [withdrew]; rintro ⟨⟩)
  obtain ⟨result, ended, ends⟩ := finished_ends only run finished bound
  have here : calls[c]? = some calls[c] := List.getElem?_eq_getElem bound
  rw [withdrew, here, Option.map_some] at ends
  rcases only _ (List.getElem_mem bound) with cancels | ⟨dto, relocates⟩
  · rw [cancels] at ends
    rcases ends with ⟨_, response, rfl⟩ | ⟨⟨⟩, _⟩
    exact ⟨response, by rw [here, Option.map_some, cancels], ended⟩
  · rw [relocates] at ends
    exact absurd rfl ends.2

theorem Stage.moved_of_claimed {stage : Stage n} (claimed : stage.Claimed)
    (settled : stage.Settled) : ∃ slot, stage = .moved slot := by
  cases stage with
  | moved slot => exact ⟨slot, rfl⟩
  | took slot => cases settled
  | _ => cases claimed

section Settled
variable {stages : Nat → Stage n}
  (accounts : Accounts world.booking? last.state.booking? ⟨source, original.id⟩ original stages)
include accounts

/-- The booking of a client that has moved. -/
theorem moved_keeps {c : Nat} {slot : Slot n} (here : stages c = .moved slot) :
    ∃ row, Keeps world last.state source original (slot.shard, row) ∧ row.id = slot.key := by
  have owns : (stages c).slot? = some slot := by
    rw [here]
    rfl
  obtain ⟨row, stored, active⟩ := accounts.rows c slot owns
  rw [here] at active
  have key : row.id = slot.key := (Table.find?_eq_some.mp stored).2
  refine ⟨row, keeps_iff_booking?.mpr ⟨?_, active, Or.inr ?_⟩, key⟩
  · rw [key]
    exact stored
  · rw [key]
    exact accounts.fresh c slot owns

/-- An active booking is the original, or the new one of a client. -/
theorem keeps_owner (settled : ∀ c, (stages c).Settled) {kept : Fin n × Booking}
    (keeps : Keeps world last.state source original kept) :
    (⟨kept.1, kept.2.id⟩ : Slot n) = ⟨source, original.id⟩ ∨
      ∃ c, (stages c).Claimed ∧ (stages c).slot? = some ⟨kept.1, kept.2.id⟩ := by
  obtain ⟨stored, active, old | fresh⟩ := keeps_iff_booking?.mp keeps
  · exact Or.inl old
  · obtain ⟨c, owns⟩ := accounts.owned _ _ stored fresh active
    refine Or.inr ⟨c, ?_, owns⟩
    have ended := settled c
    cases stage : stages c with
    | moved slot => trivial
    | took slot => trivial
    | reserved slot => rw [stage] at ended; cases ended
    | missed slot => rw [stage] at ended; cases ended
    | idle => rw [stage] at owns; cases owns
    | withdrew => rw [stage] at owns; cases owns
    | undone => rw [stage] at owns; cases owns

theorem original_untouched {kept : Fin n × Booking}
    (keeps : Keeps world last.state source original kept)
    (old : (⟨kept.1, kept.2.id⟩ : Slot n) = ⟨source, original.id⟩) (c : Nat) :
    ¬ (stages c).Consumed := by
  intro consumed
  obtain ⟨stored, active, _⟩ := keeps_iff_booking?.mp keeps
  rw [old, accounts.gone c consumed] at stored
  rw [← Option.some.inj stored] at active
  simp [Booking.Active, activeStatuses] at active

/-- Two clients that have moved are one client when they keep one booking. -/
theorem moved_eq {c d : Nat} {slot slot' : Slot n} (here : stages c = .moved slot)
    (there : stages d = .moved slot')
    (once : ∀ first second, Keeps world last.state source original first →
      Keeps world last.state source original second → first = second) : c = d := by
  obtain ⟨row, keeps, key⟩ := moved_keeps accounts here
  obtain ⟨row', keeps', key'⟩ := moved_keeps accounts there
  have same := once _ _ keeps keeps'
  simp only [Prod.mk.injEq] at same
  obtain ⟨shard, rfl⟩ := same
  have slots : slot = slot' := by
    cases slot
    cases slot'
    cases shard
    cases key.symm.trans key'
    rfl
  subst slots
  exact accounts.distinct c d slot (by rw [here]; rfl) (by rw [there]; rfl)

/-- Without a conflict no two bookings are active. -/
theorem keeps_one (settled : ∀ c, (stages c).Settled) (apart : ¬ Conflict stages)
    {first second : Fin n × Booking} (keepsFirst : Keeps world last.state source original first)
    (keepsSecond : Keeps world last.state source original second) : first = second := by
  obtain ⟨storedFirst, _, _⟩ := keeps_iff_booking?.mp keepsFirst
  obtain ⟨storedSecond, _, _⟩ := keeps_iff_booking?.mp keepsSecond
  have slots : (⟨first.1, first.2.id⟩ : Slot n) = ⟨second.1, second.2.id⟩ := by
    rcases keeps_owner accounts settled keepsFirst with old | ⟨c, claimed, owns⟩
    · rcases keeps_owner accounts settled keepsSecond with other | ⟨d, claimed, _⟩
      · exact old.trans other.symm
      · exact absurd claimed.consumed (original_untouched accounts keepsFirst old d)
    · rcases keeps_owner accounts settled keepsSecond with old | ⟨d, claimed', owns'⟩
      · exact absurd claimed.consumed (original_untouched accounts keepsSecond old c)
      · by_cases same : c = d
        · subst same
          exact Option.some.inj (owns.symm.trans owns')
        · exact absurd ⟨c, d, same, claimed, claimed'.consumed⟩ apart
  rw [slots, storedSecond] at storedFirst
  exact Prod.ext (congrArg Slot.shard slots) (Option.some.inj storedFirst).symm

end Settled

/-- A cancellation that succeeded has withdrawn the booking. -/
theorem returned_withdrew (only : OnBooking original.id calls)
    (run : Run (Pool.Step World.exec Aborts) (clients env world calls) trace last)
    (finished : last.Finished) {i : Nat} {response : Response}
    (asked : calls[i]?.map Call.request = some (.cancelBooking original.id))
    (returned : last.clients[i]? = some (Program.ret response)) :
    stagesOf (env.router.forKey original.id) original.id trace i = .withdrew := by
  have bound : i < calls.length := by
    obtain ⟨call, here, _⟩ := Option.map_eq_some_iff.mp asked
    exact (List.getElem?_eq_some_iff.mp here).1
  obtain ⟨result, ended, ends⟩ := finished_ends only run finished bound
  rw [asked] at ends
  rcases ends with ⟨here, _⟩ | ⟨_, error, rfl⟩
  · exact here
  · cases returned.symm.trans ended

/-- Once all clients have finished, the booking was consumed once exactly when no two clients
conflict. -/
theorem consumedOnce_iff_stages (only : OnBooking original.id calls)
    (found : (world.shards (env.router.forKey original.id)).bookings.find? original.id = some original)
    (run : Run (Pool.Step World.exec Aborts) (clients env world calls) trace last)
    (finished : last.Finished) :
    ConsumedOnce (env.router.forKey original.id) original world calls last ↔
      ¬ Conflict (stagesOf (env.router.forKey original.id) original.id trace) := by
  have accounts := accounts_run only found run
  have settled := finished_settled only run finished
  constructor
  · rintro ⟨once, cancelled⟩ ⟨c, d, different, claimed, consumed⟩
    obtain ⟨slot, here⟩ := Stage.moved_of_claimed claimed (settled c)
    obtain ⟨row, keeps, _⟩ := moved_keeps accounts here
    cases stage : stagesOf (env.router.forKey original.id) original.id trace d with
    | moved slot' => exact different (moved_eq accounts here stage once)
    | withdrew =>
      obtain ⟨response, asked, returned⟩ := withdrew_ok only run finished stage
      exact cancelled d response asked returned _ keeps
    | took slot => have ended := settled d; rw [stage] at ended; cases ended
    | _ => rw [stage] at consumed; cases consumed
  · intro apart
    constructor
    · exact fun first second => keeps_one accounts settled apart
    · intro i response asked returned kept keeps
      have withdrew := returned_withdrew only run finished asked returned
      rcases keeps_owner accounts settled keeps with old | ⟨c, claimed, _⟩
      · exact original_untouched accounts keeps old i (by rw [withdrew]; trivial)
      · refine apart ⟨c, i, ?_, claimed, by rw [withdrew]; trivial⟩
        rintro rfl
        rw [withdrew] at claimed
        cases claimed

/-- Requests on one booking consume it at most once exactly when none of them uses it up again:
no relocation commits that finds it inactive, and no cancellation writes after a relocation. -/
theorem consumedOnce_iff (env : Env n) (world : World n) (calls : List (Call n))
    (original : Booking)
    (found : (world.shards (env.router.forKey original.id)).bookings.find? original.id = some original)
    (active : original.Active) (only : OnBooking original.id calls)
    (run : Run (Pool.Step World.exec Aborts) (clients env world calls) trace last)
    (finished : last.Finished) :
    ConsumedOnce (env.router.forKey original.id) original world calls last ↔
      ∀ early move late, trace = early ++ move :: late →
        ¬ Reuses (env.router.forKey original.id) original.id early move := by
  rw [consumedOnce_iff_stages only found run finished, conflict_iff only active found run]
  constructor
  · exact fun unused early move late split reuses => unused ⟨early, move, late, split, reuses⟩
  · rintro unused ⟨early, move, late, split, reuses⟩
    exact unused early move late split reuses

end Run

/-- The sample booking is cancelled, relocated within its shard, and relocated to the other one. -/
def consuming : List (Call 2) :=
  [.sample (.cancelBooking bookedRow.id) 7,
    .sample (.relocateBooking bookedRow.id ⟨room102, false⟩) 8,
    .sample (.relocateBooking bookedRow.id ⟨room201, false⟩) 9]

theorem consuming_only : OnBooking bookedRow.id consuming := by
  simp only [OnBooking, consuming, List.forall_mem_cons, List.not_mem_nil, false_implies,
    implies_true, and_true]
  exact ⟨Or.inl rfl, Or.inr ⟨_, rfl⟩, Or.inr ⟨_, rfl⟩⟩

def consumingIn (order : List Nat) : List (Move 2) × Clients 2 :=
  (clients twoShards booked consuming).record World.exec (Pool.faultless order)

theorem run_consuming (order : List Nat) :
    Run (Pool.Step World.exec Aborts) (clients twoShards booked consuming) (consumingIn order).1
      (consumingIn order).2 :=
  Pool.run_faultless Aborts.faultless _ _

/-- Both the cancellation and the local relocation read the booking before it is cancelled. -/
def racing : List Nat := [1, 0, 0, 1, 2]

/-- The saga has reserved its room when the booking is cancelled. -/
def rechecking : List Nat := [2, 2, 0, 0, 2, 2, 1]

theorem run_racing : ∃ trace last,
    Run (Pool.Step World.exec Aborts) (clients twoShards booked consuming) trace last ∧
      last.Finished ∧ Conflict (stagesOf (twoShards.router.forKey bookedRow.id) bookedRow.id trace) := by
  have withdrew : stagesOf (twoShards.router.forKey bookedRow.id) bookedRow.id
      (consumingIn racing).1 0 = .withdrew := by decide +kernel
  refine ⟨_, _, run_consuming racing, by decide +kernel, 1, 0, by decide, by decide +kernel, ?_⟩
  rw [withdrew]
  trivial

theorem run_rechecking : ∃ trace last,
    Run (Pool.Step World.exec Aborts) (clients twoShards booked consuming) trace last ∧
      last.Finished ∧ ∀ c < 3, ¬ (stagesOf (twoShards.router.forKey bookedRow.id) bookedRow.id
        trace c).Claimed :=
  ⟨_, _, run_consuming rechecking, by decide +kernel, by decide +kernel⟩

theorem consumedOnce_racing : ∃ trace last,
    Run (Pool.Step World.exec Aborts) (clients twoShards booked consuming) trace last ∧
      last.Finished ∧
      ¬ ConsumedOnce (twoShards.router.forKey bookedRow.id) bookedRow booked consuming last := by
  obtain ⟨trace, last, run, finished, conflict⟩ := run_racing
  refine ⟨trace, last, run, finished, fun consumed => ?_⟩
  exact (consumedOnce_iff_stages consuming_only bookedRow_stored run finished).mp consumed conflict

theorem consumedOnce_iff_rechecking : ∃ trace last,
    Run (Pool.Step World.exec Aborts) (clients twoShards booked consuming) trace last ∧
      last.Finished ∧
      ConsumedOnce (twoShards.router.forKey bookedRow.id) bookedRow booked consuming last := by
  obtain ⟨trace, last, run, finished, unclaimed⟩ := run_rechecking
  have apart : ¬ Conflict (stagesOf (twoShards.router.forKey bookedRow.id) bookedRow.id trace) := by
    rintro ⟨c, _, _, claimed, _⟩
    have busy : stagesOf (twoShards.router.forKey bookedRow.id) bookedRow.id trace c ≠ .idle := by
      intro idle
      rw [idle] at claimed
      cases claimed
    exact unclaimed c (served_bound run busy) claimed
  refine ⟨trace, last, run, finished, (consumedOnce_iff twoShards booked consuming bookedRow
    bookedRow_stored (by decide) consuming_only run finished).mpr ?_⟩
  intro early move late split reuses
  exact apart ((conflict_iff consuming_only (by decide) bookedRow_stored run).mpr
    ⟨early, move, late, split, reuses⟩)

end HotelBooking
