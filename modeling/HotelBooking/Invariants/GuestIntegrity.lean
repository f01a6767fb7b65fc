import HotelBooking.Services.Protocols
import HotelBooking.Services.FanOut

/-! The guests of bookings. No foreign key spans two nodes, so the services check: a request
writes a guest into a booking that it has seen before, and deletes a guest that it has found no
bookings of. Between a check and the write that relies on it other requests may run. -/
namespace HotelBooking
open Relational Effect
variable {n : Nat} {env : Env n}

/-- Every stored booking refers to a guest. -/
def Guested (world : World n) : Prop :=
  ∀ i, ∀ booking ∈ (world.shards i).bookings, (world.guests.guests.find? booking.guestId).isSome

instance {world : World n} : Decidable (Guested world) :=
  inferInstanceAs (Decidable (∀ i, ∀ booking ∈ (world.shards i).bookings.rows,
    (world.guests.guests.find? booking.guestId).isSome))

/-- The guest that a statement writes into a booking, as far as the request chooses it. -/
def Stmt.assigns : Stmt → Option Text
  | .reserve data | .reserveAndCancel data _ => some data.guestId
  | .bookingUpdate _ data => match data.guestId with
    | .value guest => some guest.text
    | _ => none
  | _ => none

theorem assigns_of_isRead {stmt : Stmt} (isRead : stmt.isRead = true) : stmt.assigns = none := by
  cases stmt <;> first | rfl | cases isRead

/-- A booking of the guest was written on the shard. -/
def Cmd.assigned : (cmd : Cmd n) → Except Err cmd.Answer → Option (Fin n × Text)
  | .shard i stmt, .ok _ => stmt.assigns.map fun guest => (i, guest)
  | _, _ => none

/-- A guest that existed, by a read of the guest or of one of its bookings. -/
def Cmd.vouches : (cmd : Cmd n) → Except Err cmd.Answer → Option Text
  | .guests (.findUnique id), .ok guest => guest.map fun _ => id
  | .shard _ (.bookingFindUnique _), .ok booking => booking.map Booking.guestId
  | _, _ => none

/-- A shard that had no booking of a guest. -/
def Cmd.countsNone : (cmd : Cmd n) → Except Err cmd.Answer → Option (Fin n × Text)
  | .shard i (.bookingCount guest), .ok count => if count = 0 then some (i, guest) else none
  | _, _ => none

def Cmd.deleted : (cmd : Cmd n) → Except Err cmd.Answer → Option Text
  | .guests (.delete id), .ok _ => some id
  | _, _ => none

structure GuestPhase (n : Nat) where
  vouched : List Text := []
  counted : List (Fin n × Text) := []

/-- What a request writes it has checked. -/
structure GuestAllows (phase : GuestPhase n) (cmd : Cmd n) : Prop where
  assign : ∀ i stmt guest, cmd = .shard i stmt → stmt.assigns = some guest → guest ∈ phase.vouched
  delete : ∀ id, cmd = .guests (.delete id) → ∀ i, (i, id) ∈ phase.counted

abbrev guestProtocol (n : Nat) : Protocol (signature n) Err where
  Phase := GuestPhase n
  allows := GuestAllows
  next phase cmd reply := {
    vouched := phase.vouched ++ (Cmd.vouches cmd reply).toList
    counted := phase.counted ++ (Cmd.countsNone cmd reply).toList }

/-- Commands that rely on this guest at most. -/
structure Cmd.ReliesOn (guest : Option Text) (cmd : Cmd n) : Prop where
  assign : ∀ i stmt other, cmd = .shard i stmt → stmt.assigns = some other → guest = some other
  delete : ∀ id, cmd ≠ .guests (.delete id)

theorem Cmd.ReliesOn.read {guest : Option Text} {i : Fin n} {stmt : Stmt}
    (plain : stmt.assigns = none) : Cmd.ReliesOn guest (.shard i stmt) := by
  refine ⟨?_, nofun⟩
  rintro _ _ other ⟨⟩ assigns
  cases plain.symm.trans assigns

theorem Cmd.ReliesOn.cache {guest : Option Text} {cmd : CacheCmd} :
    Cmd.ReliesOn (n := n) guest (.cache cmd) :=
  ⟨fun _ _ _ other => (nomatch other), nofun⟩

theorem Cmd.ReliesOn.guests {guest : Option Text} {stmt : GuestStmt} (kept : ∀ id, stmt ≠ .delete id) :
    Cmd.ReliesOn (n := n) guest (.guests stmt) :=
  ⟨fun _ _ _ other => (nomatch other), fun id same => kept id (by cases same; rfl)⟩

theorem Cmd.ReliesOn.writes {guest : Text} {i : Fin n} {stmt : Stmt}
    (assigns : ∀ other, stmt.assigns = some other → other = guest) :
    Cmd.ReliesOn (some guest) (.shard i stmt) := by
  refine ⟨?_, nofun⟩
  rintro _ _ other ⟨⟩ same
  rw [assigns other same]

namespace GuestIntegrity
variable {phase : GuestPhase n}

/-- Nothing is asked of the phase in which a request ends. -/
abbrev Done : GuestPhase n → Except Err α → Prop := fun _ _ => True

theorem relies_obeys {program : Async n α} {guest : Option Text}
    (uses : program.Uses (Cmd.ReliesOn guest))
    (vouched : ∀ given, guest = some given → given ∈ phase.vouched) :
    program.Obeys (guestProtocol n) Done phase := by
  refine uses.obeys (fun phase : GuestPhase n =>
    ∀ given, guest = some given → given ∈ phase.vouched) ?_ ?_ (fun _ _ _ => trivial) vouched
  · intro phase cmd vouched relies
    exact ⟨fun i stmt other same assigns => vouched other (relies.assign i stmt other same assigns),
      fun id same => absurd same (relies.delete id)⟩
  · exact fun phase cmd reply vouched _ given same => List.mem_append_left _ (vouched given same)

theorem then_obeys {program : Async n α} {next : α → Async n β}
    {middle : GuestPhase n → α → Prop}
    (head : program.Obeys (guestProtocol n) (Returns middle) phase)
    (tail : ∀ after value, middle after value →
      (next value).Obeys (guestProtocol n) Done after) :
    (program.bind next).Obeys (guestProtocol n) Done phase :=
  Program.obeys_bind head (fun after value reached => tail after value (reached value rfl))
    fun _ _ _ => trivial

theorem assert_obeys (guest : Text) :
    (BookingsService.assertGuestExists guest : Async n Unit).Obeys (guestProtocol n)
      (Returns fun after _ => guest ∈ after.vouched) phase := by
  have asked : (globalRead (.findUnique guest) .strong : Async n (Option Guest)).Obeys
      (guestProtocol n) (Returns fun after found => found.isSome → guest ∈ after.vouched) phase := by
    refine obeys_globalRead ⟨fun _ _ _ other => (nomatch other), nofun⟩ ?_ fun _ _ _ failed => nomatch failed
    rintro answer found ⟨⟩ here
    obtain ⟨row, rfl⟩ := Option.isSome_iff_exists.mp here
    exact List.mem_append_right _ List.mem_cons_self
  refine obeys_then asked fun after found vouched => ?_
  cases found with
  | none => exact obeys_raise _
  | some row => exact obeys_ret (vouched rfl)

theorem findLocal_obeys (env : Env n) (id : Text) :
    (BookingsService.findLocal env id).Obeys (guestProtocol n)
      (Returns fun after booking => booking.guestId ∈ after.vouched) phase := by
  have asked : (env.router.read (env.router.forKey id) (.bookingFindUnique id)).Obeys
      (guestProtocol n) (Returns fun after found =>
        ∀ booking, found = some booking → booking.guestId ∈ after.vouched) phase := by
    refine obeys_read ⟨?_, nofun⟩ ?_ fun _ _ _ failed => nomatch failed
    · rintro _ _ guest ⟨⟩ assigns
      cases assigns
    · rintro answer found ⟨⟩ booking rfl
      exact List.mem_append_right _ List.mem_cons_self
  refine obeys_then asked fun after found vouched => ?_
  cases found with
  | none => exact obeys_raise _
  | some booking => exact obeys_ret (vouched booking rfl)

theorem relies_bump (env : Env n) {guest : Option Text} :
    (CacheService.bumpVersion env).Uses (Cmd.ReliesOn guest) :=
  uses_bumpVersion env .cache

theorem create_obeys (env : Env n) (entropy : Entropy) (dto : CreateBookingDto) :
    (BookingsService.create env entropy dto).Obeys (guestProtocol n) Done phase := by
  unfold BookingsService.create
  dsimp only
  split
  · trivial
  · refine then_obeys (assert_obeys dto.guestId.text) fun after _ vouched => ?_
    have uses : (do
        let booking ← env.router.run (env.router.forKey dto.roomId)
          (BookingsService.serializable fun attempt =>
            issue (.shard (env.router.forKey dto.roomId) (.reserve {
              id := ShardRouter.childId dto.roomId (entropy.uuid attempt)
              roomId := dto.roomId
              guestId := dto.guestId
              checkIn := env.platform.newDate dto.checkInDate
              checkOut := env.platform.newDate dto.checkOutDate
              status := .pending
              createdAt := entropy.now attempt })))
        BookingsService.invalidateSearch env
        return booking : Async n Booking).Uses (Cmd.ReliesOn (some dto.guestId.text)) := by
      refine Program.uses_bind (uses_run (uses_serializable fun _ => uses_issue (.writes ?_)))
        fun _ => Program.uses_bind (relies_bump env) fun _ => trivial
      rintro other ⟨⟩
      rfl
    refine relies_obeys uses fun given same => ?_
    obtain rfl := Option.some.inj same
    exact vouched

theorem update_obeys (env : Env n) (id : Text) (dto : UpdateBookingDto) :
    (BookingsService.update env id dto).Obeys (guestProtocol n) Done phase := by
  have rest (guest : Option Text) (named : ∀ given, dto.guestId = .value given →
      guest = some given.text) : (do
      let _ ← BookingsService.findLocal env id
      let booking ← env.router.write (env.router.forKey id)
        (.bookingUpdate id (BookingsService.patchData env.platform dto))
      BookingsService.invalidateSearch env
      return booking : Async n Booking).Uses (Cmd.ReliesOn guest) := by
    refine Program.uses_bind (uses_findLocal (.read rfl)) fun _ => ?_
    refine Program.uses_bind (uses_write ⟨?_, nofun⟩) fun _ =>
      Program.uses_bind (relies_bump env) fun _ => trivial
    rintro _ _ other ⟨⟩ assigns
    simp only [Stmt.assigns, BookingsService.patchData] at assigns
    split at assigns
    · next given same => rw [named given same, Option.some.inj assigns]
    · cases assigns
  unfold BookingsService.update
  split
  · trivial
  · dsimp only
    split
    · next given same =>
      refine then_obeys (assert_obeys given.text) fun after _ vouched => ?_
      refine relies_obeys (rest (some given.text) fun other equal => ?_) fun other equal => ?_
      · rw [same] at equal
        cases equal
        rfl
      · obtain rfl := Option.some.inj equal
        exact vouched
    · next other =>
      refine relies_obeys (rest none fun given same => absurd same (other given)) ?_
      rintro _ ⟨⟩

/-- The reservations of a relocation are for the guest of the original. -/
theorem relocate_uses (env : Env n) (entropy : Entropy) (roomId id : Text) (original : Booking)
    (simulateFailure : Bool) :
    (BookingsService.relocateLocally env entropy roomId id original).Uses
      (Cmd.ReliesOn (some original.guestId)) ∧
    (BookingsService.relocateSaga env entropy roomId id original simulateFailure).Uses
      (Cmd.ReliesOn (some original.guestId)) := by
  constructor
  · refine uses_relocateLocally (fun _ => .writes ?_) .cache
    rintro other ⟨⟩
    rfl
  · refine uses_relocateSaga (fun _ => .writes ?_) (.read rfl) (fun _ => .read rfl)
      (fun _ => .writes nofun) .cache
    rintro other ⟨⟩
    rfl

theorem relocate_obeys (env : Env n) (entropy : Entropy) (id : Text) (dto : RelocateBookingDto) :
    (BookingsService.relocate env entropy id dto).Obeys (guestProtocol n) Done phase := by
  unfold BookingsService.relocate
  split
  · trivial
  · refine then_obeys (findLocal_obeys env id) fun after original vouched => ?_
    obtain ⟨locally, saga⟩ :=
      relocate_uses env entropy dto.roomId.text id original dto.simulateFailure
    have vouches (given : Text) (same : some original.guestId = some given) :
        given ∈ after.vouched := by
      obtain rfl := Option.some.inj same
      exact vouched
    split
    · trivial
    · split
      · trivial
      · split
        · exact relies_obeys locally vouches
        · exact relies_obeys saga vouches

/-- Each settled count of zero is remembered. -/
theorem settle_counts (router : ShardRouter n) (guest : Text) (order : List (Fin n)) :
    (router.settle (.bookingCount guest) order).Obeys (guestProtocol n)
      (Returns fun after settled => settled.map Prod.fst = order ∧
        phase.counted ⊆ after.counted ∧
        ∀ i, (i, .ok 0) ∈ settled → (i, guest) ∈ after.counted) phase := by
  induction order generalizing phase with
  | nil => exact obeys_ret ⟨rfl, fun _ member => member, nofun⟩
  | cons i rest ih =>
    have head : (attempt (router.read i (.bookingCount guest))).Obeys (guestProtocol n)
        (Returns fun after outcome => phase.counted ⊆ after.counted ∧
          (outcome = .ok 0 → (i, guest) ∈ after.counted)) phase := by
      have read : (router.read i (.bookingCount guest)).Obeys (guestProtocol n)
          (fun after outcome => phase.counted ⊆ after.counted ∧
            (outcome = .ok 0 → (i, guest) ∈ after.counted)) phase := by
        refine obeys_read ⟨?_, nofun⟩ (fun answer => ⟨List.subset_append_left _ _, ?_⟩)
          fun _ _ => ⟨List.subset_append_left _ _, nofun⟩
        · rintro _ _ other ⟨⟩ assigns
          cases assigns
        · intro none
          cases none
          exact List.mem_append_right _ List.mem_cons_self
      refine obeys_attempt read ?_
      rintro after outcome reached _ ⟨⟩
      exact reached
    refine obeys_then head fun after outcome ⟨kept, here⟩ => ?_
    refine obeys_then ih fun final settled ⟨listed, grown, counted⟩ => obeys_ret ⟨?_, ?_, ?_⟩
    · rw [List.map_cons, listed]
    · exact fun _ member => grown (kept member)
    · intro j member
      rcases List.mem_cons.mp member with first | later
      · obtain ⟨rfl, same⟩ := Prod.mk.inj first
        exact grown (here same.symm)
      · exact counted j later

/-- Without `allowPartial` a result has the answer of every shard. -/
theorem gather_all {α : Type} {settled : List (Fin n × Except Err α)} {shards : List (Fin n)}
    {result : FanOutResult n α} (gathered : ShardRouter.gather false settled shards = .ok result)
    {i : Fin n} (asked : i ∈ shards) (listed : i ∈ settled.map Prod.fst) :
    ∃ answer, (i, .ok answer) ∈ settled ∧ (i, answer) ∈ result.parts := by
  induction shards generalizing result with
  | nil => cases asked
  | cons j rest ih =>
    unfold ShardRouter.gather at gathered
    split at gathered
    · next k answer found =>
      obtain ⟨others, gathering, same⟩ := except_bind_ok.mp gathered
      cases same
      have here : k = j := by simpa using List.find?_some found
      rcases List.mem_cons.mp asked with rfl | later
      · exact ⟨answer, here ▸ List.mem_of_find?_eq_some found, List.mem_cons_self⟩
      · obtain ⟨value, member, part⟩ := ih gathering later
        exact ⟨value, member, List.mem_cons_of_mem _ part⟩
    · cases gathered
    · next missing =>
      rcases List.mem_cons.mp asked with rfl | later
      · obtain ⟨outcome, member, same⟩ := List.mem_map.mp listed
        exact absurd (decide_eq_true same) (List.find?_eq_none.mp missing outcome member)
      · exact ih gathered later

theorem foldl_total {parts : List (Fin n × Nat)} {total : Nat}
    (none : parts.foldl (fun total part => total + part.2) total = 0) :
    total = 0 ∧ ∀ part ∈ parts, part.2 = 0 := by
  induction parts generalizing total with
  | nil => exact ⟨none, nofun⟩
  | cons part rest ih =>
    obtain ⟨sum, later⟩ := ih none
    obtain ⟨zero, here⟩ := Nat.add_eq_zero_iff.mp sum
    exact ⟨zero, List.forall_mem_cons.mpr ⟨here, later⟩⟩

theorem remove_obeys (env : Env n) (schedule : Schedule n) (id : Text) :
    (GuestsService.remove env schedule id).Obeys (guestProtocol n) Done phase := by
  have found : (GuestsService.findOne id .strong : Async n Guest).Obeys (guestProtocol n)
      (Returns fun _ _ => True) phase := by
    have uses : (GuestsService.findOne id .strong : Async n Guest).Uses (Cmd.ReliesOn none) :=
      uses_findGuest (.guests nofun)
    exact (relies_obeys uses nofun).mono fun _ _ _ _ _ => trivial
  refine then_obeys found fun after _ _ => ?_
  have counted : (env.router.fanOut schedule (.bookingCount id) false).Obeys (guestProtocol n)
      (Returns fun final result => ∀ i, ∃ count, (i, count) ∈ result.parts ∧
        (count = 0 → (i, id) ∈ final.counted)) after := by
    refine obeys_then (settle_counts env.router id schedule.order) ?_
    rintro final settled ⟨listed, _, counted⟩
    apply Program.obeys_ofExcept
    rintro result gathered i
    obtain ⟨count, member, part⟩ := gather_all gathered (List.mem_finRange i)
      (listed ▸ schedule.listed i)
    refine ⟨count, part, ?_⟩
    rintro rfl
    exact counted i member
  refine then_obeys counted fun final result covered => ?_
  dsimp only
  split
  · trivial
  · next none =>
    obtain ⟨_, empty⟩ := foldl_total (Nat.eq_zero_of_not_pos none)
    have deleting : (issue (.guests (.delete id))).Obeys (guestProtocol n) Done final := by
      refine obeys_issue ⟨fun _ _ _ other => (nomatch other), ?_⟩ fun _ => trivial
      rintro _ ⟨⟩ i
      obtain ⟨count, part, known⟩ := covered i
      exact known (empty _ part)
    refine Program.obeys_recover deleting (fun _ error _ => ?_) fun _ _ _ => trivial
    split <;> trivial

/-- Requests that write no guest into a booking, and delete none. -/
theorem issued_relies {entropy : Entropy} {request : Request} {cmd : Cmd n}
    (issued : Issued env entropy request cmd) (plain : match request with
      | .createBooking _ | .updateBooking .. | .relocateBooking .. | .removeGuest _ => False
      | _ => True) : Cmd.ReliesOn none cmd := by
  cases issued with
  | cacheVersion | cacheLookCard | cacheLookSearch | cacheDel | cacheIncr | cacheCard
  | cacheSearch => exact .cache
  | shardRead isRead => exact .read (assigns_of_isRead isRead)
  | guestRead isRead =>
    refine .guests ?_
    rintro id rfl
    cases isRead
  | createGuest | updateGuest => exact .guests nofun
  | createHotel | updateHotel | removeHotel | createRoom | updateRoom | removeRoom
  | cancelBooking | removeBooking => exact .read rfl
  | _ => exact plain.elim

theorem call_obeys (env : Env n) (call : Call n) :
    (call.program env).Obeys (guestProtocol n) Done {} := by
  have uses := Issued.uses_program env call
  obtain ⟨request, entropy, schedule⟩ := call
  cases request with
  | createBooking dto =>
    exact Program.obeys_bind (create_obeys env entropy dto) (fun _ _ _ => trivial)
      fun _ _ _ => trivial
  | updateBooking id dto =>
    exact Program.obeys_bind (update_obeys env id dto) (fun _ _ _ => trivial) fun _ _ _ => trivial
  | relocateBooking id dto =>
    exact Program.obeys_bind (relocate_obeys env entropy id dto) (fun _ _ _ => trivial)
      fun _ _ _ => trivial
  | removeGuest id =>
    exact Program.obeys_bind (remove_obeys env schedule id) (fun _ _ _ => trivial)
      fun _ _ _ => trivial
  | _ => exact relies_obeys (uses.mono fun cmd issued => issued_relies issued trivial) nofun

theorem clients_obey (env : Env n) (world : World n) (calls : List (Call n)) :
    (clients env world calls).Obeys (guestProtocol n) (fun _ => Done) fun _ => {} := by
  intro i program found
  simp only [clients, List.getElem?_map] at found
  obtain ⟨call, _, rfl⟩ := Option.map_eq_some_iff.mp found
  exact call_obeys env call

/-- A statement leaves a booking without the guest it chose, or the guest of a stored one. -/
theorem guest_wrote {tables after : Tables} {stmt : Stmt} (wrote : stmt.Wrote tables after)
    {booking : Booking} (member : booking ∈ after.bookings) :
    stmt.assigns = some booking.guestId ∨
      ∃ old ∈ tables.bookings, old.guestId = booking.guestId := by
  have unchanged (same : after.bookings = tables.bookings) :
      ∃ old ∈ tables.bookings, old.guestId = booking.guestId :=
    ⟨booking, same ▸ member, rfl⟩
  cases wrote with
  | read | hotelCreate | hotelUpdate | hotelDelete | roomCreate | roomUpdate | roomDelete
  | bookingUnchanged => exact Or.inr (unchanged rfl)
  | @bookingUpdate id data old _ found merged room =>
    rcases Table.mem_put.mp member with ⟨rfl, _⟩ | ⟨stored, _⟩
    · have guest := BookingData.over_guest merged
      cases given : data.guestId with
      | absent =>
        rw [given] at guest
        exact Or.inr ⟨old, (Table.find?_eq_some.mp found).1, Except.ok.inj guest⟩
      | null =>
        rw [given] at guest
        cases guest
      | value other =>
        rw [given] at guest
        rw [Stmt.assigns, given]
        exact Or.inl (congrArg some (Except.ok.inj guest))
    · exact Or.inr ⟨booking, stored, rfl⟩
  | bookingUpdateMany found listed room =>
    rcases Table.mem_put.mp member with ⟨rfl, _⟩ | ⟨old, _⟩
    · exact Or.inr ⟨_, (Table.find?_eq_some.mp found).1, rfl⟩
    · exact Or.inr ⟨booking, old, rfl⟩
  | bookingDelete => exact Or.inr ⟨booking, (Table.mem_erase.mp member).1, rfl⟩
  | reserve made =>
    rcases (Table.mem_insert made.fresh).mp member with rfl | old
    · exact Or.inl (congrArg some made.guestId.symm)
    · exact Or.inr ⟨booking, old, rfl⟩
  | @reserveAndCancel data id created old made room found =>
    have inserted {row : Booking} (here : row ∈ (tables.insertBooking created made.fresh
        made.room).bookings) : some data.guestId = some row.guestId ∨
        ∃ stored ∈ tables.bookings, stored.guestId = row.guestId := by
      rcases (Table.mem_insert made.fresh).mp here with rfl | stored
      · exact Or.inl (congrArg some made.guestId.symm)
      · exact Or.inr ⟨row, stored, rfl⟩
    rcases Table.mem_put.mp member with ⟨rfl, _⟩ | ⟨stored, _⟩
    · exact @inserted old (Table.find?_eq_some.mp found).1
    · exact inserted stored

/-- Only a deletion makes a guest disappear. -/
theorem directory_kept {stmt : GuestStmt} {directory after : Guests} {answer : stmt.Answer}
    (done : stmt.exec directory = .ok (answer, after)) {guest : Text}
    (here : (directory.guests.find? guest).isSome) (others : stmt ≠ .delete guest) :
    (after.guests.find? guest).isSome := by
  cases stmt with
  | findMany | findIn | findUnique | findByEmail =>
    cases done
    exact here
  | create id dto createdAt =>
    simp only [GuestStmt.exec] at done
    split at done
    · next fresh =>
      split at done
      · cases done
        change (Table.find? (Table.insert _ _ fresh) guest).isSome
        rw [Table.find?_insert]
        split
        · rfl
        · exact here
      · cases done
    · cases done
  | update id dto =>
    simp only [GuestStmt.exec] at done
    cases found : directory.guests.find? id with
    | none => simp [found] at done
    | some old =>
      simp only [found, except_bind_ok] at done
      obtain ⟨row, _, done⟩ := done
      split at done
      · cases done
        change ((directory.guests.put _).find? guest).isSome
        rw [Table.find?_put_isSome]
        exact here
      · cases done
  | delete id =>
    simp only [GuestStmt.exec] at done
    cases found : directory.guests.find? id with
    | none => simp [found] at done
    | some old =>
      simp only [found] at done
      cases done
      have other : guest ≠ id := fun same => others (congrArg GuestStmt.delete same.symm)
      change ((directory.guests.erase id).find? guest).isSome
      rw [Table.find?_erase, if_neg other]
      exact here

theorem guest_kept {world : World n} {cmd : Cmd n} {guest : Text}
    (here : (world.guests.guests.find? guest).isSome)
    (others : Cmd.deleted cmd (World.exec cmd world).1 ≠ some guest) :
    ((World.exec cmd world).2.guests.guests.find? guest).isSome := by
  cases cmd with
  | shard i stmt =>
    cases done : stmt.exec (world.shards i) with
    | error error =>
      rw [World.exec_shard_error done]
      exact here
    | ok result =>
      rw [World.exec_shard_ok done]
      exact here
  | guests stmt =>
    cases done : stmt.exec world.guests with
    | error error =>
      simp only [World.exec, done]
      exact here
    | ok result =>
      obtain ⟨answer, after⟩ := result
      simp only [World.exec, done] at others ⊢
      refine directory_kept done here ?_
      rintro rfl
      exact others rfl
  | cache cmd => exact here

/-- A booking that appears on a shard, or gets another guest, was written there. -/
theorem booking_assigned {world : World n} {cmd : Cmd n} {i : Fin n} {booking : Booking}
    (member : booking ∈ ((World.exec cmd world).2.shards i).bookings) :
    Cmd.assigned cmd (World.exec cmd world).1 = some (i, booking.guestId) ∨
      ∃ old ∈ (world.shards i).bookings, old.guestId = booking.guestId := by
  cases cmd with
  | shard j stmt =>
    cases done : stmt.exec (world.shards j) with
    | error error =>
      rw [World.exec_shard_error done] at member
      exact Or.inr ⟨booking, member, rfl⟩
    | ok result =>
      obtain ⟨answer, tables⟩ := result
      rw [World.exec_shard_ok done] at member ⊢
      by_cases here : i = j
      · subst here
        rw [World.setShard_self] at member
        refine (guest_wrote (Stmt.wrote done) member).imp_left fun assigns => ?_
        rw [Cmd.assigned, assigns]
        rfl
      · rw [World.setShard_of_ne world here] at member
        exact Or.inr ⟨booking, member, rfl⟩
  | guests stmt =>
    refine Or.inr ⟨booking, ?_, rfl⟩
    simp only [World.exec] at member
    split at member <;> exact member
  | cache cmd => exact Or.inr ⟨booking, member, rfl⟩

section Run
variable {trace : List (Move n)} {start last : Clients n}

/-- No booking of the guest is stored on the shard. -/
def Free (i : Fin n) (guest : Text) (pool : Clients n) : Prop :=
  ∀ booking ∈ (pool.state.shards i).bookings, booking.guestId ≠ guest

def Known (guest : Text) (pool : Clients n) : Prop :=
  (pool.state.guests.guests.find? guest).isSome

theorem free_kept (run : Run (Pool.Step World.exec Aborts) start trace last) {i : Fin n}
    {guest : Text} (free : Free i guest start)
    (unassigned : ∀ move ∈ trace,
      Cmd.assigned move.event.cmd (Pool.reply World.exec move) ≠ some (i, guest)) :
    Free i guest last := by
  refine (run.carries (Free i guest) free fun move member free booking stored same => ?_).2
  rcases Aborts.effect (run.steps move member) with ⟨reply, executed⟩ | ⟨_, unchanged⟩
  · rw [executed] at stored
    rcases booking_assigned stored with assigned | ⟨old, before, equal⟩
    · refine unassigned move member ?_
      rw [reply, assigned, same]
    · exact free old before (equal.trans same)
  · rw [unchanged] at stored
    exact free booking stored same

theorem known_step {move : Move n}
    (step : Pool.Step World.exec Aborts move.before move.event move.after) {guest : Text}
    (known : Known guest move.before)
    (others : Cmd.deleted move.event.cmd (Pool.reply World.exec move) ≠ some guest) :
    Known guest move.after := by
  rcases Aborts.effect step with ⟨reply, executed⟩ | ⟨_, unchanged⟩
  · rw [reply] at others
    rw [Known, executed]
    exact guest_kept known others
  · rw [Known, unchanged]
    exact known

theorem known_kept (run : Run (Pool.Step World.exec Aborts) start trace last) {guest : Text}
    (known : Known guest start) (kept : ∀ move ∈ trace,
      Cmd.deleted move.event.cmd (Pool.reply World.exec move) ≠ some guest) : Known guest last :=
  (run.carries (Known guest) known fun move member known =>
    known_step (run.steps move member) known (kept move member)).2

/-- Who vouches for a guest has seen the guest, or a booking that refers to it. -/
theorem vouches_known {move : Move n}
    (step : Pool.Step World.exec Aborts move.before move.event move.after)
    (guested : Guested move.before.state) {guest : Text}
    (vouched : Cmd.vouches move.event.cmd (Pool.reply World.exec move) = some guest) :
    Known guest move.after := by
  obtain ⟨before, ⟨client, cmd, fault⟩, after⟩ := move
  obtain ⟨permitted, result⟩ := step.state_eq
  cases cmd with
  | cache cmd => cases vouched
  | guests stmt =>
    cases stmt with
    | findUnique id =>
      obtain rfl := Aborts.untouched permitted rfl
      have found : (before.state.guests.guests.find? id).map (fun _ => id) = some guest := vouched
      obtain ⟨row, here, rfl⟩ := Option.map_eq_some_iff.mp found
      rw [Known, show after.state = before.state from result, here]
      rfl
    | _ => cases vouched
  | shard i stmt =>
    cases stmt with
    | bookingFindUnique id =>
      obtain rfl := Aborts.untouched permitted rfl
      have executed : World.exec (.shard i (.bookingFindUnique id)) before.state =
          (.ok ((before.state.shards i).bookings.find? id), before.state) := by
        rw [World.exec_shard_ok rfl, World.setShard_same]
      have reply : Pool.reply World.exec ⟨before, ⟨client, .shard i (.bookingFindUnique id), .none⟩,
          after⟩ = .ok ((before.state.shards i).bookings.find? id) := congrArg Prod.fst executed
      rw [reply] at vouched
      obtain ⟨booking, here, rfl⟩ := Option.map_eq_some_iff.mp vouched
      rw [Known, show after.state = before.state from result.trans (congrArg Prod.snd executed)]
      exact guested i booking (Table.find?_eq_some.mp here).1
    | _ => cases vouched

theorem countsNone_free {move : Move n}
    (step : Pool.Step World.exec Aborts move.before move.event move.after) {i : Fin n}
    {guest : Text}
    (counted : Cmd.countsNone move.event.cmd (Pool.reply World.exec move) = some (i, guest)) :
    Free i guest move.after := by
  obtain ⟨before, ⟨client, cmd, fault⟩, after⟩ := move
  obtain ⟨permitted, result⟩ := step.state_eq
  cases cmd with
  | cache cmd => cases counted
  | guests stmt => cases counted
  | shard j stmt =>
    cases stmt with
    | bookingCount id =>
      obtain rfl := Aborts.untouched permitted rfl
      have executed : World.exec (.shard j (.bookingCount id)) before.state =
          (.ok ((before.state.shards j).bookings.rows.filter
            fun booking => booking.guestId = id).length, before.state) := by
        rw [World.exec_shard_ok rfl, World.setShard_same]
      have reply : Pool.reply World.exec ⟨before, ⟨client, .shard j (.bookingCount id), .none⟩,
          after⟩ = .ok ((before.state.shards j).bookings.rows.filter
            fun booking => booking.guestId = id).length := congrArg Prod.fst executed
      rw [reply] at counted
      change (if _ then some (j, id) else none) = some (i, guest) at counted
      split at counted
      · next empty =>
        cases counted
        intro booking stored same
        rw [show after.state = before.state from result.trans (congrArg Prod.snd executed)] at stored
        have none := List.length_eq_zero_iff.mp empty
        have listed : booking ∈ (before.state.shards i).bookings.rows.filter
            fun booking => booking.guestId = guest :=
          List.mem_filter.mpr ⟨stored, decide_eq_true same⟩
        rw [none] at listed
        cases listed
      · cases counted
    | _ => cases counted

end Run
end GuestIntegrity

/-- No guest is deleted between the moment a request sees it and the moment it writes it into a
booking. -/
def ChecksHold (trace : List (Move n)) : Prop :=
  ∀ early check middle write late i guest,
    trace = early ++ check :: middle ++ write :: late →
    check.event.client = write.event.client →
    Cmd.vouches check.event.cmd (Pool.reply World.exec check) = some guest →
    Cmd.assigned write.event.cmd (Pool.reply World.exec write) = some (i, guest) →
    ∀ move ∈ middle, Cmd.deleted move.event.cmd (Pool.reply World.exec move) ≠ some guest

/-- No booking of a guest is written on a shard between the moment a request counts none there
and the moment it deletes the guest. -/
def CountsHold (trace : List (Move n)) : Prop :=
  ∀ early count middle deletion late i guest,
    trace = early ++ count :: middle ++ deletion :: late →
    count.event.client = deletion.event.client →
    Cmd.countsNone count.event.cmd (Pool.reply World.exec count) = some (i, guest) →
    Cmd.deleted deletion.event.cmd (Pool.reply World.exec deletion) = some guest →
    ∀ move ∈ middle, Cmd.assigned move.event.cmd (Pool.reply World.exec move) ≠ some (i, guest)

namespace GuestIntegrity

theorem checksHold_init {trace : List (Move n)} {move : Move n}
    (checks : ChecksHold (trace ++ [move])) : ChecksHold trace := by
  intro early check middle write late i guest split
  exact checks early check middle write (late ++ [move]) i guest (by simp [split])

theorem countsHold_init {trace : List (Move n)} {move : Move n}
    (counts : CountsHold (trace ++ [move])) : CountsHold trace := by
  intro early count middle deletion late i guest split
  exact counts early count middle deletion (late ++ [move]) i guest (by simp [split])

theorem of_assigned {cmd : Cmd n} {reply : Except Err cmd.Answer} {i : Fin n} {guest : Text}
    (assigned : Cmd.assigned cmd reply = some (i, guest)) :
    ∃ stmt, cmd = .shard i stmt ∧ stmt.assigns = some guest := by
  unfold Cmd.assigned at assigned
  split at assigned
  · next j stmt answer =>
    obtain ⟨other, assigns, same⟩ := Option.map_eq_some_iff.mp assigned
    cases same
    exact ⟨stmt, rfl, assigns⟩
  · cases assigned

theorem of_deleted {cmd : Cmd n} {reply : Except Err cmd.Answer} {guest : Text}
    (deleted : Cmd.deleted cmd reply = some guest) : cmd = .guests (.delete guest) := by
  unfold Cmd.deleted at deleted
  split at deleted
  · rw [Option.some.inj deleted]
  · cases deleted

section Run
variable {trace : List (Move n)} {last : Clients n} {world : World n} {calls : List (Call n)}

/-- The guest that a booking is written for still exists. -/
theorem assigned_known (run : Run (Pool.Step World.exec Aborts) (clients env world calls) trace last)
    {move : Move n} (member : move ∈ trace) (visited : ∀ move ∈ trace, Guested move.before.state)
    (checks : ChecksHold trace) {i : Fin n} {guest : Text}
    (assigned : Cmd.assigned move.event.cmd (Pool.reply World.exec move) = some (i, guest)) :
    Known guest move.before := by
  obtain ⟨prior, late, split⟩ := List.append_of_mem member
  obtain ⟨stmt, issued, assigns⟩ := of_assigned assigned
  have vouched := (Pool.run_allows (clients_obey env world calls) run split).assign i stmt guest
    issued assigns
  obtain ⟨check, seen, same, vouches⟩ := Pool.learned (guestProtocol n) (fun phase => phase.vouched)
    Cmd.vouches (fun _ _ _ => rfl) rfl vouched
  obtain ⟨early, middle, cut⟩ := List.append_of_mem seen
  have before := run.cut split
  obtain ⟨_, since⟩ := before.resume cut
  have listed : check ∈ trace := split ▸ List.mem_append_left _ seen
  refine known_kept since (vouches_known (run.steps check listed) (visited check listed) vouches) ?_
  exact checks early check middle move late i guest (by rw [split, cut]) same vouches assigned

/-- A guest that is deleted has no booking. -/
theorem deleted_free (run : Run (Pool.Step World.exec Aborts) (clients env world calls) trace last)
    {move : Move n} (member : move ∈ trace) (counts : CountsHold trace) {guest : Text}
    (deleted : Cmd.deleted move.event.cmd (Pool.reply World.exec move) = some guest) (i : Fin n) :
    Free i guest move.before := by
  obtain ⟨prior, late, split⟩ := List.append_of_mem member
  have counted := (Pool.run_allows (clients_obey env world calls) run split).delete guest
    (of_deleted deleted) i
  obtain ⟨count, seen, same, none⟩ := Pool.learned (guestProtocol n) (fun phase => phase.counted)
    Cmd.countsNone (fun _ _ _ => rfl) rfl counted
  obtain ⟨early, middle, cut⟩ := List.append_of_mem seen
  obtain ⟨_, since⟩ := (run.cut split).resume cut
  have listed : count ∈ trace := split ▸ List.mem_append_left _ seen
  refine free_kept since (countsNone_free (run.steps count listed) none) ?_
  exact counts early count middle move late i guest (by rw [split, cut]) same none deleted

/-- One step. The bookings that it leaves have the guest that it wrote, or the guest of a booking
that was there before. -/
theorem guested_step {move : Move n}
    (step : Pool.Step World.exec Aborts move.before move.event move.after)
    (guested : Guested move.before.state)
    (known : ∀ i guest, Cmd.assigned move.event.cmd (Pool.reply World.exec move) = some (i, guest) →
      Known guest move.before)
    (free : ∀ i guest, Cmd.deleted move.event.cmd (Pool.reply World.exec move) = some guest →
      Free i guest move.before) : Guested move.after.state := by
  intro i booking stored
  rcases Aborts.effect step with ⟨reply, executed⟩ | ⟨_, unchanged⟩
  · rw [executed] at stored
    refine known_step step ?_ ?_
    · rcases booking_assigned stored with assigned | ⟨old, before, same⟩
      · exact known i booking.guestId (reply ▸ assigned)
      · rw [Known, ← same]
        exact guested i old before
    · intro deleted
      rcases booking_assigned stored with assigned | ⟨old, before, same⟩
      · rw [← reply] at assigned
        obtain ⟨stmt, issued, _⟩ := of_assigned assigned
        cases issued.symm.trans (of_deleted deleted)
      · exact free i booking.guestId deleted old before same
  · rw [unchanged] at stored ⊢
    exact guested i booking stored

end Run
end GuestIntegrity

/-- Nothing fails, except that the database may abort transactions. As long as the checks still
hold when a request acts on them, every booking has a guest in every state. -/
theorem bookings_guested (env : Env n) (calls : List (Call n)) {world : World n}
    (guested : Guested world) {trace : List (Move n)} {last : Clients n}
    (run : Run (Pool.Step World.exec Aborts) (clients env world calls) trace last)
    (checks : ChecksHold trace) (counts : CountsHold trace) :
    (∀ move ∈ trace, Guested move.before.state) ∧ Guested last.state := by
  induction run with
  | start => exact ⟨fun _ member => absurd member List.not_mem_nil, guested⟩
  | @next trace mid event last earlier stepped ih =>
    obtain ⟨visited, here⟩ := ih (GuestIntegrity.checksHold_init checks)
      (GuestIntegrity.countsHold_init counts)
    have all : ∀ move ∈ trace ++ [⟨mid, event, last⟩], Guested move.before.state := by
      intro move member
      rcases List.mem_append.mp member with old | new
      · exact visited move old
      · obtain rfl := List.mem_singleton.mp new
        exact here
    have whole := Run.next earlier stepped
    have member : (⟨mid, event, last⟩ : Move n) ∈ trace ++ [⟨mid, event, last⟩] :=
      List.mem_append_right _ List.mem_cons_self
    refine ⟨all, GuestIntegrity.guested_step (whole.steps _ member) here ?_ ?_⟩
    · exact fun i guest => GuestIntegrity.assigned_known whole member all checks
    · exact fun i guest deleted => GuestIntegrity.deleted_free whole member counts deleted i

/-- A guest books while somebody removes the guest. -/
def bookedWhileRemoved : List (Call 2) :=
  [.sample (sampleBooking room101 1 5) 6, .sample (.removeGuest olena.text) 7]

/-- The booking finds its guest before the removal starts, and is stored after its end. -/
def guestless : List (Move 2) × Clients 2 :=
  (clients twoShards onTwoShards bookedWhileRemoved).record World.exec
    (Pool.faultless [0, 1, 1, 1, 1, 0])

theorem booking_without_guest : ∃ trace last, Guested onTwoShards ∧
    Run (Pool.Step World.exec Aborts) (clients twoShards onTwoShards bookedWhileRemoved) trace
      last ∧ last.Finished ∧ ¬ Guested last.state :=
  ⟨guestless.1, guestless.2, by decide +kernel, Pool.run_faultless Aborts.faultless _ _,
    by decide +kernel, by decide +kernel⟩

/-- The guest has a booking, the booking is removed, and then the guest. -/
def bookedThenRemoved : List (Call 2) :=
  [.sample (sampleBooking room101 1 5) 6, .sample (.removeBooking (sampleKey 34 6)) 7,
    .sample (.removeGuest olena.text) 8]

def departed : List (Move 2) × Clients 2 :=
  (clients twoShards onTwoShards bookedThenRemoved).record World.exec
    (Pool.faultless [0, 0, 1, 1, 2, 2, 2, 2])

/-- Nothing is written for a guest after the count or the deletion. -/
theorem checks_of_pairwise {trace : List (Move n)}
    (apart : trace.Pairwise fun first second =>
      (Cmd.deleted first.event.cmd (Pool.reply World.exec first) = none ∧
        Cmd.countsNone first.event.cmd (Pool.reply World.exec first) = none) ∨
      Cmd.assigned second.event.cmd (Pool.reply World.exec second) = none) :
    ChecksHold trace ∧ CountsHold trace := by
  constructor
  · rintro early check middle write late i guest rfl _ _ assigned move member deleted
    have pair := (List.pairwise_append.mp apart).2.2 move
      (List.mem_append_right _ (List.mem_cons_of_mem _ member)) write List.mem_cons_self
    rcases pair with ⟨none, _⟩ | none
    · cases none.symm.trans deleted
    · cases none.symm.trans assigned
  · rintro early count middle deletion late i guest rfl _ counted _ move member assigned
    rw [List.append_assoc, List.pairwise_append] at apart
    have pair := List.rel_of_pairwise_cons apart.2.1 (List.mem_append_left _ member)
    rcases pair with ⟨_, none⟩ | none
    · cases none.symm.trans counted
    · cases none.symm.trans assigned

theorem bookings_guested_departed : ∃ trace last,
    Run (Pool.Step World.exec Aborts) (clients twoShards onTwoShards bookedThenRemoved) trace
      last ∧ last.Finished ∧ (last.state.guests.guests.find? olena.text).isNone ∧
    (∀ move ∈ trace, Guested move.before.state) ∧ Guested last.state := by
  have run : Run (Pool.Step World.exec Aborts) (clients twoShards onTwoShards bookedThenRemoved)
      departed.1 departed.2 := Pool.run_faultless Aborts.faultless _ _
  obtain ⟨checks, counts⟩ := (checks_of_pairwise (by decide +kernel) :
    ChecksHold departed.1 ∧ CountsHold departed.1)
  exact ⟨_, _, run, by decide +kernel, by decide +kernel,
    bookings_guested twoShards bookedThenRemoved (by decide +kernel) run checks counts⟩

end HotelBooking
