import HotelBooking.Topology.Services

/-! A relocation over several shards beside the same relocation on the single node. Within one
shard both are one transaction. Between two shards it is a saga here and a transaction there: the
saga is the same on the single node, where its three steps end in the rows of the transaction. -/
namespace HotelBooking
open Relational Effect
variable {n : Nat} {env : Env n}

/-- The same rows; the mode, the names of the shards and the steps are those of the topology. -/
def Relocation.SameRows (moved image : Relocation) : Prop :=
  moved.booking = image.booking ∧ moved.previous = image.previous

/-- The reservation is made where its room is. -/
theorem sagaReserve_home (entropy : Entropy) (roomId : Text) (original : Booking)
    (world : World n) (created : Booking)
    (reserved : ((BookingsService.sagaReserve env entropy roomId original).run World.exec world).1 =
      .ok created) : env.router.forKey created.id = env.router.forKey roomId := by
  rw [run_sagaReserve, exec_reserve] at reserved
  cases done : (world.shards (env.router.forKey roomId)).reserve
      (BookingsService.relocation entropy roomId original .pending 1) none with
  | error error =>
    rw [done] at reserved
    cases reserved
  | ok result =>
    obtain ⟨row, after⟩ := result
    rw [done] at reserved
    obtain rfl := Except.ok.inj reserved
    obtain ⟨made, _⟩ := Tables.reserve_ok done
    rw [made.id]
    exact env.router.forKey_childId roomId _

theorem alike_sagaCancel (id : Text) (simulateFailure : Bool) :
    Alike env.router Eq (BookingsService.sagaCancel env id simulateFailure)
      (BookingsService.sagaCancel env.single id simulateFailure) := by
  cases simulateFailure with
  | true => exact Program.simulates_raise _ _
  | false =>
    refine Program.simulates_bind (alike_write env.router
      (.bookingUpdateMany id activeStatuses .cancelled) rfl _) ?_
    rintro count _ rfl
    split
    · exact Program.simulates_raise _ _
    · exact Program.simulates_ret rfl

section Simulated
variable (disabled : env.redisConfigured = false)
include disabled

theorem alike_relocateLocally (entropy : Entropy) {roomId id : Text} (original : Booking)
    (home : env.router.forKey id = env.router.forKey roomId) :
    Alike env.router Relocation.SameRows
      (BookingsService.relocateLocally env entropy roomId id original)
      (BookingsService.relocateLocally env.single entropy roomId id original) := by
  refine Program.simulates_bind (alike_reserveAndCancel env.router
    (BookingsService.relocation entropy roomId original original.status) id
    ⟨(env.router.forKey_childId _ _).trans home.symm, home.symm, rfl⟩ _) ?_
  rintro ⟨created, previous⟩ _ rfl
  refine Program.simulates_bind (alike_bumpVersion disabled) fun _ _ _ => ?_
  exact Program.simulates_ret ⟨rfl, rfl⟩

/-- What follows T1, with the failed T2 and its compensation too. -/
theorem alike_relocateReserved {id : Text} (original : Booking) (simulateFailure : Bool)
    {source target : Fin n} (i j : Fin 1) {created : Booking}
    (home : env.router.forKey created.id = target) :
    Alike env.router Relocation.SameRows
      (BookingsService.relocateReserved env id original simulateFailure source target created)
      (BookingsService.relocateReserved env.single id original simulateFailure i j created) := by
  refine Program.simulates_bind (alike_attempt (alike_sagaCancel id simulateFailure)) ?_
  intro outcome image agree
  obtain ⟨_, _, rfl, rfl, _⟩ | ⟨error, other, rfl, rfl⟩ := agree.cases
  · refine Program.simulates_bind (alike_write env.router
      (.bookingUpdate created.id { status := .value original.status }) ⟨home, ?_⟩ _) ?_
    · intro roomId given
      cases given
    · rintro confirmed _ rfl
      refine Program.simulates_bind (alike_bumpVersion disabled) fun _ _ _ => ?_
      exact Program.simulates_ret ⟨rfl, rfl⟩
  · refine Program.simulates_bind ?_ fun _ _ (_ : True) => ?_
    · refine Program.simulates_bind (alike_attempt (alike_write env.router
        (.bookingUpdateMany created.id [.pending] .cancelled) home _)) ?_
      intro outcome image agree
      cases outcome <;> cases image <;> exact Program.simulates_ret trivial
    · refine Program.simulates_bind (alike_bumpVersion disabled) fun _ _ _ => ?_
      exact Program.simulates_raise _ _

/-- The saga over the shards is the saga on the single node. -/
theorem alike_relocateSaga (entropy : Entropy) (roomId id : Text) (original : Booking)
    (simulateFailure : Bool) :
    Alike env.router Relocation.SameRows
      (BookingsService.relocateSaga env entropy roomId id original simulateFailure)
      (BookingsService.relocateSaga env.single entropy roomId id original simulateFailure) := by
  have reserves : Alike env.router
      (fun created image => created = image ∧
        env.router.forKey created.id = env.router.forKey roomId)
      (BookingsService.sagaReserve env entropy roomId original)
      (BookingsService.sagaReserve env.single entropy roomId original) :=
    (alike_reserve env.router (BookingsService.relocation entropy roomId original .pending)
      ⟨env.router.forKey_childId _ _, rfl⟩ _).returning (sagaReserve_home entropy roomId original)
  refine Program.simulates_bind (Program.simulates_recover reserves fun _ _ =>
    Program.simulates_raise _ _) ?_
  rintro created _ ⟨rfl, home⟩
  exact alike_relocateReserved disabled original simulateFailure _ _ home

end Simulated

namespace Tables
variable {tables : Tables} {data : Reservation} {id : Text} {original : Booking}

/-- The original does not stay in the new room, so that excluding it excludes nothing. -/
theorem overlaps_excluding (found : tables.bookings.find? id = some original)
    (elsewhere : original.roomId ≠ data.roomId) (checkIn checkOut : Instant) :
    tables.bookings.rows.find? (overlaps data.roomId checkIn checkOut (some id)) =
      tables.bookings.rows.find? (overlaps data.roomId checkIn checkOut none) := by
  rw [← List.head?_filter, ← List.head?_filter]
  congr 1
  refine List.filter_congr fun booking member => ?_
  by_cases same : booking.id = id
  · have stored : tables.bookings.find? booking.id = some booking := Table.find?_self member
    rw [same, found] at stored
    obtain rfl := Option.some.inj stored
    have apart : (original.roomId == data.roomId) = false := beq_false_of_ne elsewhere
    simp [overlaps, apart]
  · have other : (booking.id != id) = true := bne_iff_ne.mpr same
    simp [overlaps, other]

/-- The reservation of T1, beside that of the transaction. -/
theorem agree_reserve (found : tables.bookings.find? id = some original)
    (elsewhere : original.roomId ≠ data.roomId) :
    Agree (ε := Err) (δ := Err) (fun reserved moved =>
        reserved.1.status = .pending ∧ moved.1 = { reserved.1 with status := data.status } ∧
        ∃ fresh room, reserved.2 = tables.insertBooking reserved.1 fresh room ∧
          moved.2 = tables.insertBooking { reserved.1 with status := data.status } fresh room)
      (tables.reserve { data with status := .pending } none) (tables.reserve data (some id)) := by
  simp only [reserve]
  cases tables.rooms.find? data.roomId with
  | none => trivial
  | some room =>
    refine agree_bind_same fun checkIn _ => agree_bind_same fun checkOut _ => ?_
    rw [overlaps_excluding found elsewhere]
    split
    · trivial
    · simp only [bookingCreate]
      cases Decimal.ofCents? (room.pricePerNight.cents * nights checkIn checkOut) with
      | none => trivial
      | some totalPrice =>
        refine related_dite Iff.rfl (fun fresh _ => ?_) fun _ _ => trivial
        refine related_dite Iff.rfl (fun stored _ => ?_) fun _ _ => trivial
        exact ⟨rfl, rfl, fresh, stored, rfl, rfl⟩

/-- The new row, the cancellation and the new status, in the order of either. -/
theorem puts_commute {created : Booking} {fresh : tables.bookings.find? created.id = none}
    {room : (tables.rooms.find? created.roomId).isSome} (found : tables.bookings.find? id = some original)
    (status : BookingStatus)
    (stored : ((tables.insertBooking created fresh room).rooms.find? original.roomId).isSome)
    (stored' : ((tables.insertBooking { created with status } fresh room).rooms.find?
      original.roomId).isSome)
    (kept : (((tables.insertBooking created fresh room).putBooking
      { original with status := .cancelled } stored).rooms.find? created.roomId).isSome) :
    ((tables.insertBooking created fresh room).putBooking { original with status := .cancelled }
        stored).putBooking { created with status } kept =
      (tables.insertBooking { created with status } fresh room).putBooking
        { original with status := .cancelled } stored' := by
  have apart : created.id ≠ original.id := by
    intro same
    have present := Table.find?_self (Table.find?_eq_some.mp found).1
    rw [← same, fresh] at present
    cases present
  simp only [putBooking, insertBooking, mk.injEq, true_and]
  apply Table.ext
  simp only [Table.rows_put, Table.rows_insert, List.map_cons, List.map_map, if_neg apart, if_true]
  congr 1
  refine List.map_congr_left fun booking member => ?_
  have different : booking.id ≠ created.id := Table.find?_eq_none.mp fresh booking member
  simp only [Function.comp_apply]
  by_cases same : booking.id = original.id
  · rw [if_pos same, if_neg (Ne.symm apart)]
  · rw [if_neg same, if_neg different]

/-- The saga's statements after T1 on tables that hold both rooms, and the transaction there. -/
theorem saga_eq_transaction {created : Booking} (found : tables.bookings.find? id = some original)
    (active : original.Active) (status : BookingStatus) (fresh : tables.bookings.find? created.id = none)
    (room : (tables.rooms.find? created.roomId).isSome) :
    ∃ cancelled final, (tables.insertBooking created fresh room).bookingUpdateMany id activeStatuses
        .cancelled = (1, cancelled) ∧
      cancelled.bookingUpdate created.id { status := .value status } =
        .ok ({ created with status }, final) ∧
      (tables.insertBooking { created with status } fresh room).bookingUpdate id
        { status := .value .cancelled } = .ok ({ original with status := .cancelled }, final) := by
  have apart : created.id ≠ id := by
    rintro rfl
    rw [fresh] at found
    cases found
  have here (row : Booking) (new : tables.bookings.find? row.id = none)
      (parent : (tables.rooms.find? row.roomId).isSome) (same : row.id = created.id) :
      (tables.insertBooking row new parent).bookings.find? id = some original := by
    rw [find?_insertBooking, if_neg (same ▸ apart), found]
  have original_id : original.id = id := (Table.find?_eq_some.mp found).2
  have parent : (tables.rooms.find? original.roomId).isSome :=
    tables.bookings_room original (Table.find?_eq_some.mp found).1
  obtain ⟨stored, cancels⟩ := bookingUpdateMany_changed (here created fresh room rfl) active .cancelled
  have kept : ((tables.insertBooking created fresh room).putBooking
      { original with status := .cancelled } stored).bookings.find? created.id = some created := by
    have same : ({ original with status := .cancelled } : Booking).id = id := original_id
    have other : ({ original with status := .cancelled } : Booking).id ≠ created.id :=
      fun equal => apart (equal.symm.trans same)
    rw [find?_putBooking (here created fresh room rfl) same, if_neg other, find?_insertBooking,
      if_pos rfl]
  have confirms := bookingUpdate_stored kept (BookingData.over_status created status) room
  have previous := bookingUpdate_stored (here { created with status } fresh room rfl)
    (BookingData.over_status original .cancelled) parent
  refine ⟨_, _, cancels, confirms, previous.trans (congrArg Except.ok (Prod.ext rfl ?_))⟩
  exact (puts_commute found status stored parent room).symm

end Tables

section Node
variable {node : World 1} {original : Booking} {id roomId : Text}

/-- T2, T3 and the new search version, where T1 has reserved. -/
theorem run_relocateReserved {env : Env 1} (disabled : env.redisConfigured = false)
    (source target : Fin 1) {created confirmed : Booking} {cancelled final : Tables}
    (cancels : (node.shards 0).bookingUpdateMany id activeStatuses .cancelled = (1, cancelled))
    (confirms : cancelled.bookingUpdate created.id { status := .value original.status } =
      .ok (confirmed, final)) : ∃ moved,
    (BookingsService.relocateReserved env id original false source target created).run
      World.exec node = (.ok moved, node.setShard 0 final) ∧ moved.booking = confirmed ∧
      moved.previous = { original with status := .cancelled } := by
  have cancelling : (BookingsService.sagaCancel env id false).run World.exec node =
      (.ok (), node.setShard 0 cancelled) := by
    rw [run_sagaCancel, show env.router.forKey id = 0 from Subsingleton.elim _ _, cancels]
    rfl
  have confirming : (BookingsService.sagaConfirm env target created.id original.status).run World.exec
      (node.setShard 0 cancelled) = (.ok confirmed, node.setShard 0 final) := by
    obtain rfl : target = 0 := Subsingleton.elim _ _
    have stored : (Stmt.bookingUpdate created.id { status := .value original.status }).exec
        ((node.setShard 0 cancelled).shards 0) = .ok (confirmed, final) := by
      rw [World.setShard_self]
      exact confirms
    rw [BookingsService.sagaConfirm, run_write, World.exec_shard_ok stored, World.setShard_setShard]
  refine ⟨?moved, ?run, ?rows⟩
  case run =>
    rw [BookingsService.relocateReserved, Program.bind_eq, Program.run_bind, run_attempt, cancelling]
    dsimp only
    rw [Program.bind_eq, Program.run_bind, confirming]
    dsimp only
    rw [Program.bind_eq, Program.run_bind, BookingsService.invalidateSearch,
      bumpVersion_disabled env disabled]
    rfl
  case rows => exact ⟨rfl, rfl⟩

/-- On the single node the saga ends in the rows of the transaction. -/
theorem saga_on_node (env : Env 1) (disabled : env.redisConfigured = false) (entropy : Entropy)
    (found : (node.shards 0).bookings.find? id = some original) (active : original.Active)
    (elsewhere : original.roomId ≠ roomId) :
    Agree Relocation.SameRows
      ((BookingsService.relocateSaga env entropy roomId id original false).run World.exec node).1
      ((BookingsService.relocateLocally env entropy roomId id original).run World.exec node).1 ∧
      ((BookingsService.relocateSaga env entropy roomId id original false).run World.exec node).2 =
        ((BookingsService.relocateLocally env entropy roomId id original).run World.exec node).2 := by
  have zero (key : Text) : env.router.forKey key = 0 := Subsingleton.elim _ _
  let data := BookingsService.relocation entropy roomId original original.status 1
  have agree := @Tables.agree_reserve (node.shards 0) data id original found elsewhere
  rw [run_relocateSaga, BookingsService.relocateLocally, Program.bind_eq, Program.run_bind,
    run_relocateTransaction, zero, zero]
  rw [show { data with status := .pending } = BookingsService.relocation entropy roomId original
    .pending 1 from rfl] at agree
  cases reserving : (node.shards 0).reserve
      (BookingsService.relocation entropy roomId original .pending 1) none with
  | error error =>
    cases moving : (node.shards 0).reserve data (some id) with
    | ok moved =>
      rw [reserving, moving] at agree
      cases agree
    | error other =>
      have rejected : (Stmt.reserveAndCancel data id).exec (node.shards 0) = .error other := by
        simp only [Stmt.exec, Tables.reserveAndCancel, moving, except_error_bind]
      rw [World.exec_shard_error rejected]
      exact ⟨trivial, rfl⟩
  | ok result =>
    cases moving : (node.shards 0).reserve data (some id) with
    | error other =>
      rw [reserving, moving] at agree
      cases agree
    | ok moved =>
      rw [reserving, moving] at agree
      obtain ⟨created, reserved⟩ := result
      obtain ⟨booking, after⟩ := moved
      obtain ⟨_, shown, fresh, room, kept, made⟩ := agree
      dsimp only at shown fresh room kept made
      subst shown kept made
      obtain ⟨cancelled, final, cancels, confirms, previous⟩ :=
        Tables.saga_eq_transaction found active data.status fresh room
      have committed : (Stmt.reserveAndCancel data id).exec (node.shards 0) =
          .ok (({ created with status := data.status }, { original with status := .cancelled }),
            final) := by
        simp only [Stmt.exec, Tables.reserveAndCancel, moving, except_ok_bind]
        rw [previous]
        rfl
      rw [World.exec_shard_ok committed]
      have here : ((node.setShard 0 ((node.shards 0).insertBooking created fresh room)).shards
          0).bookingUpdateMany id activeStatuses .cancelled = (1, cancelled) := by
        rw [World.setShard_self, cancels]
      obtain ⟨relocation, ran, shown, kept⟩ := run_relocateReserved disabled 0 0 here confirms
      dsimp only
      rw [ran, Program.bind_eq, Program.run_bind, BookingsService.invalidateSearch,
        bumpVersion_disabled env disabled]
      exact ⟨⟨shown, kept⟩, World.setShard_setShard node 0 _ final⟩

end Node

/-- A relocation that injects no failure. The node takes the local branch in any case. -/
theorem alike_relocate (disabled : env.redisConfigured = false) (entropy : Entropy) (id : Text)
    (dto : RelocateBookingDto)
    (faultless : dto.simulateFailure = true → env.sagaFaultInjection = false) :
    Alike env.router Relocation.SameRows (BookingsService.relocate env entropy id dto)
      (BookingsService.relocate env.single entropy id dto) := by
  unfold BookingsService.relocate
  by_cases refused : (dto.simulateFailure && !env.sagaFaultInjection) = true
  · rw [if_pos refused, if_pos (show (dto.simulateFailure && !env.single.sagaFaultInjection) = true
      from refused)]
    exact Program.simulates_raise _ _
  · rw [if_neg refused, if_neg (show ¬ (dto.simulateFailure && !env.single.sagaFaultInjection) = true
      from refused)]
    have noFailure : dto.simulateFailure = false := by
      cases given : dto.simulateFailure with
      | false => rfl
      | true => simp [given, faultless given] at refused
    rw [noFailure]
    intro world node mirrors
    have same : (world.shards (env.router.forKey id)).bookings.find? id =
        (node.shards 0).bookings.find? id := (mirrors.split _).bookings.find? rfl
    have zero (key : Text) : env.single.router.forKey key = 0 := Subsingleton.elim _ _
    rw [Program.bind_eq, Program.bind_eq, Program.run_bind, Program.run_bind, run_findLocal,
      run_findLocal, zero, same]
    cases found : (node.shards 0).bookings.find? id with
    | none => exact ⟨trivial, mirrors⟩
    | some original =>
      dsimp only
      by_cases active : original.Active
      · rw [if_neg (not_not.mpr active), if_neg (not_not.mpr active)]
        by_cases elsewhere : original.roomId = dto.roomId
        · rw [if_pos elsewhere, if_pos elsewhere]
          exact ⟨trivial, mirrors⟩
        · rw [if_neg elsewhere, if_neg elsewhere, if_pos (zero _).symm]
          by_cases home : env.router.forKey id = env.router.forKey dto.roomId
          · rw [if_pos home]
            exact alike_relocateLocally disabled entropy original home world node mirrors
          · rw [if_neg home]
            obtain ⟨first, after⟩ := alike_relocateSaga disabled entropy dto.roomId id original false
              world node mirrors
            obtain ⟨second, equal⟩ := saga_on_node env.single disabled entropy found active
              elsewhere
            refine ⟨first.trans second ?_, equal ▸ after⟩
            rintro moved middle image ⟨booking, previous⟩ ⟨booking', previous'⟩
            exact ⟨booking.trans booking', previous.trans previous'⟩
      · rw [if_pos active, if_pos active]
        exact ⟨trivial, mirrors⟩

end HotelBooking
