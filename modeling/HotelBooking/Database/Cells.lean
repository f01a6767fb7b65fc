import HotelBooking.Database.Writes

/-! The rows of the world by their keys, and which of them a command may write. Every other row
stays, a row appears only by an insert and disappears only by a delete of that row. -/
namespace HotelBooking
open Relational
variable {n : Nat}

inductive TableKey where
  | hotel (id : Text)
  | room (id : Text)
  | booking (id : Text)
  deriving DecidableEq

/-- A row of a shard, or of the guest directory, by its key. -/
inductive Cell (n : Nat) where
  | shard (i : Fin n) (key : TableKey)
  | guest (id : Text)
  deriving DecidableEq

inductive Row where
  | hotel (row : Hotel)
  | room (row : Room)
  | booking (row : Booking)
  | guest (row : Guest)
  deriving DecidableEq

def Tables.row? (tables : Tables) : TableKey → Option Row
  | .hotel id => (tables.hotels.find? id).map .hotel
  | .room id => (tables.rooms.find? id).map .room
  | .booking id => (tables.bookings.find? id).map .booking

def World.row? (world : World n) : Cell n → Option Row
  | .shard i key => (world.shards i).row? key
  | .guest id => (world.guests.guests.find? id).map .guest

/-- The rows that a statement may write. -/
def Stmt.targets : Stmt → List TableKey
  | .hotelCreate id _ _ | .hotelUpdate id _ | .hotelDelete id => [.hotel id]
  | .roomCreate id _ _ | .roomUpdate id _ | .roomDelete id => [.room id]
  | .bookingUpdate id _ | .bookingUpdateMany id _ _ | .bookingDelete id => [.booking id]
  | .reserve data => [.booking data.id]
  | .reserveAndCancel data id => [.booking data.id, .booking id]
  | _ => []

def GuestStmt.targets : GuestStmt → List Text
  | .create id _ _ | .update id _ | .delete id => [id]
  | _ => []

def Cmd.targets : Cmd n → List (Cell n)
  | .shard i stmt => stmt.targets.map (.shard i)
  | .guests stmt => stmt.targets.map .guest
  | .cache _ => []

def Cmd.inserts : Cmd n → Bool
  | .shard _ (.hotelCreate ..) | .shard _ (.roomCreate ..) | .shard _ (.reserve _)
  | .shard _ (.reserveAndCancel ..) | .guests (.create ..) => true
  | _ => false

def Cmd.erases : Cmd n → Bool
  | .shard _ (.hotelDelete _) | .shard _ (.roomDelete _) | .shard _ (.bookingDelete _)
  | .guests (.delete _) => true
  | _ => false

/-- How a command may change one row. -/
structure Changes (cmd : Cmd n) (cell : Cell n) (before after : Option Row) : Prop where
  target : cell ∈ cmd.targets
  inserted : before = none → cmd.inserts = true
  erased : after = none → cmd.erases = true

namespace Changes
variable {cmd : Cmd n} {cell : Cell n} {before after : Option Row}

theorem insert (target : cell ∈ cmd.targets) (inserts : cmd.inserts = true) (stored : after ≠ none) :
    Changes cmd cell before after :=
  ⟨target, fun _ => inserts, fun gone => absurd gone stored⟩

theorem put (target : cell ∈ cmd.targets) (found : before ≠ none) (stored : after ≠ none) :
    Changes cmd cell before after :=
  ⟨target, fun missing => absurd missing found, fun gone => absurd gone stored⟩

theorem erase (target : cell ∈ cmd.targets) (erases : cmd.erases = true) (found : before ≠ none) :
    Changes cmd cell before after :=
  ⟨target, fun missing => absurd missing found, fun _ => erases⟩

end Changes

section Rows
variable {key : α → Text} {table : Table key} {row old : α} {wrap : α → Row} {id removed : Text}

theorem insert_changed {k : Text} (fresh : table.find? (key row) = none) (named : key row = k)
    (changed : ((table.insert row fresh).find? id).map wrap ≠ (table.find? id).map wrap) :
    k = id ∧ ((table.insert row fresh).find? id).map wrap ≠ none := by
  rw [Table.find?_insert] at changed ⊢
  split at changed
  · next same => exact ⟨named.symm.trans same, by simp [same]⟩
  · exact absurd rfl changed

theorem put_changed {k : Text} (found : table.find? k = some old) (named : key row = key old)
    (changed : ((table.put row).find? id).map wrap ≠ (table.find? id).map wrap) :
    k = id ∧ (table.find? id).map wrap ≠ none ∧ ((table.put row).find? id).map wrap ≠ none := by
  have kept : key row = k := named.trans (Table.find?_eq_some.mp found).2
  rw [Table.find?_put (kept ▸ found)] at changed ⊢
  split at changed
  · next same =>
    obtain rfl := kept.symm.trans same
    exact ⟨rfl, by simp [found], by simp [same]⟩
  · exact absurd rfl changed

theorem erase_changed
    (changed : ((table.erase removed).find? id).map wrap ≠ (table.find? id).map wrap) :
    id = removed ∧ (table.find? id).map wrap ≠ none := by
  rw [Table.find?_erase] at changed
  split at changed
  · next same =>
    refine ⟨same, fun missing => changed ?_⟩
    rw [missing]
    rfl
  · exact absurd rfl changed

end Rows

section Statements
variable {tables after : Tables} {stmt : Stmt} {i : Fin n} {key : TableKey}

theorem mem_targets (here : key ∈ stmt.targets) : Cell.shard i key ∈ (Cmd.shard i stmt).targets :=
  List.mem_map_of_mem here

/-- Each write changes the rows that it names and no others. -/
theorem Stmt.Wrote.changes (wrote : stmt.Wrote tables after)
    (changed : after.row? key ≠ tables.row? key) :
    Changes (.shard i stmt) (.shard i key) (tables.row? key) (after.row? key) := by
  cases wrote with
  | read | bookingUnchanged => exact absurd rfl changed
  | hotelCreate row fresh =>
    cases key with
    | hotel id =>
      obtain ⟨rfl, stored⟩ := insert_changed fresh (CreateHotelDto.row_ok row).1 changed
      exact .insert (mem_targets (List.mem_singleton_self _)) rfl stored
    | room | booking => exact absurd rfl changed
  | hotelUpdate found merged =>
    cases key with
    | hotel id =>
      obtain ⟨rfl, before, stored⟩ := put_changed found (UpdateHotelDto.over_ok merged).1 changed
      exact .put (mem_targets (List.mem_singleton_self _)) before stored
    | room | booking => exact absurd rfl changed
  | hotelDelete unused =>
    cases key with
    | hotel id =>
      obtain ⟨rfl, before⟩ := erase_changed changed
      exact .erase (mem_targets (List.mem_singleton_self _)) rfl before
    | room | booking => exact absurd rfl changed
  | roomCreate row fresh hotel number =>
    cases key with
    | room id =>
      obtain ⟨rfl, stored⟩ := insert_changed fresh (CreateRoomDto.row_ok row).1 changed
      exact .insert (mem_targets (List.mem_singleton_self _)) rfl stored
    | hotel | booking => exact absurd rfl changed
  | roomUpdate found merged hotel number =>
    cases key with
    | room id =>
      obtain ⟨rfl, before, stored⟩ := put_changed found (UpdateRoomDto.over_ok merged).1 changed
      exact .put (mem_targets (List.mem_singleton_self _)) before stored
    | hotel | booking => exact absurd rfl changed
  | roomDelete unused =>
    cases key with
    | room id =>
      obtain ⟨rfl, before⟩ := erase_changed changed
      exact .erase (mem_targets (List.mem_singleton_self _)) rfl before
    | hotel | booking => exact absurd rfl changed
  | bookingUpdate found merged room =>
    cases key with
    | booking id =>
      obtain ⟨rfl, before, stored⟩ := put_changed found (BookingData.over_ok merged).1 changed
      exact .put (mem_targets (List.mem_singleton_self _)) before stored
    | hotel | room => exact absurd rfl changed
  | @bookingUpdateMany _ _ status old found listed room =>
    cases key with
    | booking id =>
      have named : ({ old with status } : Booking).id = old.id := rfl
      obtain ⟨rfl, before, stored⟩ := put_changed found named changed
      exact .put (mem_targets (List.mem_singleton_self _)) before stored
    | hotel | room => exact absurd rfl changed
  | bookingDelete =>
    cases key with
    | booking id =>
      obtain ⟨rfl, before⟩ := erase_changed changed
      exact .erase (mem_targets (List.mem_singleton_self _)) rfl before
    | hotel | room => exact absurd rfl changed
  | reserve made =>
    cases key with
    | booking id =>
      obtain ⟨rfl, stored⟩ := insert_changed made.fresh made.id changed
      exact .insert (mem_targets (List.mem_singleton_self _)) rfl stored
    | hotel | room => exact absurd rfl changed
  | @reserveAndCancel data id created old made room found =>
    cases key with
    | booking other =>
      obtain ⟨member, same⟩ := Table.find?_eq_some.mp found
      have cancelled : (((tables.insertBooking created made.fresh made.room).putBooking
          { old with status := .cancelled } room).bookings.find? other) =
          if old.id = other then some { old with status := .cancelled } else
            if created.id = other then some created else tables.bookings.find? other := by
        have put := @Tables.find?_putBooking _ { old with status := .cancelled } _ _ room found same
        rw [put, Tables.find?_insertBooking]
      change (Option.map Row.booking _) ≠ Option.map Row.booking _ at changed
      change Changes _ _ _ (Option.map Row.booking _)
      rw [cancelled] at changed ⊢
      split at changed
      · next here =>
        refine .insert (mem_targets ?_) rfl (by simp [here])
        rw [← here, same]
        exact List.mem_cons_of_mem _ (List.mem_singleton_self _)
      · next away =>
        split at changed
        · next new =>
          refine .insert (mem_targets ?_) rfl (by simp [away, new])
          rw [← new, made.id]
          exact List.mem_cons_self
        · exact absurd rfl changed
    | hotel | room => exact absurd rfl changed

end Statements

section Guests
variable {directory after : Guests} {stmt : GuestStmt} {answer : stmt.Answer} {id : Text}

theorem UpdateGuestDto.over_id {dto : UpdateGuestDto} {old new : Guest}
    (merged : dto.over old = .ok new) : new.id = old.id := by
  simp only [UpdateGuestDto.over, except_bind_ok, except_pure, Except.ok.injEq] at merged
  obtain ⟨_, _, _, _, rfl⟩ := merged
  rfl

theorem GuestStmt.changes (done : stmt.exec directory = .ok (answer, after))
    (changed : (after.guests.find? id).map Row.guest ≠ (directory.guests.find? id).map Row.guest) :
    Changes (.guests stmt : Cmd n) (.guest id) ((directory.guests.find? id).map Row.guest)
      ((after.guests.find? id).map Row.guest) := by
  have target {id : Text} (here : id ∈ stmt.targets) :
      Cell.guest id ∈ (Cmd.guests stmt : Cmd n).targets := List.mem_map_of_mem here
  cases stmt with
  | findMany | findIn | findUnique | findByEmail =>
    cases done
    exact absurd rfl changed
  | create key dto createdAt =>
    simp only [GuestStmt.exec] at done
    split at done
    · next fresh =>
      split at done
      · cases done
        obtain ⟨rfl, stored⟩ := insert_changed fresh rfl changed
        exact .insert (target (List.mem_singleton_self _)) rfl stored
      · cases done
    · cases done
  | update key dto =>
    simp only [GuestStmt.exec] at done
    cases found : directory.guests.find? key with
    | none => simp [found] at done
    | some old =>
      simp only [found, except_bind_ok] at done
      obtain ⟨guest, merged, written⟩ := done
      split at written
      · cases written
        obtain ⟨rfl, before, stored⟩ := put_changed found (UpdateGuestDto.over_id merged) changed
        exact .put (target (List.mem_singleton_self _)) before stored
      · cases written
  | delete key =>
    simp only [GuestStmt.exec] at done
    split at done
    · cases done
      obtain ⟨rfl, before⟩ := erase_changed changed
      exact .erase (target (List.mem_singleton_self _)) rfl before
    · cases done

end Guests

/-- A command changes the rows that it names and no others. -/
theorem World.exec_changes {cmd : Cmd n} {world : World n} {cell : Cell n}
    (changed : (World.exec cmd world).2.row? cell ≠ world.row? cell) :
    Changes cmd cell (world.row? cell) ((World.exec cmd world).2.row? cell) := by
  cases cmd with
  | shard i stmt =>
    cases done : stmt.exec (world.shards i) with
    | error error =>
      rw [World.exec_shard_error done] at changed
      exact absurd rfl changed
    | ok result =>
      obtain ⟨answer, tables⟩ := result
      rw [World.exec_shard_ok done] at changed ⊢
      cases cell with
      | guest id => exact absurd rfl changed
      | shard j key =>
        by_cases same : j = i
        · subst same
          simp only [World.row?, World.setShard_self] at changed ⊢
          exact (Stmt.wrote done).changes changed
        · simp only [World.row?, World.setShard_of_ne world same] at changed
          exact absurd rfl changed
  | guests stmt =>
    cases done : stmt.exec world.guests with
    | error error =>
      simp only [World.exec, done] at changed
      exact absurd rfl changed
    | ok result =>
      obtain ⟨answer, directory⟩ := result
      simp only [World.exec, done] at changed ⊢
      cases cell with
      | shard j key => exact absurd rfl changed
      | guest id => exact GuestStmt.changes done changed
  | cache cmd => exact absurd rfl changed

end HotelBooking
