import HotelBooking.Database.Cells
import HotelBooking.Services.Footprint

/-! Which rows a request may write: the row with the key that it was given, and the row with the
identifier that it made up itself. -/
namespace HotelBooking
variable {n : Nat} {env : Env n} {entropy : Entropy} {request : Request} {cmd : Cmd n}

/-- The row with this identifier, on the shard of its bucket. -/
def ShardRouter.home (router : ShardRouter n) (key : Text → TableKey) (id : Text) : Cell n :=
  .shard (router.forKey id) (key id)

def Request.names (env : Env n) (entropy : Entropy) : Request → Cell n → Prop
  | .createHotel dto, cell =>
    cell = env.router.home .hotel (env.router.newHotelId env.platform dto.city (entropy.uuid 0))
  | .updateHotel id _, cell | .removeHotel id, cell => cell = env.router.home .hotel id
  | .createRoom dto, cell =>
    cell = env.router.home .room (ShardRouter.childId dto.hotelId (entropy.uuid 0))
  | .updateRoom id _, cell | .removeRoom id, cell => cell = env.router.home .room id
  | .createGuest _, cell => cell = .guest (entropy.uuid 0)
  | .updateGuest id _, cell | .removeGuest id, cell => cell = .guest id
  | .createBooking dto, cell =>
    ∃ attempt, cell = env.router.home .booking (ShardRouter.childId dto.roomId (entropy.uuid attempt))
  | .updateBooking id _, cell | .cancelBooking id, cell | .removeBooking id, cell =>
    cell = env.router.home .booking id
  | .relocateBooking id dto, cell => cell = env.router.home .booking id ∨
      cell = env.router.home .booking (ShardRouter.childId dto.roomId (entropy.uuid 0))
  | _, _ => False

/-- The requests that may make a row. -/
def Request.makes : Request → Bool
  | .createHotel _ | .createRoom _ | .createGuest _ | .createBooking _ | .relocateBooking .. => true
  | _ => false

/-- The requests that may delete a row. -/
def Request.removes : Request → Bool
  | .removeHotel _ | .removeRoom _ | .removeGuest _ | .removeBooking _ => true
  | _ => false

theorem Issued.inserts (issued : Issued env entropy request cmd) (inserts : cmd.inserts = true) :
    request.makes = true := by
  cases issued with
  | shardRead read => cases ‹Stmt› <;> cases read <;> cases inserts
  | guestRead read => cases ‹GuestStmt› <;> cases read <;> cases inserts
  | createHotel | createRoom | createGuest | createBooking | relocateLocally | sagaReserve => rfl
  | _ => cases inserts

theorem Issued.erases (issued : Issued env entropy request cmd) (erases : cmd.erases = true) :
    request.removes = true := by
  cases issued with
  | shardRead read => cases ‹Stmt› <;> cases read <;> cases erases
  | guestRead read => cases ‹GuestStmt› <;> cases read <;> cases erases
  | removeHotel | removeRoom | removeGuest | removeBooking => rfl
  | _ => cases erases

theorem Stmt.targets_read {stmt : Stmt} (read : stmt.isRead = true) : stmt.targets = [] := by
  cases stmt <;> first | rfl | cases read

theorem GuestStmt.targets_read {stmt : GuestStmt} (read : stmt.isRead = true) : stmt.targets = [] := by
  cases stmt <;> first | rfl | cases read

/-- The command of a request that relocates nothing writes the rows of this request. -/
theorem Issued.names (issued : Issued env entropy request cmd)
    (other : ∀ id dto, request ≠ .relocateBooking id dto) :
    ∀ cell ∈ cmd.targets, request.names env entropy cell := by
  intro cell member
  cases issued with
  | shardRead read => simp [Cmd.targets, Stmt.targets_read read] at member
  | guestRead read => simp [Cmd.targets, GuestStmt.targets_read read] at member
  | createHotel same =>
    subst same
    exact List.mem_singleton.mp member
  | createRoom same =>
    subst same
    obtain rfl := List.mem_singleton.mp member
    simp only [Request.names, ShardRouter.home, ShardRouter.forKey_childId]
  | @createBooking k dto data same =>
    obtain rfl := List.mem_singleton.mp member
    refine ⟨k, ?_⟩
    rw [same, ShardRouter.home, ShardRouter.forKey_childId]
  | updateHotel | removeHotel | updateRoom | removeRoom | createGuest | updateGuest | removeGuest
  | updateBooking | cancelBooking | removeBooking => exact List.mem_singleton.mp member
  | relocateLocally | sagaReserve | sagaCancel | compensate | sagaConfirm => exact absurd rfl (other _ _)
  | _ => cases member

end HotelBooking
