import HotelBooking.Services.Runs

/-! The fan-out while nothing fails. A read leaves the world as it is, so the order in which
the shards answer does not show: the result lists the answers in the order of the shards. -/
namespace HotelBooking
open Relational Effect
variable {n : Nat}

theorem Stmt.Wrote.unchanged {tables after : Tables} {stmt : Stmt} (read : stmt.isRead = true)
    (wrote : Stmt.Wrote tables stmt after) : after = tables := by
  cases wrote with
  | read => rfl
  | bookingUnchanged => rfl
  | hotelCreate | hotelUpdate | hotelDelete | roomCreate | roomUpdate | roomDelete
  | bookingUpdate | bookingUpdateMany | bookingDelete | reserve | reserveAndCancel => cases read

/-- The answer of a shard to a statement. -/
def World.answer (world : World n) (stmt : Stmt) (i : Fin n) : Except Err stmt.Answer :=
  (World.exec (.shard i stmt) world).1

theorem exec_isRead {stmt : Stmt} (read : stmt.isRead = true) (world : World n) (i : Fin n) :
    World.exec (.shard i stmt) world = (world.answer stmt i, world) := by
  unfold World.answer
  cases done : stmt.exec (world.shards i) with
  | error error => rw [World.exec_shard_error done]
  | ok result =>
    obtain ⟨answer, tables⟩ := result
    obtain rfl := (Stmt.wrote done).unchanged read
    rw [exec_read_ok done]

section FanOut
variable {router : ShardRouter n} {stmt : Stmt} {world : World n}

theorem run_settle (read : stmt.isRead = true) (order : List (Fin n)) :
    (router.settle stmt order).run World.exec world =
      (.ok (order.map fun i => (i, world.answer stmt i)), world) := by
  induction order with
  | nil => rfl
  | cons i rest ih =>
    simp only [ShardRouter.settle, Program.bind_eq, Program.pure_eq, Program.run_bind, run_attempt,
      run_read, exec_isRead read, ih, Program.run_ret, List.map_cons]

/-- A settled read is found again under its shard. -/
theorem find?_settled {answers : Fin n → α} {order : List (Fin n)} {i : Fin n}
    (listed : i ∈ order) :
    (order.map fun j => (j, answers j)).find? (fun outcome => outcome.1 = i) =
      some (i, answers i) := by
  induction order with
  | nil => exact absurd listed List.not_mem_nil
  | cons j rest ih =>
    by_cases same : j = i
    · subst same
      simp
    · have later : i ∈ rest := (List.mem_cons.mp listed).resolve_left fun other => same other.symm
      simp [same, ih later]

theorem gather_ok {answers : Fin n → Except Err α} {values : Fin n → α} {order : List (Fin n)}
    (allowPartial : Bool) (answered : ∀ i, answers i = .ok (values i)) (shards : List (Fin n))
    (listed : ∀ i ∈ shards, i ∈ order) :
    ShardRouter.gather allowPartial (order.map fun i => (i, answers i)) shards =
      .ok ⟨shards.map fun i => (i, values i), []⟩ := by
  induction shards with
  | nil => rfl
  | cons i rest ih =>
    obtain ⟨here, later⟩ := List.forall_mem_cons.mp listed
    simp only [ShardRouter.gather, find?_settled here, answered i, ih later]
    rfl

theorem gather_failed {answers : Fin n → Except Err α} {order : List (Fin n)}
    (failed : ∀ i, ∃ error, answers i = .error error) (shards : List (Fin n))
    (listed : ∀ i ∈ shards, i ∈ order) :
    ShardRouter.gather true (order.map fun i => (i, answers i)) shards = .ok ⟨[], shards⟩ := by
  induction shards with
  | nil => rfl
  | cons i rest ih =>
    obtain ⟨here, later⟩ := List.forall_mem_cons.mp listed
    obtain ⟨error, same⟩ := failed i
    simp only [ShardRouter.gather, find?_settled here, same, ih later]
    rfl

theorem Schedule.listed (schedule : Schedule n) (i : Fin n) : i ∈ schedule.order :=
  schedule.complete.mem_iff.mpr (List.mem_finRange i)

theorem run_fanOut (read : stmt.isRead = true) (schedule : Schedule n) (allowPartial : Bool)
    {values : Fin n → stmt.Answer} (answered : ∀ i, world.answer stmt i = .ok (values i)) :
    (router.fanOut schedule stmt allowPartial).run World.exec world =
      (.ok ⟨(List.finRange n).map fun i => (i, values i), []⟩, world) := by
  rw [ShardRouter.fanOut, Program.bind_eq, Program.run_bind, run_settle read]
  simp only [Program.run_ofExcept]
  rw [gather_ok allowPartial answered _ fun i _ => schedule.listed i]

theorem run_fanOutList (read : stmt.isRead = true) (schedule : Schedule n) (allowPartial : Bool)
    (rows : stmt.Answer → List α) {values : Fin n → stmt.Answer}
    (answered : ∀ i, world.answer stmt i = .ok (values i)) :
    (router.fanOutList schedule stmt rows allowPartial).run World.exec world =
      (.ok ((List.finRange n).flatMap fun i => rows (values i)), world) := by
  rw [ShardRouter.fanOutList, Program.bind_eq, Program.run_bind,
    run_fanOut read schedule allowPartial answered]
  simp only [Program.pure_eq, Program.run_ret, List.flatMap_map]

/-- A fan-out that every shard rejects resolves with no rows. -/
theorem run_fanOutList_failed (read : stmt.isRead = true) (schedule : Schedule n)
    (rows : stmt.Answer → List α) (failed : ∀ i, ∃ error, world.answer stmt i = .error error) :
    (router.fanOutList schedule stmt rows true).run World.exec world = (.ok [], world) := by
  rw [ShardRouter.fanOutList, Program.bind_eq, Program.run_bind, ShardRouter.fanOut,
    Program.bind_eq, Program.run_bind, run_settle read]
  simp only [Program.run_ofExcept]
  rw [gather_failed failed _ fun i _ => schedule.listed i]
  rfl

end FanOut
end HotelBooking
