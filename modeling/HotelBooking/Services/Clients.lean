import HotelBooking.Services.Footprint
import HotelBooking.Effect.Protocol

/-! Concurrent requests: each client serves one call, and the awaited commands of all
clients interleave over one world. -/
namespace HotelBooking
open Effect
variable {n : Nat}

abbrev Clients (n : Nat) : Type := Pool (signature n) Err Response (World n)

abbrev Move (n : Nat) : Type := Transition (Clients n) (Event (signature n) Err)

def clients (env : Env n) (world : World n) (calls : List (Call n)) : Clients n :=
  ⟨world, calls.map (Call.program env)⟩

@[simp] theorem clients_state (env : Env n) (world : World n) (calls : List (Call n)) :
    (clients env world calls).state = world := rfl

/-- The TTL of a key ends at some moment. Nobody waits for an answer. -/
def lapse (key : CacheKey) : Async n Response :=
  (issue (.cache (.del [key]))).bind fun _ => .raise (.plain (text "expired"))

/-- The clients, while the TTL of each of the given keys ends. -/
def lapsing (env : Env n) (world : World n) (calls : List (Call n)) (keys : List CacheKey) :
    Clients n :=
  ⟨world, calls.map (Call.program env) ++ keys.map lapse⟩

theorem lapsing_cases {env : Env n} {world : World n} {calls : List (Call n)}
    {keys : List CacheKey} {i : Nat} {program : Async n Response}
    (found : (lapsing env world calls keys).clients[i]? = some program) :
    (∃ call, calls[i]? = some call ∧ program = call.program env) ∨
      (calls[i]? = none ∧ ∃ key ∈ keys, program = lapse key) := by
  simp only [lapsing, List.getElem?_append, List.length_map] at found
  split at found
  · rw [List.getElem?_map] at found
    obtain ⟨call, here, rfl⟩ := Option.map_eq_some_iff.mp found
    exact Or.inl ⟨call, here, rfl⟩
  · next beyond =>
    rw [List.getElem?_map] at found
    obtain ⟨key, here, rfl⟩ := Option.map_eq_some_iff.mp found
    exact Or.inr ⟨List.getElem?_eq_none (Nat.le_of_not_lt beyond), key,
      List.mem_of_getElem? here, rfl⟩

/-- What a client of the pool may issue: the commands of its call, or one expiry. -/
def ServesOwn (env : Env n) (calls : List (Call n)) (i : Nat) (cmd : Cmd n) : Prop :=
  (∃ call, calls[i]? = some call ∧ Issued env call.entropy call.request cmd) ∨
    ∃ key, cmd = .cache (.del [key])

theorem lapsing_uses (env : Env n) (world : World n) (calls : List (Call n))
    (keys : List CacheKey) : (lapsing env world calls keys).UsesEach (ServesOwn env calls) := by
  intro i program found
  rcases lapsing_cases found with ⟨call, here, rfl⟩ | ⟨_, key, _, rfl⟩
  · exact (Issued.uses_program env call).mono fun cmd issued => Or.inl ⟨call, here, issued⟩
  · exact Program.uses_bind (uses_issue (Or.inr ⟨key, rfl⟩)) fun _ => trivial

/-- The response that a client has returned. -/
def returned? (pool : Clients n) (client : Nat) : Option Response :=
  match pool.clients[client]? with
  | some (.ret response) => some response
  | _ => none

theorem returned?_eq {pool : Clients n} {client : Nat} {response : Response}
    (returned : returned? pool client = some response) :
    pool.clients[client]? = some (.ret response) := by
  unfold returned? at returned
  split at returned
  · next same =>
    obtain rfl := Option.some.inj returned
    exact same
  · cases returned

/-- The statements that run inside `serializable`. -/
def Cmd.isTransaction : Cmd n → Bool
  | .shard _ (.reserve _) | .shard _ (.reserveAndCancel ..) => true
  | _ => false

/-- No faults, except that the database may abort a Serializable transaction (P2034). -/
inductive Aborts : Policy (signature n) Err (World n) where
  | answered {world : World n} {cmd : Cmd n} : Aborts world cmd .none
  | aborted {world : World n} {cmd : Cmd n} : cmd.isTransaction = true →
      Aborts world cmd (.refused (.db .serialization))

theorem Aborts.faultless (world : World n) (cmd : Cmd n) : Aborts world cmd .none := .answered

/-- Only transactions are aborted. -/
theorem Aborts.untouched {world : World n} {cmd : Cmd n} {fault : Fault Err}
    (permitted : Aborts world cmd fault) (plain : cmd.isTransaction = false) : fault = .none := by
  cases permitted with
  | answered => rfl
  | aborted transaction => cases plain.symm.trans transaction

/-- A step executes its command, or the database has aborted a transaction. -/
theorem Aborts.effect {move : Move n}
    (step : Pool.Step World.exec Aborts move.before move.event move.after) :
    (Pool.reply World.exec move = (World.exec move.event.cmd move.before.state).1 ∧
      move.after.state = (World.exec move.event.cmd move.before.state).2) ∨
    (move.event.cmd.isTransaction = true ∧ move.after.state = move.before.state) := by
  obtain ⟨before, ⟨i, cmd, fault⟩, after⟩ := move
  obtain ⟨permitted, result⟩ := step.state_eq
  cases permitted with
  | answered => exact Or.inl ⟨rfl, result⟩
  | aborted transaction => exact Or.inr ⟨transaction, result⟩

def IssuedBy (env : Env n) (calls : List (Call n)) (cmd : Cmd n) : Prop :=
  ∃ call ∈ calls, Issued env call.entropy call.request cmd

theorem clients_uses (env : Env n) (world : World n) (calls : List (Call n)) :
    (clients env world calls).Uses (IssuedBy env calls) := by
  intro program member
  obtain ⟨call, listed, rfl⟩ := List.mem_map.mp member
  exact (Issued.uses_program env call).mono fun cmd issued => ⟨call, listed, issued⟩

end HotelBooking
