import HotelBooking.Services.Requests
import HotelBooking.Database.Writes

/-! One request running alone while commands may fail: what each service function does to
the world, with the commands it attempted and the faults that struck them. -/
namespace HotelBooking
open Relational Effect
variable {n : Nat} {env : Env n} {policy : Policy (signature n) Err (World n)}
  {world last : World n} {attempts : List (Attempt (signature n) Err (World n))}

abbrev Attempts (n : Nat) : Type := List (Attempt (signature n) Err (World n))

/-- All attempted commands are commands to Redis. -/
def OnlyCache (attempts : Attempts n) : Prop := ∀ attempt ∈ attempts, ∃ cmd, attempt.cmd = .cache cmd

theorem runs_permitted {program : Async n α} {result : Except Err α}
    (runs : program.Runs World.exec policy world attempts result last) :
    ∀ attempt ∈ attempts, policy attempt.before attempt.cmd attempt.fault := by
  induction runs with
  | ret => exact fun attempt member => absurd member List.not_mem_nil
  | raise => exact fun attempt member => absurd member List.not_mem_nil
  | call permitted rest ih =>
    intro attempt member
    rcases List.mem_cons.mp member with rfl | later
    · exact permitted
    · exact ih attempt later

theorem runs_ret {value : α} {result : Except Err α}
    (runs : (Program.ret value : Async n α).Runs World.exec policy world attempts result last) :
    attempts = [] ∧ result = .ok value ∧ last = world := by
  cases runs
  exact ⟨rfl, rfl, rfl⟩

theorem runs_raise {error : Err} {result : Except Err α}
    (runs : (Program.raise error : Async n α).Runs World.exec policy world attempts result last) :
    attempts = [] ∧ result = .error error ∧ last = world := by
  cases runs
  exact ⟨rfl, rfl, rfl⟩

theorem runs_issue {cmd : Cmd n} {result : Except Err cmd.Answer}
    (runs : (issue cmd).Runs World.exec policy world attempts result last) :
    ∃ fault, policy world cmd fault ∧ attempts = [⟨world, cmd, fault⟩] ∧
      (result, last) = fault.apply World.exec cmd world :=
  Program.runs_perform runs

/-- A handler that rethrows changes the error and nothing else. -/
theorem runs_rethrow {program : Async n α} {handler : Err → Async n α} {result : Except Err α}
    (rethrows : ∀ error, ∃ other, handler error = .raise other)
    (runs : (program.recover handler).Runs World.exec policy world attempts result last) :
    ∃ inner, program.Runs World.exec policy world attempts inner last ∧
      result.toOption = inner.toOption := by
  rcases Program.runs_recover runs with ⟨error, mid, first, rest, rfl, head, tail⟩ | ⟨value, rfl, head⟩
  · obtain ⟨other, raises⟩ := rethrows error
    rw [raises] at tail
    obtain ⟨rfl, rfl, rfl⟩ := runs_raise tail
    rw [List.append_nil]
    exact ⟨.error error, head, rfl⟩
  · exact ⟨.ok value, head, rfl⟩

theorem runs_router {router : ShardRouter n} {i : Fin n} {body : Async n α} {result : Except Err α}
    (runs : (router.run i body).Runs World.exec policy world attempts result last) :
    ∃ inner, body.Runs World.exec policy world attempts inner last ∧
      result.toOption = inner.toOption := by
  refine runs_rethrow (fun error => ?_) runs
  split
  · exact ⟨_, rfl⟩
  · exact ⟨_, rfl⟩

theorem runs_attempt {program : Async n α} {result : Except Err (Except Err α)}
    (runs : (attempt program).Runs World.exec policy world attempts result last) :
    ∃ inner, program.Runs World.exec policy world attempts inner last ∧ result = .ok inner := by
  rcases Program.runs_recover runs with ⟨error, mid, first, rest, rfl, head, tail⟩ | ⟨value, rfl, head⟩
  · obtain ⟨rfl, rfl, rfl⟩ := runs_ret tail
    rw [List.append_nil]
    rcases Program.runs_bind head with ⟨value, mid, early, late, rfl, body, final⟩ | ⟨other, same, body⟩
    · cases final
    · cases same
      exact ⟨.error error, body, rfl⟩
  · rcases Program.runs_bind head with ⟨inner, mid, early, late, rfl, body, final⟩ | ⟨other, same, body⟩
    · obtain ⟨rfl, same, rfl⟩ := runs_ret final
      rw [List.append_nil]
      exact ⟨.ok inner, body, same⟩
    · cases same

/-- One statement behind the shard wrapper. -/
theorem runs_write {router : ShardRouter n} {i : Fin n} {stmt : Stmt}
    {result : Except Err stmt.Answer}
    (runs : (router.write i stmt).Runs World.exec policy world attempts result last) :
    ∃ fault, policy world (.shard i stmt) fault ∧ attempts = [⟨world, .shard i stmt, fault⟩] ∧
      last = (fault.apply World.exec (.shard i stmt) world).2 ∧
      result.toOption = (fault.apply World.exec (.shard i stmt) world).1.toOption := by
  obtain ⟨inner, body, same⟩ := runs_router runs
  obtain ⟨fault, permitted, rfl, applied⟩ := runs_issue body
  refine ⟨fault, permitted, rfl, ?_, ?_⟩
  · rw [← applied]
  · rw [← applied, same]

/-- `bumpVersion` is one INCR, absorbed if it fails; without Redis it is nothing. -/
theorem bumpVersion_ensures : (CacheService.bumpVersion env).Ensures World.exec policy
    (fun attempts result last => result = .ok () ∧ last.shards = world.shards ∧
      last.guests = world.guests ∧
      attempts.map (fun attempt => attempt.cmd) = if env.redisConfigured then [.cache .incr] else [])
    world := by
  unfold CacheService.bumpVersion
  cases configured : env.redisConfigured with
  | false => exact Program.ensures_ret ⟨rfl, rfl, rfl, rfl⟩
  | true =>
    refine Program.ensures_bind (fun attempts result last runs => runs_attempt runs) ?_ ?_
    · rintro first reply mid ⟨inner, runs, _⟩
      obtain ⟨fault, permitted, rfl, applied⟩ := runs_issue runs
      have after := congrArg Prod.snd applied
      refine Program.ensures_ret ⟨rfl, ?_, ?_, rfl⟩
      · rw [show mid = _ from after]
        cases fault <;> rfl
      · rw [show mid = _ from after]
        cases fault <;> rfl
    · rintro _ error _ ⟨inner, _, same⟩
      cases same

theorem bump_onlyCache (commands : attempts.map (fun attempt => attempt.cmd) =
    if env.redisConfigured then [.cache .incr] else []) : OnlyCache attempts := by
  intro attempt member
  have issued := List.mem_map_of_mem (f := fun attempt => attempt.cmd) member
  rw [commands] at issued
  split at issued
  · exact ⟨_, List.mem_singleton.mp issued⟩
  · exact absurd issued List.not_mem_nil

theorem runs_invalidateSearch {result : Except Err Unit}
    (runs : (BookingsService.invalidateSearch env).Runs World.exec policy world attempts result last) :
    result = .ok () ∧ last.shards = world.shards ∧ OnlyCache attempts := by
  obtain ⟨done, shards, _, commands⟩ := bumpVersion_ensures attempts result last runs
  exact ⟨done, shards, bump_onlyCache commands⟩

end HotelBooking
