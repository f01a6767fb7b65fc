import HotelBooking.Services.Protocols
import HotelBooking.Services.FanOut
import Mathlib.Data.List.Induction

/-! The search results in Redis. A search that finds no entry asks its shards and stores the
rooms of those that answered. On the shard of a city a failed read rejects the search; a fan-out
goes on without the shard. -/
namespace HotelBooking
open Effect
variable {n : Nat} {env : Env n}

/-- The answer of one shard to one search query. -/
structure SearchRead (n : Nat) where
  filter : RoomFilter
  shard : Fin n
  answer : Except Err (List RoomView)

def Cmd.searchRead : (cmd : Cmd n) → Except Err cmd.Answer → Option (SearchRead n)
  | .shard i (.roomSearch filter), answer => some ⟨filter, i, answer⟩
  | _, _ => none

theorem searchRead_cmd {cmd : Cmd n} {reply : Except Err cmd.Answer} {read : SearchRead n}
    (shown : Cmd.searchRead cmd reply = some read) :
    ∃ i filter, cmd = .shard i (.roomSearch filter) := by
  unfold Cmd.searchRead at shown
  split at shown
  · next i filter _ => exact ⟨i, filter, rfl⟩
  · cases shown

/-- The command looked a search up in Redis, where it was not stored. -/
def Cmd.searchMiss : (cmd : Cmd n) → Except Err cmd.Answer → Bool
  | .cache (.get (.roomsSearch ..)), .ok none => true
  | _, _ => false

def Cmd.storesSearch : Cmd n → Bool
  | .cache (.set (.roomsSearch ..) _ _) => true
  | _ => false

theorem storesSearch_cmd {cmd : Cmd n} (stores : cmd.storesSearch = true) :
    ∃ version params views ttlSec,
      cmd = .cache (.set (.roomsSearch version params) views ttlSec) := by
  unfold Cmd.storesSearch at stores
  split at stores
  · next version params views ttlSec => exact ⟨version, params, views, ttlSec, rfl⟩
  · cases stores

/-- The one shard that `RoomsService.search` asks, when the city determines it. -/
def cityShard (env : Env n) (dto : SearchRoomDto) : Option (Fin n) :=
  (dto.city.filter fun city => !city.isEmpty).bind (env.router.shardForCity env.platform)

/-- The shards that `RoomsService.search` asks. -/
def askedShards (env : Env n) (dto : SearchRoomDto) : List (Fin n) :=
  match cityShard env dto with
  | some shard => [shard]
  | none => List.finRange n

/-- One read of each asked shard, and the rooms of the shards that answered. The shard of a city
has answered. -/
structure Collects (env : Env n) (dto : SearchRoomDto) (reads : List (SearchRead n))
    (views : List RoomView) (answers : Fin n → Except Err (List RoomView)) : Prop where
  asked : reads.Perm ((askedShards env dto).map fun shard =>
    ⟨RoomsService.searchFilter env.platform dto, shard, answers shard⟩)
  rows : views = (askedShards env dto).flatMap fun shard => (answers shard).toOption.getD []
  routed : ∀ shard, cityShard env dto = some shard → ∃ rows, answers shard = .ok rows

/-- A served request and what it has learned: that Redis has no entry, and the answers of shards. -/
structure SearchPhase (n : Nat) where
  request : Option Request
  missed : Bool
  reads : List (SearchRead n)
  stored : Bool

def SearchPhase.fresh (request : Option Request) : SearchPhase n := ⟨request, false, [], false⟩

/-- Only a search that found no entry stores one: the rooms that its reads collected. No read
follows. -/
abbrev fillProtocol (env : Env n) : Protocol (signature n) Err where
  Phase := SearchPhase n
  allows phase cmd := (∀ version params views ttlSec,
      cmd = .cache (.set (.roomsSearch version params) views ttlSec) →
      phase.missed = true ∧ ∃ dto, phase.request = some (.searchRooms dto) ∧
        ∃ answers, Collects env dto phase.reads views answers) ∧
    ∀ i filter, cmd = .shard i (.roomSearch filter) → phase.stored = false
  next phase cmd reply := {
    phase with
    missed := Cmd.searchMiss cmd reply || phase.missed
    reads := phase.reads ++ (Cmd.searchRead cmd reply).toList
    stored := cmd.storesSearch || phase.stored }

section Search
variable {dto : SearchRoomDto} {phase : SearchPhase n}

theorem searchRead_obeys (unstored : phase.stored = false) (filter : RoomFilter) (i : Fin n) :
    (env.router.read i (.roomSearch filter)).Obeys (fillProtocol env)
      (fun after result => ∃ answer : Except Err (List RoomView),
        after = { phase with reads := phase.reads ++ [⟨filter, i, answer⟩] } ∧
        result.toOption = answer.toOption) phase := by
  refine obeys_read ⟨?_, fun _ _ _ => unstored⟩ ?_ ?_
  · rintro version params views ttlSec ⟨⟩
  · exact fun answer => ⟨.ok answer, rfl, rfl⟩
  · exact fun error other => ⟨.error error, rfl, rfl⟩

theorem settle_obeys (unstored : phase.stored = false) (filter : RoomFilter)
    (order : List (Fin n)) (distinct : order.Nodup) :
    (env.router.settle (.roomSearch filter) order).Obeys (fillProtocol env)
      (fun after result => ∃ answers outcomes : Fin n → Except Err (List RoomView),
        result = .ok (order.map fun shard => (shard, outcomes shard)) ∧
        after = { phase with reads := phase.reads ++ order.map fun shard =>
          ⟨filter, shard, answers shard⟩ } ∧
        ∀ shard, (outcomes shard).toOption = (answers shard).toOption) phase := by
  induction order generalizing phase with
  | nil => exact ⟨fun _ => .ok [], fun _ => .ok [], rfl, by rw [List.map_nil, List.append_nil],
      fun _ => rfl⟩
  | cons i rest ih =>
    obtain ⟨absent, distinct⟩ := List.nodup_cons.mp distinct
    have others (values : Fin n → Except Err (List RoomView)) (value : Except Err (List RoomView)) :
        ∀ shard ∈ rest, Function.update values i value shard = values shard := by
      intro shard member
      refine Function.update_of_ne ?_ _ _
      rintro rfl
      exact absent member
    have head : (attempt (env.router.read i (.roomSearch filter))).Obeys (fillProtocol env)
        (fun after outcome => ∃ answer inner : Except Err (List RoomView), outcome = .ok inner ∧
          after = { phase with reads := phase.reads ++ [⟨filter, i, answer⟩] } ∧
          inner.toOption = answer.toOption) phase :=
      obeys_attempt (searchRead_obeys unstored filter i)
        fun _ result ⟨answer, same, shown⟩ => ⟨answer, result, rfl, same, shown⟩
    refine Program.obeys_bind head ?_ ?_
    · rintro _ outcome ⟨answer, inner, same, rfl, shown⟩
      obtain rfl := Except.ok.inj same
      refine Program.obeys_bind (ih unstored distinct) ?_ ?_
      · rintro _ _ ⟨answers, outcomes, settled, rfl, agree⟩
        obtain rfl := Except.ok.inj settled
        refine ⟨Function.update answers i answer, Function.update outcomes i outcome, ?_, ?_, ?_⟩
        · have tail := List.map_congr_left fun shard member =>
            congrArg (Prod.mk shard) (others outcomes outcome shard member)
          rw [List.map_cons, tail, Function.update_self]
        · have tail := List.map_congr_left fun shard member =>
            congrArg (SearchRead.mk filter shard) (others answers answer shard member)
          rw [List.map_cons, tail, Function.update_self, List.append_assoc, List.singleton_append]
        · intro shard
          by_cases same : shard = i
          · subst same
            rw [Function.update_self, Function.update_self]
            exact shown
          · rw [Function.update_of_ne same, Function.update_of_ne same]
            exact agree shard
      · rintro _ error ⟨answers, outcomes, settled, _⟩
        cases settled
    · rintro _ error ⟨_, _, same, _⟩
      cases same

/-- What `allowPartial` lets through: the rows of the shards that answered. -/
theorem gather_partial (outcomes : Fin n → Except Err (List RoomView)) {order : List (Fin n)}
    (shards : List (Fin n)) (listed : ∀ i ∈ shards, i ∈ order) :
    ∃ result, ShardRouter.gather true (order.map fun i => (i, outcomes i)) shards = .ok result ∧
      (result.parts.flatMap fun part => part.2) =
        shards.flatMap fun i => (outcomes i).toOption.getD [] := by
  induction shards with
  | nil => exact ⟨⟨[], []⟩, rfl, rfl⟩
  | cons i rest ih =>
    obtain ⟨here, later⟩ := List.forall_mem_cons.mp listed
    obtain ⟨result, gathered, rows⟩ := ih later
    cases answered : outcomes i with
    | ok views =>
      simp only [ShardRouter.gather, find?_settled here, answered, gathered]
      refine ⟨_, rfl, ?_⟩
      simp only [List.flatMap_cons, rows, answered]
      rfl
    | error error =>
      simp only [ShardRouter.gather, find?_settled here, answered, gathered]
      refine ⟨_, rfl, ?_⟩
      simp only [List.flatMap_cons, rows, answered]
      rfl

/-- A search that resolves has collected the rooms that it returns; a fan-out resolves. -/
theorem search_obeys (unstored : phase.stored = false) (fresh : phase.reads = [])
    (schedule : Schedule n) :
    (RoomsService.search env schedule dto).Obeys (fillProtocol env)
      (fun after result => (∃ reads, after = { phase with reads }) ∧
        match result with
        | .ok views => ∃ answers, Collects env dto after.reads views answers
        | .error _ => cityShard env dto ≠ none) phase := by
  unfold RoomsService.search
  split
  · next shard asked =>
    have only : askedShards env dto = [shard] := by simp only [askedShards, cityShard, asked]
    refine (searchRead_obeys unstored _ shard).mono ?_
    rintro _ result ⟨answer, rfl, shown⟩
    refine ⟨⟨_, rfl⟩, ?_⟩
    cases result with
    | ok views =>
      have answered : answer = .ok views := by
        cases answer with
        | ok other =>
          obtain rfl := Option.some.inj shown
          rfl
        | error error => cases shown
      refine ⟨fun _ => answer, ?_, ?_, fun _ _ => ⟨views, answered⟩⟩
      · rw [only, fresh]
        exact List.Perm.refl _
      · rw [only, List.flatMap_singleton, answered]
        rfl
    | error error =>
      intro fannedOut
      cases asked.symm.trans fannedOut
  · next asked =>
    have all : askedShards env dto = List.finRange n := by simp only [askedShards, cityShard, asked]
    have distinct : schedule.order.Nodup := schedule.complete.nodup_iff.mpr (List.nodup_finRange n)
    have fanned : (env.router.fanOut schedule
        (.roomSearch (RoomsService.searchFilter env.platform dto)) true).Obeys (fillProtocol env)
        (fun after result => (∃ reads, after = { phase with reads }) ∧ ∃ parts answers,
          result = .ok parts ∧
          Collects env dto after.reads (parts.parts.flatMap fun part => part.2) answers) phase := by
      refine Program.obeys_bind (settle_obeys unstored _ _ distinct) ?_ ?_
      · rintro _ _ ⟨answers, outcomes, settled, rfl, agree⟩
        obtain rfl := Except.ok.inj settled
        obtain ⟨result, gathered, rows⟩ := gather_partial outcomes (List.finRange n)
          fun i _ => schedule.listed i
        refine Program.obeys_ofExcept ⟨⟨_, rfl⟩, result, answers, gathered, ?_, ?_, ?_⟩
        · rw [all, fresh, List.nil_append]
          exact schedule.complete.map _
        · simp only [rows, all, agree]
        · intro shard routed
          cases asked.symm.trans routed
      · rintro _ error ⟨_, _, settled, _⟩
        cases settled
    refine Program.obeys_bind fanned ?_ ?_
    · rintro after _ ⟨same, parts, answers, resolved, collected⟩
      obtain rfl := Except.ok.inj resolved
      exact ⟨same, answers, collected⟩
    · rintro after error ⟨_, _, _, same, _⟩
      cases same

/-- A fan-out that found no entry ends by storing its rooms. -/
def FillEnds (env : Env n) (phase : SearchPhase n) : Prop :=
  phase.missed = true → ∀ dto, phase.request = some (.searchRooms dto) →
    cityShard env dto = none → phase.stored = true

/-- Commands that neither look a search up in Redis nor store it there. -/
def Cmd.ApartFromSearch (cmd : Cmd n) : Prop :=
  (∀ version params, cmd ≠ .cache (.get (.roomsSearch version params))) ∧
    ∀ version params views ttlSec, cmd ≠ .cache (.set (.roomsSearch version params) views ttlSec)

theorem Cmd.ApartFromSearch.quiet {cmd : Cmd n} (apart : cmd.ApartFromSearch)
    (reply : Except Err cmd.Answer) :
    Cmd.searchMiss cmd reply = false ∧ cmd.storesSearch = false := by
  constructor
  · unfold Cmd.searchMiss
    split
    · exact absurd rfl (apart.1 _ _)
    · rfl
  · unfold Cmd.storesSearch
    split
    · exact absurd rfl (apart.2 _ _ _ _)
    · rfl

/-- Without a look-up nothing is stored. -/
theorem uses_obeys {program : Async n α} (uses : program.Uses Cmd.ApartFromSearch)
    (found : phase.missed = false) (unstored : phase.stored = false) :
    program.Obeys (fillProtocol env) (fun after _ => FillEnds env after) phase := by
  refine uses.obeys (fun phase : SearchPhase n => phase.missed = false ∧ phase.stored = false) ?_ ?_ ?_
    ⟨found, unstored⟩
  · rintro _ cmd ⟨_, unstored⟩ apart
    exact ⟨fun version params views ttlSec same => absurd same (apart.2 version params views ttlSec),
      fun _ _ _ => unstored⟩
  · rintro phase cmd reply ⟨found, unstored⟩ apart
    obtain ⟨looked, stores⟩ := apart.quiet reply
    simp only [looked, stores, Bool.false_or]
    exact ⟨found, unstored⟩
  · rintro phase _ ⟨found, _⟩ missed
    rw [found] at missed
    cases missed

theorem search_uses (schedule : Schedule n) :
    (RoomsService.search env schedule dto).Uses Cmd.ApartFromSearch := by
  have issues : (RoomsService.search env schedule dto).Uses (Issued env default .findHotels) :=
    Issued.uses_search schedule dto
  apply issues.mono
  intro cmd issued
  constructor
  · rintro version params rfl
    cases issued
  · rintro version params views ttlSec rfl
    cases issued

theorem getOrSet_obeys (version : Nat) (params : SearchParams) (ttl : CacheTtl) (jitter : Nat)
    (schedule : Schedule n) :
    (CacheService.getOrSet env (.roomsSearch version params) ttl jitter
      (RoomsService.search env schedule dto) (RoomsService.search env schedule dto)).Obeys
      (fillProtocol env) (fun after _ => FillEnds env after) (.fresh (some (.searchRooms dto))) := by
  have bypassing : (CacheService.bypass (.roomsSearch version params)
      (RoomsService.search env schedule dto)).Obeys (fillProtocol env)
      (fun after _ => FillEnds env after) (.fresh (some (.searchRooms dto))) :=
    uses_obeys (Program.uses_bind (search_uses schedule) fun _ => trivial) rfl rfl
  unfold CacheService.getOrSet
  split
  · exact bypassing
  · let found (reply : Except Err (Option (List RoomView))) : SearchPhase n :=
      ⟨some (.searchRooms dto), Cmd.searchMiss (n := n) (.cache (.get (.roomsSearch version params))) reply,
        [], false⟩
    have looked : (attempt (issue (.cache (.get (.roomsSearch version params))) :
        Async n (Option (List RoomView)))).Obeys (fillProtocol env)
        (fun after outcome => ∃ reply, outcome = .ok reply ∧ after = found reply)
        (.fresh (some (.searchRooms dto))) := by
      have issued : (issue (.cache (.get (.roomsSearch version params))) :
          Async n (Option (List RoomView))).Obeys (fillProtocol env)
          (fun after reply => after = found reply) (.fresh (some (.searchRooms dto))) := by
        refine obeys_issue ⟨?_, fun _ _ _ => rfl⟩ ?_
        · rintro _ _ _ _ ⟨⟩
        · intro reply
          simp [found, SearchPhase.fresh, Cmd.searchRead, Cmd.storesSearch]
      exact obeys_attempt issued fun _ reply same => ⟨reply, rfl, same⟩
    have storing (views : List RoomView) (reads : List (SearchRead n))
        {answers : Fin n → Except Err (List RoomView)}
        (collected : Collects env dto reads views answers) :
        (attempt (issue (.cache (.set (.roomsSearch version params) views
          (ttl.base + jitter % (ttl.jitter + 1)))) : Async n Unit)).Obeys (fillProtocol env)
          (fun after _ => after.stored = true) ⟨some (.searchRooms dto), true, reads, false⟩ := by
      have issued : (issue (.cache (.set (.roomsSearch version params) views
          (ttl.base + jitter % (ttl.jitter + 1)))) : Async n Unit).Obeys (fillProtocol env)
          (fun after _ => after.stored = true) ⟨some (.searchRooms dto), true, reads, false⟩ := by
        refine obeys_issue ⟨?_, fun _ _ _ => rfl⟩ fun _ => rfl
        rintro _ _ _ _ ⟨⟩
        exact ⟨rfl, dto, rfl, answers, collected⟩
      exact obeys_attempt issued fun _ _ same => same
    refine Program.obeys_bind looked ?_ ?_
    · rintro _ outcome ⟨reply, same, rfl⟩
      obtain rfl := Except.ok.inj same
      cases outcome with
      | error error => exact bypassing
      | ok entry =>
        cases entry with
        | some views =>
          intro missed
          cases missed
        | none =>
          refine Program.obeys_bind (search_obeys rfl rfl schedule) ?_ ?_
          · rintro _ views ⟨⟨reads, rfl⟩, answers, collected⟩
            exact Program.obeys_bind (storing views reads collected) (fun _ _ same _ _ _ _ => same)
              fun _ _ same _ _ _ _ => same
          · rintro _ error ⟨⟨reads, rfl⟩, routed⟩ _ other asked fannedOut
            cases asked
            exact absurd fannedOut routed
    · rintro _ error ⟨_, same, _⟩
      cases same

theorem searchCached_obeys (entropy : Entropy) (schedule : Schedule n) :
    (RoomsService.searchCached env entropy schedule dto).Obeys (fillProtocol env)
      (fun after _ => FillEnds env after) (.fresh (some (.searchRooms dto))) := by
  let untouched (α : Type) : SearchPhase n → Except Err α → Prop :=
    fun after _ => after = .fresh (some (.searchRooms dto))
  have ended (phase : SearchPhase n) (same : phase = .fresh (some (.searchRooms dto))) :
      FillEnds env phase := by
    subst same
    rintro ⟨⟩
  have version : (CacheService.getVersion env).Obeys (fillProtocol env) (untouched Nat)
      (.fresh (some (.searchRooms dto))) := by
    unfold CacheService.getVersion
    split
    · exact rfl
    · have looked : (attempt (issue (.cache (.get .searchVersion)) :
          Async n (Option Nat))).Obeys (fillProtocol env) (untouched _)
          (.fresh (some (.searchRooms dto))) := by
        have issued : (issue (.cache (.get .searchVersion)) :
            Async n (Option Nat)).Obeys (fillProtocol env) (untouched _)
            (.fresh (some (.searchRooms dto))) := by
          refine obeys_issue ⟨?_, fun _ _ _ => rfl⟩ fun reply => rfl
          rintro _ _ _ _ ⟨⟩
        exact obeys_attempt issued fun _ _ same => same
      refine Program.obeys_bind looked ?_ fun _ _ same => same
      rintro after reply same
      split <;> exact same
  have normalized : (Program.ofExcept (normalizeSearchParams env.platform dto) :
      Async n SearchParams).Obeys (fillProtocol env) (untouched _)
      (.fresh (some (.searchRooms dto))) := Program.obeys_ofExcept rfl
  refine Program.obeys_bind version ?_ fun after _ same => ended after same
  rintro _ version rfl
  refine Program.obeys_bind normalized ?_ fun after _ same => ended after same
  rintro _ params rfl
  exact Program.obeys_bind (getOrSet_obeys version params _ _ schedule) (fun _ _ final => final)
    fun _ _ final => final

end Search

theorem call_obeys (env : Env n) (call : Call n) :
    (call.program env).Obeys (fillProtocol env) (fun after _ => FillEnds env after)
      (.fresh (some call.request)) := by
  have uses := Issued.uses_program env call
  obtain ⟨request, entropy, schedule⟩ := call
  cases request with
  | searchRooms dto =>
    exact Program.obeys_bind (searchCached_obeys entropy schedule) (fun _ _ final => final)
      fun _ _ final => final
  | _ =>
    refine uses_obeys (uses.mono ?_) rfl rfl
    intro cmd issued
    constructor
    · rintro version params rfl
      cases issued
    · rintro version params views ttlSec rfl
      cases issued

/-- The search reads of a client in a trace. -/
def Searched (trace : List (Move n)) (client : Nat) (read : SearchRead n) : Prop :=
  ∃ move ∈ trace, move.event.client = client ∧
    Cmd.searchRead move.event.cmd (Pool.reply World.exec move) = some read

/-- The client looked its search up in Redis and found no entry. -/
def Missed (trace : List (Move n)) (client : Nat) : Prop :=
  ∃ move ∈ trace, move.event.client = client ∧
    Cmd.searchMiss move.event.cmd (Pool.reply World.exec move) = true

/-- The client issued a SET of search results. -/
def Storing (trace : List (Move n)) (client : Nat) : Prop :=
  ∃ move ∈ trace, move.event.client = client ∧ move.event.cmd.storesSearch = true

def searchPhases (env : Env n) (calls : List (Call n)) (trace : List (Move n)) :
    Nat → SearchPhase n :=
  Pool.phases (fillProtocol env) World.exec (fun i => .fresh (calls[i]?.map Call.request)) trace

/-- The phase of a client is what the trace shows of it. -/
structure Shows (calls : List (Call n)) (trace : List (Move n)) (client : Nat)
    (phase : SearchPhase n) : Prop where
  request : phase.request = calls[client]?.map Call.request
  missed : phase.missed = true ↔ Missed trace client
  reads : ∀ read, read ∈ phase.reads ↔ Searched trace client read
  stored : phase.stored = true ↔ Storing trace client

theorem exists_mem_concat {holds : Move n → Prop} (trace : List (Move n)) (move : Move n) :
    (∃ other ∈ trace ++ [move], holds other) ↔ (∃ other ∈ trace, holds other) ∨ holds move := by
  simp only [List.mem_append, List.mem_singleton, or_and_right, exists_or, exists_eq_left]

theorem searchPhases_shows (env : Env n) (calls : List (Call n)) (trace : List (Move n))
    (client : Nat) : Shows calls trace client (searchPhases env calls trace client) := by
  induction trace using List.reverseRecOn with
  | nil =>
    constructor
    · rfl
    · simp [searchPhases, SearchPhase.fresh, Missed]
    · simp [searchPhases, SearchPhase.fresh, Searched]
    · simp [searchPhases, SearchPhase.fresh, Storing]
  | append_singleton trace move ih =>
    have advanced : searchPhases env calls (trace ++ [move]) =
        Pool.advance (fillProtocol env) World.exec (searchPhases env calls trace) move :=
      Pool.phases_concat _ _ _
    rw [advanced]
    by_cases served : move.event.client = client
    · subst served
      simp only [Pool.advance, Function.update_self]
      constructor
      · exact ih.request
      · simp only [Missed, exists_mem_concat, true_and, Bool.or_eq_true]
        rw [or_comm]
        exact or_congr_left ih.missed
      · intro read
        rw [List.mem_append, Option.mem_toList, ih.reads read]
        simp only [Searched, exists_mem_concat, true_and]
      · simp only [Storing, exists_mem_concat, true_and, Bool.or_eq_true]
        rw [or_comm]
        exact or_congr_left ih.stored
    · have same : Pool.advance (fillProtocol env) World.exec (searchPhases env calls trace) move
          client = searchPhases env calls trace client :=
        Function.update_of_ne (fun other => served other.symm) _ _
      rw [same]
      constructor
      · exact ih.request
      · simpa only [Missed, exists_mem_concat, served, false_and, or_false] using ih.missed
      · intro read
        simpa only [Searched, exists_mem_concat, served, false_and, or_false] using ih.reads read
      · simpa only [Storing, exists_mem_concat, served, false_and, or_false] using ih.stored

/-- The move stores rooms under a search key. -/
def Fills (move : Move n) (version : Nat) (params : SearchParams) (views : List RoomView) : Prop :=
  (∃ ttlSec, move.event.cmd = .cache (.set (.roomsSearch version params) views ttlSec)) ∧
    move.event.fault.isRefused = false

def Cmd.searchHit : (cmd : Cmd n) → Except Err cmd.Answer → Option (Nat × SearchParams × List RoomView)
  | .cache (.get (.roomsSearch version params)), .ok (some views) => some (version, params, views)
  | _, _ => none

/-- The rooms are those that all shards asked by the search answered with. -/
def FilledFrom (env : Env n) (trace : List (Move n)) (client : Nat) (dto : SearchRoomDto)
    (views : List RoomView) : Prop :=
  ∃ rows : Fin n → List RoomView,
    (∀ shard ∈ askedShards env dto,
      Searched trace client ⟨RoomsService.searchFilter env.platform dto, shard, .ok (rows shard)⟩) ∧
    views = (askedShards env dto).flatMap rows

theorem FilledFrom.mono {early trace : List (Move n)} {client : Nat} {dto : SearchRoomDto}
    {views : List RoomView} (filled : FilledFrom env early client dto views)
    (prior : ∀ move ∈ early, move ∈ trace) : FilledFrom env trace client dto views := by
  obtain ⟨rows, reads, collected⟩ := filled
  refine ⟨rows, fun shard asked => ?_, collected⟩
  obtain ⟨move, member, shown⟩ := reads shard asked
  exact ⟨move, prior move member, shown⟩

/-- Every stored search result is complete, and every hit shows a stored one. -/
structure CachedComplete (env : Env n) (calls : List (Call n)) (trace : List (Move n)) : Prop where
  fills : ∀ early move late version params views, trace = early ++ move :: late →
    Fills move version params views → ∃ dto,
      calls[move.event.client]?.map Call.request = some (.searchRooms dto) ∧
      FilledFrom env early move.event.client dto views
  hits : ∀ early move late version params views, trace = early ++ move :: late →
    Cmd.searchHit move.event.cmd (Pool.reply World.exec move) = some (version, params, views) →
    ∃ fill ∈ early, Fills fill version params views

/-- A search read of the client failed. -/
def SearchFailed (trace : List (Move n)) (client : Nat) : Prop :=
  ∃ read, Searched trace client read ∧ read.answer.toOption = none

def failsSearch (client : Nat) (move : Move n) : Bool :=
  move.event.client == client &&
    match Cmd.searchRead move.event.cmd (Pool.reply World.exec move) with
    | some read => read.answer.toOption.isNone
    | none => false

theorem searchFailed_iff (trace : List (Move n)) (client : Nat) :
    SearchFailed trace client ↔ trace.any (failsSearch client) = true := by
  rw [List.any_eq_true]
  constructor
  · rintro ⟨read, ⟨move, member, served, shown⟩, failed⟩
    exact ⟨move, member, by simp [failsSearch, served, shown, failed]⟩
  · rintro ⟨move, member, fails⟩
    unfold failsSearch at fails
    split at fails
    · next read shown =>
      simp only [Bool.and_eq_true, beq_iff_eq, Option.isNone_iff_eq_none] at fails
      exact ⟨read, ⟨move, member, fails.1, shown⟩, fails.2⟩
    · simp at fails

instance (trace : List (Move n)) (client : Nat) : Decidable (SearchFailed trace client) :=
  decidable_of_iff _ (searchFailed_iff trace client).symm

/-- A shard failed while the client fanned a search out that Redis had no entry for. -/
def Spoiled (env : Env n) (calls : List (Call n)) (trace : List (Move n)) (client : Nat) : Prop :=
  ∃ dto, calls[client]?.map Call.request = some (.searchRooms dto) ∧ cityShard env dto = none ∧
    Missed trace client ∧ SearchFailed trace client

/-- No search result is stored. -/
def Cold (world : World n) : Prop :=
  ∀ version params, world.redis.entries (.roomsSearch version params) = none

theorem Spoiled.mono {calls : List (Call n)} {early trace : List (Move n)} {client : Nat}
    (spoiled : Spoiled env calls early client) (prior : ∀ move ∈ early, move ∈ trace) :
    Spoiled env calls trace client := by
  obtain ⟨dto, asker, fannedOut, ⟨lookUp, missed, looked⟩, read, ⟨reading, member, shown⟩, failed⟩ :=
    spoiled
  exact ⟨dto, asker, fannedOut, ⟨lookUp, prior _ missed, looked⟩, read,
    ⟨reading, prior _ member, shown⟩, failed⟩

section Run
variable {policy : Policy (signature n) Err (World n)} {world : World n} {calls : List (Call n)}
  {trace : List (Move n)} {last : Clients n}

/-- The clients of a pool serve the calls, each in its place. -/
abbrev Serves (env : Env n) (calls : List (Call n)) (start : Clients n) : Prop :=
  start.Obeys (fillProtocol env) (fun _ after _ => FillEnds env after)
    (fun i => .fresh (calls[i]?.map Call.request))

theorem lapsing_obey (env : Env n) (world : World n) (calls : List (Call n))
    (keys : List CacheKey) : Serves env calls (lapsing env world calls keys) := by
  intro i program found
  rcases lapsing_cases found with ⟨call, here, rfl⟩ | ⟨absent, key, _, rfl⟩
  · simpa only [here, Option.map_some] using call_obeys env call
  · refine uses_obeys (Program.uses_bind (uses_issue ⟨?_, ?_⟩) fun _ => trivial) rfl rfl
    · rintro version params ⟨⟩
    · rintro version params views ttlSec ⟨⟩

/-- What a search stores is what its own reads collected. -/
theorem fills_collects {start : Clients n} (serves : Serves env calls start)
    (run : Run (Pool.Step World.exec policy) start trace last)
    {early late : List (Move n)} {move : Move n} (split : trace = early ++ move :: late)
    {version : Nat} {params : SearchParams} {views : List RoomView}
    (fill : Fills move version params views) :
    Missed early move.event.client ∧
    ∃ dto, calls[move.event.client]?.map Call.request = some (.searchRooms dto) ∧
      ∃ answers : Fin n → Except Err (List RoomView),
        (∀ read, Searched early move.event.client read ↔ ∃ shard ∈ askedShards env dto,
          read = ⟨RoomsService.searchFilter env.platform dto, shard, answers shard⟩) ∧
        views = (askedShards env dto).flatMap (fun shard => (answers shard).toOption.getD []) ∧
        ∀ shard, cityShard env dto = some shard → ∃ rows, answers shard = .ok rows := by
  obtain ⟨⟨ttlSec, stores⟩, _⟩ := fill
  obtain ⟨missed, dto, asker, answers, collected⟩ :=
    (Pool.run_allows serves run split).1 version params views ttlSec stores
  have shows := searchPhases_shows env calls early move.event.client
  refine ⟨shows.missed.mp missed, dto, shows.request.symm.trans asker, answers, ?_,
    collected.rows, collected.routed⟩
  intro read
  rw [← shows.reads, searchPhases, collected.asked.mem_iff, List.mem_map]
  simp only [eq_comm]

theorem filledFrom_of_answered {start : Clients n} (serves : Serves env calls start)
    (run : Run (Pool.Step World.exec policy) start trace last)
    {early late : List (Move n)} {move : Move n} (split : trace = early ++ move :: late)
    {version : Nat} {params : SearchParams} {views : List RoomView}
    (fill : Fills move version params views) (answered : ¬ Spoiled env calls early move.event.client) :
    ∃ dto, calls[move.event.client]?.map Call.request = some (.searchRooms dto) ∧
      FilledFrom env early move.event.client dto views := by
  obtain ⟨missed, dto, asker, answers, reads, rows, routed⟩ := fills_collects serves run split fill
  refine ⟨dto, asker, fun shard => (answers shard).toOption.getD [], ?_, rows⟩
  intro shard member
  have searched := (reads _).mpr ⟨shard, member, rfl⟩
  cases answer : answers shard with
  | ok views =>
    simpa only [answer, Except.toOption, Option.getD_some] using searched
  | error error =>
    rw [answer] at searched
    have failed : SearchFailed early move.event.client := ⟨_, searched, rfl⟩
    cases asked : cityShard env dto with
    | none => exact absurd ⟨dto, asker, asked, missed, failed⟩ answered
    | some only =>
      obtain ⟨views, found⟩ := routed only asked
      obtain rfl : shard = only := by simpa only [askedShards, asked, List.mem_singleton] using member
      cases answer.symm.trans found

theorem not_searchFailed_of_filledFrom {start : Clients n} (serves : Serves env calls start)
    (run : Run (Pool.Step World.exec policy) start trace last)
    {early late : List (Move n)} {move : Move n} (split : trace = early ++ move :: late)
    {version : Nat} {params : SearchParams} {views : List RoomView}
    (fill : Fills move version params views) {other : SearchRoomDto}
    (asked : calls[move.event.client]?.map Call.request = some (.searchRooms other))
    (complete : FilledFrom env early move.event.client other views) :
    ¬ SearchFailed early move.event.client := by
  obtain ⟨_, dto, asker, answers, reads, _, _⟩ := fills_collects serves run split fill
  obtain ⟨given, found, _⟩ := complete
  rintro ⟨read, searched, failed⟩
  obtain rfl : other = dto := by
    have same := asked.symm.trans asker
    cases same
    rfl
  obtain ⟨shard, member, rfl⟩ := (reads read).mp searched
  obtain ⟨again, _, same⟩ := (reads _).mp (found shard member)
  simp only [SearchRead.mk.injEq, true_and] at same
  obtain ⟨rfl, answer⟩ := same
  rw [show answers shard = .ok (given shard) from answer.symm] at failed
  cases failed

/-- A spoiled search that has ended has stored rooms after its failed read. -/
theorem spoiled_stores {start : Clients n} (serves : Serves env calls start)
    (present : calls.length ≤ start.clients.length)
    (run : Run (Pool.Step World.exec policy) start trace last)
    (finished : last.Finished) {client : Nat} (spoiled : Spoiled env calls trace client) :
    ∃ early move late, trace = early ++ move :: late ∧ move.event.client = client ∧
      move.event.cmd.storesSearch = true ∧ SearchFailed early client := by
  obtain ⟨dto, asker, fannedOut, missed, read, ⟨reading, member, reader, shown⟩, failed⟩ := spoiled
  have shows := searchPhases_shows env calls trace client
  have stored : Storing trace client := by
    obtain ⟨call, received, _⟩ := Option.map_eq_some_iff.mp asker
    have bound : client < last.clients.length := by
      rw [Pool.run_length run]
      exact Nat.lt_of_lt_of_le (List.getElem?_eq_some_iff.mp received).1 present
    obtain ⟨result, here⟩ := finished.result bound
    have ends := Pool.run_ends serves run here
    exact shows.stored.mp (ends (shows.missed.mpr missed) dto (shows.request.trans asker) fannedOut)
  obtain ⟨move, listed, same, stores⟩ := stored
  obtain ⟨early, late, split⟩ := List.append_of_mem listed
  refine ⟨early, move, late, split, same, stores, read, ?_, failed⟩
  obtain ⟨i, filter, isRead⟩ := searchRead_cmd shown
  rw [split, List.mem_append, List.mem_cons] at member
  rcases member with earlier | rfl | later
  · exact ⟨reading, earlier, reader, shown⟩
  · rw [isRead] at stores
    cases stores
  · -- after the SET the protocol allows no read
    obtain ⟨between, rest, rfl⟩ := List.append_of_mem later
    have unstored := (Pool.run_allows serves run (split.trans (by simp) :
      trace = (early ++ move :: between) ++ reading :: rest)).2 i filter isRead
    have already : Storing (early ++ move :: between) client :=
      ⟨move, List.mem_append_right _ List.mem_cons_self, same, stores⟩
    rw [reader] at unstored
    cases unstored.symm.trans ((searchPhases_shows env calls _ client).stored.mpr already)

/-- Of all commands only a SET makes an entry; the search version is also incremented. -/
theorem entry_exec {cmd : Cmd n} {world : World n} {key : CacheKey} {value : key.Value}
    (plain : key ≠ .searchVersion)
    (entry : (World.exec cmd world).2.redis.entries key = some value) :
    world.redis.entries key = some value ∨ ∃ ttlSec, cmd = .cache (.set key value ttlSec) := by
  cases cmd with
  | shard i stmt =>
    cases done : stmt.exec (world.shards i) with
    | error error =>
      rw [World.exec_shard_error done] at entry
      exact Or.inl entry
    | ok result =>
      rw [World.exec_shard_ok done] at entry
      exact Or.inl entry
  | guests stmt =>
    simp only [World.exec] at entry
    split at entry <;> exact Or.inl entry
  | cache cmd =>
    cases cmd with
    | get other => exact Or.inl entry
    | set other stored ttlSec =>
      by_cases same : other = key
      · subst same
        obtain rfl : stored = value := by
          simpa only [World.exec, Redis.exec, Function.update_self, Option.some.injEq] using entry
        exact Or.inr ⟨ttlSec, rfl⟩
      · apply Or.inl
        simpa only [World.exec, Redis.exec, Function.update_of_ne fun other => same other.symm]
          using entry
    | del keys =>
      simp only [World.exec, Redis.exec] at entry
      split at entry
      · cases entry
      · exact Or.inl entry
    | incr =>
      apply Or.inl
      simpa only [World.exec, Redis.exec, Function.update_of_ne plain] using entry

/-- Search entries of Redis were stored in the run. -/
theorem entries_filled {start : Clients n} (cold : Cold start.state)
    (run : Run (Pool.Step World.exec policy) start trace last)
    {version : Nat} {params : SearchParams} {views : List RoomView}
    (entry : last.state.redis.entries (.roomsSearch version params) = some views) :
    ∃ fill ∈ trace, Fills fill version params views := by
  induction run with
  | start =>
    rw [cold] at entry
    cases entry
  | @next trace mid event last earlier stepped ih =>
    have old (same : mid.state.redis.entries (.roomsSearch version params) = some views) :
        ∃ fill ∈ trace ++ [⟨mid, event, last⟩], Fills fill version params views := by
      obtain ⟨fill, member, fills⟩ := ih same
      exact ⟨fill, List.mem_append_left _ member, fills⟩
    have effective (executed : last.state = (World.exec event.cmd mid.state).2)
        (unrefused : event.fault.isRefused = false) :
        ∃ fill ∈ trace ++ [⟨mid, event, last⟩], Fills fill version params views := by
      rw [executed] at entry
      rcases entry_exec (by rintro ⟨⟩) entry with same | ⟨ttlSec, stores⟩
      · exact old same
      · exact ⟨⟨mid, event, last⟩, List.mem_append_right _ List.mem_cons_self,
          ⟨ttlSec, stores⟩, unrefused⟩
    have result := stepped.state_eq.2
    cases fault : event.fault with
    | none =>
      rw [fault] at result
      exact effective result (by rw [fault]; rfl)
    | lost error =>
      rw [fault] at result
      exact effective result (by rw [fault]; rfl)
    | refused error =>
      rw [fault] at result
      rw [show last.state = mid.state from result] at entry
      exact old entry

theorem hit_entry {move : Move n} {version : Nat} {params : SearchParams} {views : List RoomView}
    (hit : Cmd.searchHit move.event.cmd (Pool.reply World.exec move) = some (version, params, views)) :
    move.before.state.redis.entries (.roomsSearch version params) = some views := by
  obtain ⟨before, ⟨client, cmd, fault⟩, after⟩ := move
  cases cmd with
  | shard i stmt => cases hit
  | guests stmt => cases hit
  | cache cmd =>
    cases cmd with
    | get key =>
      cases key with
      | roomsSearch stored given =>
        cases fault with
        | none =>
          have reply : Pool.reply World.exec
              ⟨before, ⟨client, .cache (.get (.roomsSearch stored given)), .none⟩, after⟩ =
                .ok (before.state.redis.entries (.roomsSearch stored given)) := rfl
          rw [reply] at hit
          cases found : before.state.redis.entries (.roomsSearch stored given) with
          | none =>
            rw [found] at hit
            cases hit
          | some views =>
            rw [found] at hit
            cases hit
            exact found
        | refused error => cases hit
        | lost error => cases hit
      | _ => cases hit
    | _ => cases hit

theorem spoiled_incomplete {start : Clients n} (serves : Serves env calls start)
    (present : calls.length ≤ start.clients.length)
    (run : Run (Pool.Step World.exec policy) start trace last) (finished : last.Finished)
    (stores : ∀ move ∈ trace, move.event.cmd.storesSearch = true → move.event.fault.isRefused = false)
    {client : Nat} (spoiled : Spoiled env calls trace client) :
    ¬ CachedComplete env calls trace := by
  intro complete
  obtain ⟨early, move, late, split, same, sets, failed⟩ :=
    spoiled_stores serves present run finished spoiled
  obtain ⟨version, params, views, ttlSec, isSet⟩ := storesSearch_cmd sets
  have member : move ∈ trace := split ▸ List.mem_append_right _ List.mem_cons_self
  have fill : Fills move version params views := ⟨⟨ttlSec, isSet⟩, stores move member sets⟩
  obtain ⟨dto, asked, filled⟩ := complete.fills early move late version params views split fill
  exact not_searchFailed_of_filledFrom serves run split fill asked filled (same ▸ failed)

theorem lapsing_present (env : Env n) (world : World n) (calls : List (Call n))
    (keys : List CacheKey) : calls.length ≤ (lapsing env world calls keys).clients.length := by
  simp [lapsing]

/-- Shards and Redis may fail at any time, and entries may expire at any time. As long as no shard
fails a fan-out that found no entry, every stored search result is complete, and every hit shows
one. Once all clients have finished, and if Redis refused no SET, this is also necessary. -/
theorem cachedComplete_iff (env : Env n) (calls : List (Call n)) (world : World n)
    (keys : List CacheKey) (policy : Policy (signature n) Err (World n)) (cold : Cold world)
    (run : Run (Pool.Step World.exec policy) (lapsing env world calls keys) trace last) :
    ((∀ client, ¬ Spoiled env calls trace client) → CachedComplete env calls trace) ∧
    (last.Finished →
      (∀ move ∈ trace, move.event.cmd.storesSearch = true → move.event.fault.isRefused = false) →
      CachedComplete env calls trace → ∀ client, ¬ Spoiled env calls trace client) := by
  have serves := lapsing_obey env world calls keys
  refine ⟨fun answered => ⟨?_, ?_⟩, ?_⟩
  · intro early move late version params views split fill
    refine filledFrom_of_answered serves run split fill fun spoiled => answered _ (spoiled.mono ?_)
    intro earlier member
    exact split ▸ List.mem_append_left _ member
  · intro early move late version params views split hit
    exact entries_filled cold (run.cut split) (hit_entry hit)
  · intro finished stores complete client spoiled
    exact spoiled_incomplete serves (lapsing_present env world calls keys) run finished stores spoiled
      complete

end Run

def withRedis : Env 2 := { twoShards with redisConfigured := true }

/-- The same search twice. -/
def searching : List (Call 2) :=
  let dto : SearchRoomDto := { checkIn := january 1, checkOut := january 5 }
  [.sample (.searchRooms dto) 7, .sample (.searchRooms dto) 8]

/-- The first search meets the fault at its second shard, the other one finds its entry. -/
def searchTurns (fault : Effect.Fault Err) : List (Nat × Effect.Fault Err) :=
  [(0, .none), (0, .none), (0, .none), (0, fault), (0, .none), (1, .none), (1, .none)]

def searchMoves (fault : Effect.Fault Err) : List (Move 2) × Clients 2 :=
  (lapsing withRedis onTwoShards searching []).record World.exec (searchTurns fault)

theorem run_searchMoves (fault : Effect.Fault Err) :
    Run (Pool.Step World.exec AnyFault) (lapsing withRedis onTwoShards searching [])
      (searchMoves fault).1 (searchMoves fault).2 :=
  Pool.run_record fun _ _ => trivial

instance (trace : List (Move n)) (client : Nat) : Decidable (Missed trace client) :=
  inferInstanceAs (Decidable (∃ move ∈ trace, move.event.client = client ∧
    Cmd.searchMiss move.event.cmd (Pool.reply World.exec move) = true))

theorem cachedSearch_partial : ∃ trace last,
    Run (Pool.Step World.exec AnyFault) (lapsing withRedis onTwoShards searching []) trace last ∧
      ¬ CachedComplete withRedis searching trace := by
  let moves := searchMoves (.refused (.db .connection))
  have spoiled : Spoiled withRedis searching moves.1 0 :=
    ⟨_, rfl, by decide +kernel, by decide +kernel, by decide +kernel⟩
  have incomplete : ¬ CachedComplete withRedis searching moves.1 :=
    spoiled_incomplete (lapsing_obey _ _ _ _) (lapsing_present _ _ _ _) (run_searchMoves _)
      (by decide +kernel) (by decide +kernel) spoiled
  exact ⟨moves.1, moves.2, run_searchMoves _, incomplete⟩

/-- Only searches store search results. -/
theorem serveAll_cold {calls : List (Call n)} (apart : ∀ call ∈ calls, ∀ dto,
    call.request ≠ .searchRooms dto) {world : World n} (cold : Cold world) :
    Cold (serveAll env calls world) := by
  induction calls generalizing world with
  | nil => exact cold
  | cons call calls ih =>
    obtain ⟨here, later⟩ := List.forall_mem_cons.mp apart
    refine ih later (Program.run_preserves ?_ (Issued.uses_program env call) cold)
    intro cmd state issued cold version params
    by_contra stored
    obtain ⟨views, entry⟩ := Option.ne_none_iff_exists'.mp stored
    rcases entry_exec (by rintro ⟨⟩) entry with same | ⟨ttlSec, rfl⟩
    · cases same.symm.trans (cold version params)
    · obtain ⟨request, entropy, schedule⟩ := call
      cases issued
      exact here _ rfl

theorem furnished_cold : Cold onTwoShards := by
  refine serveAll_cold ?_ fun _ _ => rfl
  simp only [furnishing, List.forall_mem_cons, Call.sample]
  refine ⟨?_, ?_, ?_, ?_, ?_, ?_, fun _ member => absurd member List.not_mem_nil⟩ <;>
    rintro dto ⟨⟩

theorem cachedComplete_iff_answered : ∃ trace last,
    Run (Pool.Step World.exec AnyFault) (lapsing withRedis onTwoShards searching []) trace last ∧
      Storing trace 0 ∧ CachedComplete withRedis searching trace := by
  let moves := searchMoves .none
  have answered : ∀ client, ¬ Spoiled withRedis searching moves.1 client := by
    rintro client ⟨_, _, _, _, read, ⟨move, member, _, shown⟩, failed⟩
    have all : ∀ move ∈ moves.1, failsSearch move.event.client move = false := by decide +kernel
    have fails : failsSearch move.event.client move = true := by
      simp only [failsSearch, beq_self_eq_true, shown, failed, Option.isNone_none, Bool.and_self]
    cases (all move member).symm.trans fails
  refine ⟨moves.1, moves.2, run_searchMoves _, ?_, ?_⟩
  · have stored : ∃ move ∈ moves.1, move.event.client = 0 ∧
        move.event.cmd.storesSearch = true := by decide +kernel
    exact stored
  · exact (cachedComplete_iff withRedis searching onTwoShards [] AnyFault furnished_cold
      (run_searchMoves _)).1 answered

end HotelBooking
